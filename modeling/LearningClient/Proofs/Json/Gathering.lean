import LearningClient.Proofs.Json.Following

/-!
# Gathering members

A record gathers its fields from one member after the other. Each field only
looks at the members of its own names, so the fields are gathered as if each of
them went through all members alone (`foldlM_both`). What a field is gathered to
then depends on the value of its name (`foldlM_slot`), and the members that no
field takes are put in order (`foldlM_leftover`).
-/

namespace LearningClient.Json

/-! ## Several things at once -/

section
variable {α β γ δ μ : Type}

/-- Two things, if both are there. -/
def together (x : Option α) (y : Option β) : Option (α × β) := x.bind fun a => y.map (a, ·)

/-- Things that are made of two others, each of its own one: it does not matter
which is made first, since there is nothing if one of them fails. -/
theorem together_bind (x : Option α) (y : Option β) (f : α → Option γ) (g : β → Option δ) :
    ((together x y).bind fun p => together (f p.1) (g p.2)) =
      together (x.bind f) (y.bind g) := by
  cases x with
  | none => rfl
  | some a =>
    cases y with
    | none =>
      show none = (f a).bind fun c => none
      cases f a <;> rfl
    | some b => rfl

/-- Two things under one name that is taken apart again. -/
theorem together_finish {σ τ ε : Type} (x : Option α) (y : Option β) {name : α × β → σ}
    {finish : σ → Except ε τ} (f : α → Option γ) (g : β → Option δ) {whole : γ × δ → τ}
    (h : ∀ p, (finish (name p)).toOption = (together (f p.1) (g p.2)).map whole) :
    (((together x y).map name).bind fun s => (finish s).toOption) =
      (together (x.bind f) (y.bind g)).map whole := by
  rw [← together_bind]
  cases together x y with
  | none => rfl
  | some p => exact h p

/-- Two steps side by side. -/
def both (f : α → μ → Option α) (g : β → μ → Option β) (s : α × β) (m : μ) : Option (α × β) :=
  together (f s.1 m) (g s.2 m)

theorem foldlM_both (f : α → μ → Option α) (g : β → μ → Option β) (ms : List μ) (s : α × β) :
    ms.foldlM (both f g) s = together (ms.foldlM f s.1) (ms.foldlM g s.2) := by
  induction ms generalizing s with
  | nil => rfl
  | cons m ms ih =>
    calc (both f g s m).bind (fun s => ms.foldlM (both f g) s)
      _ = (together (f s.1 m) (g s.2 m)).bind fun s =>
            together (ms.foldlM f s.1) (ms.foldlM g s.2) := by rw [both, funext ih]
      _ = together ((f s.1 m).bind fun a => ms.foldlM f a)
            ((g s.2 m).bind fun b => ms.foldlM g b) :=
        together_bind _ _ (fun a => ms.foldlM f a) (fun b => ms.foldlM g b)

/-- A run keeps its form under another name for its states. -/
theorem foldlM_renamed {σ τ : Type} {step : σ → μ → Option σ} {step' : τ → μ → Option τ}
    (name : τ → σ) (same : ∀ t m, step (name t) m = (step' t m).map name) (ms : List μ) (t : τ) :
    ms.foldlM step (name t) = (ms.foldlM step' t).map name := by
  induction ms generalizing t with
  | nil => rfl
  | cons m ms ih =>
    rw [List.foldlM_cons, List.foldlM_cons, same]
    cases step' t m with
    | none => rfl
    | some t' => exact ih t'

end

/-! ## One field -/

section
variable {α : Type} {own : String → Bool} {f : Value → Option α} {ms : Members}

/-- The step of a field: a member of one of its names is taken, once. -/
def slot (own : String → Bool) (f : Value → Option α) (seen : Option α) (m : String × Value) :
    Option (Option α) :=
  if own m.1 then (givenOnce f seen m.2).map some else some seen

/-- What the value of a field is as, if the field is there. -/
def optional (f : Value → Option α) (found : Option Value) : Option (Option α) :=
  match found with
  | none => some none
  | some v => (f v).map some

theorem foldlM_slot_taken (x : α) :
    ms.foldlM (slot own f) (some x) =
      if (ms.filter fun m => own m.1).isEmpty then some (some x) else none := by
  induction ms with
  | nil => rfl
  | cons m ms ih =>
    rw [List.foldlM_cons, List.filter_cons, slot]
    cases own m.1 with
    | true => rfl
    | false => exact ih

/-- A field is what its only member is as, and there may be no second one. -/
theorem foldlM_slot_members :
    ms.foldlM (slot own f) none =
      match ms.filter fun m => own m.1 with
      | [] => some none
      | [m] => (f m.2).map some
      | _ => none := by
  induction ms with
  | nil => rfl
  | cons m ms ih =>
    rw [List.foldlM_cons, List.filter_cons, slot]
    cases own m.1 with
    | false => exact ih
    | true =>
      show ((f m.2).map some).bind (fun s => ms.foldlM (slot own f) s) =
        match m :: ms.filter fun m => own m.1 with
        | [] => some none
        | [m] => (f m.2).map some
        | _ => none
      cases read : f m.2 with
      | none => split <;> simp_all
      | some x =>
        show ms.foldlM (slot own f) (some x) = _
        rw [foldlM_slot_taken]
        cases ms.filter fun m => own m.1 with
        | nil => exact congrArg (Option.map some) read.symm
        | cons m' ms' => rfl

/-- Where no name stands twice, the members of a name are the one that is found
under it. -/
theorem filter_name (once : (names ms).Nodup) (name : String) :
    (ms.filter fun m => m.1 = name) = (ms.lookup name).toList.map (name, ·) := by
  induction ms with
  | nil => rfl
  | cons m ms ih =>
    obtain ⟨n, v⟩ := m
    rw [names, List.map_cons, List.nodup_cons] at once
    rw [List.filter_cons, List.lookup_cons, ih once.2]
    by_cases same : n = name
    · subst same
      have apart : ms.lookup n = none := lookup_eq_none_iff_notMem.mpr once.1
      simp [apart]
    · have other : (name == n) = false := beq_eq_false_iff_ne.mpr (Ne.symm same)
      simp [same, other]

theorem foldlM_slot (once : (names ms).Nodup) (name : String) :
    ms.foldlM (slot (· = name) f) none = optional f (ms.lookup name) := by
  rw [foldlM_slot_members, filter_name once]
  cases ms.lookup name <;> rfl

/-- Two fields are what the values of their names are as. -/
theorem foldlM_twoFields {σ β : Type} {g : Value → Option β} {a b : String}
    {step : σ → String × Value → Option σ} (name : Option α × Option β → σ)
    (same : ∀ t m, step (name t) m = (both (slot (· = a) f) (slot (· = b) g) t m).map name)
    (once : (names ms).Nodup) :
    ms.foldlM step (name (none, none)) =
      (together (optional f (ms.lookup a)) (optional g (ms.lookup b))).map name := by
  rw [foldlM_renamed name same, foldlM_both, foldlM_slot once, foldlM_slot once]

/-- The members of two names are none if neither name is found. -/
theorem filter_twoNames_isEmpty (a b : String) :
    (ms.filter fun m => m.1 = a ∨ m.1 = b).isEmpty =
      ((ms.lookup a).isNone && (ms.lookup b).isNone) := by
  rw [Bool.eq_iff_iff, List.isEmpty_iff, List.filter_eq_nil_iff, Bool.and_eq_true,
    Option.isNone_iff_eq_none, Option.isNone_iff_eq_none, lookup_eq_none_iff_notMem,
    lookup_eq_none_iff_notMem]
  constructor
  · intro none
    constructor <;>
      · intro mem
        obtain ⟨v, mem⟩ := mem_names.mp mem
        simpa using none _ mem
  · intro apart m mem own
    have named : m.1 ∈ names ms := mem_names.mpr ⟨m.2, mem⟩
    rw [decide_eq_true_eq] at own
    rcases own with rfl | rfl
    · exact apart.1 named
    · exact apart.2 named

/-- A field of two names stands under one of them. -/
theorem foldlM_slot_twoNames (once : (names ms).Nodup) {a b : String} (ne : a ≠ b) :
    ms.foldlM (slot (fun n => n = a ∨ n = b) f) none =
      match ms.lookup a, ms.lookup b with
      | none, none => some none
      | some v, none => (f v).map some
      | none, some v => (f v).map some
      | some _, some _ => none := by
  induction ms with
  | nil => rfl
  | cons m ms ih =>
    obtain ⟨n, v⟩ := m
    rw [names, List.map_cons, List.nodup_cons] at once
    have apart : ms.lookup n = none := lookup_eq_none_iff_notMem.mpr once.1
    -- once the field is taken, no other member may be under one of its names
    have taken : ((f v).map some).bind (fun s => ms.foldlM (slot (fun n => n = a ∨ n = b) f) s) =
        if (ms.lookup a).isNone && (ms.lookup b).isNone then (f v).map some else none := by
      cases f v with
      | none => split <;> rfl
      | some x =>
        show ms.foldlM _ (some x) = _
        rw [foldlM_slot_taken, filter_twoNames_isEmpty]
        rfl
    rw [List.foldlM_cons, List.lookup_cons, List.lookup_cons]
    by_cases first : n = a
    · subst first
      have other : (b == n) = false := beq_eq_false_iff_ne.mpr (Ne.symm ne)
      rw [apart] at taken
      simp only [slot, beq_self_eq_true, other, true_or, decide_true, if_true]
      refine taken.trans ?_
      cases ms.lookup b <;> rfl
    by_cases second : n = b
    · subst second
      have other : (a == n) = false := beq_eq_false_iff_ne.mpr ne
      rw [apart] at taken
      simp only [slot, beq_self_eq_true, other, or_true, decide_true, if_true]
      refine taken.trans ?_
      cases ms.lookup a <;> rfl
    · have otherA : (a == n) = false := beq_eq_false_iff_ne.mpr (Ne.symm first)
      have otherB : (b == n) = false := beq_eq_false_iff_ne.mpr (Ne.symm second)
      simp only [slot, first, second, otherA, otherB, or_self, decide_false, Bool.false_eq_true,
        if_false]
      exact ih once.2

end

/-! ## What no field takes -/

/-- Members that no field takes are put in their places. -/
def leftover (own : String → Bool) (acc : Members) (m : String × Value) : Option Members :=
  some (if own m.1 then acc else insertMember m.1 m.2 acc)

theorem foldlM_leftover (own : String → Bool) (ms : Members) :
    ms.foldlM (leftover own) [] = some (sortMembers (ms.filter fun m => !own m.1)) := by
  have run : ∀ acc : Members, ms.foldlM (leftover own) acc =
      some ((ms.filter fun m => !own m.1).foldl (fun acc m => insertMember m.1 m.2 acc) acc) := by
    induction ms with
    | nil => exact fun _ => rfl
    | cons m ms ih =>
      intro acc
      rw [List.foldlM_cons, List.filter_cons, leftover]
      cases own m.1 with
      | true => exact ih acc
      | false => exact ih (insertMember m.1 m.2 acc)
  exact run []

end LearningClient.Json
