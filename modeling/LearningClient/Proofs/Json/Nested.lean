import LearningClient.Proofs.Json.Members
import LearningClient.Text.Digits

/-!
# Values inside values

Arrays and objects hold values, so a fact about all values is proved of an
array from its items and of an object from the values of its members
(`Value.nested`).

A property holds throughout a value (`Value.Throughout`) if the value has it and
every value inside it. Three properties are of interest: no object names a member
twice, each object has its members in ascending order, and all numbers are whole
and fit 64 bits. A value is `arranged` by putting the members of all its objects
in ascending order, which changes nothing where they are so already
(`Value.arranged_eq_self`).
-/

namespace LearningClient.Json

open LearningClient.Decimal LearningClient.Text

/-- Facts about all values, by what a value is made of. -/
@[elab_as_elim]
theorem Value.nested {P : Value → Prop} (null : P .null) (bool : ∀ b, P (.bool b))
    (int : ∀ n, P (.int n)) (float : ∀ x, P (.float x)) (str : ∀ s, P (.str s))
    (arr : ∀ items, (∀ v ∈ items, P v) → P (.arr items))
    (obj : ∀ ms : Members, (∀ m ∈ ms, P m.2) → P (.obj ms)) (v : Value) : P v :=
  match v with
  | .null => null
  | .bool b => bool b
  | .int n => int n
  | .float x => float x
  | .str s => str s
  | .arr items => arr items fun v _ => nested null bool int float str arr obj v
  | .obj ms => obj ms fun m _ => nested null bool int float str arr obj m.2
termination_by sizeOf v
decreasing_by
  · have := List.sizeOf_lt_of_mem ‹_›
    simp_wf; omega
  · have := List.sizeOf_lt_of_mem ‹_›
    obtain ⟨_, _⟩ := m
    simp_wf; simp_all; omega

/-! ## Throughout a value -/

/-- The values inside a value, which is one of them. -/
inductive Value.Inside : Value → Value → Prop
  | self (v : Value) : Inside v v
  | item {w v : Value} {items : List Value} (mem : v ∈ items) (h : Inside w v) :
    Inside w (.arr items)
  | member {w v : Value} {ms : Members} {name : String} (mem : (name, v) ∈ ms) (h : Inside w v) :
    Inside w (.obj ms)

/-- A property that a value has, and every value inside it. -/
def Value.Throughout (P : Value → Prop) (v : Value) : Prop := ∀ w, w.Inside v → P w

/-- No name stands twice among the members, if the value is an object. -/
def Value.namesOnce : Value → Prop
  | .obj ms => (names ms).Nodup
  | _ => True

/-- The members are in ascending order, if the value is an object. -/
def Value.ordered : Value → Prop
  | .obj ms => Ascending ms
  | _ => True

/-- The value is no number, or a whole one that fits 64 bits, with or without
a sign. -/
def Value.whole : Value → Prop
  | .int n => int64Min ≤ n ∧ n ≤ uint64Max
  | .float _ => False
  | _ => True

section
variable {P : Value → Prop} {v : Value} {items : List Value} {ms : Members}

theorem Value.Throughout.self (h : v.Throughout P) : P v := h v (.self v)

theorem Value.Throughout.item (h : (Value.arr items).Throughout P) (mem : v ∈ items) :
    v.Throughout P :=
  fun w inside => h w (.item mem inside)

theorem Value.Throughout.member (h : (Value.obj ms).Throughout P) {m : String × Value}
    (mem : m ∈ ms) : m.2.Throughout P :=
  fun w inside => h w (.member mem inside)

theorem throughout_arr (own : P (.arr items)) (h : ∀ v ∈ items, v.Throughout P) :
    (Value.arr items).Throughout P := by
  intro w inside
  cases inside with
  | self => exact own
  | item mem inside => exact h _ mem w inside

theorem throughout_obj (own : P (.obj ms)) (h : ∀ m ∈ ms, m.2.Throughout P) :
    (Value.obj ms).Throughout P := by
  intro w inside
  cases inside with
  | self => exact own
  | member mem inside => exact h _ mem w inside

theorem throughout_str {s : String} (own : P (.str s)) : (Value.str s).Throughout P := by
  intro w inside
  cases inside
  exact own

theorem throughout_null (own : P .null) : Value.null.Throughout P := by
  intro w inside
  cases inside
  exact own

theorem throughout_bool {b : Bool} (own : P (.bool b)) : (Value.bool b).Throughout P := by
  intro w inside
  cases inside
  exact own

theorem throughout_int {n : Int} (own : P (.int n)) : (Value.int n).Throughout P := by
  intro w inside
  cases inside
  exact own

end

/-! ## Depth -/

theorem le_foldl_max {α : Type} {f : α → Nat} {xs : List α} {x : α} (mem : x ∈ xs) (n : Nat) :
    f x ≤ xs.foldl (fun n y => max n (f y)) n := by
  induction xs generalizing n with
  | nil => cases mem
  | cons y ys ih =>
    rw [List.foldl_cons]
    rcases List.mem_cons.mp mem with rfl | mem
    · -- the maximum so far is not lost
      have kept : ∀ (zs : List α) (n : Nat), n ≤ zs.foldl (fun n y => max n (f y)) n := by
        intro zs
        induction zs with
        | nil => exact fun n => Nat.le_refl n
        | cons z zs ih => exact fun n => Nat.le_trans (Nat.le_max_left ..) (ih _)
      exact Nat.le_trans (Nat.le_max_right ..) (kept ys _)
    · exact ih mem _

/-- The items of an array open one bracket less. -/
theorem depth_lt_of_mem_arr {items : List Value} {v : Value} (mem : v ∈ items) :
    v.depth < (Value.arr items).depth := by
  rw [Value.depth]
  have bound : v.depth ≤ _ := le_foldl_max (f := fun a : { x // x ∈ items } => a.1.depth)
    (List.mem_attach items ⟨v, mem⟩) 0
  show v.depth < 1 + items.attach.foldl (fun n a => max n a.1.depth) 0
  omega

/-- So do the values of the members of an object. -/
theorem depth_lt_of_mem_obj {ms : Members} {m : String × Value} (mem : m ∈ ms) :
    m.2.depth < (Value.obj ms).depth := by
  rw [Value.depth]
  have bound : m.2.depth ≤ _ := le_foldl_max (f := fun a : { x // x ∈ ms } => a.1.2.depth)
    (List.mem_attach ms ⟨m, mem⟩) 0
  show m.2.depth < 1 + ms.attach.foldl (fun n a => max n a.1.2.depth) 0
  omega

/-! ## Arranging a value -/

mutual

/-- The value with the members of all its objects in ascending order. Of
members of one name the last one counts. -/
def Value.arranged : Value → Value
  | .arr items => .arr (arrangedItems items)
  | .obj ms => .obj (sortMembers (arrangedMembers ms))
  | .null => .null
  | .bool b => .bool b
  | .int n => .int n
  | .float x => .float x
  | .str s => .str s

/-- Each item arranged. -/
def arrangedItems : List Value → List Value
  | [] => []
  | v :: vs => v.arranged :: arrangedItems vs

/-- Members with their values arranged, in the order that they have. -/
def arrangedMembers : List (String × Value) → List (String × Value)
  | [] => []
  | (n, v) :: ms => (n, v.arranged) :: arrangedMembers ms

end

theorem arrangedItems_eq_map (items : List Value) :
    arrangedItems items = items.map Value.arranged := by
  induction items with
  | nil => rfl
  | cons v vs ih => rw [arrangedItems, ih, List.map_cons]

theorem arrangedMembers_eq_map (ms : Members) :
    arrangedMembers ms = ms.map fun m => (m.1, m.2.arranged) := by
  induction ms with
  | nil => rfl
  | cons m ms ih => rw [arrangedMembers, ih, List.map_cons]

theorem names_arrangedMembers (ms : Members) : names (arrangedMembers ms) = names ms := by
  rw [arrangedMembers_eq_map, names, names, List.map_map]
  rfl

theorem lookup_arrangedMembers (ms : Members) (name : String) :
    (arrangedMembers ms).lookup name = (ms.lookup name).map Value.arranged := by
  induction ms with
  | nil => rfl
  | cons m ms ih =>
    rw [arrangedMembers, List.lookup_cons, List.lookup_cons, ih]
    split <;> rfl

theorem arrangedMembers_eq_self {ms : Members} (h : ∀ m ∈ ms, m.2.arranged = m.2) :
    arrangedMembers ms = ms := by
  rw [arrangedMembers_eq_map]
  conv_rhs => rw [← List.map_id ms]
  apply List.map_congr_left
  intro m mem
  rw [h m mem]
  rfl

/-- A value that is in order throughout stays as it is. -/
theorem Value.arranged_eq_self {v : Value} (h : v.Throughout ordered) : v.arranged = v := by
  induction v using Value.nested with
  | null => rfl
  | bool b => rfl
  | int n => rfl
  | float x => rfl
  | str s => rfl
  | arr items ih =>
    rw [arranged, arrangedItems_eq_map]
    congr 1
    conv_rhs => rw [← List.map_id items]
    exact List.map_congr_left fun v mem => ih v mem (h.item mem)
  | obj ms ih =>
    have same : arrangedMembers ms = ms :=
      arrangedMembers_eq_self fun m mem => ih m mem (h.member mem)
    rw [arranged, same, sortMembers_eq_self h.self]

/-- What has been arranged is in order throughout. -/
theorem Value.ordered_arranged (v : Value) : v.arranged.Throughout ordered := by
  induction v using Value.nested with
  | null => exact throughout_null trivial
  | bool b => exact throughout_bool trivial
  | int n => exact throughout_int trivial
  | float x =>
    intro w inside
    cases inside
    trivial
  | str s => exact throughout_str trivial
  | arr items ih =>
    rw [arranged, arrangedItems_eq_map]
    apply throughout_arr (P := ordered) trivial
    intro v mem
    obtain ⟨w, own, rfl⟩ := List.mem_map.mp mem
    exact ih w own
  | obj ms ih =>
    rw [arranged]
    apply throughout_obj (P := ordered) (ascending_sortMembers _)
    intro m mem
    have mem := of_mem_sortMembers mem
    rw [arrangedMembers_eq_map] at mem
    obtain ⟨m', own, rfl⟩ := List.mem_map.mp mem
    exact ih m' own

end LearningClient.Json
