import LearningClient.Json.Value
import Mathlib.Data.List.Perm.Basic

/-!
# Members by name

The members of an object are put in ascending order of their names as they are
read, one at a time. Where no name stands twice, this only changes their order
(`sortMembers_perm`): each name has the value that it had
(`lookup_sortMembers`), and members that are chosen by their names are the same
ones in the same order, whether they are chosen before or after
(`sortMembers_filter`). All of it follows from two facts: an order by name is
reached (`ascending_sortMembers`), and only one list of given members is in
that order (`Ascending.eq_of_perm`).
-/

namespace LearningClient.Json

/-- The names of members. -/
def names (ms : Members) : List String := ms.map Prod.fst

/-- Each member comes before those of greater names. -/
def Ascending (ms : Members) : Prop := ms.Pairwise fun m m' => m.1 < m'.1

theorem mem_names {ms : Members} {name : String} :
    name ∈ names ms ↔ ∃ v, (name, v) ∈ ms := by
  simp [names]

theorem Ascending.nodup {ms : Members} (h : Ascending ms) : (names ms).Nodup := by
  unfold names
  rw [List.Nodup, List.pairwise_map]
  exact h.imp fun lt => String.ne_of_lt lt

/-- Two lists of the same members in ascending order are one list. -/
theorem Ascending.eq_of_perm {ms ms' : Members} (h : Ascending ms) (h' : Ascending ms')
    (same : ms.Perm ms') : ms = ms' := by
  apply same.eq_of_pairwise _ h h'
  intro m m' _ _ lt gt
  exact absurd gt (String.lt_asymm lt)

theorem Ascending.nodup_self {ms : Members} (h : Ascending ms) : ms.Nodup :=
  List.Pairwise.imp (fun lt same => String.ne_of_lt lt (congrArg Prod.fst same)) h

theorem Ascending.ext {ms ms' : Members} (h : Ascending ms) (h' : Ascending ms')
    (same : ∀ m, m ∈ ms ↔ m ∈ ms') : ms = ms' :=
  h.eq_of_perm h' ((List.perm_ext_iff_of_nodup h.nodup_self h'.nodup_self).mpr same)

/-! ## Looking members up -/

section
variable {ms ms' : Members} {name : String}

theorem lookup_eq_none_iff_notMem : ms.lookup name = none ↔ name ∉ names ms := by
  rw [List.lookup_eq_none_iff, mem_names]
  constructor
  · intro other
    rintro ⟨v, mem⟩
    simpa using other (name, v) mem
  · intro none m mem
    rw [bne_iff_ne]
    intro same
    exact none ⟨m.2, same ▸ mem⟩

/-- Where no name stands twice, a name has the value of its only member. -/
theorem lookup_eq_some_iff_mem (once : (names ms).Nodup) {v : Value} :
    ms.lookup name = some v ↔ (name, v) ∈ ms := by
  induction ms with
  | nil => simp
  | cons m ms ih =>
    obtain ⟨n, w⟩ := m
    rw [names, List.map_cons, List.nodup_cons] at once
    rw [List.lookup_cons]
    by_cases same : name = n
    · subst same
      have apart : (name, v) ∉ ms := fun mem => once.1 (mem_names.mpr ⟨v, mem⟩)
      simp [apart, eq_comm]
    · have other : (name == n) = false := beq_eq_false_iff_ne.mpr same
      rw [other, ih once.2]
      simp [same]

theorem value_unique (once : (names ms).Nodup) {v w : Value} (hv : (name, v) ∈ ms)
    (hw : (name, w) ∈ ms) : v = w := by
  rw [← lookup_eq_some_iff_mem once] at hv hw
  exact Option.some.inj (hv.symm.trans hw)

theorem names_perm (same : ms.Perm ms') : (names ms).Perm (names ms') := same.map _

theorem lookup_perm (once : (names ms).Nodup) (same : ms.Perm ms') :
    ms.lookup name = ms'.lookup name := by
  have once' : (names ms').Nodup := (names_perm same).nodup_iff.mp once
  apply Option.ext
  intro v
  rw [lookup_eq_some_iff_mem once, lookup_eq_some_iff_mem once', same.mem_iff]

end

/-! ## Putting members in their places -/

section
variable {ms acc : Members} {name : String} {v : Value}

theorem insertMember_perm (new : name ∉ names ms) :
    (insertMember name v ms).Perm ((name, v) :: ms) := by
  induction ms with
  | nil => exact .refl _
  | cons m ms ih =>
    obtain ⟨n, w⟩ := m
    rw [names, List.map_cons, List.mem_cons, not_or] at new
    rw [insertMember, if_neg new.1]
    split
    · exact .refl _
    · exact ((ih new.2).cons _).trans (List.Perm.swap ..)

theorem of_mem_insertMember {m : String × Value} (h : m ∈ insertMember name v ms) :
    m = (name, v) ∨ m ∈ ms := by
  induction ms with
  | nil => exact .inl (List.mem_singleton.mp h)
  | cons m' ms ih =>
    obtain ⟨n, w⟩ := m'
    rw [insertMember] at h
    split at h
    · rcases List.mem_cons.mp h with new | old
      · exact .inl new
      · exact .inr (List.mem_cons_of_mem _ old)
    split at h
    · exact List.mem_cons.mp h
    · rcases List.mem_cons.mp h with head | tail
      · exact .inr (List.mem_cons.mpr (.inl head))
      · exact (ih tail).imp_right (List.mem_cons_of_mem _)

theorem ascending_insertMember (h : Ascending ms) : Ascending (insertMember name v ms) := by
  induction ms with
  | nil => exact List.pairwise_singleton ..
  | cons m ms ih =>
    obtain ⟨n, w⟩ := m
    obtain ⟨first, rest⟩ := List.pairwise_cons.mp h
    rw [insertMember]
    split
    · rename_i same
      subst same
      exact List.pairwise_cons.mpr ⟨first, rest⟩
    split
    · rename_i lt
      apply List.pairwise_cons.mpr ⟨_, h⟩
      intro m mem
      rcases List.mem_cons.mp mem with rfl | mem
      · exact lt
      · exact String.lt_trans lt (first m mem)
    · rename_i ne notLt
      -- the new name is neither the first one nor below it
      have gt : n < name := by
        apply Decidable.byContradiction
        intro notGt
        exact ne (String.le_antisymm notGt notLt)
      apply List.pairwise_cons.mpr ⟨_, ih rest⟩
      intro m mem
      rcases of_mem_insertMember mem with rfl | mem
      · exact gt
      · exact first m mem

theorem ascending_foldl_insertMember (h : Ascending acc) :
    Ascending (ms.foldl (fun acc (n, v) => insertMember n v acc) acc) := by
  induction ms generalizing acc with
  | nil => exact h
  | cons m ms ih => exact ih (ascending_insertMember h)

theorem foldl_insertMember_perm (acc : Members) (once : (names (acc ++ ms)).Nodup) :
    (ms.foldl (fun acc (n, v) => insertMember n v acc) acc).Perm (acc ++ ms) := by
  induction ms generalizing acc with
  | nil => rw [List.append_nil]; exact .refl _
  | cons m ms ih =>
    obtain ⟨n, v⟩ := m
    have moved : (acc ++ (n, v) :: ms).Perm ((n, v) :: (acc ++ ms)) := List.perm_middle
    have apart := (names_perm moved).nodup_iff.mp once
    rw [names, List.map_cons, List.nodup_cons] at apart
    have new : n ∉ names acc := by
      intro mem
      apply apart.1
      rw [List.map_append]
      exact List.mem_append_left _ mem
    have placed : (insertMember n v acc ++ ms).Perm ((n, v) :: (acc ++ ms)) :=
      (insertMember_perm new).append_right ms
    have once' : (names (insertMember n v acc ++ ms)).Nodup :=
      (names_perm (placed.trans moved.symm)).nodup_iff.mpr once
    exact (ih _ once').trans (placed.trans moved.symm)

theorem of_mem_foldl_insertMember {m : String × Value}
    (h : m ∈ ms.foldl (fun acc (n, v) => insertMember n v acc) acc) : m ∈ acc ∨ m ∈ ms := by
  induction ms generalizing acc with
  | nil => exact .inl h
  | cons m' ms ih =>
    rcases ih h with placed | later
    · rcases of_mem_insertMember placed with rfl | old
      · exact .inr List.mem_cons_self
      · exact .inl old
    · exact .inr (List.mem_cons_of_mem _ later)

/-! ## Members in order -/

theorem ascending_sortMembers (ms : Members) : Ascending (sortMembers ms) :=
  ascending_foldl_insertMember List.Pairwise.nil

theorem of_mem_sortMembers {m : String × Value} (h : m ∈ sortMembers ms) : m ∈ ms :=
  (of_mem_foldl_insertMember h).resolve_left List.not_mem_nil

/-- Members of different names are only put in another order. -/
theorem sortMembers_perm (once : (names ms).Nodup) : (sortMembers ms).Perm ms :=
  foldl_insertMember_perm [] once

theorem lookup_sortMembers (once : (names ms).Nodup) (name : String) :
    (sortMembers ms).lookup name = ms.lookup name :=
  (lookup_perm once (sortMembers_perm once).symm).symm

/-- Members that are in order stay as they are. -/
theorem sortMembers_eq_self (h : Ascending ms) : sortMembers ms = ms :=
  (ascending_sortMembers ms).eq_of_perm h (sortMembers_perm h.nodup)

theorem names_filter_nodup (once : (names ms).Nodup) (chosen : String → Bool) :
    (names (ms.filter fun m => chosen m.1)).Nodup :=
  once.sublist (List.filter_sublist.map _)

/-- Members can be chosen by their names before or after they are put in
order. -/
theorem sortMembers_filter (once : (names ms).Nodup) (chosen : String → Bool) :
    sortMembers (ms.filter fun m => chosen m.1) = (sortMembers ms).filter fun m => chosen m.1 := by
  have ordered : Ascending ((sortMembers ms).filter fun m => chosen m.1) :=
    (ascending_sortMembers ms).filter _
  apply (ascending_sortMembers _).eq_of_perm ordered
  exact (sortMembers_perm (names_filter_nodup once chosen)).trans
    ((sortMembers_perm once).symm.filter _)

end

end LearningClient.Json
