/-!
# Tables

A table gives values to names. It is a list of entries in which the first
entry of a name counts; `insert` and `erase` keep at most one. Names keep
the order in which they were first inserted.
-/

namespace LearningClient

/-- Values by name. -/
abbrev Table (α : Type) := List (String × α)

namespace Table

variable {α : Type}

/-- The value of a name. -/
def get? (t : Table α) (name : String) : Option α := t.lookup name

/-- Whether a name has a value. -/
def contains (t : Table α) (name : String) : Bool := (t.get? name).isSome

/-- Gives a value to a name, in place of the one it had. -/
def insert (t : Table α) (name : String) (v : α) : Table α :=
  match t with
  | [] => [(name, v)]
  | (n, w) :: rest => if n = name then (name, v) :: rest else (n, w) :: insert rest name v

/-- Takes its value from a name. -/
def erase (t : Table α) (name : String) : Table α := t.filter (·.1 ≠ name)

theorem get?_insert_self (t : Table α) (name : String) (v : α) :
    (t.insert name v).get? name = some v := by
  induction t with
  | nil => simp [insert, get?]
  | cons e rest ih =>
    obtain ⟨n, w⟩ := e
    by_cases h : n = name
    · simp [insert, get?, h]
    · have hb : (name == n) = false := by simpa using fun e => h e.symm
      simpa [insert, get?, h, List.lookup_cons, hb] using ih

theorem get?_insert_of_ne (t : Table α) {name other : String} (v : α) (h : other ≠ name) :
    (t.insert name v).get? other = t.get? other := by
  induction t with
  | nil =>
    have hb : (other == name) = false := by simpa using h
    simp [insert, get?, List.lookup_cons, hb]
  | cons e rest ih =>
    obtain ⟨n, w⟩ := e
    by_cases hn : n = name
    · have hb : (other == n) = false := by simpa [hn] using h
      have hb' : (other == name) = false := by simpa using h
      simp [insert, get?, hn, List.lookup_cons, hb']
    · cases hb : other == n with
      | true => simp [insert, get?, hn, List.lookup_cons, hb]
      | false => simpa [insert, get?, hn, List.lookup_cons, hb] using ih

theorem get?_erase_self (t : Table α) (name : String) : (t.erase name).get? name = none := by
  induction t with
  | nil => rfl
  | cons e rest ih =>
    obtain ⟨n, w⟩ := e
    by_cases h : n = name
    · simpa [erase, get?, h] using ih
    · have hb : (name == n) = false := by simpa using fun e => h e.symm
      simpa [erase, get?, h, List.lookup_cons, hb] using ih

theorem get?_erase_of_ne (t : Table α) {name other : String} (h : other ≠ name) :
    (t.erase name).get? other = t.get? other := by
  induction t with
  | nil => rfl
  | cons e rest ih =>
    obtain ⟨n, w⟩ := e
    by_cases hn : n = name
    · subst hn
      have hb : (other == n) = false := by simpa using h
      simpa [erase, get?, List.lookup_cons, hb] using ih
    · cases hb : other == n with
      | true => simp [erase, get?, hn, List.lookup_cons, hb]
      | false => simpa [erase, get?, hn, List.lookup_cons, hb] using ih

theorem get?_erase_of_none {t : Table α} {other : String} (h : t.get? other = none)
    (name : String) : (t.erase name).get? other = none := by
  by_cases e : other = name
  · rw [e, get?_erase_self]
  · rw [get?_erase_of_ne t e, h]

/-- A table in which no name has a value is empty. -/
theorem eq_nil_of_get? {t : Table α} (h : ∀ name, t.get? name = none) : t = [] := by
  cases t with
  | nil => rfl
  | cons e rest =>
    have he := h e.1
    simp [get?] at he

end Table

end LearningClient
