import LearningClient.Table

/-!
# Caches

A cache keeps values by name until they are replaced or taken out. How many
entries it may hold and how long an entry lives can be limited. A limit of
nothing means that the cache keeps nothing; any other limit is beyond what a
client reaches, so it changes nothing.
-/

namespace LearningClient

/-- The limits of a cache. `none` is no limit. -/
structure CacheLimits where
  maxEntries : Option Nat := none
  lifetimeSeconds : Option Nat := none
deriving DecidableEq, Repr

/-- The longest lifetime of an entry that can be asked for: a thousand
years of 365 days. -/
def CacheLimits.maxLifetime : Nat := 1000 * 365 * 86400

/-- Whether limits can be asked for. -/
def CacheLimits.admissible (l : CacheLimits) : Bool :=
  l.lifetimeSeconds.all (· ≤ maxLifetime)

/-- What is said of limits that cannot be asked for. -/
def CacheLimits.refusal : String := "time_to_live is longer than 1000 years"

/-- Whether a cache with these limits keeps what is put into it. -/
def CacheLimits.retains (l : CacheLimits) : Bool :=
  l.maxEntries ≠ some 0 && l.lifetimeSeconds ≠ some 0

/-- Values by name. -/
structure Cache (V : Type) where
  /-- Whether anything put in is kept. -/
  retains : Bool := true
  entries : Table V := []
deriving Repr

namespace Cache

variable {V : Type}

/-- An empty cache with limits. -/
def withLimits (l : CacheLimits) : Cache V := { retains := l.retains }

/-- The value of a name, if the cache holds one. -/
def get? (c : Cache V) (key : String) : Option V := c.entries.get? key

/-- Whether the cache holds a value of a name. -/
def contains (c : Cache V) (key : String) : Bool := (c.get? key).isSome

/-- The cache after a value has been put in. -/
def insert (c : Cache V) (key : String) (v : V) : Cache V :=
  if c.retains then { c with entries := c.entries.insert key v } else c

/-- The cache without the value of a name. -/
def invalidate (c : Cache V) (key : String) : Cache V :=
  { c with entries := c.entries.erase key }

theorem get?_insert_self {c : Cache V} (h : c.retains = true) (key : String) (v : V) :
    (c.insert key v).get? key = some v := by
  simp [insert, h, get?, Table.get?_insert_self]

theorem get?_insert_other (c : Cache V) {key other : String} (v : V) (h : other ≠ key) :
    (c.insert key v).get? other = c.get? other := by
  unfold insert
  split
  · simp [get?, Table.get?_insert_of_ne _ v h]
  · rfl

/-- What a cache holds of what has just been put in. -/
theorem get?_insert (c : Cache V) (key : String) (v : V) :
    (c.insert key v).get? key = if c.retains then some v else c.get? key := by
  cases h : c.retains with
  | true => exact get?_insert_self h key v
  | false => simp [insert, h]

/-- What a cache holds after something is put in: that, or what it held. -/
theorem eq_or_get?_of_insert {c : Cache V} {key k : String} {v w : V}
    (h : (c.insert key v).get? k = some w) : k = key ∧ v = w ∨ c.get? k = some w := by
  by_cases e : k = key
  · subst e
    unfold insert at h
    split at h
    · rw [get?, Table.get?_insert_self] at h
      exact .inl ⟨rfl, Option.some.inj h⟩
    · exact .inr h
  · rw [get?_insert_other c v e] at h
    exact .inr h

theorem get?_invalidate_self (c : Cache V) (key : String) :
    (c.invalidate key).get? key = none := by
  simp [invalidate, get?, Table.get?_erase_self]

theorem get?_invalidate_other (c : Cache V) {key other : String} (h : other ≠ key) :
    (c.invalidate key).get? other = c.get? other := by
  simp [invalidate, get?, Table.get?_erase_of_ne _ h]

/-- What the cache holds it goes on holding when something is put in. -/
theorem contains_insert {c : Cache V} {name : String} (h : c.contains name = true) (key : String)
    (v : V) : (c.insert key v).contains name = true := by
  by_cases e : name = key
  · subst e
    unfold insert
    split
    · rw [contains, get?, Table.get?_insert_self]
      rfl
    · exact h
  · rw [contains, get?_insert_other c v e]
    exact h

theorem contains_invalidate_other {c : Cache V} {key name : String} (h : name ≠ key) :
    (c.invalidate key).contains name = c.contains name := by
  rw [contains, get?_invalidate_other c h, contains]

theorem retains_insert (c : Cache V) (key : String) (v : V) :
    (c.insert key v).retains = c.retains := by
  unfold insert
  split <;> rfl

end Cache

end LearningClient
