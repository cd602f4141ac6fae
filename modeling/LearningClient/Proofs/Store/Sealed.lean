import LearningClient.Proofs.Store.Places

/-!
# Keys that are sealed

A key is sealed with a value if the cache holds the value under it and no
flight is announced for it (`Accessor.Sealed`). Whoever asks for a sealed key
has its result at once (`Sealed.answered`), so nobody comes to lead a flight
for it, and only a leader could put something else there: whatever callers do,
a sealed key stays sealed (`Acts.sealed`). A key is sealed by the first flight
for it that lands as a success (`sealed_land`), if the cache keeps what it is
given at all.
-/

namespace LearningClient.Accessor

variable {V : Type} {a a' : Accessor V} {key k : String} {v : V} {place : Nat → Place}

/-- The value of a key is there, and nobody fetches another one. -/
structure Sealed (a : Accessor V) (key : String) (v : V) : Prop where
  free : a.pending.get? key = none
  held : a.cache.get? key = some v

theorem Sealed.isCached (h : a.Sealed key v) : a.isCached key = true := by
  rw [Accessor.isCached, Cache.contains, h.held]
  rfl

/-- Misses do not count. -/
theorem Sealed.congr (h : a.Sealed key v) (pending : a'.pending = a.pending)
    (cache : a'.cache.get? key = a.cache.get? key) : a'.Sealed key v :=
  ⟨by rw [pending, h.free], by rw [cache, h.held]⟩

/-- Whoever asks for a sealed key is told its value. -/
theorem Sealed.answered (h : a.Sealed key v) {t : Turn V × Accessor V} (asked : Asked a key t) :
    t.1 = .answered (.ok v) := by
  cases asked with
  | hit found =>
    obtain rfl := Option.some.inj (found.symm.trans h.held)
    rfl
  | joined announced => cases h.free.symm.trans announced
  | opened free missing => cases h.held.symm.trans missing

/-- Nobody leads a flight for a sealed key. -/
theorem Sealed.not_led (h : a.Sealed key v) (manned : a.Manned place) {i f : Nat} :
    place i ≠ .leads key f :=
  fun leads => by cases h.free.symm.trans (manned.announced leads)

/-- A flight for another key is over. -/
theorem Sealed.close (h : a.Sealed key v) {c : Cache V} {flights : List (Flight V)}
    (other : key ≠ k) (same : c.get? key = a.cache.get? key) :
    ({ a with cache := c, pending := a.pending.erase k, flights } : Accessor V).Sealed key v where
  free := (Table.get?_erase_of_ne a.pending other).trans h.free
  held := same.trans h.held

/-- Whatever a caller does, a sealed key stays sealed. -/
theorem Acts.sealed (manned : a.Manned place) (h : a.Sealed key v) {i : Nat} {p : Place}
    {r : Option (Outcome V)} (acts : a.Acts k (place i) p r a') : a'.Sealed key v := by
  generalize hp : place i = before at acts
  have apart : ∀ {f}, before = .leads k f → key ≠ k := by
    rintro f rfl rfl
    exact h.not_led manned hp
  cases acts with
  | opened asking free missing =>
    have other : key ≠ k := by
      rintro rfl
      cases h.held.symm.trans missing
    exact ⟨(Table.get?_insert_of_ne a.pending _ other).trans h.free, h.held⟩
  | @landed f r =>
    refine h.close (apart rfl) ?_
    cases r with
    | ok w => exact Cache.get?_insert_other _ _ (apart rfl)
    | error e => rfl
  | abandoned => exact h.close (apart rfl) rfl
  | _ => exact h.congr rfl rfl

/-- Whether a cache keeps what it is given never changes. -/
theorem Acts.retains {p p' : Place} {r : Option (Outcome V)} (acts : a.Acts k p p' r a') :
    a'.cache.retains = a.cache.retains := by
  cases acts with
  | @landed f r =>
    cases r with
    | ok w => exact Cache.retains_insert ..
    | error e => rfl
  | _ => rfl

/-- A flight that lands as a success seals its key. -/
theorem sealed_land (retains : a.cache.retains = true) (key : String) (f : Nat) (v : V) :
    (a.land key f (.ok v)).Sealed key v where
  free := Table.get?_erase_self ..
  held := Cache.get?_insert_self retains ..

end LearningClient.Accessor
