import LearningClient.Proofs.Loads.Turns

/-!
# Truthful reads

While no read of the cache is to report nothing, a caller that asks for a key
finds what is there: the value (`Accessor.load_of_held`), else the flight
(`Accessor.load_of_announced`), and it opens one if there is neither
(`Accessor.load_of_free`). Only a move that sets misses makes reads report
nothing (`Course.misses_move`).
-/

namespace LearningClient

variable {V : Type}

namespace Accessor

theorem load_of_held {a : Accessor V} {key : String} {v : V} (truthful : a.misses = 0)
    (held : a.cache.get? key = some v) : a.load key = (.answered (.ok v), a) := by
  simp only [Accessor.load, Accessor.read, truthful, held]

theorem load_of_announced {a : Accessor V} {key : String} {f : Nat} (truthful : a.misses = 0)
    (missing : a.cache.get? key = none) (announced : a.pending.get? key = some f) :
    a.load key = (.waits f, a) := by
  obtain ⟨cache, pending, flights, misses⟩ := a
  subst truthful
  simp only [Accessor.load, Accessor.read, missing, Accessor.join, announced]

theorem load_of_free {a : Accessor V} {key : String} (truthful : a.misses = 0)
    (missing : a.cache.get? key = none) (free : a.pending.get? key = none) :
    a.load key = (.leads a.flights.length, a.openFlight key) := by
  obtain ⟨cache, pending, flights, misses⟩ := a
  subst truthful
  simp only [Accessor.load, Accessor.read, missing, Accessor.join, free, Accessor.openFlight]

/-- Reads go on being truthful. -/
theorem misses_load {a : Accessor V} (truthful : a.misses = 0) (key : String) :
    (a.load key).2.misses = 0 := by
  cases held : a.cache.get? key with
  | some v => rw [load_of_held truthful held, truthful]
  | none =>
    cases announced : a.pending.get? key with
    | some f => rw [load_of_announced truthful held announced, truthful]
    | none =>
      rw [load_of_free truthful held announced]
      exact truthful

theorem misses_resume {a : Accessor V} (truthful : a.misses = 0) (key : String) (flight : Nat) :
    (a.resume key flight).2.misses = 0 := by
  unfold Accessor.resume
  split
  · exact truthful
  · exact misses_load truthful key
  · exact truthful

end Accessor

namespace Rehearsal

theorem LoadTask.misses_turn {a : Accessor V} (truthful : a.misses = 0) (t : LoadTask V) :
    (t.turn a).2.2.misses = 0 := by
  have leads : ∀ (f : Nat) (b : Accessor V), b.misses = 0 → (t.leadTurn f b).2.misses = 0 := by
    intro f b truthful
    unfold LoadTask.leadTurn
    split <;> exact truthful
  have fetches : (t.fetchTurn a).2.misses = 0 := by
    unfold LoadTask.fetchTurn
    split <;> exact truthful
  have loads : ∀ p : Turn V × Accessor V, p.2.misses = 0 → (t.loadTurn p).2.2.misses = 0 := by
    rintro ⟨turn, b⟩ truthful
    cases turn with
    | answered r => exact truthful
    | waits f => exact truthful
    | leads f => exact leads f b truthful
  unfold LoadTask.turn
  split
  · split
    · exact fetches
    · exact loads _ (Accessor.misses_load truthful t.key)
  · exact fetches
  · exact leads _ a truthful
  · exact loads _ (Accessor.misses_resume truthful t.key _)

theorem Bench.misses_step {b : Bench V} (truthful : b.accessor.misses = 0) (t : LoadTask V) :
    (b.step t).2.accessor.misses = 0 := by
  have turned := LoadTask.misses_turn truthful t
  unfold Bench.step
  split
  · rename_i turn
    rw [turn] at turned
    exact turned
  · rename_i turn
    rw [turn] at turned
    exact turned

theorem Course.misses_move {x : Course V} (truthful : x.bench.accessor.misses = 0) {m : Move V}
    (set : ∀ n, m ≠ .miss n) : (x.move m).bench.accessor.misses = 0 := by
  cases m with
  | call id purpose key outcome =>
    simp only [Course.move]
    split <;> exact truthful
  | turn id =>
    simp only [Course.move, Bench.take]
    split
    · exact truthful
    · exact Bench.misses_step (b := { x.bench with ready := x.bench.ready.erase id }) truthful _
  | finish id r =>
    simp only [Course.move, Bench.finish]
    split
    · exact truthful
    · split <;> exact truthful
  | abort id =>
    simp only [Course.move, Bench.abort]
    split
    · exact truthful
    · split <;> exact truthful
  | cacheResource key v => exact truthful
  | invalidate key => exact truthful
  | read key =>
    simp only [Course.move, Accessor.cached, Accessor.read]
    split
    · exact truthful
    · rename_i m misses
      rw [truthful] at misses
      cases misses
  | miss n => exact absurd rfl (set n)

end Rehearsal

end LearningClient
