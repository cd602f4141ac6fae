import LearningClient.Store.Accessor

/-!
# Tasks at an accessor

Callers of an accessor as tasks that run in turns. A task loads a key
through the accessor or runs its fetch outside it. The fetch of a task
yields an outcome that is given to the task from outside, before or after
the fetch has begun. A task can be aborted at any time; if it leads a
flight, the flight is lost.

Tasks take their turns in the order in which they became ready. A new task
is ready, and so is one whose fetch has its outcome. When a flight is over,
the tasks that wait for it become ready in the order in which they joined
it. `Bench.run` lets all ready tasks take their turns: a turn either leaves
one ready task less, or ends a task.
-/

namespace LearningClient.Rehearsal

open LearningClient

/-- What a task does with its key. -/
inductive Purpose
  /-- Loads it, sharing the fetch with others. -/
  | load
  /-- Runs its fetch, whatever there is. -/
  | fetch
deriving DecidableEq, Repr

/-- Where a task stands. -/
inductive Standing
  /-- It has not had a turn. -/
  | fresh
  /-- Its fetch is under way, outside the accessor. -/
  | fetching
  /-- Its fetch is under way and others may wait for it. -/
  | leading (flight : Nat)
  /-- It waits for a flight. -/
  | waiting (flight : Nat)
deriving DecidableEq, Repr

/-- A caller. -/
structure LoadTask (V : Type) where
  id : String
  purpose : Purpose
  key : String
  /-- What its fetch yields, once that is known. -/
  outcome : Option (Outcome V)
  standing : Standing := .fresh
deriving Repr

/-- What can be seen of a task. -/
inductive Event (V : Type)
  /-- Its fetch begins. -/
  | fetch (id : String)
  /-- It is over. -/
  | done (id : String) (r : Outcome V)
deriving Repr

/-- How a turn of a task ends: with the task to go on later, or over with a
result, and then perhaps with the flight that it led over too. -/
inductive TurnEnd (V : Type)
  | parked (t : LoadTask V)
  | over (r : Outcome V) (flight : Option Nat)

namespace LoadTask

variable {V : Type}

/-- The task, on having begun its fetch, or over if the outcome of the fetch
is known. -/
def fetchTurn (t : LoadTask V) (a : Accessor V) : TurnEnd V × Accessor V :=
  match t.outcome with
  | some r => (.over r none, a)
  | none => (.parked { t with standing := .fetching }, a)

/-- The task, on leading a flight, or over if the outcome of its fetch is
known. -/
def leadTurn (t : LoadTask V) (flight : Nat) (a : Accessor V) : TurnEnd V × Accessor V :=
  match t.outcome with
  | some r => (.over r (some flight), a.land t.key flight r)
  | none => (.parked { t with standing := .leading flight }, a)

/-- The task after its turn at the accessor. -/
def loadTurn (t : LoadTask V) : Turn V × Accessor V → List (Event V) × TurnEnd V × Accessor V
  | (.answered r, a) => ([], .over r none, a)
  | (.waits f, a) => ([], .parked { t with standing := .waiting f }, a)
  | (.leads f, a) => ([.fetch t.id], t.leadTurn f a)

/-- One turn of a task: what can be seen of it, how it ends, and the
accessor it leaves. -/
def turn (t : LoadTask V) (a : Accessor V) : List (Event V) × TurnEnd V × Accessor V :=
  match t.standing with
  | .fresh =>
    match t.purpose with
    | .fetch => ([.fetch t.id], t.fetchTurn a)
    | .load => t.loadTurn (a.load t.key)
  | .fetching => ([], t.fetchTurn a)
  | .leading f => ([], t.leadTurn f a)
  | .waiting f => t.loadTurn (a.resume t.key f)

end LoadTask

/-- An accessor and its callers. The tasks that wait for one flight stand in
the order in which they joined it. -/
structure Bench (V : Type) where
  accessor : Accessor V := {}
  tasks : List (LoadTask V) := []
  /-- The tasks that are to take a turn, the next one in front. -/
  ready : List String := []
deriving Repr

namespace Bench

variable {V : Type}

/-- The tasks that wait for a flight. -/
def waiters (b : Bench V) (flight : Nat) : List String :=
  (b.tasks.filter (·.standing = .waiting flight)).map (·.id)

/-- The tasks without one. -/
def without (b : Bench V) (id : String) : List (LoadTask V) := b.tasks.filter (·.id ≠ id)

/-- The tasks, once one of them has parked. It keeps its place if it stands as it
stood, and comes last if it does not: who joins a flight stands behind those
who have joined it before. -/
def park (b : Bench V) (t u : LoadTask V) : List (LoadTask V) :=
  if u.standing = t.standing then b.tasks.map fun v => if v.id = u.id then u else v
  else b.without u.id ++ [u]

/-- One turn of one task, which is no longer ready. -/
def step (b : Bench V) (t : LoadTask V) : List (Event V) × Bench V :=
  match t.turn b.accessor with
  | (events, .parked u, accessor) => (events, { b with accessor, tasks := b.park t u })
  | (events, .over r flight, accessor) =>
    (events ++ [.done t.id r],
      { accessor
        tasks := b.without t.id
        ready := b.ready ++ (flight.map b.waiters).getD [] })

end Bench

namespace LoadTask

variable {V : Type}

theorem leadTurn_parked_id {t u : LoadTask V} {f : Nat} {a a' : Accessor V}
    (h : t.leadTurn f a = (.parked u, a')) : u.id = t.id := by
  unfold leadTurn at h
  split at h <;> simp_all
  exact h.1 ▸ rfl

theorem fetchTurn_parked_id {t u : LoadTask V} {a a' : Accessor V}
    (h : t.fetchTurn a = (.parked u, a')) : u.id = t.id := by
  unfold fetchTurn at h
  split at h <;> simp_all
  exact h.1 ▸ rfl

theorem loadTurn_parked_id {t u : LoadTask V} {p : Turn V × Accessor V}
    {es : List (Event V)} {a' : Accessor V} (h : t.loadTurn p = (es, .parked u, a')) :
    u.id = t.id := by
  unfold loadTurn at h
  split at h
  · simp at h
  · simp at h; exact h.2.1 ▸ rfl
  · simp at h; exact leadTurn_parked_id h.2

/-- A task keeps its name. -/
theorem turn_parked_id {t u : LoadTask V} {a a' : Accessor V} {es : List (Event V)}
    (h : t.turn a = (es, .parked u, a')) : u.id = t.id := by
  unfold turn at h
  split at h
  · split at h
    · simp at h; exact fetchTurn_parked_id h.2
    · exact loadTurn_parked_id h
  · simp at h; exact fetchTurn_parked_id h.2
  · simp at h; exact leadTurn_parked_id h.2
  · exact loadTurn_parked_id h

end LoadTask

namespace Bench

variable {V : Type}

/-- There are fewer tasks without one of them. -/
theorem length_without_lt {b : Bench V} {t : LoadTask V} (h : t ∈ b.tasks) :
    (b.without t.id).length < b.tasks.length := by
  rw [without, List.length_filter_lt_length_iff_exists]
  exact ⟨t, h, by simp⟩

/-- No task is added by parking one. -/
theorem length_park_le {b : Bench V} {t u : LoadTask V} (h : t ∈ b.tasks) (same : u.id = t.id) :
    (b.park t u).length ≤ b.tasks.length := by
  unfold park
  split
  · exact Nat.le_of_eq (List.length_map _)
  · rw [List.length_append, same]
    exact length_without_lt h

/-- A turn ends a task or leaves what is ready as it is. -/
theorem step_decreases {b : Bench V} {t : LoadTask V} (h : t ∈ b.tasks) :
    (b.step t).2.tasks.length < b.tasks.length ∨
      (b.step t).2.tasks.length = b.tasks.length ∧ (b.step t).2.ready = b.ready := by
  unfold step
  split
  · rename_i es u a hu
    rcases Nat.lt_or_eq_of_le (length_park_le h (LoadTask.turn_parked_id hu)) with hlt | heq
    · exact .inl hlt
    · exact .inr ⟨heq, rfl⟩
  · exact .inl (length_without_lt h)

/-- Lets the ready tasks take their turns until none is ready. -/
def run (b : Bench V) : List (Event V) × Bench V :=
  match _hr : b.ready with
  | [] => ([], b)
  | id :: ready =>
    match _ht : b.tasks.find? (·.id = id) with
    | none => run { b with ready }
    | some t =>
      let turn := Bench.step { b with ready } t
      let later := run turn.2
      (turn.1 ++ later.1, later.2)
termination_by (b.tasks.length, b.ready.length)
decreasing_by
  · exact Prod.Lex.right _ (by simp [_hr])
  · have hmem : t ∈ ({ b with ready } : Bench V).tasks := List.mem_of_find?_eq_some _ht
    rcases step_decreases hmem with hd | ⟨he, hq⟩
    · exact Prod.Lex.left _ _ hd
    · rw [he, hq]
      exact Prod.Lex.right _ (by simp [_hr])

/-- A new task, which is ready. -/
def spawn (b : Bench V) (t : LoadTask V) : Bench V :=
  { b with tasks := b.tasks ++ [t], ready := b.ready ++ [t.id] }

/-- Gives the fetch of a task its outcome, if the task is there and has
none. The task becomes ready if its fetch is under way. -/
def finish (b : Bench V) (id : String) (r : Outcome V) : Bool × Bench V :=
  match b.tasks.find? (·.id = id) with
  | none => (false, b)
  | some t =>
    if t.outcome.isSome then (false, b)
    else
      let tasks := b.tasks.map fun t => if t.id = id then { t with outcome := some r } else t
      let ready := match t.standing with
        | .fetching => b.ready ++ [id]
        | .leading _ => b.ready ++ [id]
        | _ => b.ready
      (true, { b with tasks, ready })

/-- Drops a task, if it is there. A flight that it led is lost, and those
who wait for it become ready. -/
def abort (b : Bench V) (id : String) : Bool × Bench V :=
  match b.tasks.find? (·.id = id) with
  | none => (false, b)
  | some t =>
    let rest := { b with tasks := b.without id }
    match t.standing with
    | .leading f =>
      (true, { rest with
        accessor := b.accessor.abandon t.key f
        ready := b.ready ++ b.waiters f })
    | _ => (true, rest)

end Bench

end LearningClient.Rehearsal
