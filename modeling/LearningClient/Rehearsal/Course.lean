import LearningClient.Rehearsal.Loads

/-!
# Everything that can happen at a bench

`Bench.run` lets tasks take their turns in one order. A caller may rely on
no order, so here the moves at a bench come in any order at all: calls are
made, tasks take a turn (ready or not, whichever is next), fetches are given
their outcomes, tasks are aborted, and values are cached, read and taken out
in between. How many of the next reads report nothing can be set anew before
each move.

A turn is one move. A caller whose turn would be cut in two by another one
finds at worst a read that is out of date by the time it is acted on; a read
that reports nothing stands for that.

A `Course` is a bench with what has been seen at it so far. A name belongs
to one call: a call under a name that has been used before is not made.
-/

namespace LearningClient.Rehearsal

open LearningClient

/-- What can happen at a bench. -/
inductive Move (V : Type)
  /-- A call is made. Its fetch may have its outcome from the start. -/
  | call (id : String) (purpose : Purpose) (key : String) (outcome : Option (Outcome V))
  /-- A task takes a turn. -/
  | turn (id : String)
  /-- The fetch of a task is given its outcome. -/
  | finish (id : String) (r : Outcome V)
  /-- A task is dropped. -/
  | abort (id : String)
  | cacheResource (key : String) (v : V)
  | invalidate (key : String)
  /-- Somebody reads the cache. -/
  | read (key : String)
  /-- The next reads are to report nothing, so many of them. -/
  | miss (n : Nat)
deriving Repr

namespace Event

variable {V : Type}

/-- The task that an event is about. -/
def id : Event V → String
  | .fetch id => id
  | .done id _ => id

/-- Whether an event is the beginning of the fetch of a task. -/
def begins (id : String) : Event V → Bool
  | .fetch i => i = id
  | .done .. => false

/-- The result of a task, if the event is its end. -/
def result? (id : String) : Event V → Option (Outcome V)
  | .fetch _ => none
  | .done i r => if i = id then some r else none

end Event

namespace Bench

variable {V : Type}

/-- The turn of a task, wherever it stands among those that are ready. -/
def take (b : Bench V) (id : String) : List (Event V) × Bench V :=
  match b.tasks.find? (·.id = id) with
  | none => ([], { b with ready := b.ready.erase id })
  | some t => step { b with ready := b.ready.erase id } t

theorem run_of_nil {b : Bench V} (h : b.ready = []) : b.run = ([], b) := by
  rw [run]
  split
  · rfl
  · rename_i hr
    rw [h] at hr
    cases hr

/-- What is done until none is ready begins with the turn of the first. -/
theorem run_of_cons {b : Bench V} {id : String} {ready : List String}
    (h : b.ready = id :: ready) :
    b.run = ((b.take id).1 ++ (b.take id).2.run.1, (b.take id).2.run.2) := by
  have he : b.ready.erase id = ready := by rw [h, List.erase_cons_head]
  rw [run, take, he]
  split
  · rename_i hr
    rw [h] at hr
    cases hr
  · rename_i i rest hr
    obtain ⟨rfl, rfl⟩ := List.cons.inj (h.symm.trans hr)
    split
    · rename_i hf
      rw [hf]
      rfl
    · rename_i t hf
      rw [hf]

end Bench

/-- A bench, and what has been seen at it. -/
structure Course (V : Type) where
  bench : Bench V
  /-- The names of the calls so far. -/
  names : List String := []
  /-- What has been seen so far, in order. -/
  seen : List (Event V) := []
deriving Repr

namespace Course

variable {V : Type}

/-- A move is made. -/
def move (x : Course V) : Move V → Course V
  | .call id purpose key outcome =>
    if id ∈ x.names then x
    else
      { x with
        bench := x.bench.spawn { id, purpose, key, outcome }
        names := x.names ++ [id] }
  | .turn id =>
    { x with bench := (x.bench.take id).2, seen := x.seen ++ (x.bench.take id).1 }
  | .finish id r => { x with bench := (x.bench.finish id r).2 }
  | .abort id => { x with bench := (x.bench.abort id).2 }
  | .cacheResource key v =>
    { x with bench := { x.bench with accessor := x.bench.accessor.cacheResource key v } }
  | .invalidate key =>
    { x with bench := { x.bench with accessor := x.bench.accessor.invalidate key } }
  | .read key =>
    { x with bench := { x.bench with accessor := (x.bench.accessor.cached key).2 } }
  | .miss n =>
    { x with bench := { x.bench with accessor := { x.bench.accessor with misses := n } } }

/-- What moves make of an accessor over a cache that nobody has called. -/
def play (c : Cache V) (ms : List (Move V)) : Course V :=
  ms.foldl move { bench := { accessor := { cache := c } } }

/-- All ready tasks take their turns, and those that become ready by them. -/
def settle (x : Course V) : Course V :=
  { x with bench := x.bench.run.2, seen := x.seen ++ x.bench.run.1 }

/-- The course `y` is what a turn of a ready task makes of `x`. -/
def Next (y x : Course V) : Prop := ∃ id ∈ x.bench.ready, y = x.move (.turn id)

/-- How often the fetch of a call has begun. -/
def begun (x : Course V) (id : String) : Nat := x.seen.countP (·.begins id)

/-- The results that a call has reported. -/
def reports (x : Course V) (id : String) : List (Outcome V) := x.seen.filterMap (·.result? id)

end Course

end LearningClient.Rehearsal
