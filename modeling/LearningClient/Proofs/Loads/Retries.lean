import LearningClient.Proofs.Loads.Course
import LearningClient.Proofs.Store.Stages

/-!
# The turn of a load ends

A load that has its first turn, or comes back to a flight, goes round in a loop
(`Accessor.Passes`). In every state that moves lead to, what is announced is under
way, so the loop comes to an end (`Course.turn_ends`): the load has a value out of
the cache, or the result that it waited for, or it waits, or it leads. It has read
the cache once more at most than reads are to report nothing, and has gone round
only for these.
-/

namespace LearningClient

variable {V : Type}

namespace Accessor

/-- How the turn of a caller ends that finds an accessor. -/
inductive Ends (a : Accessor V) (key : String) : Stage → Turn V × Accessor V → Prop
  /-- It has read a value. -/
  | cached {s : Stage} {v : V} {b : Accessor V} (held : a.cache.get? key = some v) :
      Ends a key s (.answered (.ok v), b)
  /-- It is told the result of the flight that it waited for. -/
  | told {f : Nat} {r : Outcome V} (landed : a.flights[f]? = some (.landed r)) :
      Ends a key (.listening f) (.answered r, a)
  /-- It waits for the flight that is announced. -/
  | waits {s : Stage} {f : Nat} {b : Accessor V} (announced : a.pending.get? key = some f) :
      Ends a key s (.waits f, b)
  /-- It leads a flight, which is announced, and the cache holds nothing. -/
  | leads {s : Stage} {f : Nat} {b : Accessor V} (missing : a.cache.contains key = false)
      (same : b.cache = a.cache) (announced : b.pending.get? key = some f) :
      Ends a key s (.leads f, b)

theorem Asked.ends {a : Accessor V} {key : String} {p : Turn V × Accessor V} (h : a.Asked key p)
    (s : Stage) : a.Ends key s p := by
  cases h with
  | hit found => exact .cached found
  | joined announced => exact .waits announced
  | opened free missing =>
    refine .leads ?_ rfl (Table.get?_insert_self ..)
    rw [Cache.contains, missing]
    rfl

end Accessor

namespace Rehearsal

/-- The stage at which the turn of a load begins. -/
inductive LoadTask.Begins (t : LoadTask V) : Accessor.Stage → Prop
  | first (load : t.purpose = .load) (fresh : t.standing = .fresh) : Begins t .reading
  | again {f : Nat} (waiting : t.standing = .waiting f) : Begins t (.listening f)

namespace Course

/-- What is announced is under way. -/
theorem going_play (c : Cache V) (ms : List (Move V)) (key : String) :
    (play c ms).bench.accessor.Going key :=
  fun _ announced => (sound_play c ms).staffed.flights.going announced

/-- The turn of a load is what its stages come to. -/
theorem passes_turn (c : Cache V) (ms : List (Move V)) {t : LoadTask V}
    (mem : t ∈ (play c ms).bench.tasks) {s : Accessor.Stage} (begins : t.Begins s) :
    ∃ stages p, (play c ms).bench.accessor.Passes t.key s stages p ∧
      t.turn (play c ms).bench.accessor = t.loadTurn p ∧
      (play c ms).bench.accessor.Ends t.key s p := by
  have going := going_play c ms t.key
  have staffed := (sound_play c ms).staffed
  generalize (play c ms).bench = b at mem going staffed
  cases begins with
  | first load fresh =>
    obtain ⟨stages, passes⟩ := Accessor.passes_load going
    refine ⟨stages, _, passes, ?_, (b.accessor.load_asked t.key).ends _⟩
    simp only [LoadTask.turn, fresh, load]
  | @again f waiting =>
    obtain ⟨stages, passes⟩ := Accessor.passes_resume f going
    refine ⟨stages, _, passes, by simp only [LoadTask.turn, waiting], ?_⟩
    have resumed := b.accessor.resume_resumed t.key f
    generalize b.accessor.resume t.key f = p at resumed
    cases resumed with
    | told landed => exact .told landed
    | asked lost again => exact again.ends _
    | waits notOver =>
      -- a flight that is waited for and is not over is the one that is announced
      have at' : b.At t.id t.key (.waiting f) := ⟨t, mem, rfl, rfl, waiting⟩
      rcases staffed.flights.awaited at' with ⟨x, found, isOver⟩ | announced
      · exact absurd isOver (notOver x found)
      · exact .waits announced

/-- The loop of a load ends. Whatever moves have been made, with `n` reads still to
report nothing, in the first turn of a load and in each one in which it comes back to
a flight:

- it goes through finitely many stages, and there is one way to do so;
- what they come to is its turn, with a value out of the cache, with the result that
  it waited for, waiting for the flight that is announced, or leading one, and the
  last of these only while the cache does not hold its key;
- it reads the cache `n + 1` times at most;
- whenever it reads again and goes round, one of the reads that are to report nothing
  has been used up. -/
theorem turn_ends (c : Cache V) (ms : List (Move V)) {n : Nat}
    (missing : (play c ms).bench.accessor.misses = n) {t : LoadTask V}
    (mem : t ∈ (play c ms).bench.tasks) {s : Accessor.Stage} (begins : t.Begins s) :
    ∃ stages p, (play c ms).bench.accessor.Passes t.key s stages p ∧
      (∀ stages' p', (play c ms).bench.accessor.Passes t.key s stages' p' →
        stages' = stages ∧ p' = p) ∧
      t.turn (play c ms).bench.accessor = t.loadTurn p ∧
      (play c ms).bench.accessor.Ends t.key s p ∧
      stages.countP (·.1.reads) ≤ n + 1 ∧
      stages.IsChain fun x y => x.1 = .rereading → x.2.misses = y.2.misses + 1 := by
  obtain ⟨stages, p, passes, turn, ends⟩ := passes_turn c ms mem begins
  refine ⟨stages, p, passes, fun _ _ => passes.unique, turn, ends, ?_, passes.rounds ?_⟩
  · rw [← missing]
    exact (passes.reads_le (going_play c ms t.key)).trans (Accessor.budget_le _ t.key s)
  · rintro rfl
    cases begins

/-- A load leads, and another waits for it. The value is cached meanwhile, the leader
goes away, and the next two reads are to report nothing. -/
def valueBehindMisses : List (Move Nat) :=
  [.call "a" .load "k" none, .turn "a", .call "b" .load "k" none, .turn "b",
    .cacheResource "k" 7, .abort "a", .miss 2]

/-- The load that waited. -/
def leftWaiting : LoadTask Nat :=
  { id := "b", purpose := .load, key := "k", outcome := none, standing := .waiting 0 }

/-- The load that is left reads three times, and has the value. -/
theorem turn_ends_at_bound :
    (play {} valueBehindMisses).bench.accessor.misses = 2 ∧
    leftWaiting ∈ (play {} valueBehindMisses).bench.tasks ∧
    leftWaiting.Begins (.listening 0) ∧
    ∃ stages b, (play {} valueBehindMisses).bench.accessor.Passes "k" (.listening 0) stages
        (.answered (.ok 7), b) ∧
      stages.map (·.1) = [.listening 0, .reading, .looking, .rereading, .looking, .rereading] ∧
      stages.countP (·.1.reads) = 3 ∧
      leftWaiting.turn (play {} valueBehindMisses).bench.accessor = ([], .over (.ok 7) none, b) := by
  have mem : leftWaiting ∈ (play {} valueBehindMisses).bench.tasks := List.mem_singleton_self _
  have begins : leftWaiting.Begins (.listening 0) := .again rfl
  obtain ⟨stages, p, passes, unique, turn, -, -, -⟩ :=
    turn_ends {} valueBehindMisses rfl mem begins
  have path : (play {} valueBehindMisses).bench.accessor.Passes "k" (.listening 0) _
      (.answered (.ok 7), _) :=
    .more rfl (.more rfl (.more rfl (.more rfl (.more rfl (.last rfl)))))
  obtain ⟨rfl, rfl⟩ := unique _ _ path
  exact ⟨rfl, mem, begins, _, _, path, rfl, rfl, turn⟩

end Course

end Rehearsal

end LearningClient
