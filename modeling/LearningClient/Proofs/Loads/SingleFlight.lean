import LearningClient.Proofs.Loads.Seen

/-!
# One flight at a time for each key

Whatever moves have been made, each key has at most one leader, a load runs
its fetch only if it leads, and what is announced under a key is the flight
of the key's leader (`Course.single_flight`). An announcement is taken back
only by the move that ends the leader to whom it belongs
(`Bench.Moved.taken_back`).
-/

namespace LearningClient.Rehearsal

open LearningClient

variable {V : Type}

/-! ## What is announced -/

/-- A turn takes back nothing that is announced, unless it is the last turn
of the task that leads for the key. -/
theorem LoadTask.Turned.announced {t : LoadTask V} {a a' : Accessor V} {es : List (Event V)}
    {e : TurnEnd V} (h : t.Turned a (es, e, a')) {k : String} {f : Nat}
    (hk : a.pending.get? k = some f) :
    a'.pending.get? k = some f ∨
      k = t.key ∧ (∃ g, t.standing = .leading g) ∧ ∃ r flight, e = .over r flight := by
  -- a key that has no flight yet is another one
  have other : a.pending.get? t.key = none → k ≠ t.key := by
    rintro free rfl
    rw [free] at hk
    cases hk
  cases h with
  | fetching outside unknown shown => exact .inl hk
  | fetched outside known shown => exact .inl hk
  | leading stands unknown => exact .inl hk
  | @landed f r stands known =>
    by_cases e : k = t.key
    · exact .inr ⟨e, ⟨f, stands⟩, r, some f, rfl⟩
    · exact .inl ((Table.get?_erase_of_ne _ e).trans hk)
  | waiting stands going => exact .inl hk
  | told stands landed => exact .inl hk
  | hit asks found => exact .inl hk
  | joined asks announced => exact .inl hk
  | opened asks free missing unknown =>
    exact .inl ((Table.get?_insert_of_ne _ _ (other free)).trans hk)
  | flew asks free missing known =>
    refine .inl ((Table.get?_erase_of_ne _ (other free)).trans ?_)
    exact (Table.get?_insert_of_ne _ _ (other free)).trans hk

/-- What is announced is taken back only by the move that ends the task
that leads it. -/
theorem Bench.Moved.taken_back {b b' : Bench V} {m : Move V} {es : List (Event V)}
    (hb : b.Staffed) (h : b.Moved m es b') {k : String} {f : Nat}
    (hk : b.accessor.pending.get? k = some f) :
    b'.accessor.pending.get? k = some f ∨
      ∃ t ∈ b.tasks, t.key = k ∧ t.standing = .leading f ∧
        (m = .turn t.id ∨ m = .abort t.id) ∧ ∀ u ∈ b'.tasks, u.id ≠ t.id := by
  -- whoever leads for the key leads this flight
  have leader : ∀ {t : LoadTask V} {g : Nat}, t ∈ b.tasks → t.standing = .leading g →
      k = t.key → t.standing = .leading f := by
    rintro t g ht stands rfl
    have own := hb.announced ht stands
    rw [hk] at own
    rw [stands, Option.some.inj own]
  cases h with
  | still => exact .inl hk
  | called fresh new => exact .inl hk
  | absent gone => exact .inl hk
  | parked mem turned =>
    rcases turned.announced hk with kept | ⟨_, _, r, flight, e⟩
    · exact .inl kept
    · cases e
  | @last t es r flight a mem turned =>
    rcases turned.announced hk with kept | ⟨e, ⟨g, stands⟩, _⟩
    · exact .inl kept
    · exact .inr ⟨t, mem, e.symm, leader mem stands e, .inl rfl,
        fun u hu => (mem_without.mp hu).2⟩
  | given mem unknown ready woken => exact .inl hk
  | dropped mem idle => exact .inl hk
  | @abandoned t g mem stands =>
    by_cases e : k = t.key
    · exact .inr ⟨t, mem, e.symm, leader mem stands e, .inr rfl,
        fun u hu => (mem_without.mp hu).2⟩
    · exact .inl ((Table.get?_erase_of_ne _ e).trans hk)
  | stored => exact .inl hk
  | invalidated => exact .inl hk
  | missing => exact .inl hk

/-! ## The leaders -/

/-- What is announced under a key is what its leader leads. -/
theorem Bench.Staffed.pending_iff {b : Bench V} (h : b.Staffed) {k : String} {f : Nat} :
    b.accessor.pending.get? k = some f ↔
      ∃ t ∈ b.tasks, t.purpose = .load ∧ t.key = k ∧ t.standing = .leading f := by
  constructor
  · intro hk
    obtain ⟨i, t, ht, _, key, stands⟩ := h.flights.led hk
    exact ⟨t, ht, h.load_of_standing ht (.inl stands), key, stands⟩
  · rintro ⟨t, ht, _, rfl, stands⟩
    exact h.announced ht stands

/-- Two tasks that lead for one key, or one flight, are one. -/
theorem Bench.Staffed.leader_unique {b : Bench V} (h : b.Staffed) {t u : LoadTask V} {f g : Nat}
    (ht : t ∈ b.tasks) (hu : u ∈ b.tasks) (leads : t.standing = .leading f)
    (leads' : u.standing = .leading g) (e : t.key = u.key ∨ f = g) : t = u := by
  have ft : b.At t.id t.key (.leading f) := ⟨t, ht, rfl, rfl, leads⟩
  have gu : b.At u.id u.key (.leading g) := ⟨u, hu, rfl, rfl, leads'⟩
  have at_t := h.announced ht leads
  have at_u := h.announced hu leads'
  rcases e with key | rfl
  · rw [key, at_u] at at_t
    obtain rfl := Option.some.inj at_t
    rw [key] at ft
    exact h.eq_of_id ht hu (h.flights.alone ft gu)
  · rw [h.flights.apart at_t at_u] at ft
    exact h.eq_of_id ht hu (h.flights.alone ft gu)

namespace Course

/-- Single flight. Whatever moves have been made at an accessor over any
cache:

- no two tasks lead for one key, and no two lead one flight;
- the fetch of a load that is there has begun, once, exactly if it leads;
- a flight is announced under a key exactly if a load for that key leads it,
  and then it is not over;
- whatever move comes next takes an announcement back only if it ends the
  very task that leads the flight. -/
theorem single_flight (c : Cache V) (ms : List (Move V)) :
    (∀ t ∈ (play c ms).bench.tasks, ∀ u ∈ (play c ms).bench.tasks, ∀ f g,
      t.standing = .leading f → u.standing = .leading g → t.key = u.key ∨ f = g → t = u) ∧
    (∀ t ∈ (play c ms).bench.tasks, t.purpose = .load →
      (play c ms).begun t.id ≤ 1 ∧
        (0 < (play c ms).begun t.id ↔ ∃ f, t.standing = .leading f)) ∧
    (∀ k f, (play c ms).bench.accessor.pending.get? k = some f ↔
      ∃ t ∈ (play c ms).bench.tasks,
        t.purpose = .load ∧ t.key = k ∧ t.standing = .leading f) ∧
    (∀ k f, (play c ms).bench.accessor.pending.get? k = some f →
      (play c ms).bench.accessor.flights[f]? = some .open_) ∧
    (∀ m k f, (play c ms).bench.accessor.pending.get? k = some f →
      (play c (ms ++ [m])).bench.accessor.pending.get? k ≠ some f →
      ∃ t ∈ (play c ms).bench.tasks, t.key = k ∧ t.standing = .leading f ∧
        (m = .turn t.id ∨ m = .abort t.id) ∧
        ∀ u ∈ (play c (ms ++ [m])).bench.tasks, u.id ≠ t.id) := by
  have sound := sound_play c ms
  have logged := logged_play c ms
  refine ⟨?_, ?_, ?_, ?_, ?_⟩
  · intro t ht u hu f g leads leads' e
    exact sound.staffed.leader_unique ht hu leads leads' e
  · intro t ht load
    rw [logged.begun t ht load]
    exact ⟨t.underWay_le_one, t.underWay_pos⟩
  · exact fun k f => sound.staffed.pending_iff
  · exact fun k f hk => sound.staffed.flights.going hk
  · intro m k f hk back
    rw [play_concat] at back ⊢
    rcases (moved sound.named m).taken_back sound.staffed hk with kept | ended
    · exact absurd kept back
    · exact ended

/-- Two loads for one key. The first leads, and the second waits for it. -/
def leaderAndWaiter : List (Move Nat) :=
  [.call "a" .load "k" none, .turn "a", .call "b" .load "k" none, .turn "b"]

/-- The first of two loads leads the flight that is announced, and only the
move that ends it takes the announcement back. -/
theorem single_flight_of_two :
    (∃ t ∈ (play {} leaderAndWaiter).bench.tasks,
      t.purpose = .load ∧ t.key = "k" ∧ t.standing = .leading 0) ∧
    ∃ t ∈ (play {} leaderAndWaiter).bench.tasks, t.key = "k" ∧ t.standing = .leading 0 ∧
      (Move.abort "a" = .turn (V := Nat) t.id ∨ Move.abort "a" = .abort (V := Nat) t.id) ∧
      ∀ u ∈ (play {} (leaderAndWaiter ++ [.abort "a"])).bench.tasks, u.id ≠ t.id := by
  have announced : (play {} leaderAndWaiter).bench.accessor.pending.get? "k" = some 0 := rfl
  have back : (play {} (leaderAndWaiter ++ [.abort "a"])).bench.accessor.pending.get? "k" ≠
      some 0 := by decide
  obtain ⟨_, _, led, _, ended⟩ := single_flight {} leaderAndWaiter
  exact ⟨(led "k" 0).mp announced, ended (.abort "a") "k" 0 announced back⟩

end Course

end LearningClient.Rehearsal
