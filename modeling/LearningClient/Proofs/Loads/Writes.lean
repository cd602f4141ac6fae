import LearningClient.Proofs.LastWord
import LearningClient.Proofs.Loads.Once

/-!
# Who writes the cache

What a cache that keeps what is put in holds under a key is what the last
write to the key has put there (`Course.content_decided`). There are three
kinds of writes (`Course.Writes`): a value is cached, the key is
invalidated, or a load that leads for the key takes its last turn and its own
fetch has yielded a value.

A turn that ends a flight with a value is the last turn of a leader, and it
is the only turn that writes (`LoadTask.Turned.writes`). So a load that
fails, a fetch outside the accessor, a waiter that is told a result, a hit, a
miss, and a task that is dropped all leave the cache as it is.
-/

namespace LearningClient.Rehearsal

open LearningClient

variable {V : Type}

/-- A turn leaves the cache as it is, or it is the last turn of a leader
whose own fetch, begun once, has yielded the value that is put in. -/
theorem LoadTask.Turned.writes {t : LoadTask V} {a a' : Accessor V} {es : List (Event V)}
    {e : TurnEnd V} (h : t.Turned a (es, e, a')) :
    a'.cache = a.cache ∨ ∃ v flight, e = .over (.ok v) flight ∧ t.outcome = some (.ok v) ∧
      a'.cache = a.cache.insert t.key v ∧ t.underWay + es.countP (·.begins t.id) = 1 ∧
      ¬ t.Outside := by
  cases h with
  | @landed f r stands known =>
    cases r with
    | error e => exact .inl rfl
    | ok v =>
      have leads : t.underWay = 1 := by rw [LoadTask.underWay, stands]
      have inside : ¬ t.Outside := fun outside => outside.idle f stands
      exact .inr ⟨v, some f, rfl, known, rfl, by rw [leads]; rfl, inside⟩
  | @flew m r asks free missing known =>
    cases r with
    | error e => exact .inl rfl
    | ok v =>
      have idle : t.underWay = 0 := LoadTask.underWay_of_idle asks.idle
      refine .inr ⟨v, _, rfl, known, rfl, ?_, ?_⟩
      · rw [idle]
        simp [Event.begins]
      · rintro (stands | ⟨purpose, fresh⟩)
        · rcases asks with ⟨_, fresh⟩ | ⟨f, waits, _⟩
          · rw [stands] at fresh
            cases fresh
          · rw [stands] at waits
            cases waits
        · rcases asks with ⟨load, _⟩ | ⟨f, waits, _⟩
          · rw [purpose] at load
            cases load
          · rw [fresh] at waits
            cases waits
  | _ => exact .inl rfl

/-- A turn in which a load reports a value that its own fetch has yielded
puts that value in. -/
theorem LoadTask.Turned.puts {t : LoadTask V} {a a' : Accessor V} {es : List (Event V)} {v : V}
    {flight : Option Nat} (h : t.Turned a (es, .over (.ok v) flight, a')) (inside : ¬ t.Outside)
    (begun : t.underWay + es.countP (·.begins t.id) = 1) :
    a'.cache = a.cache.insert t.key v := by
  cases h with
  | fetched outside known shown => exact absurd outside inside
  | landed stands known => rfl
  | told stands landed =>
    rw [LoadTask.underWay, stands] at begun
    cases begun
  | hit asks found =>
    rw [LoadTask.underWay_of_idle asks.idle] at begun
    cases begun
  | flew asks free missing known => rfl

/-- A load that does not run its fetch outside the accessor. -/
theorem Bench.Staffed.load_of_inside {b : Bench V} (h : b.Staffed) {t : LoadTask V}
    (ht : t ∈ b.tasks) (inside : ¬ t.Outside) : t.purpose = .load := by
  cases purpose : t.purpose with
  | load => rfl
  | fetch =>
    have fits := h.fits t ht
    rw [LoadTask.Fits] at fits
    cases stands : t.standing with
    | fresh => exact absurd (.inr ⟨purpose, stands⟩) inside
    | fetching => exact absurd (.inl stands) inside
    | leading f =>
      rw [stands] at fits
      exact absurd (purpose.symm.trans fits) (by decide)
    | waiting f =>
      rw [stands] at fits
      exact absurd (purpose.symm.trans fits) (by decide)

namespace Course

variable {c : Cache V} {ms : List (Move V)} {k : String}

/-- A move that writes to a key, and what is there after it. -/
inductive Writes (k : String) (x : Course V) : Move V → Option V → Prop
  /-- A value is cached under the key. -/
  | stored {v : V} : Writes k x (.cacheResource k v) (some v)
  /-- The value of the key is taken out. -/
  | invalidated : Writes k x (.invalidate k) none
  /-- A load that leads for the key takes its last turn, and its own fetch
  has yielded a value. -/
  | yielded {t : LoadTask V} {v : V} (yields : x.Yields t k (.ok v)) :
      Writes k x (.turn t.id) (some v)

/-- A turn that writes is the last one of a load that has yielded what it
writes. -/
theorem Writes.of_turn {x : Course V} {id : String} {w : Option V} (h : Writes k x (.turn id) w) :
    ∃ t v, t.id = id ∧ w = some v ∧ x.Yields t k (.ok v) := by
  generalize hm : Move.turn id = m at h
  cases h with
  | stored => cases hm
  | invalidated => cases hm
  | @yielded t v yields =>
    cases hm
    exact ⟨t, v, rfl, rfl, yields⟩

/-- The turn that ends a load whose own fetch has yielded a value. -/
theorem Yields.turned {t : LoadTask V} {r : Outcome V} (h : (play c ms).Yields t k r) :
    ∃ fs flight, t.Turned (play c ms).bench.accessor
        (fs, .over r flight, ((play c ms).move (.turn t.id)).bench.accessor) ∧
      t.underWay + fs.countP (·.begins t.id) = 1 ∧ ¬ t.Outside := by
  have sound := sound_play c ms
  obtain ⟨u, hu, same, _, _, fs, flight, turned, e⟩ := (moved sound.named _).ended h.shown
  obtain rfl := sound.staffed.eq_of_id hu h.mem same
  have begun := h.begun
  rw [begun_move, (logged_play c ms).begun u h.mem h.purpose, e, List.countP_append] at begun
  exact ⟨fs, flight, turned, begun, sound.staffed.inside h.mem h.purpose⟩

/-- The last turn of a task that puts in what its fetch has yielded is that
of a load, which yields it. -/
theorem yields_of_over {t : LoadTask V} (mem : t ∈ (play c ms).bench.tasks)
    {es : List (Event V)} {v : V} (known : t.outcome = some (.ok v))
    (shown : (play c ms).shown (.turn t.id) = es ++ [.done t.id (.ok v)])
    (begun : t.underWay + es.countP (·.begins t.id) = 1) (inside : ¬ t.Outside) :
    (play c ms).Yields t t.key (.ok v) := by
  have purpose := (sound_play c ms).staffed.load_of_inside mem inside
  refine ⟨mem, purpose, rfl, known, ?_, ?_⟩
  · rw [shown]
    exact List.mem_append_right _ (List.mem_singleton_self _)
  · rw [begun_move, (logged_play c ms).begun t mem purpose, shown, List.countP_append]
    exact begun

/-- A move that does not write to a key leaves what is there. -/
theorem kept_of_not_writes {m : Move V} (quiet : ∀ w, ¬ Writes k (play c ms) m w) :
    ((play c ms).move m).bench.accessor.cache.get? k =
      (play c ms).bench.accessor.cache.get? k := by
  have hm := moved (sound_play c ms).named m
  generalize hes : (play c ms).shown m = es at hm
  generalize hb : ((play c ms).move m).bench = b' at hm
  cases hm with
  | @last t es r flight a mem turned =>
    rcases turned.writes with same | ⟨v, f, e, known, more, begun, inside⟩
    · rw [same]
    · cases e
      rw [more]
      refine Cache.get?_insert_other _ v ?_
      rintro rfl
      exact quiet (some v) (.yielded (yields_of_over mem known hes begun inside))
  | parked mem turned =>
    rcases turned.writes with same | ⟨v, f, e, _⟩
    · rw [same]
    · cases e
  | @stored key v =>
    refine Cache.get?_insert_other _ v ?_
    rintro rfl
    exact quiet (some v) .stored
  | @invalidated key =>
    refine Cache.get?_invalidate_other _ ?_
    rintro rfl
    exact quiet none .invalidated
  | _ => rfl

/-- A move that writes to a key of a cache that keeps what is put in. -/
theorem get?_of_writes (retains : c.retains = true) {m : Move V} {w : Option V}
    (writes : Writes k (play c ms) m w) :
    ((play c ms).move m).bench.accessor.cache.get? k = w := by
  rw [← retains_play c ms] at retains
  cases writes with
  | stored => exact Cache.get?_insert_self retains k _
  | invalidated => exact Cache.get?_invalidate_self _ k
  | @yielded t v yields =>
    obtain ⟨fs, flight, turned, begun, inside⟩ := yields.turned
    rw [turned.puts inside begun, yields.at_key]
    exact Cache.get?_insert_self retains k v

theorem decided_by_writes (retains : c.retains = true) (k : String) :
    Decided (play c) (fun x => x.bench.accessor.cache.get? k) (Writes k) where
  obeyed writes := by
    rw [play_concat]
    exact get?_of_writes retains writes
  kept quiet := by
    rw [play_concat]
    exact kept_of_not_writes quiet

/-- Who writes the cache. Over any cache that keeps what is put in, whatever
moves are made, and for every key:

- as long as there has been no write to the key, the cache holds under it
  what it held at the start;
- after a write to the key, it holds what was written, until the next write
  to the key;
- a move that does not write to the key leaves what the cache holds
  under it. -/
theorem content_decided (c : Cache V) (retains : c.retains = true) (ms : List (Move V))
    (k : String) :
    (Silent (play c) (Writes k) [] ms →
      (play c ms).bench.accessor.cache.get? k = c.get? k) ∧
    (∀ ms₁ m ms₂ w, ms = ms₁ ++ m :: ms₂ → Writes k (play c ms₁) m w →
      Silent (play c) (Writes k) (ms₁ ++ [m]) ms₂ →
      (play c ms).bench.accessor.cache.get? k = w) ∧
    (∀ m, (∀ w, ¬ Writes k (play c ms) m w) →
      (play c (ms ++ [m])).bench.accessor.cache.get? k =
        (play c ms).bench.accessor.cache.get? k) := by
  have decided := decided_by_writes retains k
  refine ⟨fun silent => ?_, ?_, fun m quiet => decided.kept quiet⟩
  · exact decided.silent silent
  · rintro ms₁ m ms₂ w rfl writes silent
    exact decided.last writes silent

/-- A load leads while its key is given another value. -/
def seededInFlight : List (Move Nat) :=
  [.call "a" .load "k" none, .turn "a", .cacheResource "k" 5, .finish "a" (.ok 1)]

/-- The load writes over the value that came while it led, and a fetch
outside the accessor changes nothing after that. -/
theorem content_decided_after_seeding :
    Silent (play {}) (Writes "k") (seededInFlight ++ [.turn "a"])
      [.call "b" .fetch "k" (some (.ok 9)), .turn "b"] ∧
    (play {} (seededInFlight ++ .turn "a" :: [.call "b" .fetch "k" (some (.ok 9)),
      .turn "b"])).bench.accessor.cache.get? "k" = some 1 := by
  have silent : Silent (play {}) (Writes "k") (seededInFlight ++ [.turn "a"])
      [.call "b" .fetch "k" (some (.ok 9)), .turn "b"] := by
    refine .cons (fun w h => by cases h) (.cons (fun w h => ?_) (.nil _))
    obtain ⟨t, v, _, _, yields⟩ := h.of_turn
    obtain rfl := List.mem_singleton.mp yields.mem
    exact absurd yields.purpose (by decide)
  let a : LoadTask Nat :=
    { id := "a", purpose := .load, key := "k", outcome := some (.ok 1), standing := .leading 0 }
  have lands : (play {} seededInFlight).bench.Lands a 0 (.ok 1) :=
    ⟨List.mem_singleton_self a, rfl, rfl⟩
  have writes : Writes "k" (play {} seededInFlight) (.turn "a") (some 1) :=
    .yielded (yields_of_lands lands)
  exact ⟨silent, (content_decided {} rfl _ "k").2.1 _ _ _ _ rfl writes silent⟩

end Course

end LearningClient.Rehearsal
