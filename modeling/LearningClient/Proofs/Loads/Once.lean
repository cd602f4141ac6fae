import LearningClient.Proofs.Loads.Results

/-!
# A load fetches only what is missing

A load begins its fetch only while the cache does not hold its key, and
while nobody else leads for it (`LoadTask.Turned.missing`). Once a key is
held and has no leader (`Bench.Sealed`), it stays so until it is
invalidated, and no load fetches it. A success of a load over a cache that
keeps what is put in seals its key, so there is one at most
(`Course.fetched_once`).
-/

namespace LearningClient.Rehearsal

open LearningClient

variable {V : Type}

/-! ## What a move does to the cache -/

/-- A load begins its fetch only when its key is neither announced nor
held. -/
theorem LoadTask.Turned.missing {t : LoadTask V} {a a' : Accessor V} {es : List (Event V)}
    {e : TurnEnd V} (h : t.Turned a (es, e, a')) (inside : ¬ t.Outside)
    (begins : .fetch t.id ∈ es) :
    a.pending.get? t.key = none ∧ a.cache.get? t.key = none := by
  cases h with
  | fetching outside unknown shown => exact absurd outside inside
  | fetched outside known shown => exact absurd outside inside
  | opened asks free missing unknown => exact ⟨free, missing⟩
  | flew asks free missing known => exact ⟨free, missing⟩
  | _ => exact absurd begins List.not_mem_nil

/-- A turn leaves the cache as it is, or puts in what a fetch has yielded. -/
theorem LoadTask.Turned.cache {t : LoadTask V} {a a' : Accessor V} {es : List (Event V)}
    {e : TurnEnd V} (h : t.Turned a (es, e, a')) :
    a'.cache = a.cache ∨ ∃ v, a'.cache = a.cache.insert t.key v := by
  cases h with
  | @landed f r stands known =>
    cases r with
    | ok v => exact .inr ⟨v, rfl⟩
    | error e => exact .inl rfl
  | @flew m r asks free missing known =>
    cases r with
    | ok v => exact .inr ⟨v, rfl⟩
    | error e => exact .inl rfl
  | _ => exact .inl rfl

/-- A turn announces a flight only under a key that the cache does not
hold. -/
theorem LoadTask.Turned.announces {t : LoadTask V} {a a' : Accessor V} {es : List (Event V)}
    {e : TurnEnd V} (h : t.Turned a (es, e, a')) {k : String}
    (free : a.pending.get? k = none) (held : a.cache.contains k = true) :
    a'.pending.get? k = none := by
  -- a flight is opened for another key
  have other : a.cache.get? t.key = none → k ≠ t.key := by
    rintro missing rfl
    rw [Cache.contains, missing] at held
    cases held
  cases h with
  | landed stands known => exact Table.get?_erase_of_none free _
  | opened asks _ missing unknown =>
    exact (Table.get?_insert_of_ne _ _ (other missing)).trans free
  | flew asks _ missing known =>
    refine Table.get?_erase_of_none ?_ _
    exact (Table.get?_insert_of_ne _ _ (other missing)).trans free
  | _ => exact free

namespace Bench

variable {b b' : Bench V} {m : Move V} {es : List (Event V)} {k : String}

/-- A move leaves the cache as it is, or puts something in, or takes the
value of one key out. -/
theorem Moved.cache (h : b.Moved m es b') :
    b'.accessor.cache = b.accessor.cache ∨
      (∃ key v, b'.accessor.cache = b.accessor.cache.insert key v) ∨
      ∃ key, m = .invalidate key ∧ b'.accessor.cache = b.accessor.cache.invalidate key := by
  cases h with
  | parked mem turned => exact turned.cache.imp_right fun ⟨v, hv⟩ => .inl ⟨_, v, hv⟩
  | last mem turned => exact turned.cache.imp_right fun ⟨v, hv⟩ => .inl ⟨_, v, hv⟩
  | @stored key v => exact .inr (.inl ⟨key, v, rfl⟩)
  | @invalidated key => exact .inr (.inr ⟨key, rfl, rfl⟩)
  | _ => exact .inl rfl

/-- What is held is held until it is invalidated. -/
theorem Moved.holds (h : b.Moved m es b') (never : m ≠ .invalidate k)
    (held : b.accessor.cache.contains k = true) : b'.accessor.cache.contains k = true := by
  rcases h.cache with same | ⟨key, v, more⟩ | ⟨key, rfl, less⟩
  · rw [same]
    exact held
  · rw [more]
    exact Cache.contains_insert held key v
  · have ne : k ≠ key := fun e => never (by rw [e])
    rw [less, Cache.contains_invalidate_other ne]
    exact held

/-- A cache that keeps what is put in goes on doing so. -/
theorem Moved.retains (h : b.Moved m es b') :
    b'.accessor.cache.retains = b.accessor.cache.retains := by
  rcases h.cache with same | ⟨key, v, more⟩ | ⟨key, _, less⟩
  · rw [same]
  · rw [more, Cache.retains_insert]
  · rw [less]
    rfl

/-- The cache holds a key, and nobody leads for it. -/
structure Sealed (b : Bench V) (k : String) : Prop where
  held : b.accessor.cache.contains k = true
  free : b.accessor.pending.get? k = none

theorem Sealed.moved (h : b.Sealed k) (hm : b.Moved m es b') (never : m ≠ .invalidate k) :
    b'.Sealed k := by
  refine ⟨hm.holds never h.held, ?_⟩
  cases hm with
  | parked mem turned => exact turned.announces h.free h.held
  | last mem turned => exact turned.announces h.free h.held
  | abandoned mem stands => exact Table.get?_erase_of_none h.free _
  | _ => exact h.free

end Bench

/-- A load whose own fetch succeeds leaves its key held, and takes the
flight back. -/
theorem LoadTask.Turned.succeeds {t : LoadTask V} {a a' : Accessor V} {es : List (Event V)}
    {v : V} {flight : Option Nat} (h : t.Turned a (es, .over (.ok v) flight, a'))
    (inside : ¬ t.Outside) (begun : t.underWay + es.countP (·.begins t.id) = 1)
    (retains : a.cache.retains = true) :
    a'.cache.contains t.key = true ∧ a'.pending.get? t.key = none := by
  have put : (a.cache.insert t.key v).contains t.key = true := by
    rw [Cache.contains, Cache.get?_insert_self retains]
    rfl
  cases h with
  | fetched outside known shown => exact absurd outside inside
  | landed stands known => exact ⟨put, Table.get?_erase_self ..⟩
  | told stands landed =>
    rw [LoadTask.underWay, stands] at begun
    cases begun
  | hit asks found =>
    rw [LoadTask.underWay_of_idle asks.idle] at begun
    cases begun
  | flew asks free missing known => exact ⟨put, Table.get?_erase_self ..⟩

namespace Bench

variable {b b' : Bench V} {m : Move V} {es : List (Event V)}

/-- A load begins its fetch only when its key is neither announced nor
held. -/
theorem Moved.fetches (h : b.Moved m es b') (hb : b.Staffed) {t : LoadTask V} (mem : t ∈ b.tasks)
    (load : t.purpose = .load) (begins : .fetch t.id ∈ es) :
    b.accessor.pending.get? t.key = none ∧ b.accessor.cache.contains t.key = false := by
  obtain ⟨u, hu, same, _, fs, e, turned, began | ⟨r, flight, ends, _⟩⟩ := h.about begins
  · obtain rfl := hb.eq_of_id hu mem same
    obtain ⟨free, missing⟩ := turned.missing (hb.inside hu load) began
    rw [Cache.contains, missing]
    exact ⟨free, rfl⟩
  · cases ends

end Bench

/-! ## Any moves -/

namespace Course

variable {c : Cache V} {ms : List (Move V)} {k : String}

theorem sealed_append (h : (play c ms).bench.Sealed k) (later : List (Move V))
    (never : .invalidate k ∉ later) : (play c (ms ++ later)).bench.Sealed k := by
  induction later using List.reverseRecOn with
  | nil =>
    rw [List.append_nil]
    exact h
  | append_singleton later m ih =>
    rw [List.mem_append, List.mem_singleton, not_or] at never
    rw [← List.append_assoc, play_concat]
    exact (ih never.1).moved (moved (sound_play c _).named m) (Ne.symm never.2)

theorem holds_append (h : (play c ms).bench.accessor.cache.contains k = true)
    (later : List (Move V)) (never : .invalidate k ∉ later) :
    (play c (ms ++ later)).bench.accessor.cache.contains k = true := by
  induction later using List.reverseRecOn with
  | nil =>
    rw [List.append_nil]
    exact h
  | append_singleton later m ih =>
    rw [List.mem_append, List.mem_singleton, not_or] at never
    rw [← List.append_assoc, play_concat]
    exact (moved (sound_play c _).named m).holds (Ne.symm never.2) (ih never.1)

theorem retains_play (c : Cache V) (ms : List (Move V)) :
    (play c ms).bench.accessor.cache.retains = c.retains :=
  play_induction (P := fun _ x => x.bench.accessor.cache.retains = c.retains) rfl
    (fun ms m h => (moved (sound_play c ms).named m).retains.trans h) ms

/-- A load begins its fetch only when its key is neither announced nor
held. -/
theorem missing_of_fetch {t : LoadTask V} (mem : t ∈ (play c ms).bench.tasks)
    (load : t.purpose = .load) (begins : .fetch t.id ∈ (play c ms).shown (.turn t.id)) :
    (play c ms).bench.accessor.pending.get? t.key = none ∧
      (play c ms).bench.accessor.cache.contains t.key = false :=
  (moved (sound_play c ms).named _).fetches (sound_play c ms).staffed mem load begins

/-- While its key is sealed, no load yields anything that it has fetched. -/
theorem not_yields_of_sealed (h : (play c ms).bench.Sealed k) {t : LoadTask V} {r : Outcome V} :
    ¬ (play c ms).Yields t k r := by
  rintro ⟨mem, load, rfl, known, shown, begun⟩
  rw [begun_move, (logged_play c ms).begun t mem load] at begun
  by_cases leads : 0 < t.underWay
  · obtain ⟨f, stands⟩ := t.underWay_pos.mp leads
    have led := (sound_play c ms).staffed.pending_iff.mpr ⟨t, mem, load, rfl, stands⟩
    rw [h.free] at led
    cases led
  · have some : 0 < ((play c ms).shown (.turn t.id)).countP (·.begins t.id) := by omega
    obtain ⟨e, he, begins⟩ := List.countP_pos_iff.mp some
    cases e with
    | fetch i =>
      obtain rfl : i = t.id := by simpa [Event.begins] using begins
      obtain ⟨_, missing⟩ := missing_of_fetch mem load he
      rw [h.held] at missing
      cases missing
    | done i s => cases begins

/-- A load whose own fetch succeeds seals its key. -/
theorem sealed_of_yields (retains : c.retains = true) {t : LoadTask V} {v : V}
    (h : (play c ms).Yields t k (.ok v)) :
    ((play c ms).move (.turn t.id)).bench.Sealed k := by
  obtain ⟨mem, load, rfl, known, shown, begun⟩ := h
  have sound := sound_play c ms
  obtain ⟨u, hu, same, _, _, fs, flight, turned, e⟩ := (moved sound.named _).ended shown
  obtain rfl := sound.staffed.eq_of_id hu mem same
  rw [begun_move, (logged_play c ms).begun u mem load, e, List.countP_append] at begun
  rw [← retains_play c ms] at retains
  obtain ⟨held, free⟩ := turned.succeeds (sound.staffed.inside mem load) begun retains
  exact ⟨held, free⟩

/-- After a success no load yields anything more that it has fetched for the
same key, so the next turn in which one does is the same. -/
theorem yields_unique (retains : c.retains = true) {t u : LoadTask V} {v : V} {r : Outcome V}
    (h : (play c ms).Yields t k (.ok v)) {as ms₂ ns₂ : List (Move V)}
    (split : .turn t.id :: ms₂ = as ++ .turn u.id :: ns₂)
    (h' : (play c (ms ++ as)).Yields u k r) (never : .invalidate k ∉ as) : as = [] ∧ t = u := by
  cases as with
  | nil =>
    have same : t.id = u.id := Move.turn.inj (List.cons.inj split).1
    rw [List.append_nil] at h'
    exact ⟨rfl, (sound_play c ms).staffed.eq_of_id h.mem h'.mem same⟩
  | cons m later =>
    -- the success seals the key, and it is still sealed at the later turn
    obtain ⟨rfl, -⟩ := List.cons.inj split
    rw [List.mem_cons, not_or] at never
    have closed : (play c (ms ++ [.turn t.id])).bench.Sealed k := by
      rw [play_concat]
      exact sealed_of_yields retains h
    rw [List.append_cons] at h'
    exact absurd h' (not_yields_of_sealed (sealed_append closed later never.2))

/-- At most one success for each key. Over any cache that keeps what is put
in, whatever moves are made among which the key is never invalidated:

- a load begins its fetch for the key only while the cache does not hold it;
- the turns in which a load yields a value that it has fetched for the key
  are one at most;
- once the cache holds the key, no load begins its fetch for it any more. -/
theorem fetched_once (c : Cache V) (retains : c.retains = true) (ms : List (Move V)) (k : String)
    (never : .invalidate k ∉ ms) :
    (∀ ms₁ ms₂ t, ms = ms₁ ++ .turn t.id :: ms₂ → t ∈ (play c ms₁).bench.tasks →
      t.purpose = .load → t.key = k → .fetch t.id ∈ (play c ms₁).shown (.turn t.id) →
      (play c ms₁).bench.accessor.cache.contains k = false) ∧
    (∀ ms₁ ms₂ t v ns₁ ns₂ u w, ms = ms₁ ++ .turn t.id :: ms₂ → ms = ns₁ ++ .turn u.id :: ns₂ →
      (play c ms₁).Yields t k (.ok v) → (play c ns₁).Yields u k (.ok w) →
      ms₁ = ns₁ ∧ t = u) ∧
    (∀ ms₁ ms₂ ms₃ t, ms = ms₁ ++ ms₂ ++ .turn t.id :: ms₃ →
      (play c ms₁).bench.accessor.cache.contains k = true →
      t ∈ (play c (ms₁ ++ ms₂)).bench.tasks → t.purpose = .load → t.key = k →
      .fetch t.id ∉ (play c (ms₁ ++ ms₂)).shown (.turn t.id)) := by
  refine ⟨?_, ?_, ?_⟩
  · rintro ms₁ ms₂ t - mem load rfl begins
    exact (missing_of_fetch mem load begins).2
  · intro ms₁ ms₂ t v ns₁ ns₂ u w split split' yields yields'
    rcases List.append_eq_append_iff.mp (split.symm.trans split') with
      ⟨as, rfl, tail⟩ | ⟨as, rfl, tail⟩
    · have never' : .invalidate k ∉ as := fun h =>
        never (split' ▸ List.mem_append_left _ (List.mem_append_right _ h))
      obtain ⟨rfl, rfl⟩ := yields_unique retains yields tail yields' never'
      exact ⟨(List.append_nil _).symm, rfl⟩
    · have never' : .invalidate k ∉ as := fun h =>
        never (split ▸ List.mem_append_left _ (List.mem_append_right _ h))
      obtain ⟨rfl, rfl⟩ := yields_unique retains yields' tail yields never'
      exact ⟨List.append_nil _, rfl⟩
  · rintro ms₁ ms₂ ms₃ t rfl held mem load rfl begins
    have never' : .invalidate t.key ∉ ms₂ := fun h =>
      never (List.mem_append_left _ (List.mem_append_right _ h))
    have still := holds_append held ms₂ never'
    rw [(missing_of_fetch mem load begins).2] at still
    cases still

/-- A value has been fetched. A load whose first read of it reports nothing
does not fetch it again. -/
theorem fetched_once_despite_miss :
    Move.invalidate "k" ∉ leaderAndWaiter ++ [.finish "a" (.ok 1), .turn "a"] ++
      [.call "c" .load "k" none, .miss 1] ++ [.turn "c"] ∧
    Event.fetch "c" ∉ (play {} (leaderAndWaiter ++ [.finish "a" (.ok 1), .turn "a"] ++
      [.call "c" .load "k" none, .miss 1])).shown (.turn "c") := by
  have never : Move.invalidate "k" ∉ leaderAndWaiter ++ [.finish "a" (.ok 1), .turn "a"] ++
      [.call "c" .load "k" none, .miss 1] ++ [.turn "c"] := by
    simp [leaderAndWaiter]
  refine ⟨never, ?_⟩
  obtain ⟨_, _, after⟩ := fetched_once {} rfl _ "k" never
  let c : LoadTask Nat := { id := "c", purpose := .load, key := "k", outcome := none }
  have there : c ∈ (play {} (leaderAndWaiter ++ [.finish "a" (.ok 1), .turn "a"] ++
      [.call "c" .load "k" none, .miss 1])).bench.tasks :=
    List.mem_cons_of_mem _ (List.mem_singleton_self _)
  exact after _ _ [] c rfl rfl there rfl rfl

end Course

end LearningClient.Rehearsal
