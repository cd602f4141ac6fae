import LearningClient.Proofs.Loads.Roster

/-!
# The agreement holds in every state

Each move keeps `Bench.Staffed`, and a course starts with nobody there
(`Course.sound_play`). What later modules prove of courses is an induction
over the moves, and may use the agreement at each of them.
-/

namespace LearningClient.Rehearsal

open LearningClient

variable {V : Type}

/-! ## Tasks that do not lead -/

theorem LoadTask.Outside.idle {t : LoadTask V} (h : t.Outside) (f : Nat) :
    t.standing ≠ .leading f := by
  rcases h with hs | ⟨_, hs⟩ <;> rw [hs] <;> exact Standing.noConfusion

theorem LoadTask.Asks.idle {t : LoadTask V} {a : Accessor V} (h : t.Asks a) (f : Nat) :
    t.standing ≠ .leading f := by
  rcases h with ⟨_, hs⟩ | ⟨g, hs, _⟩ <;> rw [hs] <;> exact Standing.noConfusion

namespace Bench

variable {b b' : Bench V} {t : LoadTask V} {id : String}

namespace Staffed

/-- The tasks and the flights are all that counts. -/
theorem congr (h : b.Staffed) (tasks : b'.tasks = b.tasks)
    (pending : b'.accessor.pending = b.accessor.pending)
    (flights : b'.accessor.flights = b.accessor.flights) : b'.Staffed where
  names := by
    rw [tasks]
    exact h.names
  flights := h.flights.congr pending flights (fun i k f => by rw [At, At, tasks])
    (fun i k f hi => by rw [At, tasks] at hi; exact .inl hi)
  fits := by
    rw [tasks]
    exact h.fits

/-- A task that runs its fetch outside the accessor is no load. -/
theorem fetch_of_outside (h : b.Staffed) (ht : t ∈ b.tasks) (outside : t.Outside) :
    t.purpose = .fetch := by
  rcases outside with hs | ⟨hp, _⟩
  · have fits := h.fits t ht
    rw [LoadTask.Fits, hs] at fits
    exact fits
  · exact hp

/-- A load runs no fetch outside the accessor. -/
theorem inside (h : b.Staffed) (ht : t ∈ b.tasks) (load : t.purpose = .load) : ¬ t.Outside := by
  intro outside
  have fetch := h.fetch_of_outside ht outside
  rw [load] at fetch
  cases fetch

/-- A task that leads or waits is a load. -/
theorem load_of_standing (h : b.Staffed) (ht : t ∈ b.tasks) {f : Nat}
    (stands : t.standing = .leading f ∨ t.standing = .waiting f) : t.purpose = .load := by
  have fits := h.fits t ht
  rcases stands with hs | hs <;> rw [LoadTask.Fits, hs] at fits <;> exact fits

/-! ## What each move keeps -/

/-- A turn of a task that goes on later. -/
theorem parked (h : b.Staffed) (ht : t ∈ b.tasks) {es : List (Event V)} {u : LoadTask V}
    {a : Accessor V} (turned : t.Turned b.accessor (es, .parked u, a))
    (tasks : b'.tasks = b.park t u) (accessor : b'.accessor = a) : b'.Staffed := by
  subst accessor
  generalize eb : b'.accessor = a at turned
  cases turned with
  | fetching outside unknown shown =>
    refine h.park ht rfl rfl (u := { t with standing := .fetching }) ?_ ?_ ?_ tasks
      (by rw [eb]) (by rw [eb])
    · show t.purpose = .fetch
      exact h.fetch_of_outside ht outside
    · exact fun f => ⟨fun hf => Standing.noConfusion hf, fun hf => absurd hf (outside.idle f)⟩
    · exact fun f hf => Standing.noConfusion hf
  | @leading f stands unknown =>
    refine h.park ht rfl rfl (u := { t with standing := .leading f }) ?_ ?_ ?_ tasks
      (by rw [eb]) (by rw [eb])
    · show t.purpose = .load
      exact h.load_of_standing ht (.inl stands)
    · exact fun g => by rw [stands]
    · exact fun g hg => Standing.noConfusion hg
  | @waiting f stands going =>
    refine h.park ht rfl rfl (u := { t with standing := .waiting f }) ?_ ?_ ?_ tasks
      (by rw [eb]) (by rw [eb])
    · show t.purpose = .load
      exact h.load_of_standing ht (.inr stands)
    · exact fun g => by rw [stands]
    · exact fun g hg => .inl (stands.trans hg)
  | @joined f m asks announced =>
    refine h.park ht rfl rfl (u := { t with standing := .waiting f }) ?_ ?_ ?_ tasks
      (by rw [eb]) (by rw [eb])
    · show t.purpose = .load
      exact h.load_of_asks ht asks
    · exact fun g => ⟨fun hg => Standing.noConfusion hg, fun hg => absurd hg (asks.idle g)⟩
    · exact fun g hg => .inr (Standing.waiting.inj hg ▸ announced)
  | opened asks free missing unknown =>
    exact h.lead ht (h.load_of_asks ht asks) asks.idle free tasks (by rw [eb]) (by rw [eb])

/-- The last turn of a task. -/
theorem last (h : b.Staffed) (ht : t ∈ b.tasks) {es : List (Event V)} {r : Outcome V}
    {flight : Option Nat} {a : Accessor V}
    (turned : t.Turned b.accessor (es, .over r flight, a))
    (tasks : b'.tasks = b.without t.id) (accessor : b'.accessor = a) : b'.Staffed := by
  subst accessor
  generalize eb : b'.accessor = a at turned
  cases turned with
  | fetched outside known shown =>
    exact h.leave ht outside.idle tasks (by rw [eb]) (by rw [eb])
  | landed stands known => exact h.quit ht stands (Flight.over_landed _) tasks eb
  | told stands landed =>
    refine h.leave ht (fun g hg => ?_) tasks (by rw [eb]) (by rw [eb])
    rw [stands] at hg
    exact Standing.noConfusion hg
  | hit asks found => exact h.leave ht asks.idle tasks (by rw [eb]) (by rw [eb])
  | @flew m r asks free missing known =>
    -- the flight is opened and over in one turn: the state between the two is a state too
    let u := { t with standing := .leading b.accessor.flights.length }
    let between : Bench V :=
      { b with
        accessor := { b.accessor.openFlight t.key with misses := m }
        tasks := b.park t u }
    have opened : between.Staffed :=
      h.lead ht (h.load_of_asks ht asks) asks.idle free rfl rfl rfl
    have hu : u ∈ between.tasks := (mem_park (u := u) ht rfl).mpr (.inr rfl)
    have left : between.without u.id = b.without t.id := without_parked (u := u) rfl
    exact opened.quit hu rfl (Flight.over_landed r) (tasks.trans left.symm) eb

/-- A call is made under a new name. -/
theorem spawn (h : b.Staffed) (fresh : t.standing = .fresh) (new : ∀ u ∈ b.tasks, u.id ≠ t.id) :
    (b.spawn t).Staffed where
  names := by
    rw [Bench.spawn, List.map_append, List.map_singleton]
    refine List.nodup_append.mpr ⟨h.names, List.nodup_singleton _, ?_⟩
    intro i hi j hj
    obtain ⟨u, hu, rfl⟩ := List.mem_map.mp hi
    rw [List.mem_singleton.mp hj]
    exact new u hu
  flights := by
    have old : ∀ {i k s}, s ≠ .fresh → ((b.spawn t).At i k s ↔ b.At i k s) := by
      intro i k s ne
      constructor
      · rintro ⟨u, hu, rfl, rfl, rfl⟩
        rcases List.mem_append.mp hu with hu | hu
        · exact ⟨u, hu, rfl, rfl, rfl⟩
        · rw [List.mem_singleton.mp hu] at ne
          exact absurd fresh ne
      · rintro ⟨u, hu, rfl, rfl, rfl⟩
        exact ⟨u, List.mem_append_left _ hu, rfl, rfl, rfl⟩
    exact h.flights.congr rfl rfl (fun i k f => old Standing.noConfusion)
      (fun i k f hi => .inl ((old Standing.noConfusion).mp hi))
  fits u hu := by
    rcases List.mem_append.mp hu with hu | hu
    · exact h.fits u hu
    · rw [List.mem_singleton.mp hu, LoadTask.Fits, fresh]
      trivial

/-- A task is given its outcome, and stands as it stood. -/
theorem given (h : b.Staffed) {r : Outcome V}
    (tasks : b'.tasks = b.tasks.map (·.given id r)) (accessor : b'.accessor = b.accessor) :
    b'.Staffed where
  names := by
    rw [tasks, List.map_map]
    have same : (·.id) ∘ LoadTask.given id r = fun t : LoadTask V => t.id :=
      funext (LoadTask.given_id id r)
    rw [same]
    exact h.names
  flights := by
    have same : ∀ {i k s}, b'.At i k s ↔ b.At i k s := by
      intro i k s
      unfold At
      rw [tasks]
      simp only [List.mem_map, exists_exists_and_eq_and, LoadTask.given_id, LoadTask.given_key,
        LoadTask.given_standing]
    exact h.flights.congr (by rw [accessor]) (by rw [accessor]) (fun i k f => same)
      (fun i k f hi => .inl (same.mp hi))
  fits u hu := by
    rw [tasks] at hu
    obtain ⟨v, hv, rfl⟩ := List.mem_map.mp hu
    rw [LoadTask.Fits, v.given_standing, v.given_purpose]
    exact h.fits v hv

/-- Every move keeps the agreement. -/
theorem moved (h : b.Staffed) {m : Move V} {es : List (Event V)} (hm : b.Moved m es b') :
    b'.Staffed := by
  cases hm with
  | still => exact h
  | called fresh new => exact h.spawn fresh new
  | absent gone => exact h.congr rfl rfl rfl
  | parked mem turned => exact h.parked mem turned rfl rfl
  | last mem turned => exact h.last mem turned rfl rfl
  | given mem unknown kept woken => exact h.given rfl rfl
  | dropped mem idle => exact h.leave mem idle rfl rfl rfl
  | abandoned mem stands => exact h.quit mem stands Flight.over_lost rfl rfl
  | stored => exact h.congr rfl rfl rfl
  | invalidated => exact h.congr rfl rfl rfl
  | missing => exact h.congr rfl rfl rfl

end Staffed

end Bench

/-! ## Courses -/

namespace Course

theorem play_append (c : Cache V) (ms ns : List (Move V)) :
    play c (ms ++ ns) = ns.foldl move (play c ms) := List.foldl_append

theorem play_concat (c : Cache V) (ms : List (Move V)) (m : Move V) :
    play c (ms ++ [m]) = (play c ms).move m := play_append c ms [m]

/-- What holds of a sequence of moves because it holds of none, and of one
move more if of those before. -/
theorem play_induction {c : Cache V} {P : List (Move V) → Course V → Prop}
    (start : P [] (play c []))
    (next : ∀ ms m, P ms (play c ms) → P (ms ++ [m]) ((play c ms).move m))
    (ms : List (Move V)) : P ms (play c ms) := by
  induction ms using List.reverseRecOn with
  | nil => exact start
  | append_singleton ms m ih =>
    rw [play_concat]
    exact next ms m ih

/-- The tasks agree with the accessor, and their names are known. -/
structure Sound (x : Course V) : Prop where
  staffed : x.bench.Staffed
  named : ∀ t ∈ x.bench.tasks, t.id ∈ x.names

/-- No name is forgotten. -/
theorem names_move (x : Course V) (m : Move V) {id : String} (h : id ∈ x.names) :
    id ∈ (x.move m).names := by
  cases m with
  | call i purpose key outcome =>
    simp only [move]
    split
    · exact h
    · exact List.mem_append_left _ h
  | turn i => exact h
  | finish i r => exact h
  | abort i => exact h
  | cacheResource key v => exact h
  | invalidate key => exact h
  | read key => exact h
  | miss n => exact h

theorem names_append {c : Cache V} {ms : List (Move V)} (later : List (Move V)) {id : String}
    (named : id ∈ (play c ms).names) : id ∈ (play c (ms ++ later)).names := by
  induction later using List.reverseRecOn with
  | nil => rwa [List.append_nil]
  | append_singleton later m ih =>
    rw [← List.append_assoc, play_concat]
    exact names_move _ m ih

/-- The name of a call is known from then on. -/
theorem mem_names_call (x : Course V) (id key : String) (purpose : Purpose)
    (outcome : Option (Outcome V)) : id ∈ (x.move (.call id purpose key outcome)).names := by
  simp only [move]
  split
  · assumption
  · exact List.mem_append_right _ (List.mem_singleton_self id)

theorem Sound.move {x : Course V} (h : x.Sound) (m : Move V) : (x.move m).Sound where
  staffed := h.staffed.moved (moved h.named m)
  named u hu := by
    rcases (moved h.named m).origin hu with ⟨t, ht, id, _⟩ | ⟨rfl, _⟩
    · exact id ▸ x.names_move m (h.named t ht)
    · exact x.mem_names_call ..

/-- Whatever moves are made, the agreement holds after them. -/
theorem sound_play (c : Cache V) (ms : List (Move V)) : (play c ms).Sound := by
  refine play_induction (P := fun _ x => x.Sound) ⟨⟨?_, ?_, ?_⟩, ?_⟩ (fun _ m h => h.move m) ms
  · exact List.nodup_nil
  · exact .empty c (fun _ _ _ ⟨_, ht, _⟩ => absurd ht List.not_mem_nil)
      (fun _ _ _ ⟨_, ht, _⟩ => absurd ht List.not_mem_nil)
  · exact fun _ ht => absurd ht List.not_mem_nil
  · exact fun _ ht => absurd ht List.not_mem_nil

end Course

end LearningClient.Rehearsal
