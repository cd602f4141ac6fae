import LearningClient.Proofs.Loads.Landings

/-!
# Where the result of a load comes from

A load that is over has reported one result, and the result has one of three
sources (`Course.Source`): the cache held it at the last turn of the load;
the load led for its key, and its own fetch yielded it; or the load waited
for a flight while the leader of that flight took its last turn, and then
the result is the same for all who waited with it. So a failure that a load
reports was yielded after the load was called (`Course.Source.error`).
-/

namespace LearningClient.Rehearsal

open LearningClient

variable {V : Type}

/-! ## The last turn of a call -/

/-- A result is shown by the last turn of its task. -/
theorem Bench.Moved.ended {b b' : Bench V} {m : Move V} {es : List (Event V)}
    (h : b.Moved m es b') {id : String} {r : Outcome V} (hr : .done id r ∈ es) :
    ∃ t ∈ b.tasks, t.id = id ∧ m = .turn id ∧ (∀ u ∈ b'.tasks, u.id ≠ id) ∧
      ∃ fs flight, t.Turned b.accessor (fs, .over r flight, b'.accessor) ∧
        es = fs ++ [.done id r] := by
  cases h with
  | parked mem turned => cases turned.shown _ hr
  | @last t fs s flight a mem turned =>
    rcases List.mem_append.mp hr with hr | hr
    · cases turned.shown _ hr
    · cases List.mem_singleton.mp hr
      exact ⟨t, mem, rfl, rfl, fun u hu => (mem_without.mp hu).2, fs, flight, turned, rfl⟩
  | _ => exact absurd hr List.not_mem_nil

namespace Course

variable {c : Cache V} {ms : List (Move V)} {id key : String} {r : Outcome V}

/-- Whatever has been seen was seen in some move. -/
theorem shown_of_seen {e : Event V} (h : e ∈ (play c ms).seen) :
    ∃ ms₁ m ms₂, ms = ms₁ ++ m :: ms₂ ∧ e ∈ (play c ms₁).shown m := by
  induction ms using List.reverseRecOn with
  | nil => exact absurd h List.not_mem_nil
  | append_singleton ms m ih =>
    rw [play_concat, seen_move] at h
    rcases List.mem_append.mp h with h | h
    · obtain ⟨ms₁, n, ms₂, rfl, shown⟩ := ih h
      exact ⟨ms₁, n, ms₂ ++ [m], List.append_assoc .., shown⟩
    · exact ⟨ms, m, [], rfl, h⟩

/-- A moment at which a call is there is a moment after the call. -/
theorem after_call {p q ms₁ ms₂ : List (Move V)} {m : Move V} {purpose : Purpose}
    {o : Option (Outcome V)} (new : id ∉ (play c p).names)
    (there : ∃ t ∈ (play c ms₁).bench.tasks, t.id = id)
    (split : p ++ [.call id purpose key o] ++ q = ms₁ ++ m :: ms₂) :
    ∃ q₁, ms₁ = p ++ [.call id purpose key o] ++ q₁ ∧ q = q₁ ++ m :: ms₂ := by
  have named : id ∈ (play c ms₁).names := by
    obtain ⟨t, ht, rfl⟩ := there
    exact (sound_play c ms₁).named t ht
  rw [List.append_assoc, List.singleton_append] at split
  rcases List.append_eq_append_iff.mp split with ⟨as, rfl, tail⟩ | ⟨as, rfl, _⟩
  · cases as with
    | nil =>
      rw [List.append_nil] at named
      exact absurd named new
    | cons a q₁ =>
      obtain ⟨rfl, rfl⟩ := List.cons.inj tail
      exact ⟨q₁, List.append_cons .., rfl⟩
  · -- a moment among the moves `p` is too early for the name to be new after them
    exact absurd (names_append _ named) new

/-- Whoever has the name of a call is that call. -/
theorem eq_call {p : List (Move V)} {purpose : Purpose} {o : Option (Outcome V)}
    (new : id ∉ (play c p).names) (q : List (Move V)) :
    ∀ t ∈ (play c (p ++ [.call id purpose key o] ++ q)).bench.tasks, t.id = id →
      t.key = key ∧ t.purpose = purpose := by
  have named : id ∈ (play c (p ++ [.call id purpose key o])).names := by
    rw [play_concat]
    exact mem_names_call ..
  induction q using List.reverseRecOn with
  | nil =>
    intro t ht e
    rw [List.append_nil, play_concat, move, if_neg new] at ht
    rcases List.mem_append.mp ht with ht | ht
    · exact absurd (e ▸ (sound_play c p).named t ht) new
    · rw [List.mem_singleton.mp ht]
      exact ⟨rfl, rfl⟩
  | append_singleton q m ih =>
    intro t ht e
    rw [← List.append_assoc, play_concat] at ht
    have moved := moved (sound_play c (p ++ [.call id purpose key o] ++ q)).named m
    rcases moved.origin ht with ⟨u, hu, id', key', purpose'⟩ | ⟨rfl, _⟩
    · rw [← key', ← purpose']
      exact ih u hu (id'.trans e)
    · rw [move_used (by rw [e]; exact names_append q named)] at ht
      exact ih t ht e

/-! ## The sources of a result -/

/-- A load for a key takes its last turn next, and its own fetch, which has
begun by then, has yielded the result that it reports. -/
structure Yields (x : Course V) (l : LoadTask V) (key : String) (r : Outcome V) : Prop where
  mem : l ∈ x.bench.tasks
  purpose : l.purpose = .load
  at_key : l.key = key
  known : l.outcome = some r
  shown : .done l.id r ∈ x.shown (.turn l.id)
  begun : (x.move (.turn l.id)).begun l.id = 1

/-- Whoever waits for a flight after the moves `ms`, when its leader `l`
takes its last turn, reports the result, and nothing else, unless it is
dropped: it does so before no task is ready any more, and until then it
waits. -/
def TellsAll (c : Cache V) (ms : List (Move V)) (l : LoadTask V) (f : Nat) (r : Outcome V) :
    Prop :=
  ∀ i k, (play c ms).bench.At i k (.waiting f) → ∀ later, .abort i ∉ later →
    ((play c (ms ++ .turn l.id :: later)).reports i = [r] ∨
      (play c (ms ++ .turn l.id :: later)).reports i = [] ∧
        (play c (ms ++ .turn l.id :: later)).bench.At i k (.waiting f)) ∧
    ∀ y, (play c (ms ++ .turn l.id :: later)).Turns y → y.bench.ready = [] → y.reports i = [r]

/-- Where the result of the load called `id` comes from. The call is the last
of the moves `ms`, and its last turn comes after the moves `q` that follow.
The number is how often its own fetch begins. -/
inductive Source (c : Cache V) (ms q : List (Move V)) (id key : String) (r : Outcome V) :
    Nat → Prop
  /-- The cache holds it. -/
  | cached {v : V} (ok : r = .ok v)
      (held : (play c (ms ++ q)).bench.accessor.cache.get? key = some v) :
      Source c ms q id key r 0
  /-- The load leads for its key, or begins to lead in this very turn, and
  its own fetch yields it. -/
  | own {t : LoadTask V} (named : t.id = id) (yields : (play c (ms ++ q)).Yields t key r)
      (leads : (∃ f, t.standing = .leading f ∧
          (play c (ms ++ q)).bench.accessor.pending.get? key = some f) ∨
        (play c (ms ++ q)).bench.accessor.pending.get? key = none ∧
          (play c (ms ++ q)).bench.accessor.cache.get? key = none) :
      Source c ms q id key r 1
  /-- The load was waiting for a flight when the leader of the flight, for
  the same key, took its last turn. All who waited with it report the
  same. -/
  | shared {q₁ q₂ : List (Move V)} {l : LoadTask V} {f : Nat}
      (moment : q = q₁ ++ .turn l.id :: q₂) (yields : (play c (ms ++ q₁)).Yields l key r)
      (leads : l.standing = .leading f)
      (waited : (play c (ms ++ q₁)).bench.At id key (.waiting f))
      (told : TellsAll c (ms ++ q₁) l f r) : Source c ms q id key r 0

/-- The last turn of a leader shows what its own fetch has yielded. -/
theorem yields_of_lands {l : LoadTask V} {f : Nat} (lands : (play c ms).bench.Lands l f r) :
    (play c ms).Yields l l.key r := by
  have sound := sound_play c ms
  have purpose := sound.staffed.load_of_standing lands.mem (.inl lands.leads)
  have shown : (play c ms).shown (.turn l.id) = [.done l.id r] := by
    rw [shown, lands.take sound.staffed]
  refine ⟨lands.mem, purpose, rfl, lands.known, ?_, ?_⟩
  · rw [shown]
    exact List.mem_singleton_self _
  · rw [begun_move, shown, (logged_play c ms).begun l lands.mem purpose, LoadTask.underWay,
      lands.leads]
    rfl

theorem tellsAll_of_lands {l : LoadTask V} {f : Nat} (lands : (play c ms).bench.Lands l f r) :
    TellsAll c ms l f r := by
  rintro i k ⟨t, ht, rfl, rfl, waits⟩ later kept
  refine ⟨?_, fun y turns rest => reports_at_rest lands ht waits kept turns rest⟩
  rcases reports_of_landing lands ht waits kept with told | ⟨⟨u, hu, id, key, stands⟩, _⟩
  · exact .inl told
  · have silent := (logged_play c _).unreported u hu
    rw [id] at silent
    exact .inr ⟨silent, u, hu, id, key, stands⟩

/-- A failure that a load reports was yielded, after the load was called, by
the fetch of a load for the same key. -/
theorem Source.error {q : List (Move V)} {e : Failure} {n : Nat}
    (h : Source c ms q id key (.error e) n) :
    ∃ q₁ q₂ l, q ++ [.turn id] = q₁ ++ .turn l.id :: q₂ ∧
      (play c (ms ++ q₁)).Yields l key (.error e) := by
  cases h with
  | cached ok held => cases ok
  | @own t named yields leads => exact ⟨q, [], t, by rw [named], yields⟩
  | @shared q₁ q₂ l f moment yields leads waited told =>
    refine ⟨q₁, q₂ ++ [.turn id], l, ?_, yields⟩
    rw [moment, List.append_assoc, List.cons_append]

/-- The last turn of a load tells the source of its result. -/
theorem source_of_over {p q : List (Move V)} {o : Option (Outcome V)} {t : LoadTask V}
    {fs : List (Event V)} {flight : Option Nat} {a : Accessor V} (new : t.id ∉ (play c p).names)
    (hms : ms = p ++ [.call t.id .load t.key o])
    (mem : t ∈ (play c (ms ++ q)).bench.tasks) (load : t.purpose = .load)
    (turned : t.Turned (play c (ms ++ q)).bench.accessor (fs, .over r flight, a))
    (shown : (play c (ms ++ q)).shown (.turn t.id) = fs ++ [.done t.id r]) :
    Source c ms q t.id t.key r (((play c (ms ++ q)).move (.turn t.id)).begun t.id) := by
  have staffed := (sound_play c (ms ++ q)).staffed
  have begun : ((play c (ms ++ q)).move (.turn t.id)).begun t.id =
      t.underWay + fs.countP (·.begins t.id) := by
    rw [begun_move, shown, (logged_play c (ms ++ q)).begun t mem load, List.countP_append]
    rfl
  cases turned with
  | fetched outside known shown => exact absurd outside (staffed.inside mem load)
  | @landed f _ stands known =>
    rw [begun, LoadTask.underWay, stands]
    exact .own rfl (yields_of_lands ⟨mem, stands, known⟩)
      (.inl ⟨f, stands, staffed.announced mem stands⟩)
  | @told f _ stands landed =>
    obtain ⟨ms₁, ms₂, l, split, lands, same, waited⟩ := landing_of_waiting mem stands landed
    -- the call was waiting when the flight landed, so that was after the call
    obtain ⟨u, hu, named, key, waits⟩ := waited
    subst hms
    obtain ⟨q₁, rfl, moment⟩ := after_call new ⟨u, hu, named⟩ split
    have yields := yields_of_lands lands
    rw [same] at yields
    rw [begun, LoadTask.underWay, stands]
    exact .shared moment yields lands.leads ⟨u, hu, named, key, waits⟩ (tellsAll_of_lands lands)
  | hit asks found =>
    rw [begun, LoadTask.underWay_of_idle asks.idle]
    exact .cached rfl found
  | @flew m _ asks free missing known =>
    have one : ((play c (ms ++ q)).move (.turn t.id)).begun t.id = 1 := by
      rw [begun, LoadTask.underWay_of_idle asks.idle]
      simp [Event.begins]
    rw [one]
    refine .own rfl ⟨mem, load, rfl, known, ?_, one⟩ (.inr ⟨free, missing⟩)
    rw [shown]
    exact List.mem_append_right _ (List.mem_singleton_self _)

/-- Fan-out and freshness. Moves `p` have been made, over any cache, then a
load is called under a new name, and more moves `q` follow in which it is
over. Then

- it has reported one result, once;
- in its last turn it reports what the cache holds for its key at that
  moment, or what its own fetch has yielded, begun once, if it leads for its
  key, or what the fetch of another load for its key yielded, on whose flight
  it waited when that load took its last turn, as all do who waited with it;
- if the result is a failure, then the fetch of a load for the same key
  yielded it after the call. -/
theorem fan_out (c : Cache V) (p q : List (Move V)) (id key : String) (o : Option (Outcome V))
    (r : Outcome V) (new : id ∉ (play c p).names)
    (ended : .done id r ∈ (play c (p ++ [.call id .load key o] ++ q)).seen) :
    (play c (p ++ [.call id .load key o] ++ q)).reports id = [r] ∧
    (∃ q₁ q₂, q = q₁ ++ .turn id :: q₂ ∧
      .done id r ∈ (play c (p ++ [.call id .load key o] ++ q₁)).shown (.turn id) ∧
      Source c (p ++ [.call id .load key o]) q₁ id key r
        ((play c (p ++ [.call id .load key o] ++ q)).begun id)) ∧
    (∀ e, r = .error e → ∃ q₁ q₂ l, q = q₁ ++ .turn l.id :: q₂ ∧
      (play c (p ++ [.call id .load key o] ++ q₁)).Yields l key (.error e)) := by
  obtain ⟨ms₁, m, q₂, split, hr⟩ := shown_of_seen ended
  have sound := sound_play c ms₁
  obtain ⟨t, mem, rfl, rfl, gone, fs, flight, turned, shown⟩ :=
    (moved sound.named m).ended hr
  obtain ⟨q₁, rfl, rfl⟩ := after_call new ⟨t, mem, rfl⟩ split
  obtain ⟨rfl, load⟩ := eq_call new q₁ t mem rfl
  have source := source_of_over new rfl mem load turned shown
  generalize hms : p ++ [.call t.id .load t.key o] = ms at *
  have begun : (play c (ms ++ (q₁ ++ .turn t.id :: q₂))).begun t.id =
      ((play c (ms ++ q₁)).move (.turn t.id)).begun t.id := by
    rw [← play_concat] at gone ⊢
    have named := names_append [.turn t.id] (sound.named t mem)
    have quiet := (quiet_of_gone named gone q₂).2.2.1
    rw [← quiet]
    simp
  refine ⟨reports_unique c _ ended, ⟨q₁, q₂, rfl, hr, begun ▸ source⟩, ?_⟩
  rintro e rfl
  obtain ⟨q₃, q₄, l, moment, yields⟩ := source.error
  refine ⟨q₃, q₄ ++ q₂, l, ?_, yields⟩
  rw [List.append_cons, moment, List.append_assoc, List.cons_append]

/-- The second of two loads joins the first, whose fetch fails after that. It
reports that failure. -/
theorem fan_out_to_waiter :
    "b" ∉ (play {} [.call "a" .load "k" (none : Option (Outcome Nat)), .turn "a"]).names ∧
    (play {} ([.call "a" .load "k" (none : Option (Outcome Nat)), .turn "a"] ++
      [.call "b" .load "k" none] ++
      [.turn "b", .finish "a" (.error (.other "lost")), .turn "a", .turn "b"])).reports "b" =
        [.error (.other "lost")] := by
  have new : "b" ∉ (play {} [.call "a" .load "k" (none : Option (Outcome Nat)), .turn "a"]).names :=
    by decide
  refine ⟨new, (fan_out {} _ _ "b" "k" none _ new ?_).1⟩
  exact List.mem_cons_of_mem _ (List.mem_cons_of_mem _ (List.mem_singleton_self _))

end Course

end LearningClient.Rehearsal
