import LearningClient.Proofs.Loads.Settled

/-!
# What becomes of a flight, and of those who wait for it

A flight that is over stays what it is (`Bench.Moved.over_stays`). If a task
waits for a flight that has landed, there was a moment at which the leader of
the flight, for the key of the task, took its last turn, and the task was
waiting at that moment (`Course.landing_of_waiting`). And whoever was waiting
at such a moment reports what the leader's fetch yielded, unless it is
dropped (`Course.reports_of_landing`, `Course.reports_at_rest`).
-/

namespace LearningClient.Rehearsal

open LearningClient

variable {V : Type}

/-! ## One move -/

namespace LoadTask

/-- What a task that waits can do depends on what has become of the
flight. -/
theorem Turned.of_waiting {t : LoadTask V} {a : Accessor V}
    {p : List (Event V) × TurnEnd V × Accessor V} (h : t.Turned a p) {f : Nat}
    (waits : t.standing = .waiting f) :
    (∃ r, a.flights[f]? = some (.landed r) ∧ p = ([], .over r none, a)) ∨
      ((∀ x, a.flights[f]? = some x → ¬ x.Over) ∧
        p = ([], .parked { t with standing := .waiting f }, a)) ∨
      a.flights[f]? = some .lost := by
  have outside : ¬ t.Outside := by
    rintro (stands | ⟨_, stands⟩) <;> rw [waits] at stands <;> cases stands
  have lost : t.Asks a → a.flights[f]? = some .lost := by
    rintro (⟨_, stands⟩ | ⟨g, stands, lost⟩)
    · rw [waits] at stands
      cases stands
    · rw [waits] at stands
      cases stands
      exact lost
  cases h with
  | fetching out unknown shown => exact absurd out outside
  | fetched out known shown => exact absurd out outside
  | leading stands unknown =>
    rw [waits] at stands
    cases stands
  | landed stands known =>
    rw [waits] at stands
    cases stands
  | waiting stands going =>
    rw [waits] at stands
    cases stands
    exact .inr (.inl ⟨going, rfl⟩)
  | told stands landed =>
    rw [waits] at stands
    cases stands
    exact .inl ⟨_, landed, rfl⟩
  | hit asked found => exact .inr (.inr (lost asked))
  | joined asked announced => exact .inr (.inr (lost asked))
  | opened asked free missing unknown => exact .inr (.inr (lost asked))
  | flew asked free missing known => exact .inr (.inr (lost asked))

/-- A task that waits for a flight that has landed reports its result. -/
theorem Turned.eq_of_landed {t : LoadTask V} {a : Accessor V}
    {p : List (Event V) × TurnEnd V × Accessor V} (h : t.Turned a p) {f : Nat} {r : Outcome V}
    (waits : t.standing = .waiting f) (hf : a.flights[f]? = some (.landed r)) :
    p = ([], .over r none, a) := by
  rcases h.of_waiting waits with ⟨s, landed, e⟩ | ⟨going, _⟩ | lost
  · rw [hf] at landed
    cases landed
    exact e
  · exact absurd (Flight.over_landed r) (going _ hf)
  · rw [hf] at lost
    cases lost

/-- A task that waits for a flight that goes on goes on waiting. -/
theorem Turned.eq_of_going {t : LoadTask V} {a : Accessor V}
    {p : List (Event V) × TurnEnd V × Accessor V} (h : t.Turned a p) {f : Nat}
    (waits : t.standing = .waiting f) (hf : a.flights[f]? = some .open_) :
    p = ([], .parked { t with standing := .waiting f }, a) := by
  rcases h.of_waiting waits with ⟨r, landed, _⟩ | ⟨_, e⟩ | lost
  · rw [hf] at landed
    cases landed
  · exact e
  · rw [hf] at lost
    cases lost

end LoadTask

namespace Bench

variable {b b' : Bench V} {m : Move V} {es : List (Event V)}

theorem Moved.length_flights (h : b.Moved m es b') :
    b.accessor.flights.length ≤ b'.accessor.flights.length := by
  cases h with
  | parked mem turned => exact turned.length_flights
  | last mem turned => exact turned.length_flights
  | abandoned mem stands => exact Nat.le_of_eq List.length_set.symm
  | _ => exact Nat.le_refl _

/-- A move leaves a flight as it was, unless it is new, or its leader goes:
by its last turn, or because it is dropped. -/
theorem Moved.flight (h : b.Moved m es b') {f : Nat} {x : Flight V}
    (hf : b'.accessor.flights[f]? = some x) :
    b.accessor.flights[f]? = some x ∨ f = b.accessor.flights.length ∨
      ∃ l ∈ b.tasks, l.standing = .leading f ∧
        ((m = .turn l.id ∧ ∃ r, l.outcome = some r ∧ x = .landed r) ∨ x = .lost) := by
  have led : ∀ {t : LoadTask V} {es : List (Event V)} {e : TurnEnd V} {a : Accessor V},
      t ∈ b.tasks → t.Turned b.accessor (es, e, a) → a.flights[f]? = some x →
      b.accessor.flights[f]? = some x ∨ f = b.accessor.flights.length ∨
        ∃ l ∈ b.tasks, l.standing = .leading f ∧
          ((Move.turn t.id = Move.turn (V := V) l.id ∧ ∃ r, l.outcome = some r ∧ x = .landed r) ∨
            x = .lost) := by
    intro t es e a mem turned hf
    rcases turned.flight hf with old | new | ⟨r, stands, known, landed, _⟩
    · exact .inl old
    · exact .inr (.inl new)
    · exact .inr (.inr ⟨t, mem, stands, .inl ⟨rfl, r, known, landed⟩⟩)
  cases h with
  | parked mem turned => exact led mem turned hf
  | last mem turned => exact led mem turned hf
  | @abandoned t g mem stands =>
    change (b.accessor.flights.set g .lost)[f]? = some x at hf
    by_cases e : g = f
    · subst e
      have lt := (List.getElem?_eq_some_iff.mp hf).1
      rw [List.length_set] at lt
      rw [List.getElem?_set_self lt] at hf
      exact .inr (.inr ⟨t, mem, stands, .inr (Option.some.inj hf).symm⟩)
    · rw [List.getElem?_set_ne e] at hf
      exact .inl hf
  | _ => exact .inl hf

/-- A flight that is led is not over. -/
theorem Staffed.going_of_leading (hb : b.Staffed) {l : LoadTask V} {f : Nat} (hl : l ∈ b.tasks)
    (leads : l.standing = .leading f) : b.accessor.flights[f]? = some .open_ :=
  hb.flights.going (hb.announced hl leads)

/-- A flight that is over stays what it is. -/
theorem Moved.over_stays (h : b.Moved m es b') (hb : b.Staffed) {f : Nat} {x : Flight V}
    (isOver : x.Over) (hf : b.accessor.flights[f]? = some x) :
    b'.accessor.flights[f]? = some x := by
  have lt := (List.getElem?_eq_some_iff.mp hf).1
  have same := List.getElem?_eq_getElem (Nat.lt_of_lt_of_le lt h.length_flights)
  rcases h.flight same with old | new | ⟨l, hl, leads, _⟩
  · rw [hf] at old
    exact same.trans old.symm
  · exact absurd new (Nat.ne_of_lt lt)
  · have going := hb.going_of_leading hl leads
    rw [hf] at going
    exact absurd (Option.some.inj going) isOver

/-- Whoever waits has been waiting, or has joined a flight that is not
over. -/
theorem Moved.waits (h : b.Moved m es b') (hb : b.Staffed) {u : LoadTask V} {f : Nat}
    (hu : u ∈ b'.tasks) (waits : u.standing = .waiting f) :
    b.At u.id u.key (.waiting f) ∨ b'.accessor.flights[f]? = some .open_ := by
  have old : ∀ {id : String}, u ∈ b.without id → b.At u.id u.key (.waiting f) := fun hu =>
    ⟨u, (mem_without.mp hu).1, rfl, rfl, waits⟩
  cases h with
  | called fresh new =>
    rcases List.mem_append.mp hu with hu | hu
    · exact .inl ⟨u, hu, rfl, rfl, waits⟩
    · rw [List.mem_singleton.mp hu, fresh] at waits
      cases waits
  | @parked t v es a mem turned =>
    rcases (mem_park mem turned.same_call.1).mp hu with hu | rfl
    · exact .inl (old hu)
    · cases turned with
      | fetching outside unknown shown => cases waits
      | leading stands unknown => cases waits
      | waiting stands going =>
        cases waits
        exact .inl ⟨t, mem, rfl, rfl, stands⟩
      | joined asks announced =>
        cases waits
        exact .inr (hb.flights.going announced)
      | opened asks free missing unknown => cases waits
  | last mem turned => exact .inl (old hu)
  | given mem unknown ready woken =>
    obtain ⟨v, hv, rfl⟩ := List.mem_map.mp hu
    exact .inl ⟨v, hv, (v.given_id _ _).symm, (v.given_key _ _).symm,
      (v.given_standing _ _).symm.trans waits⟩
  | dropped mem idle => exact .inl (old hu)
  | abandoned mem stands => exact .inl (old hu)
  | _ => exact .inl ⟨u, hu, rfl, rfl, waits⟩

/-- If a task waits for a flight that has landed, it had landed before the
move, or the move is the last turn of its leader, for the same key. -/
theorem Moved.landing (h : b.Moved m es b') (hb : b.Staffed) {u : LoadTask V} {f : Nat}
    {r : Outcome V} (hu : u ∈ b'.tasks) (waits : u.standing = .waiting f)
    (landed : b'.accessor.flights[f]? = some (.landed r)) :
    b.At u.id u.key (.waiting f) ∧
      (b.accessor.flights[f]? = some (.landed r) ∨
        ∃ l ∈ b.tasks, m = .turn l.id ∧ l.key = u.key ∧ l.standing = .leading f ∧
          l.outcome = some r) := by
  have waited : b.At u.id u.key (.waiting f) := by
    rcases h.waits hb hu waits with old | going
    · exact old
    · rw [landed] at going
      cases going
  refine ⟨waited, ?_⟩
  rcases h.flight landed with old | new | ⟨l, hl, leads, ⟨move, s, known, e⟩ | e⟩
  · exact .inl old
  · exact absurd new (Nat.ne_of_lt (hb.lt_of_waiting waited))
  · cases e
    have own := hb.announced hl leads
    have hk := hb.announced_of_waiting waited (hb.flights.going own)
    exact .inr ⟨l, hl, move, hb.flights.apart own hk, leads, known⟩
  · cases e

/-- Who is not dropped and does not take a turn stays, and stands as it
stood. Only the outcome of its own fetch can be new. -/
theorem Moved.stays (h : b.Moved m es b') {t : LoadTask V} (ht : t ∈ b.tasks)
    (kept : m ≠ .abort t.id) (still : m ≠ .turn t.id) :
    ∃ u ∈ b'.tasks, u.id = t.id ∧ u.key = t.key ∧ u.standing = t.standing ∧
      ((∀ r, m ≠ .finish t.id r) → u = t) := by
  have stays : t ∈ b'.tasks → ∃ u ∈ b'.tasks, u.id = t.id ∧ u.key = t.key ∧
      u.standing = t.standing ∧ ((∀ r, m ≠ .finish t.id r) → u = t) := fun ht =>
    ⟨t, ht, rfl, rfl, rfl, fun _ => rfl⟩
  have without : ∀ {id : String}, id ≠ t.id → t ∈ b.without id := fun ne =>
    mem_without.mpr ⟨ht, Ne.symm ne⟩
  cases h with
  | called fresh new => exact stays (List.mem_append_left _ ht)
  | @parked v u es a mem turned =>
    have same := turned.same_call.1
    have ne : u.id ≠ t.id := fun e => still (by rw [← e, same])
    exact stays ((mem_park mem same).mpr (.inl (without ne)))
  | @last v es s flight a mem turned => exact stays (without fun e => still (by rw [e]))
  | @given v s ready mem unknown keeps woken =>
    refine ⟨t.given v.id s, List.mem_map_of_mem ht, t.given_id _ _, t.given_key _ _,
      t.given_standing _ _, fun others => if_neg fun e => others s ?_⟩
    rw [e]
  | @dropped v mem idle => exact stays (without fun e => kept (by rw [e]))
  | @abandoned v g mem stands => exact stays (without fun e => kept (by rw [e]))
  | _ => exact stays ht

/-- A task that waits for a flight that has landed goes on waiting, or
reports the result, unless it is dropped. -/
theorem Moved.told (h : b.Moved m es b') (hb : b.Staffed) {t : LoadTask V} {f : Nat}
    {r : Outcome V} (ht : t ∈ b.tasks) (waits : t.standing = .waiting f)
    (landed : b.accessor.flights[f]? = some (.landed r)) (kept : m ≠ .abort t.id) :
    b'.At t.id t.key (.waiting f) ∨ es.filterMap (·.result? t.id) = [r] := by
  by_cases turns : m = .turn t.id
  · cases h with
    | still => exact .inl ⟨t, ht, rfl, rfl, waits⟩
    | absent gone => exact .inl ⟨t, ht, rfl, rfl, waits⟩
    | parked mem turned =>
      obtain rfl := hb.eq_of_id mem ht (Move.turn.inj turns)
      cases turned.eq_of_landed waits landed
    | last mem turned =>
      obtain rfl := hb.eq_of_id mem ht (Move.turn.inj turns)
      cases turned.eq_of_landed waits landed
      exact .inr (by simp [Event.result?])
    | missing => exact .inl ⟨t, ht, rfl, rfl, waits⟩
    | _ => cases turns
  · obtain ⟨u, hu, id, key, standing, _⟩ := h.stays ht kept turns
    exact .inl ⟨u, hu, id, key, standing.trans waits⟩

/-- A task that waits for a flight that goes on goes on waiting, unless it is
dropped. -/
theorem Moved.waits_on (h : b.Moved m es b') (hb : b.Staffed) {t : LoadTask V} {f : Nat}
    (ht : t ∈ b.tasks) (waits : t.standing = .waiting f)
    (going : b.accessor.flights[f]? = some .open_) (kept : m ≠ .abort t.id) :
    b'.At t.id t.key (.waiting f) := by
  by_cases turns : m = .turn t.id
  · cases h with
    | still => exact ⟨t, ht, rfl, rfl, waits⟩
    | absent gone => exact ⟨t, ht, rfl, rfl, waits⟩
    | parked mem turned =>
      obtain rfl := hb.eq_of_id mem ht (Move.turn.inj turns)
      have same := turned.same_call.1
      cases turned.eq_of_going waits going
      exact ⟨_, (mem_park mem same).mpr (.inr rfl), rfl, rfl, rfl⟩
    | last mem turned =>
      obtain rfl := hb.eq_of_id mem ht (Move.turn.inj turns)
      cases turned.eq_of_going waits going
    | missing => exact ⟨t, ht, rfl, rfl, waits⟩
    | _ => cases turns
  · obtain ⟨u, hu, id, key, standing, _⟩ := h.stays ht kept turns
    exact ⟨u, hu, id, key, standing.trans waits⟩

/-- A task leads a flight, and its fetch has its outcome: its next turn is
its last. -/
structure Lands (b : Bench V) (l : LoadTask V) (f : Nat) (r : Outcome V) : Prop where
  mem : l ∈ b.tasks
  leads : l.standing = .leading f
  known : l.outcome = some r

/-- The last turn of a leader. -/
theorem Lands.take {l : LoadTask V} {f : Nat} {r : Outcome V} (h : b.Lands l f r)
    (hb : b.Staffed) :
    b.take l.id =
      ([.done l.id r],
        { accessor := b.accessor.land l.key f r
          tasks := b.without l.id
          ready := b.ready.erase l.id ++ b.waiters f }) := by
  have turn : l.turn b.accessor = ([], .over r (some f), b.accessor.land l.key f r) := by
    simp only [LoadTask.turn, h.leads, LoadTask.leadTurn, h.known]
  rw [Bench.take, hb.find?_eq h.mem]
  simp only [step, turn]
  rfl

/-- After the last turn of a leader, its flight has landed, and whoever
waited for it still does. -/
theorem Lands.waits {l t : LoadTask V} {f : Nat} {r : Outcome V} (h : b.Lands l f r)
    (hb : b.Staffed) (ht : t ∈ b.tasks) (waits : t.standing = .waiting f) :
    (b.take l.id).2.At t.id t.key (.waiting f) ∧
      (b.take l.id).2.accessor.flights[f]? = some (.landed r) := by
  have lt := (List.getElem?_eq_some_iff.mp (hb.going_of_leading h.mem h.leads)).1
  have ne : t.id ≠ l.id := by
    intro e
    rw [hb.eq_of_id ht h.mem e, h.leads] at waits
    cases waits
  rw [h.take hb]
  exact ⟨⟨t, mem_without.mpr ⟨ht, ne⟩, rfl, rfl, waits⟩, List.getElem?_set_self lt⟩

end Bench

/-! ## Any moves -/

namespace Course

variable {c : Cache V} {ms : List (Move V)} {f : Nat} {r : Outcome V}

/-- If a task waits for a flight that has landed, then there was a moment at
which the leader of the flight, for the key of the task, took its last turn,
and the task was waiting then. -/
theorem landing_of_waiting {t : LoadTask V} (ht : t ∈ (play c ms).bench.tasks)
    (waits : t.standing = .waiting f)
    (landed : (play c ms).bench.accessor.flights[f]? = some (.landed r)) :
    ∃ ms₁ ms₂ l, ms = ms₁ ++ .turn l.id :: ms₂ ∧ (play c ms₁).bench.Lands l f r ∧
      l.key = t.key ∧ (play c ms₁).bench.At t.id t.key (.waiting f) := by
  induction ms using List.reverseRecOn generalizing t with
  | nil => exact absurd ht List.not_mem_nil
  | append_singleton ms m ih =>
    rw [play_concat] at ht landed
    have sound := sound_play c ms
    obtain ⟨waited, before | ⟨l, hl, rfl, key, leads, known⟩⟩ :=
      (moved sound.named m).landing sound.staffed ht waits landed
    · -- it had landed before the last move, so the moment is an earlier one
      obtain ⟨u, hu, id, key, stands⟩ := waited
      obtain ⟨ms₁, ms₂, l, rfl, lands, key', waited⟩ := ih hu stands before
      rw [id, key] at waited
      exact ⟨ms₁, ms₂ ++ [m], l, List.append_assoc .., lands, key'.trans key, waited⟩
    · exact ⟨ms, [], l, rfl, ⟨hl, leads, known⟩, key, waited⟩

/-- Once a call has been made and is no longer there, nothing more is seen
of it. -/
theorem quiet_of_gone {id : String} (named : id ∈ (play c ms).names)
    (gone : ∀ t ∈ (play c ms).bench.tasks, t.id ≠ id) (later : List (Move V)) :
    id ∈ (play c (ms ++ later)).names ∧
      (∀ t ∈ (play c (ms ++ later)).bench.tasks, t.id ≠ id) ∧
      (play c (ms ++ later)).begun id = (play c ms).begun id ∧
      (play c (ms ++ later)).reports id = (play c ms).reports id := by
  induction later using List.reverseRecOn with
  | nil =>
    rw [List.append_nil]
    exact ⟨named, gone, rfl, rfl⟩
  | append_singleton later m ih =>
    rw [← List.append_assoc, play_concat]
    obtain ⟨named, gone, begun, reports⟩ := ih
    have moved := moved (sound_play c (ms ++ later)).named m
    refine ⟨names_move _ m named, fun u hu e => ?_, ?_, ?_⟩
    · rcases moved.origin hu with ⟨t, ht, id, _⟩ | ⟨rfl, _⟩
      · exact gone t ht (id.trans e)
      · rw [move_used (e ▸ named)] at hu
        exact gone u hu e
    · have others : ∀ x ∈ (play c (ms ++ later)).shown m, x.id ≠ id := by
        intro x hx e
        obtain ⟨t, ht, id, _⟩ := moved.about hx
        exact gone t ht (id.trans e)
      rw [begun_move, begins_of_others others, begun, Nat.add_zero]
    · rcases moved.results id with none | ⟨t, ht, e, _⟩
      · rw [reports_move, none, List.append_nil, reports]
      · exact absurd e (gone t ht)

/-- Whoever waits for a flight when its leader takes its last turn reports
what the leader's fetch yielded, unless it is dropped or has yet to take its
turn. -/
theorem reports_of_landing {l t : LoadTask V} (lands : (play c ms).bench.Lands l f r)
    (ht : t ∈ (play c ms).bench.tasks) (waits : t.standing = .waiting f)
    {later : List (Move V)} (kept : .abort t.id ∉ later) :
    (play c (ms ++ .turn l.id :: later)).reports t.id = [r] ∨
      (play c (ms ++ .turn l.id :: later)).bench.At t.id t.key (.waiting f) ∧
        (play c (ms ++ .turn l.id :: later)).bench.accessor.flights[f]? = some (.landed r) := by
  induction later using List.reverseRecOn with
  | nil =>
    rw [play_concat]
    exact .inr (lands.waits (sound_play c ms).staffed ht waits)
  | append_singleton later m ih =>
    rw [List.mem_append, List.mem_singleton, not_or] at kept
    obtain ⟨kept, other⟩ := kept
    rw [← List.cons_append, ← List.append_assoc, play_concat, reports_move]
    generalize ms ++ .turn l.id :: later = ns at ih ⊢
    have sound := sound_play c ns
    have moved := moved sound.named m
    rcases ih kept with told | ⟨⟨u, hu, id, key, stands⟩, landed⟩
    · -- who has reported is not there to report again
      rcases moved.results t.id with none | ⟨u, hu, id, _⟩
      · rw [none, List.append_nil]
        exact .inl told
      · have silent := (logged_play c ns).unreported u hu
        rw [id, told] at silent
        cases silent
    · rcases moved.told sound.staffed hu stands landed (by rw [id]; exact Ne.symm other)
        with waits | told
      · rw [id, key] at waits
        exact .inr ⟨waits, moved.over_stays sound.staffed (Flight.over_landed r) landed⟩
      · have silent := (logged_play c ns).unreported u hu
        rw [id] at silent told
        rw [silent, told]
        exact .inl rfl

/-- When no task is ready any more, nobody waits for a flight that has
landed. -/
theorem reports_at_rest {l t : LoadTask V} (lands : (play c ms).bench.Lands l f r)
    (ht : t ∈ (play c ms).bench.tasks) (waits : t.standing = .waiting f)
    {later : List (Move V)} (kept : .abort t.id ∉ later) {y : Course V}
    (turns : (play c (ms ++ .turn l.id :: later)).Turns y) (rest : y.bench.ready = []) :
    y.reports t.id = [r] := by
  obtain ⟨ids, rfl⟩ := turns.eq_play
  have kept' : .abort t.id ∉ later ++ ids.map .turn := by
    rw [List.mem_append, not_or]
    refine ⟨kept, fun h => ?_⟩
    obtain ⟨_, _, e⟩ := List.mem_map.mp h
    cases e
  rw [List.append_assoc, List.cons_append] at rest ⊢
  rcases reports_of_landing lands ht waits kept' with told | ⟨⟨u, hu, _, _, stands⟩, landed⟩
  · exact told
  · rcases awake_play c _ u hu with ready | idle
    · rw [rest] at ready
      exact absurd ready List.not_mem_nil
    · have going := idle.going stands
      rw [landed] at going
      cases going

end Course

end LearningClient.Rehearsal
