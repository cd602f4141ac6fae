import LearningClient.Proofs.Loads.Seen
import LearningClient.Proofs.Loads.SingleFlight
import Mathlib.Logic.Relation

/-!
# Nobody is left waiting

A task that is not ready has nothing to do until something else happens
(`Bench.Awake`): its fetch has no outcome yet, or the flight that it waits
for goes on. So when no task is ready, each load leads with its fetch under
way, or waits for one that does (`Bench.Awake.settled`).

Turns of ready tasks come to an end in whatever order they are taken
(`Course.next_wellFounded`): a turn either ends a task, or leaves one ready
task less.
-/

namespace LearningClient.Rehearsal

open LearningClient

variable {V : Type}

/-! ## Who is not ready has nothing to do -/

/-- A task has nothing to do until something else happens. -/
def LoadTask.Idle (t : LoadTask V) (a : Accessor V) : Prop :=
  match t.standing with
  | .fresh => False
  | .fetching => t.outcome = none
  | .leading _ => t.outcome = none
  | .waiting f => a.flights[f]? = some .open_

/-- Only flights count for whether a task has something to do. -/
theorem LoadTask.Idle.congr {t : LoadTask V} {a a' : Accessor V} (h : t.Idle a)
    (going : ∀ f, t.standing = .waiting f → a.flights[f]? = some .open_ →
      a'.flights[f]? = some .open_) : t.Idle a' := by
  unfold Idle at h ⊢
  split at h
  · exact h
  · exact h
  · exact h
  · exact going _ ‹_› h

theorem LoadTask.Idle.not_fresh {t : LoadTask V} {a : Accessor V} (h : t.Idle a) :
    t.standing ≠ .fresh := by
  intro stands
  rw [Idle, stands] at h
  exact h

theorem LoadTask.Idle.unknown {t : LoadTask V} {a : Accessor V} (h : t.Idle a) {f : Nat}
    (leads : t.standing = .leading f) : t.outcome = none := by
  rw [Idle, leads] at h
  exact h

theorem LoadTask.Idle.going {t : LoadTask V} {a : Accessor V} (h : t.Idle a) {f : Nat}
    (waits : t.standing = .waiting f) : a.flights[f]? = some .open_ := by
  rw [Idle, waits] at h
  exact h

/-- A turn leaves the flights that go on as they are, apart from the one
that it ends. -/
theorem LoadTask.Turned.going {t : LoadTask V} {a a' : Accessor V} {es : List (Event V)}
    {e : TurnEnd V} (h : t.Turned a (es, e, a')) {f : Nat}
    (hf : a.flights[f]? = some .open_) :
    a'.flights[f]? = some .open_ ∨ ∃ r, e = .over r (some f) := by
  have lt : f < a.flights.length := (List.getElem?_eq_some_iff.mp hf).1
  have same := List.getElem?_eq_getElem (Nat.lt_of_lt_of_le lt h.length_flights)
  rcases h.flight same with old | new | ⟨r, _, _, _, e⟩
  · rw [hf] at old
    exact .inl (same.trans old.symm)
  · exact absurd new (Nat.ne_of_lt lt)
  · exact .inr ⟨r, e⟩

namespace Bench

/-- Whoever has something to do is ready. -/
def Awake (b : Bench V) : Prop := ∀ t ∈ b.tasks, t.id ∈ b.ready ∨ t.Idle b.accessor

theorem mem_waiters {b : Bench V} {t : LoadTask V} {f : Nat} (ht : t ∈ b.tasks)
    (stands : t.standing = .waiting f) : t.id ∈ b.waiters f :=
  List.mem_map_of_mem (List.mem_filter.mpr ⟨ht, by simpa using stands⟩)

theorem of_mem_waiters {b : Bench V} {i : String} {f : Nat} (h : i ∈ b.waiters f) :
    ∃ t ∈ b.tasks, t.id = i ∧ t.standing = .waiting f := by
  obtain ⟨t, waits, rfl⟩ := List.mem_map.mp h
  obtain ⟨mem, stands⟩ := List.mem_filter.mp waits
  exact ⟨t, mem, rfl, of_decide_eq_true stands⟩

variable {b b' : Bench V}

/-- Nobody has joined the next flight. -/
theorem Staffed.nobody_joined (hb : b.Staffed) : b.waiters b.accessor.flights.length = [] := by
  rw [List.eq_nil_iff_forall_not_mem]
  intro i waits
  obtain ⟨t, ht, rfl, stands⟩ := of_mem_waiters waits
  exact absurd (hb.lt_of_waiting ⟨t, ht, rfl, rfl, stands⟩) (Nat.lt_irrefl _)

/-- A task that parks has nothing to do. -/
theorem Staffed.idle_of_parked (hb : b.Staffed) {t u : LoadTask V} {es : List (Event V)}
    {a : Accessor V} (mem : t ∈ b.tasks) (turned : t.Turned b.accessor (es, .parked u, a)) :
    u.Idle a := by
  cases turned with
  | fetching outside unknown shown => exact unknown
  | leading stands unknown => exact unknown
  | @waiting f stands going =>
    have waited : b.At t.id t.key (.waiting f) := ⟨t, mem, rfl, rfl, stands⟩
    rcases hb.flights.awaited waited with ⟨x, hx, isOver⟩ | hk
    · exact absurd isOver (going x hx)
    · exact hb.flights.going hk
  | joined asks announced => exact hb.flights.going announced
  | opened asks free missing unknown => exact unknown

/-- Every move leaves those awake who have something to do. -/
theorem Awake.moved (h : b.Awake) (hb : b.Staffed) {m : Move V} {es : List (Event V)}
    (hm : b.Moved m es b') : b'.Awake := by
  intro u hu
  cases hm with
  | still => exact h u hu
  | called fresh new =>
    rcases List.mem_append.mp hu with hu | hu
    · exact (h u hu).imp_left (List.mem_append_left _)
    · rw [List.mem_singleton.mp hu]
      exact .inl (List.mem_append_right _ (List.mem_singleton_self _))
  | absent gone => exact (h u hu).imp_left (List.mem_erase_of_ne (gone u hu)).mpr
  | @parked t v es a mem turned =>
    have id := turned.same_call.1
    rcases (mem_park mem id).mp hu with hu | rfl
    · obtain ⟨hu, ne⟩ := mem_without.mp hu
      rcases h u hu with ready | idle
      · exact .inl ((List.mem_erase_of_ne (id ▸ ne)).mpr ready)
      · refine .inr (idle.congr fun f _ hf => (turned.going hf).resolve_right ?_)
        rintro ⟨r, e⟩
        cases e
    · exact .inr (hb.idle_of_parked mem turned)
  | @last t es r flight a mem turned =>
    obtain ⟨old, ne⟩ := mem_without.mp hu
    rcases h u old with ready | idle
    · exact .inl (List.mem_append_left _ ((List.mem_erase_of_ne ne).mpr ready))
    · -- whoever waits for the flight that is over wakes up
      by_cases waits : ∃ f, flight = some f ∧ u.standing = .waiting f
      · obtain ⟨f, rfl, stands⟩ := waits
        exact .inl (List.mem_append_right _ (mem_waiters old stands))
      · refine .inr (idle.congr fun f stands hf => (turned.going hf).resolve_right ?_)
        rintro ⟨s, e⟩
        cases e
        exact waits ⟨f, rfl, stands⟩
  | @given t r ready mem unknown kept woken =>
    obtain ⟨v, hv, rfl⟩ := List.mem_map.mp hu
    rcases h v hv with hready | idle
    · rw [v.given_id]
      exact .inl (kept _ hready)
    · by_cases e : v.id = t.id
      · obtain rfl := hb.eq_of_id hv mem e
        rw [v.given_id]
        cases stands : v.standing with
        | fresh => exact absurd stands idle.not_fresh
        | fetching => exact .inl (woken (.inl stands))
        | leading f => exact .inl (woken (.inr ⟨f, stands⟩))
        | waiting f =>
          rw [LoadTask.Idle, v.given_standing, stands]
          exact .inr (idle.going stands)
      · rw [LoadTask.given, if_neg e]
        exact .inr idle
  | dropped mem idle => exact h u (mem_without.mp hu).1
  | @abandoned t f mem stands =>
    obtain ⟨old, ne⟩ := mem_without.mp hu
    rcases h u old with ready | idle
    · exact .inl (List.mem_append_left _ ready)
    · by_cases waits : u.standing = .waiting f
      · exact .inl (List.mem_append_right _ (mem_waiters old waits))
      · refine .inr (idle.congr fun g hg hopen => (List.getElem?_set_ne ?_).trans hopen)
        rintro rfl
        exact waits hg
  | stored => exact h u hu
  | invalidated => exact h u hu
  | missing => exact h u hu

/-- The load leads its flight, which is announced under its key, and its
fetch has no outcome yet. -/
structure FetchesFor (b : Bench V) (t : LoadTask V) (f : Nat) : Prop where
  mem : t ∈ b.tasks
  purpose : t.purpose = .load
  leads : t.standing = .leading f
  announced : b.accessor.pending.get? t.key = some f
  unknown : t.outcome = none

/-- When no task is ready, each load leads with its fetch under way, or
waits for the flight of such a load for its own key. -/
theorem Awake.settled (h : b.Awake) (hb : b.Staffed) (rest : b.ready = []) {t : LoadTask V}
    (ht : t ∈ b.tasks) (load : t.purpose = .load) :
    (∃ f, b.FetchesFor t f) ∨
      ∃ f l, t.standing = .waiting f ∧ b.accessor.pending.get? t.key = some f ∧
        b.accessor.flights[f]? = some .open_ ∧ l.key = t.key ∧ b.FetchesFor l f := by
  have idle : ∀ u ∈ b.tasks, u.Idle b.accessor := fun u hu =>
    (h u hu).resolve_left (by rw [rest]; exact List.not_mem_nil)
  have fetches : ∀ {u : LoadTask V} {f : Nat}, u ∈ b.tasks → u.standing = .leading f →
      b.FetchesFor u f := by
    intro u f hu leads
    exact ⟨hu, hb.load_of_standing hu (.inl leads), leads, hb.announced hu leads,
      (idle u hu).unknown leads⟩
  cases stands : t.standing with
  | fresh => exact absurd stands (idle t ht).not_fresh
  | fetching =>
    have fits := hb.fits t ht
    rw [LoadTask.Fits, stands, load] at fits
    cases fits
  | leading f => exact .inl ⟨f, fetches ht stands⟩
  | waiting f =>
    have going := (idle t ht).going stands
    have hk := hb.announced_of_waiting ⟨t, ht, rfl, rfl, stands⟩ going
    obtain ⟨l, hl, _, key, leads⟩ := hb.pending_iff.mp hk
    exact .inr ⟨f, l, rfl, hk, going, key, fetches hl leads⟩

/-! ## Turns come to an end -/

/-- A turn of a ready task ends a task, or leaves one ready task less. -/
theorem take_decreases {b : Bench V} {id : String} (hid : id ∈ b.ready) :
    Prod.Lex (· < ·) (· < ·) ((b.take id).2.tasks.length, (b.take id).2.ready.length)
      (b.tasks.length, b.ready.length) := by
  have less : (b.ready.erase id).length < b.ready.length := by
    have pos := List.length_pos_of_mem hid
    rw [List.length_erase_of_mem hid]
    omega
  unfold take
  split
  · exact Prod.Lex.right _ less
  · rename_i t found
    have mem : t ∈ ({ b with ready := b.ready.erase id } : Bench V).tasks :=
      (mem_of_find? found).1
    rcases step_decreases mem with fewer | ⟨same, ready⟩
    · exact Prod.Lex.left _ _ fewer
    · rw [same, ready]
      exact Prod.Lex.right _ less

end Bench

namespace Course

/-- No sequence of turns of ready tasks goes on for ever. -/
theorem next_wellFounded : WellFounded (Next (V := V)) := by
  refine Subrelation.wf (fun {y x} h => ?_)
    (InvImage.wf (fun x : Course V => (x.bench.tasks.length, x.bench.ready.length))
      (Prod.lex Nat.lt_wfRel Nat.lt_wfRel).wf)
  obtain ⟨id, hid, rfl⟩ := h
  exact Bench.take_decreases hid

/-- One course leads to another by turns of ready tasks, in any order. -/
abbrev Turns (x y : Course V) : Prop := Relation.ReflTransGen (fun x y => Next y x) x y

/-- Turns are moves. -/
theorem Turns.eq_play {c : Cache V} {ms : List (Move V)} {y : Course V}
    (h : (play c ms).Turns y) : ∃ ids : List String, y = play c (ms ++ ids.map .turn) := by
  induction h with
  | refl => exact ⟨[], by rw [List.map_nil, List.append_nil]⟩
  | tail _ next ih =>
    obtain ⟨ids, rfl⟩ := ih
    obtain ⟨id, _, rfl⟩ := next
    refine ⟨ids ++ [id], ?_⟩
    rw [List.map_append, ← List.append_assoc]
    exact (play_concat ..).symm

theorem settle_of_nil {x : Course V} (rest : x.bench.ready = []) : x.settle = x := by
  rw [settle, Bench.run_of_nil rest, List.append_nil]

/-- What is done until nobody is ready begins with the turn of the first. -/
theorem settle_of_cons {x : Course V} {id : String} {rest : List String}
    (next : x.bench.ready = id :: rest) : x.settle = (x.move (.turn id)).settle := by
  rw [settle, settle, Bench.run_of_cons next, move, List.append_assoc]

/-- Letting the ready tasks take their turns in the order in which they
became ready is a sequence of turns of ready tasks, and leaves none. -/
theorem turns_settle (x : Course V) : x.Turns x.settle ∧ x.settle.bench.ready = [] := by
  induction x using next_wellFounded.induction with
  | _ x ih =>
    cases hr : x.bench.ready with
    | nil =>
      rw [settle_of_nil hr]
      exact ⟨.refl, hr⟩
    | cons id rest =>
      have first : Next (x.move (.turn id)) x :=
        ⟨id, by rw [hr]; exact List.mem_cons_self, rfl⟩
      rw [settle_of_cons hr]
      obtain ⟨turns, rest⟩ := ih _ first
      exact ⟨.head first turns, rest⟩

theorem awake_play (c : Cache V) (ms : List (Move V)) : (play c ms).bench.Awake :=
  play_induction (P := fun _ x => x.bench.Awake) (fun _ ht => absurd ht List.not_mem_nil)
    (fun ms m h => h.moved (sound_play c ms).staffed (moved (sound_play c ms).named m)) ms

/-- No load is left waiting, and nothing stays announced. Whatever moves have
been made at an accessor over any cache, turns of ready tasks come to an end
in whatever order they are taken. At the end

- each load that is there leads with its fetch begun and without an outcome,
  or waits for the flight that is announced under its key, which is not over
  and which such a load leads;
- if no fetch of a load has begun that has no outcome yet, then no load is
  there, and nothing is announced.

Taking the turns in the order in which tasks became ready is one way to get
there. -/
theorem no_stranded_load (c : Cache V) (ms : List (Move V)) :
    Acc Next (play c ms) ∧
    (∀ y, (play c ms).Turns y → y.bench.ready = [] →
      (∀ t ∈ y.bench.tasks, t.purpose = .load →
        (∃ f, y.bench.FetchesFor t f ∧ y.begun t.id = 1) ∨
          ∃ f l, t.standing = .waiting f ∧ y.bench.accessor.pending.get? t.key = some f ∧
            y.bench.accessor.flights[f]? = some .open_ ∧
            l.key = t.key ∧ y.bench.FetchesFor l f ∧ y.begun l.id = 1) ∧
      ((∀ t ∈ y.bench.tasks, t.purpose = .load → 0 < y.begun t.id → t.outcome ≠ none) →
        (∀ t ∈ y.bench.tasks, t.purpose ≠ .load) ∧ y.bench.accessor.pending = [])) ∧
    (play c ms).Turns (play c ms).settle ∧ (play c ms).settle.bench.ready = [] := by
  refine ⟨next_wellFounded.apply _, fun y turns rest => ?_, turns_settle _⟩
  obtain ⟨ids, rfl⟩ := turns.eq_play
  generalize ms ++ ids.map Move.turn = ns at rest ⊢
  have sound := sound_play c ns
  have begun : ∀ {t : LoadTask V} {f : Nat}, (play c ns).bench.FetchesFor t f →
      (play c ns).begun t.id = 1 := by
    intro t f h
    rw [(logged_play c ns).begun t h.mem h.purpose, LoadTask.underWay, h.leads]
  have awake := awake_play c ns
  refine ⟨fun t ht load => ?_, fun known => ?_⟩
  · rcases awake.settled sound.staffed rest ht load with
      ⟨f, fetches⟩ | ⟨f, l, waits, hk, going, key, fetches⟩
    · exact .inl ⟨f, fetches, begun fetches⟩
    · exact .inr ⟨f, l, waits, hk, going, key, fetches, begun fetches⟩
  · have nobody : ∀ {t : LoadTask V} {f : Nat}, ¬ (play c ns).bench.FetchesFor t f := by
      intro t f h
      exact known t h.mem h.purpose (by rw [begun h]; exact Nat.one_pos) h.unknown
    have gone : ∀ t ∈ (play c ns).bench.tasks, t.purpose ≠ .load := by
      intro t ht load
      rcases awake.settled sound.staffed rest ht load with
        ⟨f, fetches⟩ | ⟨f, l, _, _, _, _, fetches⟩
      · exact nobody fetches
      · exact nobody fetches
    refine ⟨gone, Table.eq_nil_of_get? fun k => ?_⟩
    cases hk : (play c ns).bench.accessor.pending.get? k with
    | none => rfl
    | some f =>
      obtain ⟨l, hl, load, _⟩ := sound.staffed.pending_iff.mp hk
      exact absurd load (gone l hl)

/-- A load that waited takes over when the leader is dropped. -/
theorem no_stranded_load_after_abort :
    (play {} (leaderAndWaiter ++ [.abort "a"])).Turns
      (play {} (leaderAndWaiter ++ [.abort "a", .turn "b"])) ∧
    (play {} (leaderAndWaiter ++ [.abort "a", .turn "b"])).bench.ready = [] ∧
    ∃ t f, t.id = "b" ∧
      (play {} (leaderAndWaiter ++ [.abort "a", .turn "b"])).bench.FetchesFor t f ∧
      (play {} (leaderAndWaiter ++ [.abort "a", .turn "b"])).begun t.id = 1 := by
  have turns : (play {} (leaderAndWaiter ++ [.abort "a"])).Turns
      (play {} (leaderAndWaiter ++ [.abort "a", .turn "b"])) := .single ⟨"b", by decide, rfl⟩
  have rest : (play {} (leaderAndWaiter ++ [.abort "a", .turn "b"])).bench.ready = [] := rfl
  refine ⟨turns, rest, ?_⟩
  let b : LoadTask Nat :=
    { id := "b", purpose := .load, key := "k", outcome := none, standing := .leading 1 }
  obtain ⟨_, at_rest, _⟩ := no_stranded_load {} (leaderAndWaiter ++ [.abort "a"])
  have there : b ∈ (play {} (leaderAndWaiter ++ [.abort "a", .turn "b"])).bench.tasks :=
    List.mem_singleton_self b
  rcases (at_rest _ turns rest).1 b there rfl with ⟨f, fetches, begun⟩ | ⟨f, l, waits, _⟩
  · exact ⟨b, f, rfl, fetches, begun⟩
  · cases waits

end Course

end LearningClient.Rehearsal
