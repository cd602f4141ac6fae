import LearningClient.Proofs.Loads.Turns
import Mathlib.Data.List.Induction
import Mathlib.Data.List.Nodup

/-!
# Who leads and who waits

The agreement of an accessor with its callers, for the tasks of a bench:
`Bench.Staffed`. Every move keeps it, so it holds in every state that moves
lead to (`Course.sound_play`).

What a turn does to a bench comes in four kinds, and each has its lemma: the
task leaves without having led (`Staffed.leave`), it parks and leads no more
and no less than before (`Staffed.park`), it parks and begins to lead
(`Staffed.lead`), it led and leaves (`Staffed.quit`). A fetch that is over at
once is the third followed by the fourth.
-/

namespace LearningClient.Rehearsal

open LearningClient

variable {V : Type}

/-- Only a load leads or waits, and only another task runs its fetch outside
the accessor. -/
def LoadTask.Fits (t : LoadTask V) : Prop :=
  match t.standing with
  | .fresh => True
  | .fetching => t.purpose = .fetch
  | .leading _ => t.purpose = .load
  | .waiting _ => t.purpose = .load

namespace Bench

/-- The task called `id` is at `key` and stands so. -/
def At (b : Bench V) (id key : String) (s : Standing) : Prop :=
  ∃ t ∈ b.tasks, t.id = id ∧ t.key = key ∧ t.standing = s

/-- The tasks of a bench agree with its accessor. -/
structure Staffed (b : Bench V) : Prop where
  names : (b.tasks.map (·.id)).Nodup
  flights : b.accessor.Staffed (fun id key f => b.At id key (.leading f))
    (fun id key f => b.At id key (.waiting f))
  fits : ∀ t ∈ b.tasks, t.Fits

/-! ## Tasks come and go -/

/-- The others stand as they stood. -/
theorem at_of_without {b b' : Bench V} {i id key : String} {s : Standing}
    (h : b'.tasks = b.without id) : b'.At i key s ↔ b.At i key s ∧ i ≠ id := by
  unfold At
  rw [h]
  constructor
  · rintro ⟨t, ht, rfl, hk, hs⟩
    obtain ⟨ht, ne⟩ := mem_without.mp ht
    exact ⟨⟨t, ht, rfl, hk, hs⟩, ne⟩
  · rintro ⟨⟨t, ht, rfl, hk, hs⟩, ne⟩
    exact ⟨t, mem_without.mpr ⟨ht, ne⟩, rfl, hk, hs⟩

/-- The others stand as they stood, and one has parked. -/
theorem at_of_parked {b b' : Bench V} {t u : LoadTask V} (mem : t ∈ b.tasks) (same : u.id = t.id)
    (h : b'.tasks = b.park t u) {i key : String} {s : Standing} :
    b'.At i key s ↔ (b.At i key s ∧ i ≠ u.id) ∨ i = u.id ∧ key = u.key ∧ s = u.standing := by
  simp only [At, h, mem_park mem same, mem_without]
  constructor
  · rintro ⟨t, ⟨ht, ne⟩ | rfl, rfl, rfl, rfl⟩
    · exact .inl ⟨⟨t, ht, rfl, rfl, rfl⟩, ne⟩
    · exact .inr ⟨rfl, rfl, rfl⟩
  · rintro (⟨⟨t, ht, rfl, hk, hs⟩, ne⟩ | ⟨rfl, rfl, rfl⟩)
    · exact ⟨t, .inl ⟨ht, ne⟩, rfl, hk, hs⟩
    · exact ⟨u, .inr rfl, rfl, rfl, rfl⟩

/-- Where a task has parked does not matter for the others. -/
theorem filter_park (b : Bench V) (t : LoadTask V) {u : LoadTask V} (among : String → Bool)
    (other : among u.id = false) :
    (b.park t u).filter (fun v => among v.id) = b.tasks.filter fun v => among v.id := by
  unfold park
  split
  · induction b.tasks with
    | nil => rfl
    | cons v vs ih =>
      by_cases same : v.id = u.id
      · simp [same, other, ih]
      · simp [same, List.filter_cons, ih]
  · rw [List.filter_append, List.filter_singleton, other, without, List.filter_filter]
    refine (List.append_nil _).trans (List.filter_congr fun v _ => ?_)
    by_cases same : v.id = u.id
    · simp [same, other]
    · simp [same]

/-- A task that has parked leaves no trace of itself when it leaves. -/
theorem without_parked {b b' : Bench V} {t u : LoadTask V} (h : b'.tasks = b.park t u) :
    b'.without u.id = b.without u.id := by
  unfold without
  rw [h]
  exact b.filter_park t (fun i => i ≠ u.id) (by simp)

namespace Staffed

variable {b b' : Bench V} {t : LoadTask V}

/-- A name stands for one task. -/
theorem eq_of_id (h : b.Staffed) {u : LoadTask V} (ht : t ∈ b.tasks) (hu : u ∈ b.tasks)
    (e : t.id = u.id) : t = u :=
  List.inj_on_of_nodup_map h.names ht hu e

/-- A task is found by its name. -/
theorem find?_eq (h : b.Staffed) (ht : t ∈ b.tasks) :
    b.tasks.find? (·.id = t.id) = some t := by
  cases found : b.tasks.find? (·.id = t.id) with
  | none => exact absurd rfl (ne_of_find? found t ht)
  | some u =>
    obtain ⟨hu, same⟩ := mem_of_find? found
    rw [h.eq_of_id hu ht same]

/-- A task stands in one way only. -/
theorem at_self (h : b.Staffed) (ht : t ∈ b.tasks) {key : String} {s : Standing} :
    b.At t.id key s ↔ key = t.key ∧ s = t.standing := by
  constructor
  · rintro ⟨u, hu, hid, rfl, rfl⟩
    rw [h.eq_of_id hu ht hid]
    exact ⟨rfl, rfl⟩
  · rintro ⟨rfl, rfl⟩
    exact ⟨t, ht, rfl, rfl, rfl⟩

/-- What a task leads is announced under its key. -/
theorem announced (h : b.Staffed) (ht : t ∈ b.tasks) {f : Nat} (leads : t.standing = .leading f) :
    b.accessor.pending.get? t.key = some f :=
  h.flights.announced ((h.at_self ht).mpr ⟨rfl, leads.symm⟩)

/-- What is waited for and goes on is announced under the key of who
waits. -/
theorem announced_of_waiting (h : b.Staffed) {id key : String} {f : Nat}
    (waits : b.At id key (.waiting f)) (going : b.accessor.flights[f]? = some .open_) :
    b.accessor.pending.get? key = some f := by
  rcases h.flights.awaited waits with ⟨x, hx, isOver⟩ | hk
  · rw [going] at hx
    exact absurd (Option.some.inj hx).symm isOver
  · exact hk

/-- Nobody waits for a flight that there has not been. -/
theorem lt_of_waiting (h : b.Staffed) {id key : String} {f : Nat}
    (waits : b.At id key (.waiting f)) : f < b.accessor.flights.length := by
  rcases h.flights.awaited waits with ⟨x, hx, _⟩ | hk
  · exact (List.getElem?_eq_some_iff.mp hx).1
  · exact (List.getElem?_eq_some_iff.mp (h.flights.going hk)).1

theorem names_without (h : b.Staffed) (id : String) : ((b.without id).map (·.id)).Nodup :=
  h.names.sublist (List.filter_sublist.map _)

theorem names_park (h : b.Staffed) (t u : LoadTask V) : ((b.park t u).map (·.id)).Nodup := by
  unfold park
  split
  · have ids : (·.id) ∘ (fun v : LoadTask V => if v.id = u.id then u else v) = (·.id) := by
      funext v
      rw [Function.comp_apply]
      split
      · exact (‹v.id = u.id›).symm
      · rfl
    rw [List.map_map, ids]
    exact h.names
  · rw [List.map_append, List.map_singleton]
    refine List.nodup_append.mpr ⟨h.names_without u.id, List.nodup_singleton _, ?_⟩
    intro i hi j hj
    obtain ⟨t, ht, rfl⟩ := List.mem_map.mp hi
    rw [List.mem_singleton.mp hj]
    exact (mem_without.mp ht).2

/-- A task that parks as it is changes nothing. -/
theorem park_self (h : b.Staffed) (ht : t ∈ b.tasks) : b.park t t = b.tasks := by
  rw [park, if_pos rfl]
  refine (List.map_congr_left fun v hv => ?_).trans (List.map_id _)
  split
  · exact h.eq_of_id ht hv (‹v.id = t.id›).symm
  · rfl

/-- A task that asks for its key is a load. -/
theorem load_of_asks (h : b.Staffed) (ht : t ∈ b.tasks) (asks : t.Asks b.accessor) :
    t.purpose = .load := by
  rcases asks with ⟨hp, _⟩ | ⟨f, hs, _⟩
  · exact hp
  · have fits := h.fits t ht
    rw [LoadTask.Fits, hs] at fits
    exact fits

/-! ## The kinds of turns -/

/-- A task leaves that does not lead. -/
theorem leave (h : b.Staffed) (ht : t ∈ b.tasks) (idle : ∀ f, t.standing ≠ .leading f)
    (tasks : b'.tasks = b.without t.id) (pending : b'.accessor.pending = b.accessor.pending)
    (flights : b'.accessor.flights = b.accessor.flights) : b'.Staffed where
  names := by
    rw [tasks]
    exact h.names_without t.id
  flights := by
    refine h.flights.congr pending flights (fun i k f => ?_) (fun i k f hi => ?_)
    · rw [at_of_without tasks]
      refine ⟨And.left, fun hi => ⟨hi, ?_⟩⟩
      rintro rfl
      exact idle f ((h.at_self ht).mp hi).2.symm
    · exact .inl ((at_of_without tasks).mp hi).1
  fits u hu := by
    rw [tasks] at hu
    exact h.fits u (mem_without.mp hu).1

/-- A task parks that leads if it did before, and waits, if it waits, for
the flight that is announced. -/
theorem park (h : b.Staffed) (ht : t ∈ b.tasks) {u : LoadTask V} (id : u.id = t.id)
    (key : u.key = t.key) (fits : u.Fits)
    (leads : ∀ f, u.standing = .leading f ↔ t.standing = .leading f)
    (waits : ∀ f, u.standing = .waiting f →
      t.standing = .waiting f ∨ b.accessor.pending.get? t.key = some f)
    (tasks : b'.tasks = b.park t u) (pending : b'.accessor.pending = b.accessor.pending)
    (flights : b'.accessor.flights = b.accessor.flights) : b'.Staffed where
  names := by
    rw [tasks]
    exact h.names_park t u
  flights := by
    refine h.flights.congr pending flights (fun i k f => ?_) (fun i k f hi => ?_)
    · rw [at_of_parked ht id tasks]
      constructor
      · rintro (⟨hi, _⟩ | ⟨rfl, rfl, hs⟩)
        · exact hi
        · rw [id, h.at_self ht]
          exact ⟨key, ((leads f).mp hs.symm).symm⟩
      · intro hi
        by_cases e : i = u.id
        · subst e
          rw [id, h.at_self ht] at hi
          exact .inr ⟨rfl, hi.1.trans key.symm, ((leads f).mpr hi.2.symm).symm⟩
        · exact .inl ⟨hi, e⟩
    · rcases (at_of_parked ht id tasks).mp hi with ⟨hi, _⟩ | ⟨rfl, rfl, hs⟩
      · exact .inl hi
      · rw [id, h.at_self ht, key]
        rcases waits f hs.symm with hw | hk
        · exact .inl ⟨rfl, hw.symm⟩
        · exact .inr hk
  fits v hv := by
    rw [tasks, mem_park ht id] at hv
    rcases hv with hv | rfl
    · exact h.fits v (mem_without.mp hv).1
    · exact fits

/-- A task parks that begins to lead a flight for a key that has none. -/
theorem lead (h : b.Staffed) (ht : t ∈ b.tasks) (load : t.purpose = .load)
    (idle : ∀ f, t.standing ≠ .leading f) (free : b.accessor.pending.get? t.key = none)
    (tasks : b'.tasks = b.park t { t with standing := .leading b.accessor.flights.length })
    (pending : b'.accessor.pending = (b.accessor.openFlight t.key).pending)
    (flights : b'.accessor.flights = (b.accessor.openFlight t.key).flights) : b'.Staffed where
  names := by
    rw [tasks]
    exact h.names_park t { t with standing := .leading b.accessor.flights.length }
  flights := by
    refine (h.flights.openFlight t.id free (fun i k f => ?_) (fun i k f hi => ?_)).congr
      pending flights (fun _ _ _ => Iff.rfl) (fun _ _ _ => .inl)
    · rw [at_of_parked (u := { t with standing := .leading _ }) ht rfl tasks]
      constructor
      · rintro (⟨hi, _⟩ | ⟨rfl, rfl, hs⟩)
        · exact .inl hi
        · exact .inr ⟨rfl, rfl, Standing.leading.inj hs⟩
      · rintro (hi | ⟨rfl, rfl, rfl⟩)
        · refine .inl ⟨hi, ?_⟩
          rintro rfl
          exact idle f ((h.at_self ht).mp hi).2.symm
        · exact .inr ⟨rfl, rfl, rfl⟩
    · rcases (at_of_parked (u := { t with standing := .leading _ }) ht rfl tasks).mp hi with ⟨hi, _⟩ | ⟨_, _, hs⟩
      · exact hi
      · cases hs
  fits v hv := by
    rw [tasks, mem_park (u := { t with standing := .leading _ }) ht rfl] at hv
    rcases hv with hv | rfl
    · exact h.fits v (mem_without.mp hv).1
    · exact load

/-- A task leaves that led a flight, and the flight is over. -/
theorem quit (h : b.Staffed) (ht : t ∈ b.tasks) {f : Nat} {x : Flight V} {c : Cache V} {m : Nat}
    (stands : t.standing = .leading f) (isOver : x.Over) (tasks : b'.tasks = b.without t.id)
    (accessor : b'.accessor =
      { cache := c, pending := b.accessor.pending.erase t.key
        flights := b.accessor.flights.set f x, misses := m }) : b'.Staffed where
  names := by
    rw [tasks]
    exact h.names_without t.id
  flights := by
    have lead : b.At t.id t.key (.leading f) := (h.at_self ht).mpr ⟨rfl, stands.symm⟩
    rw [accessor]
    refine (h.flights.close (c := c) lead (fun hi => ((h.at_self ht).mp hi).1) isOver
      (fun i k g => at_of_without tasks) (fun i k g hi => ?_)).congr rfl rfl
      (fun _ _ _ => Iff.rfl) (fun _ _ _ => .inl)
    exact ((at_of_without tasks).mp hi).1
  fits u hu := by
    rw [tasks] at hu
    exact h.fits u (mem_without.mp hu).1

end Staffed

end Bench

end LearningClient.Rehearsal
