import LearningClient.Proofs.Loads.Landings

/-!
# The order in which tasks joined a flight

A task that waits, and takes a turn while its flight goes on, keeps its place. So
a move adds to those who wait for a flight only at their end, and only who has not
waited for it before (`Course.waiters_move`): they stand in the order in which they
joined it (`Course.joined_in_order`).
-/

namespace LearningClient.Rehearsal

open LearningClient

variable {V : Type}

/-- A task that parks, and stands as it stood, is what it was. -/
theorem LoadTask.Turned.eq_of_standing {t u : LoadTask V} {a a' : Accessor V}
    {es : List (Event V)} (h : t.Turned a (es, .parked u, a'))
    (stands : u.standing = t.standing) : u = t := by
  obtain ⟨id, key, purpose, outcome⟩ := h.same_call
  cases t
  cases u
  cases id
  cases key
  cases purpose
  cases outcome
  cases stands
  rfl

/-- A task that is given an outcome waits as it waited. -/
theorem Bench.waiters_given (b : Bench V) (ready : List String) (id : String) (r : Outcome V)
    (f : Nat) :
    Bench.waiters { b with tasks := b.tasks.map (·.given id r), ready } f = b.waiters f := by
  simp only [waiters, List.filter_map, List.map_map]
  have ids : (fun t : LoadTask V => t.id) ∘ LoadTask.given id r = fun t => t.id :=
    funext (LoadTask.given_id id r)
  have stands : (fun t : LoadTask V => decide (t.standing = .waiting f)) ∘ LoadTask.given id r =
      fun t => decide (t.standing = .waiting f) := by
    funext t
    rw [Function.comp_apply, t.given_standing]
  rw [ids, stands]

theorem Bench.waiters_without (b : Bench V) (id : String) (f : Nat) :
    (((b.without id).filter (·.standing = .waiting f)).map (·.id)).Sublist (b.waiters f) :=
  (List.filter_sublist.filter _).map _

/-- Who waits for a flight after a move has waited for it before, in the same order,
but for one task at the end that has joined it. -/
theorem Course.waiters_move {x : Course V} (sound : x.Sound) (m : Move V) (f : Nat) :
    ((x.move m).bench.waiters f).Sublist (x.bench.waiters f) ∨
      ∃ i, i ∉ x.bench.waiters f ∧
        ((x.move m).bench.waiters f).Sublist (x.bench.waiters f ++ [i]) := by
  have moved := moved sound.named m
  generalize (x.move m).bench = b, x.shown m = es at moved
  cases moved with
  | called fresh new =>
    left
    rw [Bench.waiters, Bench.spawn, List.filter_append]
    simp [fresh, Bench.waiters]
  | @parked t u es a mem turned =>
    by_cases stood : u.standing = t.standing
    · obtain rfl := turned.eq_of_standing stood
      left
      rw [Bench.waiters, sound.staffed.park_self mem]
      exact List.Sublist.refl _
    · have others := x.bench.waiters_without u.id f
      rw [Bench.waiters, Bench.park, if_neg stood, List.filter_append, List.map_append]
      by_cases waits : u.standing = .waiting f
      · refine .inr ⟨u.id, ?_, others.append ?_⟩
        · intro among
          obtain ⟨v, hv, same, waited⟩ := Bench.of_mem_waiters among
          rw [sound.staffed.eq_of_id hv mem (same.trans turned.same_call.1)] at waited
          exact stood (waits.trans waited.symm)
        · rw [List.filter_singleton, decide_eq_true waits]
          exact List.Sublist.refl _
      · left
        rw [List.filter_singleton, decide_eq_false waits]
        exact (List.append_nil _).symm ▸ others
  | last mem turned => exact .inl (x.bench.waiters_without _ f)
  | given mem unknown kept woken =>
    rw [Bench.waiters_given]
    exact .inl (List.Sublist.refl _)
  | dropped mem idle => exact .inl (x.bench.waiters_without _ f)
  | abandoned mem stands => exact .inl (x.bench.waiters_without _ f)
  | _ => exact .inl (List.Sublist.refl _)

namespace Course

/-- One task had joined a flight at a moment at which another had not. -/
def JoinedBefore (c : Cache V) (ms : List (Move V)) (f : Nat) (i j : String) : Prop :=
  ∃ ms₁ ms₂, ms = ms₁ ++ ms₂ ∧
    i ∈ (play c ms₁).bench.waiters f ∧ j ∉ (play c ms₁).bench.waiters f

/-- Whatever moves are made, those who wait for a flight stand in the order in
which they joined it. -/
theorem joined_in_order (c : Cache V) (ms : List (Move V)) (f : Nat) :
    ((play c ms).bench.waiters f).Pairwise (JoinedBefore c ms f) := by
  induction ms using List.reverseRecOn with
  | nil => exact List.Pairwise.nil
  | append_singleton ms m ih =>
    have earlier : ((play c ms).bench.waiters f).Pairwise (JoinedBefore c (ms ++ [m]) f) := by
      refine ih.imp ?_
      rintro i j ⟨ms₁, ms₂, rfl, joined, later⟩
      exact ⟨ms₁, ms₂ ++ [m], List.append_assoc .., joined, later⟩
    rw [play_concat]
    rcases waiters_move (sound_play c ms) m f with sub | ⟨i, new, sub⟩
    · exact earlier.sublist sub
    · refine List.Pairwise.sublist sub (List.pairwise_append.mpr
        ⟨earlier, List.pairwise_singleton _ i, fun j joined k last => ?_⟩)
      rw [List.mem_singleton.mp last]
      exact ⟨ms, [m], rfl, joined, new⟩

end Course

end LearningClient.Rehearsal
