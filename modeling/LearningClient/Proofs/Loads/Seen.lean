import LearningClient.Proofs.Loads.Course

/-!
# What is seen of a call

A call reports once at most (`Course.reports_unique`). While a load is
there, its fetch has begun exactly if it leads: `LoadTask.underWay` counts
the fetches of a load that are under way, and that is how often its fetch
has been seen to begin (`Course.Logged.begun`).
-/

namespace LearningClient.Rehearsal

open LearningClient

variable {V : Type}

/-! ## The events of one move -/

/-- A turn shows nothing but the beginning of the task's own fetch, apart
from the task's end. -/
theorem LoadTask.Turned.shown {t : LoadTask V} {a a' : Accessor V} {es : List (Event V)}
    {e : TurnEnd V} (h : t.Turned a (es, e, a')) : ∀ x ∈ es, x = .fetch t.id := by
  cases h with
  | fetching outside unknown shown => exact shown
  | fetched outside known shown => exact shown
  | opened asks free missing unknown => exact fun x hx => List.mem_singleton.mp hx
  | flew asks free missing known => exact fun x hx => List.mem_singleton.mp hx
  | leading stands unknown => exact fun x hx => absurd hx List.not_mem_nil
  | landed stands known => exact fun x hx => absurd hx List.not_mem_nil
  | waiting stands going => exact fun x hx => absurd hx List.not_mem_nil
  | told stands landed => exact fun x hx => absurd hx List.not_mem_nil
  | hit asks found => exact fun x hx => absurd hx List.not_mem_nil
  | joined asks announced => exact fun x hx => absurd hx List.not_mem_nil

/-- Beginnings of fetches are no results. -/
theorem results_of_fetches {es : List (Event V)} {id : String} (h : ∀ x ∈ es, x = .fetch id)
    (i : String) : es.filterMap (·.result? i) = [] := by
  refine List.filterMap_eq_nil_iff.mpr (fun x hx => ?_)
  rw [h x hx]
  rfl

/-- What is about others shows no beginning of the fetch of a task. -/
theorem begins_of_others {es : List (Event V)} {id : String} (h : ∀ x ∈ es, x.id ≠ id) :
    es.countP (·.begins id) = 0 := by
  refine List.countP_eq_zero.mpr (fun x hx => ?_)
  have ne := h x hx
  cases x with
  | fetch i => simpa [Event.begins, Event.id] using ne
  | done i r => simp [Event.begins]

namespace Bench

variable {b b' : Bench V} {m : Move V} {es : List (Event V)}

/-- Whatever is shown is about a task that is there and takes a turn: it is
shown in the turn, or is the end of the task. -/
theorem Moved.about (h : b.Moved m es b') {x : Event V} (hx : x ∈ es) :
    ∃ t ∈ b.tasks, t.id = x.id ∧ m = .turn t.id ∧ ∃ fs e,
      t.Turned b.accessor (fs, e, b'.accessor) ∧
        (x ∈ fs ∨ ∃ r flight, x = .done t.id r ∧ e = .over r flight) := by
  cases h with
  | @parked t u es a mem turned =>
    have id : t.id = x.id := by
      rw [turned.shown x hx]
      rfl
    exact ⟨t, mem, id, rfl, es, _, turned, .inl hx⟩
  | @last t es r flight a mem turned =>
    rcases List.mem_append.mp hx with hx | hx
    · have id : t.id = x.id := by
        rw [turned.shown x hx]
        rfl
      exact ⟨t, mem, id, rfl, es, _, turned, .inl hx⟩
    · rw [List.mem_singleton.mp hx]
      exact ⟨t, mem, rfl, rfl, es, _, turned, .inr ⟨r, flight, rfl, rfl⟩⟩
  | _ => exact absurd hx List.not_mem_nil

/-- Whatever a turn shows is about the task that takes it. -/
theorem ids_of_take (b : Bench V) (id : String) : ∀ x ∈ (b.take id).1, x.id = id := by
  intro x hx
  obtain ⟨t, _, same, turns, _⟩ := (b.take_moved id).about hx
  cases turns
  exact same.symm

/-- A move shows no result of a call, or it shows one, and the call is gone
after it. -/
theorem Moved.results (h : b.Moved m es b') (id : String) :
    es.filterMap (·.result? id) = [] ∨
      ∃ t ∈ b.tasks, t.id = id ∧ (∃ r, es.filterMap (·.result? id) = [r]) ∧
        ∀ u ∈ b'.tasks, u.id ≠ id := by
  cases h with
  | parked mem turned => exact .inl (results_of_fetches turned.shown id)
  | @last t es r flight a mem turned =>
    rw [List.filterMap_append, results_of_fetches turned.shown, List.nil_append]
    by_cases e : t.id = id
    · exact .inr ⟨t, mem, e, ⟨r, by simp [Event.result?, e]⟩,
        fun u hu => e ▸ (mem_without.mp hu).2⟩
    · exact .inl (by simp [Event.result?, e])
  | _ => exact .inl rfl

end Bench

/-! ## Fetches under way -/

/-- How many fetches of a load are under way. -/
def LoadTask.underWay (t : LoadTask V) : Nat :=
  match t.standing with
  | .leading _ => 1
  | _ => 0

theorem LoadTask.underWay_of_idle {t : LoadTask V} (h : ∀ f, t.standing ≠ .leading f) :
    t.underWay = 0 := by
  unfold underWay
  split
  · exact absurd ‹_› (h _)
  · rfl

theorem LoadTask.underWay_le_one (t : LoadTask V) : t.underWay ≤ 1 := by
  unfold underWay
  split
  · exact Nat.le_refl 1
  · exact Nat.zero_le 1

theorem LoadTask.underWay_pos (t : LoadTask V) :
    0 < t.underWay ↔ ∃ f, t.standing = .leading f := by
  unfold underWay
  split
  · exact ⟨fun _ => ⟨_, ‹_›⟩, fun _ => Nat.one_pos⟩
  · rename_i idle
    exact ⟨fun h => absurd h (Nat.lt_irrefl 0), fun ⟨f, hs⟩ => absurd hs (idle f)⟩

namespace Bench

variable {b b' : Bench V} {m : Move V} {es : List (Event V)}

/-- A load that is there after a move has one fetch more under way if it is
seen to begin one, and none more if not. -/
theorem Moved.begins (hb : b.Staffed) (h : b.Moved m es b') {u : LoadTask V}
    (hu : u ∈ b'.tasks) (load : u.purpose = .load) :
    (∃ t ∈ b.tasks, t.id = u.id ∧ t.purpose = .load ∧
        u.underWay = t.underWay + es.countP (·.begins u.id)) ∨
      m = .call u.id u.purpose u.key u.outcome ∧ u.underWay = 0 := by
  -- a task that nothing is shown of, and that was there before
  have same : ∀ {t : LoadTask V}, t ∈ b.tasks → t.id = u.id → t.purpose = u.purpose →
      t.standing = u.standing → (∀ x ∈ es, x.id ≠ u.id) →
      ∃ t ∈ b.tasks, t.id = u.id ∧ t.purpose = .load ∧
        u.underWay = t.underWay + es.countP (·.begins u.id) := by
    intro t ht id purpose stands others
    refine ⟨t, ht, id, purpose.trans load, ?_⟩
    rw [begins_of_others others, LoadTask.underWay, LoadTask.underWay, stands]
    rfl
  have none : ∀ x ∈ ([] : List (Event V)), x.id ≠ u.id := fun x hx => absurd hx List.not_mem_nil
  cases h with
  | still => exact .inl (same hu rfl rfl rfl none)
  | called fresh new =>
    rcases List.mem_append.mp hu with hu | hu
    · exact .inl (same hu rfl rfl rfl none)
    · obtain rfl := List.mem_singleton.mp hu
      refine .inr ⟨rfl, LoadTask.underWay_of_idle (fun f hf => ?_)⟩
      rw [fresh] at hf
      cases hf
  | absent gone => exact .inl (same hu rfl rfl rfl none)
  | @parked t v es a mem turned =>
    obtain ⟨id, _, purpose, _⟩ := turned.same_call
    rcases (mem_park mem id).mp hu with hu | rfl
    · obtain ⟨hu, ne⟩ := mem_without.mp hu
      refine .inl (same hu rfl rfl rfl (fun x hx => ?_))
      rw [turned.shown x hx]
      exact fun e => ne (e.symm.trans id.symm)
    · refine .inl ⟨t, mem, id.symm, purpose.symm.trans load, ?_⟩
      cases turned with
      | fetching outside unknown shown =>
        exact absurd outside (hb.inside mem (purpose.symm.trans load))
      | leading stands unknown => simp [LoadTask.underWay, stands]
      | waiting stands going => simp [LoadTask.underWay, stands]
      | joined asks announced =>
        rw [LoadTask.underWay_of_idle asks.idle]
        rfl
      | opened asks free missing unknown =>
        rw [LoadTask.underWay_of_idle asks.idle]
        simp [LoadTask.underWay, Event.begins]
  | @last t es r flight a mem turned =>
    obtain ⟨hu, ne⟩ := mem_without.mp hu
    refine .inl (same hu rfl rfl rfl (fun x hx => ?_))
    rcases List.mem_append.mp hx with hx | hx
    · rw [turned.shown x hx]
      exact fun e => ne e.symm
    · rw [List.mem_singleton.mp hx]
      exact fun e => ne e.symm
  | given mem unknown ready woken =>
    obtain ⟨v, hv, rfl⟩ := List.mem_map.mp hu
    exact .inl (same hv (v.given_id _ _).symm (v.given_purpose _ _).symm
      (v.given_standing _ _).symm none)
  | dropped mem idle => exact .inl (same (mem_without.mp hu).1 rfl rfl rfl none)
  | abandoned mem stands => exact .inl (same (mem_without.mp hu).1 rfl rfl rfl none)
  | stored => exact .inl (same hu rfl rfl rfl none)
  | invalidated => exact .inl (same hu rfl rfl rfl none)
  | missing => exact .inl (same hu rfl rfl rfl none)

end Bench

/-! ## What has been seen in the course of moves -/

namespace Course

theorem begun_move (x : Course V) (m : Move V) (id : String) :
    (x.move m).begun id = x.begun id + (x.shown m).countP (·.begins id) := by
  rw [begun, seen_move, List.countP_append]
  rfl

theorem reports_move (x : Course V) (m : Move V) (id : String) :
    (x.move m).reports id = x.reports id ++ (x.shown m).filterMap (·.result? id) := by
  rw [reports, seen_move, List.filterMap_append]
  rfl

/-- What has been seen agrees with the tasks that are there. -/
structure Logged (x : Course V) : Prop where
  /-- Nothing has been seen of a call that has not been made. -/
  unseen : ∀ e ∈ x.seen, e.id ∈ x.names
  /-- Who is there has not reported. -/
  unreported : ∀ t ∈ x.bench.tasks, x.reports t.id = []
  /-- Nobody reports twice. -/
  once : ∀ id, (x.reports id).length ≤ 1
  /-- The fetches of a load that have begun are under way. -/
  begun : ∀ t ∈ x.bench.tasks, t.purpose = .load → x.begun t.id = t.underWay

theorem Logged.reports_of_unnamed {x : Course V} (h : x.Logged) {id : String}
    (new : id ∉ x.names) : x.reports id = [] := by
  refine List.filterMap_eq_nil_iff.mpr (fun e he => ?_)
  have named := h.unseen e he
  cases e with
  | fetch i => rfl
  | done i r =>
    have ne : i ≠ id := fun e => new (e ▸ named)
    simp [Event.result?, ne]

theorem Logged.begun_of_unnamed {x : Course V} (h : x.Logged) {id : String}
    (new : id ∉ x.names) : x.begun id = 0 :=
  begins_of_others fun e he eq => new (eq ▸ h.unseen e he)

/-- A call under a name that has been used changes nothing. -/
theorem move_used {x : Course V} {id key : String} {purpose : Purpose}
    {outcome : Option (Outcome V)} (used : id ∈ x.names) :
    x.move (.call id purpose key outcome) = x := by
  simp only [move, if_pos used]

theorem Logged.move {x : Course V} (h : x.Logged) (sound : x.Sound) (m : Move V) :
    (x.move m).Logged := by
  have moved := moved sound.named m
  refine ⟨fun e he => ?_, fun u hu => ?_, fun id => ?_, fun u hu load => ?_⟩
  · rw [seen_move] at he
    rcases List.mem_append.mp he with he | he
    · exact x.names_move m (h.unseen e he)
    · obtain ⟨t, ht, id, _⟩ := moved.about he
      exact x.names_move m (id ▸ sound.named t ht)
  · rcases moved.origin hu with ⟨t, ht, id, _⟩ | ⟨rfl, _⟩
    · rw [reports_move, ← id, h.unreported t ht, List.nil_append]
      rcases moved.results t.id with none | ⟨_, _, _, _, gone⟩
      · exact none
      · exact absurd id.symm (gone u hu)
    · by_cases used : u.id ∈ x.names
      · rw [move_used used] at hu ⊢
        exact h.unreported u hu
      · rw [reports_move, h.reports_of_unnamed used]
        rfl
  · rw [reports_move]
    rcases moved.results id with none | ⟨t, ht, rfl, ⟨r, one⟩, _⟩
    · rw [none, List.append_nil]
      exact h.once id
    · rw [one, h.unreported t ht]
      exact Nat.le_refl 1
  · rcases moved.begins sound.staffed hu load with ⟨t, ht, id, purpose, count⟩ | ⟨rfl, idle⟩
    · rw [begun_move, ← id, h.begun t ht purpose, count, id]
    · by_cases used : u.id ∈ x.names
      · rw [move_used used] at hu ⊢
        exact h.begun u hu load
      · rw [begun_move, h.begun_of_unnamed used, idle]
        rfl

theorem logged_play (c : Cache V) (ms : List (Move V)) : (play c ms).Logged := by
  refine play_induction (P := fun _ x => x.Logged) ⟨?_, ?_, ?_, ?_⟩
    (fun ms m h => h.move (sound_play c ms) m) ms
  · exact fun _ he => absurd he List.not_mem_nil
  · exact fun _ ht => absurd ht List.not_mem_nil
  · exact fun _ => Nat.zero_le 1
  · exact fun _ ht => absurd ht List.not_mem_nil

/-- A call that has reported a result has reported it once, and nothing
else. -/
theorem reports_unique (c : Cache V) (ms : List (Move V)) {id : String} {r : Outcome V}
    (h : .done id r ∈ (play c ms).seen) : (play c ms).reports id = [r] := by
  have mem : r ∈ (play c ms).reports id :=
    List.mem_filterMap.mpr ⟨.done id r, h, by simp [Event.result?]⟩
  obtain ⟨s, hs⟩ := List.length_eq_one_iff.mp
    (Nat.le_antisymm ((logged_play c ms).once id) (List.length_pos_of_mem mem))
  rw [hs] at mem ⊢
  rw [List.mem_singleton.mp mem]

end Course

end LearningClient.Rehearsal
