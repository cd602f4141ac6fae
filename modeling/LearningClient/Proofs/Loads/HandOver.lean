import LearningClient.Proofs.Loads.Queue
import LearningClient.Proofs.Loads.Results
import LearningClient.Proofs.Loads.Truthful

/-!
# A leader is dropped

When no task is ready and a load that leads is dropped, all who waited for
its flight become ready, in the order in which they joined it, and ask for
the key again. If the cache holds a value by then, each turn reports it and
leaves the accessor as it is (`Course.Led.settle_of_held`). If not, the first
opens a flight, and each turn after that joins the new flight, not the lost
one (`Course.Led.settle_of_unknown`). Turns that leave the accessor as it is
are taken together (`Course.settle_steady`).

What comes of those who wait for the new leader is an induction over the
moves that follow (`Course.lead_goes_on`). The whole is
`Course.handed_over`.
-/

namespace LearningClient.Rehearsal

open LearningClient

variable {V : Type}

/-! ## Turns that leave the accessor as it is -/

/-- The task that goes on after a turn, if one does. -/
def TurnEnd.kept : TurnEnd V → List (LoadTask V)
  | .parked t => [t]
  | .over .. => []

/-- What is seen of the end of a task. -/
def TurnEnd.shown (id : String) : TurnEnd V → List (Event V)
  | .parked _ => []
  | .over r _ => [.done id r]

theorem LoadTask.leadTurn_unknown {t : LoadTask V} (unknown : t.outcome = none) (f : Nat)
    (a : Accessor V) : t.leadTurn f a = (.parked { t with standing := .leading f }, a) := by
  unfold leadTurn
  split
  · rename_i known
    rw [unknown] at known
    cases known
  · rfl

/-- The next turn of a task shows nothing but its end, leaves the accessor as
it is, and ends no flight. If the task goes on, it stands otherwise. -/
structure LoadTask.Steady (t : LoadTask V) (a : Accessor V) (e : TurnEnd V) : Prop where
  turn : t.turn a = ([], e, a)
  lone : ∀ r f, e ≠ .over r (some f)
  moves : ∀ u, e = .parked u → u.standing ≠ t.standing

/-- Who goes on after a steady turn has the same name. -/
theorem LoadTask.Steady.id_kept {t u : LoadTask V} {a : Accessor V} {e : TurnEnd V}
    (h : t.Steady a e) (goes_on : u ∈ e.kept) : u.id = t.id := by
  obtain v | ⟨r, flight⟩ := e
  · rw [List.mem_singleton.mp goes_on]
    exact LoadTask.turn_parked_id h.turn
  · cases goes_on

/-- A steady turn. -/
theorem Bench.step_steady {b : Bench V} {t : LoadTask V} {e : TurnEnd V}
    (h : t.Steady b.accessor e) :
    b.step t = (e.shown t.id, { b with tasks := b.without t.id ++ e.kept }) := by
  have turn := h.turn
  obtain u | ⟨r, flight⟩ := e
  · have same := LoadTask.turn_parked_id turn
    simp only [step, turn, park, if_neg (h.moves u rfl), without, same]
    rfl
  · cases flight with
    | none =>
      simp only [step, turn, Option.map_none, Option.getD_none, List.append_nil, List.nil_append,
        TurnEnd.kept, TurnEnd.shown]
    | some f => exact absurd rfl (h.lone r f)

theorem filter_not_mem_cons (ts : List (LoadTask V)) (id : String) (ids : List String) :
    (ts.filter (·.id ≠ id)).filter (fun t => t.id ∉ ids) = ts.filter fun t => t.id ∉ id :: ids := by
  rw [List.filter_filter]
  apply List.filter_congr
  intro t _
  rw [Bool.eq_iff_iff, Bool.and_eq_true, decide_eq_true_iff, decide_eq_true_iff,
    decide_eq_true_iff, List.mem_cons, not_or]
  exact and_comm

namespace Course

/-- The steady turn of the task that is next. -/
theorem move_steady {x : Course V} {t : LoadTask V} {e : TurnEnd V} {ready : List String}
    (sound : x.Sound) (mem : t ∈ x.bench.tasks) (next : x.bench.ready = t.id :: ready)
    (steady : t.Steady x.bench.accessor e) :
    x.move (.turn t.id) =
      { x with
        bench :=
          { accessor := x.bench.accessor, tasks := x.bench.without t.id ++ e.kept, ready }
        seen := x.seen ++ e.shown t.id } := by
  have step := Bench.step_steady (b := { x.bench with ready }) steady
  simp only [move, Bench.take, sound.staffed.find?_eq mem, next, List.erase_cons_head, step]
  rfl

/-- Tasks whose turns leave the accessor as it is take them one after the
other. -/
theorem settle_steady {x : Course V} (fate : LoadTask V → TurnEnd V) {us : List (LoadTask V)}
    (sound : x.Sound) (ready : x.bench.ready = us.map (·.id)) (there : ∀ t ∈ us, t ∈ x.bench.tasks)
    (once : (us.map (·.id)).Nodup) (steady : ∀ t ∈ us, t.Steady x.bench.accessor (fate t)) :
    x.settle =
      { x with
        bench :=
          { accessor := x.bench.accessor
            tasks := x.bench.tasks.filter (fun t => t.id ∉ us.map (·.id)) ++
              us.flatMap fun t => (fate t).kept
            ready := [] }
        seen := x.seen ++ us.flatMap fun t => (fate t).shown t.id } := by
  induction us generalizing x with
  | nil =>
    have same : x.bench.ready = [] := ready
    rw [settle_of_nil same]
    obtain ⟨⟨a, ts, _⟩, names, seen⟩ := x
    subst same
    simp
  | cons t us ih =>
    rw [List.map_cons, List.nodup_cons] at once
    have mem := there t List.mem_cons_self
    have ne : ∀ u ∈ us, u.id ≠ t.id := by
      intro u among e
      exact once.1 (e ▸ List.mem_map_of_mem among)
    have sound' := sound.move (.turn t.id)
    rw [settle_of_cons ready]
    rw [move_steady sound mem ready (steady t List.mem_cons_self)] at sound' ⊢
    rw [ih sound' rfl ?there once.2 fun u among => steady u (List.mem_cons_of_mem _ among)]
    case there =>
      intro u among
      have there := there u (List.mem_cons_of_mem _ among)
      exact List.mem_append_left _ (Bench.mem_without.mpr ⟨there, ne u among⟩)
    have goes_on : (fate t).kept.filter (fun u => u.id ∉ us.map (·.id)) = (fate t).kept := by
      rw [List.filter_eq_self]
      intro u among
      rw [(steady t List.mem_cons_self).id_kept among]
      exact decide_eq_true once.1
    have others : (x.bench.without t.id).filter (fun u => u.id ∉ us.map (·.id)) =
        x.bench.tasks.filter fun u => u.id ∉ (t :: us).map (·.id) := filter_not_mem_cons ..
    simp only [List.filter_append, goes_on, others, List.flatMap_cons, List.append_assoc]

/-! ## The leader is dropped -/

/-- The tasks of a bench without one, and without those who wait for a
flight. -/
def bystanders (x : Course V) (id : String) (f : Nat) : List (LoadTask V) :=
  x.bench.tasks.filter fun t => t.id ≠ id ∧ t.standing ≠ .waiting f

/-- A load leads, and others wait for its flight; no task is ready, and reads
are truthful. -/
structure Led (x : Course V) (l : LoadTask V) (f : Nat) (us : List (LoadTask V)) : Prop where
  sound : x.Sound
  rest : x.bench.ready = []
  truthful : x.bench.accessor.misses = 0
  mem : l ∈ x.bench.tasks
  leads : l.standing = .leading f
  waiting : x.bench.tasks.filter (·.standing = .waiting f) = us

namespace Led

variable {x : Course V} {l : LoadTask V} {f : Nat} {us : List (LoadTask V)}

theorem of_waiting (h : x.Led l f us) {t : LoadTask V} (among : t ∈ us) :
    t ∈ x.bench.tasks ∧ t.standing = .waiting f := by
  rw [← h.waiting] at among
  obtain ⟨mem, waits⟩ := List.mem_filter.mp among
  exact ⟨mem, of_decide_eq_true waits⟩

/-- The dropped load leaves, its flight is lost, and those who waited for it
are ready. -/
theorem abort_eq (h : x.Led l f us) :
    x.move (.abort l.id) =
      { x with
        bench :=
          { accessor := x.bench.accessor.abandon l.key f, tasks := x.bench.without l.id,
            ready := us.map (·.id) } } := by
  have waiters : x.bench.waiters f = us.map (·.id) := by rw [Bench.waiters, h.waiting]
  simp only [move, Bench.abort, h.sound.staffed.find?_eq h.mem, h.leads, h.rest, waiters,
    List.nil_append]

/-- Who waits is not the leader. -/
theorem ne_leader (h : x.Led l f us) {t : LoadTask V} (among : t ∈ us) : t.id ≠ l.id := by
  obtain ⟨mem, waits⟩ := h.of_waiting among
  intro e
  rw [h.sound.staffed.eq_of_id mem h.mem e, h.leads] at waits
  cases waits

/-- Who waits is a load of the same key. -/
theorem key_eq (h : x.Led l f us) {t : LoadTask V} (among : t ∈ us) : t.key = l.key := by
  obtain ⟨mem, waits⟩ := h.of_waiting among
  have announced := h.sound.staffed.announced h.mem h.leads
  have going := h.sound.staffed.flights.going announced
  have waited : x.bench.At t.id t.key (.waiting f) := ⟨t, mem, rfl, rfl, waits⟩
  exact h.sound.staffed.flights.apart (h.sound.staffed.announced_of_waiting waited going) announced

/-- Who waited for the flight that is lost asks for the key. -/
theorem asks (h : x.Led l f us) {t : LoadTask V} (among : t ∈ us) {a : Accessor V}
    (lost : a.flights[f]? = some .lost) : t.turn a = t.loadTurn (a.load l.key) := by
  simp only [LoadTask.turn, (h.of_waiting among).2, h.key_eq among, Accessor.resume, lost]

/-- The next flight is another one. -/
theorem lt_next (h : x.Led l f us) : f < x.bench.accessor.flights.length :=
  (List.getElem?_eq_some_iff.mp (h.sound.staffed.going_of_leading h.mem h.leads)).1

theorem lost (h : x.Led l f us) :
    (x.bench.accessor.abandon l.key f).flights[f]? = some .lost :=
  List.getElem?_set_self h.lt_next

theorem once (h : x.Led l f us) : (us.map (·.id)).Nodup := by
  rw [← h.waiting]
  exact h.sound.staffed.names.sublist (List.filter_sublist.map _)

/-- The others are the bystanders. -/
theorem others_eq (h : x.Led l f us) :
    (x.bench.without l.id).filter (fun t => t.id ∉ us.map (·.id)) = x.bystanders l.id f := by
  rw [Bench.without, List.filter_filter, bystanders]
  apply List.filter_congr
  intro t mem
  have waits : t.id ∈ us.map (·.id) ↔ t.standing = .waiting f := by
    constructor
    · intro among
      obtain ⟨u, among, same⟩ := List.mem_map.mp among
      obtain ⟨there, waits⟩ := h.of_waiting among
      exact h.sound.staffed.eq_of_id there mem same ▸ waits
    · intro waits
      rw [← h.waiting]
      exact List.mem_map_of_mem (List.mem_filter.mpr ⟨mem, decide_eq_true waits⟩)
  rw [Bool.eq_iff_iff, Bool.and_eq_true, decide_eq_true_iff, decide_eq_true_iff,
    decide_eq_true_iff, waits, and_comm]

/-- If the cache holds a value by then, all who waited report it, in the
order in which they joined, and nothing else happens. -/
theorem settle_of_held (h : x.Led l f us) {v : V}
    (held : x.bench.accessor.cache.get? l.key = some v) :
    (x.move (.abort l.id)).settle =
      { x with
        bench :=
          { accessor := x.bench.accessor.abandon l.key f, tasks := x.bystanders l.id f,
            ready := [] }
        seen := x.seen ++ us.map fun t => .done t.id (.ok v) } := by
  have sound := h.sound.move (.abort l.id)
  rw [h.abort_eq] at sound ⊢
  have steady : ∀ t ∈ us, t.Steady (x.bench.accessor.abandon l.key f) (.over (.ok v) none) := by
    intro t among
    have load := Accessor.load_of_held (a := x.bench.accessor.abandon l.key f) h.truthful held
    refine ⟨?_, nofun, nofun⟩
    rw [h.asks among h.lost, load]
    rfl
  rw [settle_steady (fun _ => .over (.ok v) none) sound rfl ?there h.once steady]
  case there =>
    intro t among
    exact Bench.mem_without.mpr ⟨(h.of_waiting among).1, h.ne_leader among⟩
  have none : us.flatMap (fun _ => ([] : List (LoadTask V))) = [] := by simp
  have all : us.flatMap (fun t => [Event.done t.id (.ok v)]) =
      us.map fun t => .done t.id (.ok v) := List.map_eq_flatMap.symm
  simp only [h.others_eq, TurnEnd.kept, TurnEnd.shown, none, all, List.append_nil]

variable {w : LoadTask V} {ws : List (LoadTask V)}

/-- The first who waited finds neither a value nor a flight. -/
theorem first_turn (h : x.Led l f (w :: ws))
    (missing : x.bench.accessor.cache.get? l.key = none) :
    w.turn (x.bench.accessor.abandon l.key f) =
      ([.fetch w.id], w.leadTurn x.bench.accessor.flights.length
        ((x.bench.accessor.abandon l.key f).openFlight l.key)) := by
  have free : (x.bench.accessor.abandon l.key f).pending.get? l.key = none :=
    Table.get?_erase_self ..
  have load := Accessor.load_of_free (a := x.bench.accessor.abandon l.key f) h.truthful missing free
  have length : (x.bench.accessor.abandon l.key f).flights.length =
      x.bench.accessor.flights.length := List.length_set
  rw [h.asks List.mem_cons_self h.lost, load, length]
  rfl

/-- The first who waited is the next to take a turn. -/
theorem first_ready (h : x.Led l f (w :: ws)) :
    (x.move (.abort l.id)).bench.ready = w.id :: ws.map (·.id) ∧
      (x.move (.abort l.id)).bench.tasks.find? (·.id = w.id) = some w := by
  have sound := h.sound.move (.abort l.id)
  rw [h.abort_eq] at sound ⊢
  have mem : w ∈ x.bench.without l.id := Bench.mem_without.mpr
    ⟨(h.of_waiting List.mem_cons_self).1, h.ne_leader List.mem_cons_self⟩
  exact ⟨rfl, sound.staffed.find?_eq mem⟩

/-- If the cache holds nothing by then, the first who waited begins its
fetch. -/
theorem settle_of_missing (h : x.Led l f (w :: ws))
    (missing : x.bench.accessor.cache.get? l.key = none) :
    ∃ es, (x.move (.abort l.id)).settle.seen = x.seen ++ .fetch w.id :: es := by
  obtain ⟨next, found⟩ := h.first_ready
  have begins : ∃ es, ((x.move (.abort l.id)).bench.take w.id).1 = .fetch w.id :: es := by
    rw [Bench.take, found, h.abort_eq]
    simp only [Bench.step, h.first_turn missing, LoadTask.leadTurn]
    cases w.outcome with
    | none => exact ⟨[], rfl⟩
    | some r => exact ⟨[.done w.id r], rfl⟩
  obtain ⟨es, begins⟩ := begins
  rw [settle_of_cons next]
  refine ⟨es ++ ((x.move (.abort l.id)).move (.turn w.id)).bench.run.1, ?_⟩
  show ((x.move (.abort l.id)).seen ++ ((x.move (.abort l.id)).bench.take w.id).1) ++ _ = _
  rw [begins, h.abort_eq, List.append_assoc]
  rfl

/-- The first who waited leads, if its fetch has no outcome yet. -/
theorem first_leads (h : x.Led l f (w :: ws))
    (missing : x.bench.accessor.cache.get? l.key = none) (unknown : w.outcome = none) :
    (x.move (.abort l.id)).move (.turn w.id) =
      { x with
        bench :=
          { accessor := (x.bench.accessor.abandon l.key f).openFlight l.key
            tasks := (x.bench.without l.id).filter (·.id ≠ w.id) ++
              [{ w with standing := .leading x.bench.accessor.flights.length }]
            ready := ws.map (·.id) }
        seen := x.seen ++ [.fetch w.id] } := by
  have turn := h.first_turn missing
  rw [LoadTask.leadTurn_unknown unknown] at turn
  have found := h.first_ready.2
  rw [h.abort_eq] at found ⊢
  change (x.bench.without l.id).find? (·.id = w.id) = some w at found
  have moves : Standing.leading x.bench.accessor.flights.length ≠ w.standing := by
    rw [(h.of_waiting List.mem_cons_self).2]
    exact Standing.noConfusion
  simp only [move, Bench.take, found, Bench.step, turn, List.map_cons, List.erase_cons_head,
    Bench.park, if_neg moves]
  rfl

/-- If the cache holds nothing by then, and the fetch of the first who waited
has no outcome yet, then it leads, and the others wait for it. -/
theorem settle_of_unknown (h : x.Led l f (w :: ws))
    (missing : x.bench.accessor.cache.get? l.key = none) (unknown : w.outcome = none) :
    (x.move (.abort l.id)).settle =
      { x with
        bench :=
          { accessor := (x.bench.accessor.abandon l.key f).openFlight l.key
            tasks := x.bystanders l.id f ++
              { w with standing := .leading x.bench.accessor.flights.length } ::
                ws.map fun t => { t with standing := .waiting x.bench.accessor.flights.length }
            ready := [] }
        seen := x.seen ++ [.fetch w.id] } := by
  have sound := (h.sound.move (.abort l.id)).move (.turn w.id)
  have once := h.once
  rw [List.map_cons, List.nodup_cons] at once
  rw [settle_of_cons h.first_ready.1]
  rw [h.first_leads missing unknown] at sound ⊢
  have steady : ∀ t ∈ ws, t.Steady ((x.bench.accessor.abandon l.key f).openFlight l.key)
      (.parked { t with standing := .waiting x.bench.accessor.flights.length }) := by
    intro t among
    have announced : ((x.bench.accessor.abandon l.key f).openFlight l.key).pending.get? l.key =
        some x.bench.accessor.flights.length := by
      refine (Table.get?_insert_self ..).trans ?_
      exact congrArg some List.length_set
    have load := Accessor.load_of_announced
      (a := (x.bench.accessor.abandon l.key f).openFlight l.key) h.truthful missing announced
    have lost : ((x.bench.accessor.abandon l.key f).openFlight l.key).flights[f]? = some .lost :=
      List.getElem?_append_left (List.getElem?_eq_some_iff.mp h.lost).1 |>.trans h.lost
    refine ⟨?_, nofun, ?_⟩
    · rw [h.asks (List.mem_cons_of_mem _ among) lost, load]
      rfl
    · rintro u ⟨⟩ same
      rw [(h.of_waiting (List.mem_cons_of_mem _ among)).2] at same
      exact Nat.ne_of_gt h.lt_next (Standing.waiting.inj same)
  rw [settle_steady
    (fun t => .parked { t with standing := .waiting x.bench.accessor.flights.length })
    sound rfl ?there once.2 steady]
  case there =>
    intro t among
    have mem := (h.of_waiting (List.mem_cons_of_mem _ among)).1
    have other : t.id ≠ w.id := fun e => once.1 (e ▸ List.mem_map_of_mem among)
    have stays : t ∈ x.bench.without l.id :=
      Bench.mem_without.mpr ⟨mem, h.ne_leader (List.mem_cons_of_mem _ among)⟩
    exact List.mem_append_left _ (List.mem_filter.mpr ⟨stays, decide_eq_true other⟩)
  have none : ws.flatMap (fun _ => ([] : List (Event V))) = [] := by simp
  have others : ((x.bench.without l.id).filter (·.id ≠ w.id)).filter
      (fun t => t.id ∉ ws.map (·.id)) = x.bystanders l.id f :=
    (filter_not_mem_cons ..).trans h.others_eq
  have first : [{ w with standing := .leading x.bench.accessor.flights.length }].filter
      (fun t => t.id ∉ ws.map (·.id)) =
        [{ w with standing := .leading x.bench.accessor.flights.length }] :=
    List.filter_cons_of_pos (decide_eq_true once.1)
  have all : (ws.flatMap fun t =>
      [{ t with standing := .waiting x.bench.accessor.flights.length }]) =
        ws.map fun t => { t with standing := .waiting x.bench.accessor.flights.length } :=
    List.map_eq_flatMap.symm
  simp only [List.filter_append, others, first, TurnEnd.kept, TurnEnd.shown, none, all,
    List.append_nil, List.append_assoc, List.singleton_append]

/-- Who waits leaves when it is dropped, and nothing else changes. -/
theorem settle_abort_waiter (h : x.Led l f us) {t : LoadTask V} (among : t ∈ us) :
    (x.move (.abort t.id)).settle =
      { x with bench := { x.bench with tasks := x.bench.without t.id } } := by
  obtain ⟨mem, waits⟩ := h.of_waiting among
  have aborted : x.move (.abort t.id) =
      { x with bench := { x.bench with tasks := x.bench.without t.id } } := by
    simp only [move, Bench.abort, h.sound.staffed.find?_eq mem, waits]
  rw [aborted]
  exact settle_of_nil h.rest

end Led

/-! ## What becomes of those who wait for the next leader -/

end Course

/-- The outcome that a move gives to the fetch of a task. -/
def Move.gives? (id : String) : Move V → Option (Outcome V)
  | .finish i r => if i = id then some r else none
  | _ => none

theorem Move.gives?_eq_none {m : Move V} {id : String} (h : ∀ r, m ≠ .finish id r) :
    m.gives? id = none := by
  cases m with
  | finish i r =>
    refine if_neg ?_
    rintro rfl
    exact h r rfl
  | _ => rfl

namespace Course

variable {c : Cache V} {ns : List (Move V)} {t : LoadTask V} {g : Nat}

/-- A task that leads and has no outcome stays as it is when it takes a
turn. -/
theorem mem_of_turn {x : Course V} (sound : x.Sound) (mem : t ∈ x.bench.tasks)
    (leads : t.standing = .leading g) (unknown : t.outcome = none) :
    t ∈ (x.move (.turn t.id)).bench.tasks := by
  have parked : { t with standing := .leading g } = t := by rw [← leads]
  have turn : t.turn x.bench.accessor = ([], .parked t, x.bench.accessor) := by
    simp only [LoadTask.turn, leads, LoadTask.leadTurn_unknown unknown, parked]
  simp only [move, Bench.take, sound.staffed.find?_eq mem, Bench.step, turn]
  exact (Bench.mem_park (b := { x.bench with ready := _ }) mem rfl).mpr (.inr rfl)

/-- A task that is given an outcome has it, unless it had one before. -/
theorem mem_of_finish {x : Course V} (sound : x.Sound) (mem : t ∈ x.bench.tasks) (r : Outcome V) :
    { t with outcome := t.outcome.or (some r) } ∈ (x.move (.finish t.id r)).bench.tasks := by
  cases known : t.outcome with
  | none =>
    simp only [move, Bench.finish, sound.staffed.find?_eq mem, known, Option.isSome_none,
      Bool.false_eq_true, if_false]
    refine List.mem_map.mpr ⟨t, mem, ?_⟩
    rw [if_pos rfl]
    rfl
  | some s =>
    simp only [move, Bench.finish, sound.staffed.find?_eq mem, known, Option.isSome_some, if_true]
    have same : { t with outcome := some s } = t := by rw [← known]
    exact same ▸ mem

/-- A task that leads goes on leading, with the outcome that it has been
given, if any, and those who wait for it go on waiting; or there was a moment
at which it had its outcome and took its last turn. -/
theorem lead_goes_on (mem : t ∈ (play c ns).bench.tasks) (leads : t.standing = .leading g)
    (unknown : t.outcome = none) (later : List (Move V)) (kept : .abort t.id ∉ later) :
    ({ t with outcome := later.findSome? (·.gives? t.id) } ∈ (play c (ns ++ later)).bench.tasks ∧
      ∀ u ∈ (play c ns).bench.tasks, u.standing = .waiting g → .abort u.id ∉ later →
        (play c (ns ++ later)).bench.At u.id u.key (.waiting g)) ∨
    ∃ q₁ q₂ r, later = q₁ ++ .turn t.id :: q₂ ∧ later.findSome? (·.gives? t.id) = some r ∧
      (play c (ns ++ q₁)).bench.Lands { t with outcome := some r } g r ∧
      ∀ u ∈ (play c ns).bench.tasks, u.standing = .waiting g → .abort u.id ∉ q₁ →
        (play c (ns ++ q₁)).bench.At u.id u.key (.waiting g) := by
  induction later using List.reverseRecOn with
  | nil =>
    rw [List.append_nil]
    have same : { t with outcome := none } = t := by rw [← unknown]
    refine .inl ⟨?_, fun u hu waits _ => ⟨u, hu, rfl, rfl, waits⟩⟩
    rw [List.findSome?_nil, same]
    exact mem
  | append_singleton later m ih =>
    rw [List.mem_append, List.mem_singleton, not_or] at kept
    obtain ⟨kept, other⟩ := kept
    rw [List.findSome?_append]
    rcases ih kept with ⟨there, waiting⟩ | ⟨q₁, q₂, r, rfl, given, lands, waiting⟩
    · rw [← List.append_assoc, play_concat]
      have sound := sound_play c (ns ++ later)
      generalize given : later.findSome? (·.gives? t.id) = o at there
      have waiting' : ∀ u ∈ (play c ns).bench.tasks, u.standing = .waiting g →
          .abort u.id ∉ later ++ [m] →
          ((play c (ns ++ later)).move m).bench.At u.id u.key (.waiting g) := by
        intro u hu waits stays
        rw [List.mem_append, List.mem_singleton, not_or] at stays
        obtain ⟨v, hv, id, key, waits⟩ := waiting u hu waits stays.1
        have going := sound.staffed.going_of_leading there leads
        rw [← id, ← key]
        exact (moved sound.named m).waits_on sound.staffed hv waits going
          (id ▸ Ne.symm stays.2)
      by_cases turns : m = .turn t.id
      · subst turns
        cases o with
        | none =>
          exact .inl ⟨mem_of_turn sound there leads rfl, waiting'⟩
        | some r =>
          exact .inr ⟨later, [], r, rfl, rfl, ⟨there, leads, rfl⟩, waiting⟩
      · by_cases gives : ∃ r, m = .finish t.id r
        · obtain ⟨r, rfl⟩ := gives
          have had := mem_of_finish sound there r
          refine .inl ⟨?_, waiting'⟩
          simpa [Move.gives?] using had
        · have none : m.gives? t.id = none := Move.gives?_eq_none fun r e => gives ⟨r, e⟩
          obtain ⟨u, hu, _, _, _, same⟩ := (moved sound.named m).stays there (Ne.symm other) turns
          obtain rfl := same fun r e => gives ⟨r, e⟩
          refine .inl ⟨?_, waiting'⟩
          simpa [none] using hu
    · refine .inr ⟨q₁, q₂ ++ [m], r, List.append_assoc .., ?_, lands, waiting⟩
      rw [given]
      rfl

/-- What has been seen stays seen. -/
theorem seen_append (c : Cache V) (ms later : List (Move V)) {e : Event V}
    (h : e ∈ (play c ms).seen) : e ∈ (play c (ms ++ later)).seen := by
  induction later using List.reverseRecOn with
  | nil => rwa [List.append_nil]
  | append_singleton later m ih =>
    rw [← List.append_assoc, play_concat, seen_move]
    exact List.mem_append_left _ ih

/-- When no task is ready, a task that was to lead on, and those who waited
for it, have reported the outcome that its fetch has been given, and nothing
if it has been given none. -/
theorem reports_of_lead (mem : t ∈ (play c ns).bench.tasks) (leads : t.standing = .leading g)
    (unknown : t.outcome = none) (later : List (Move V)) (kept : .abort t.id ∉ later)
    (rest : (play c (ns ++ later)).bench.ready = []) :
    (play c (ns ++ later)).reports t.id = (later.findSome? (·.gives? t.id)).toList ∧
      ∀ u ∈ (play c ns).bench.tasks, u.standing = .waiting g → .abort u.id ∉ later →
        (play c (ns ++ later)).reports u.id = (later.findSome? (·.gives? t.id)).toList := by
  have logged := logged_play c (ns ++ later)
  rcases lead_goes_on mem leads unknown later kept with
    ⟨there, waiting⟩ | ⟨q₁, q₂, r, rfl, given, lands, waiting⟩
  · -- it would be ready if it had its outcome
    have idle := (awake_play c (ns ++ later) _ there).resolve_left
      (by rw [rest]; exact List.not_mem_nil)
    have none : later.findSome? (·.gives? t.id) = none := idle.unknown leads
    rw [none]
    have silent := logged.unreported _ there
    refine ⟨silent, fun u hu waits stays => ?_⟩
    obtain ⟨v, hv, id, _⟩ := waiting u hu waits stays
    exact id ▸ logged.unreported v hv
  · rw [given]
    have split : ns ++ (q₁ ++ .turn t.id :: q₂) = ns ++ q₁ ++ .turn t.id :: q₂ :=
      (List.append_assoc ..).symm
    rw [split] at rest ⊢
    refine ⟨reports_unique c _ ?_, fun u hu waits stays => ?_⟩
    · rw [List.append_cons]
      apply seen_append
      rw [play_concat, seen_move]
      exact List.mem_append_right _ (yields_of_lands lands).shown
    · rw [List.mem_append, not_or, List.mem_cons, not_or] at stays
      obtain ⟨v, hv, id, _, waits⟩ := waiting u hu waits stays.1
      have stays' : .abort v.id ∉ q₂ := id ▸ stays.2.2
      exact id ▸ reports_at_rest lands hv waits stays' .refl rest

/-- A call that is dropped reports nothing any more, and its fetch does not
begin any more. -/
theorem quiet_of_abort {c : Cache V} {ms : List (Move V)} {l : LoadTask V}
    (mem : l ∈ (play c ms).bench.tasks) (later : List (Move V)) :
    (play c (ms ++ .abort l.id :: later)).reports l.id = [] ∧
      (play c (ms ++ .abort l.id :: later)).begun l.id = (play c ms).begun l.id := by
  have sound := sound_play c ms
  have gone : ∀ t ∈ (play c (ms ++ [.abort l.id])).bench.tasks, t.id ≠ l.id := by
    intro t there
    rw [play_concat, move, Bench.abort, sound.staffed.find?_eq mem] at there
    simp only at there
    split at there <;> exact (Bench.mem_without.mp there).2
  have named := names_append [.abort l.id] (sound.named l mem)
  obtain ⟨_, _, begun, reports⟩ := quiet_of_gone named gone later
  rw [List.append_cons, begun, reports, play_concat, reports_move, begun_move,
    (logged_play c ms).unreported l mem]
  exact ⟨rfl, rfl⟩

/-- Hand-over. Whatever moves have been made, let no task be ready, no read
be about to report nothing, and a load `l` lead a flight for which tasks
wait, `w` and then `ws`, which is the order in which they joined the flight.
When `l` is dropped,

- the cache stays as it is, and `l` reports nothing any more, whatever
  happens later;
- if the cache holds a value for the key, then all who waited report it,
  and no fetch begins;
- if it holds none, then the fetch of `w` begins; and if that fetch has no
  outcome yet, then `w` leads a new flight for the key, all others wait for
  it, and no other fetch has begun. From then on, whatever happens, as long
  as `w` is not dropped: when no task is ready, `w` and all others that have
  not been dropped have reported the outcome that the fetch of `w` has been
  given, and nothing if it has been given none.

When one of those who wait is dropped instead, it leaves, and nothing else
changes. -/
theorem handed_over (c : Cache V) (ms : List (Move V)) (rest : (play c ms).bench.ready = [])
    (truthful : (play c ms).bench.accessor.misses = 0) {l w : LoadTask V}
    {ws : List (LoadTask V)} {f : Nat} (mem : l ∈ (play c ms).bench.tasks)
    (leads : l.standing = .leading f)
    (waiting : (play c ms).bench.tasks.filter (·.standing = .waiting f) = w :: ws) :
    let x := play c ms
    let y := (x.move (.abort l.id)).settle
    let g := x.bench.accessor.flights.length
    ((w :: ws).map (·.id)).Pairwise (JoinedBefore c ms f) ∧
    (x.move (.abort l.id)).bench.accessor.cache = x.bench.accessor.cache ∧
    (∀ later, (play c (ms ++ .abort l.id :: later)).reports l.id = [] ∧
      (play c (ms ++ .abort l.id :: later)).begun l.id = x.begun l.id) ∧
    (∀ v, x.bench.accessor.cache.get? l.key = some v →
      y = { x with
        bench :=
          { accessor := x.bench.accessor.abandon l.key f
            tasks := x.bystanders l.id f
            ready := [] }
        seen := x.seen ++ (w :: ws).map fun t => .done t.id (.ok v) }) ∧
    (x.bench.accessor.cache.get? l.key = none →
      (∃ es, y.seen = x.seen ++ .fetch w.id :: es) ∧
      (w.outcome = none →
        y = { x with
          bench :=
            { accessor := (x.bench.accessor.abandon l.key f).openFlight l.key
              tasks := x.bystanders l.id f ++ { w with standing := .leading g } ::
                ws.map fun t => { t with standing := .waiting g }
              ready := [] }
          seen := x.seen ++ [.fetch w.id] } ∧
        ∀ later : List (Move V), .abort w.id ∉ later → (later.foldl move y).bench.ready = [] →
          ∀ t ∈ w :: ws, .abort t.id ∉ later →
            (later.foldl move y).reports t.id = (later.findSome? (·.gives? w.id)).toList)) ∧
    ∀ t ∈ w :: ws, (x.move (.abort t.id)).settle =
      { x with bench := { x.bench with tasks := x.bench.without t.id } } := by
  intro x y g
  have led : x.Led l f (w :: ws) := ⟨sound_play c ms, rest, truthful, mem, leads, waiting⟩
  refine ⟨?_, ?_, quiet_of_abort mem, fun v held => led.settle_of_held held,
    fun missing => ⟨led.settle_of_missing missing, fun unknown => ?_⟩,
    fun t among => led.settle_abort_waiter among⟩
  · have joined := joined_in_order c ms f
    rwa [Bench.waiters, waiting] at joined
  · rw [led.abort_eq]
    rfl
  · have settled := led.settle_of_unknown missing unknown
    refine ⟨settled, fun later kept rest t among stays => ?_⟩
    obtain ⟨ids, played⟩ := (turns_settle (play c (ms ++ [.abort l.id]))).1.eq_play
    generalize ms ++ [.abort l.id] ++ ids.map .turn = ns at played
    rw [play_concat] at played
    change y = play c ns at played
    have tasks : (play c ns).bench.tasks = x.bystanders l.id f ++
        { w with standing := .leading g } ::
          ws.map fun t => { t with standing := .waiting g } := by
      rw [← played]
      exact congrArg (·.bench.tasks) settled
    rw [played, ← play_append] at rest ⊢
    have leader : { w with standing := .leading g } ∈ (play c ns).bench.tasks := by
      rw [tasks]
      exact List.mem_append_right _ List.mem_cons_self
    obtain ⟨own, shared⟩ := reports_of_lead leader rfl unknown later kept rest
    rcases List.mem_cons.mp among with rfl | other
    · exact own
    · refine shared { t with standing := .waiting g } ?_ rfl stays
      rw [tasks]
      exact List.mem_append_right _
        (List.mem_cons_of_mem _ (List.mem_map.mpr ⟨t, other, rfl⟩))

/-- Three loads for one key. The first leads, and the others wait for it. -/
def leaderAndTwo : List (Move Nat) := leaderAndWaiter ++ [.call "c" .load "k" none, .turn "c"]

/-- The second of three loads takes over from the first, and the third
reports what the second is given. -/
theorem handed_over_to_second :
    ((play {} leaderAndTwo).move (.abort "a")).settle.seen = [.fetch "a", .fetch "b"] ∧
    (([.finish "b" (.ok 1), .turn "b", .turn "c"] : List (Move Nat)).foldl move
      ((play {} leaderAndTwo).move (.abort "a")).settle).reports "c" = [.ok 1] := by
  let a : LoadTask Nat :=
    { id := "a", purpose := .load, key := "k", outcome := none, standing := .leading 0 }
  let b : LoadTask Nat :=
    { id := "b", purpose := .load, key := "k", outcome := none, standing := .waiting 0 }
  let c : LoadTask Nat :=
    { id := "c", purpose := .load, key := "k", outcome := none, standing := .waiting 0 }
  have mem : a ∈ (play {} leaderAndTwo).bench.tasks := List.mem_cons_self
  have waiting : (play {} leaderAndTwo).bench.tasks.filter (·.standing = .waiting 0) = [b, c] := rfl
  obtain ⟨_, _, _, _, missing, _⟩ := handed_over {} leaderAndTwo rfl rfl mem rfl waiting
  obtain ⟨settled, later⟩ := (missing rfl).2 rfl
  have rest : (([.finish "b" (.ok 1), .turn "b", .turn "c"] : List (Move Nat)).foldl move
      ((play {} leaderAndTwo).move (.abort "a")).settle).bench.ready = [] := by
    rw [settled]
    rfl
  refine ⟨by rw [settled]; rfl, ?_⟩
  exact later _ (by simp) rest c (by simp) (by simp)

end Course

end LearningClient.Rehearsal
