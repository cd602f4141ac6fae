import LearningClient.Proofs.Loads.Truthful
import LearningClient.Proofs.Loads.Writes

/-!
# The lane of a key

What a bench is for one key alone: the value that the cache holds, whether a
flight is announced, the loads of the key and where they stand, which of them
are ready, and what has been seen of them (`Lane`). A lane has moves of its
own, with no other key, no other task and no number of a flight in them: a
load that waits knows what has become of its flight, and is told when that
changes.

`Course.lane` is the lane of a key at a course, for the calls that are meant.
It says what it should as long as the calls that are meant are the loads of
the key (`Course.Apart`); then those who wait for the flight of the key are
the loads of the lane that wait for one that goes on
(`Course.Apart.waiters_eq`). That moves at a course are moves at its lane, or
none, is said in the next module.
-/

namespace LearningClient.Rehearsal

open LearningClient

variable {V : Type}

/-! ## A lane -/

/-- Where a load stands, as far as its key is concerned. -/
inductive Stance (V : Type)
  | fresh
  | leads
  /-- It waits for a flight, and this has become of the flight. -/
  | waits (flight : Flight V)
deriving Repr

/-- Whether the flight that is waited for goes on. -/
def Stance.patient : Stance V → Bool
  | .waits .open_ => true
  | _ => false

/-- A load of a key. -/
structure Rider (V : Type) where
  id : String
  outcome : Option (Outcome V)
  stance : Stance V
deriving Repr

/-- A load hears what has become of the flight that it waits for. -/
def Rider.hear (x : Flight V) (r : Rider V) : Rider V :=
  if r.stance.patient then { r with stance := .waits x } else r

/-- The fetch of a load is given its outcome, if the load is the one
meant. -/
def Rider.given (id : String) (o : Outcome V) (r : Rider V) : Rider V :=
  if r.id = id then { r with outcome := some o } else r

/-- What there is of a course for one key. -/
@[ext]
structure Lane (V : Type) where
  held : Option V
  retains : Bool
  /-- Whether a flight is announced under the key. -/
  busy : Bool
  riders : List (Rider V)
  ready : List String
  names : List String
  seen : List (Event V)
deriving Repr

namespace Lane

/-- A value is put into the cache. -/
def put (l : Lane V) (v : V) : Lane V :=
  { l with held := if l.retains then some v else l.held }

/-- The result of a fetch is cached, if it is a success. -/
def store (l : Lane V) (o : Outcome V) : Lane V :=
  { l with
    held := match o with
      | .ok v => (l.put v).held
      | .error _ => l.held }

/-- The flight of the key is over, and those who wait for it become ready. -/
def close (l : Lane V) (x : Flight V) : Lane V :=
  { l with
    busy := false
    riders := l.riders.map (·.hear x)
    ready := l.ready ++ (l.riders.filter (·.stance.patient)).map (·.id) }

/-- A load goes on later. -/
def park (l : Lane V) (r : Rider V) (s : Stance V) : Lane V :=
  { l with riders := l.riders ++ [{ r with stance := s }] }

/-- A load is over. -/
def report (l : Lane V) (r : Rider V) (o : Outcome V) : Lane V :=
  { l with seen := l.seen ++ [.done r.id o] }

/-- The turn of a load that leads. -/
def lead (l : Lane V) (r : Rider V) : Lane V :=
  match r.outcome with
  | none => l.park r .leads
  | some o => ((l.store o).close (.landed o)).report r o

/-- A load announces a flight and begins its fetch. -/
def start (l : Lane V) (r : Rider V) : Lane V :=
  { l with busy := true, seen := l.seen ++ [.fetch r.id] }

/-- The turn of a load that asks for the key. -/
def ask (l : Lane V) (r : Rider V) : Lane V :=
  match l.held with
  | some v => l.report r (.ok v)
  | none => if l.busy then l.park r (.waits .open_) else (l.start r).lead r

/-- A load, or what is no longer there, is not ready any more. -/
def rest (l : Lane V) (id : String) : Lane V := { l with ready := l.ready.erase id }

/-- The lane without a load, which is no longer ready. -/
def without (l : Lane V) (id : String) : Lane V :=
  { l with riders := l.riders.filter (·.id ≠ id), ready := l.ready.erase id }

/-- The turn of a load. While its fetch goes on, or the flight that it waits for,
it keeps its place. -/
def serve (l : Lane V) (r : Rider V) : Lane V :=
  match r.stance with
  | .fresh => (l.without r.id).ask r
  | .leads => if r.outcome.isNone then l.rest r.id else (l.without r.id).lead r
  | .waits .open_ => l.rest r.id
  | .waits (.landed o) => (l.without r.id).report r o
  | .waits .lost => (l.without r.id).ask r

/-- A load takes its turn. -/
def turn (l : Lane V) (id : String) : Lane V :=
  match l.riders.find? (·.id = id) with
  | none => l.rest id
  | some r => l.serve r

/-- A load is called. -/
def call (l : Lane V) (id : String) (outcome : Option (Outcome V)) : Lane V :=
  if id ∈ l.names then l
  else
    { l with
      riders := l.riders ++ [{ id, outcome, stance := .fresh }]
      ready := l.ready ++ [id]
      names := l.names ++ [id] }

/-- The fetch of a load is given its outcome. -/
def finish (l : Lane V) (id : String) (o : Outcome V) : Lane V :=
  match l.riders.find? (·.id = id) with
  | none => l
  | some r =>
    if r.outcome.isSome then l
    else
      { l with
        riders := l.riders.map (·.given id o)
        ready := match r.stance with
          | .leads => l.ready ++ [id]
          | _ => l.ready }

/-- A load is dropped. -/
def abort (l : Lane V) (id : String) : Lane V :=
  match l.riders.find? (·.id = id) with
  | none => l
  | some r =>
    let rest : Lane V := { l with riders := l.riders.filter (·.id ≠ id) }
    match r.stance with
    | .leads => rest.close .lost
    | _ => rest

/-- What a move that is about the key, or about one of its loads, makes of
the lane. -/
def move (l : Lane V) : Move V → Lane V
  | .call id _ _ outcome => l.call id outcome
  | .turn id => l.turn id
  | .finish id o => l.finish id o
  | .abort id => l.abort id
  | .cacheResource _ v => l.put v
  | .invalidate _ => { l with held := none }
  | .read _ => l
  | .miss _ => l

end Lane

section
variable {l : Lane V} {r : Rider V}

theorem Lane.lead_unknown (unknown : r.outcome = none) : l.lead r = l.park r .leads := by
  simp only [lead, unknown]

theorem Lane.lead_known {o : Outcome V} (known : r.outcome = some o) :
    l.lead r = ((l.store o).close (.landed o)).report r o := by
  simp only [lead, known]

theorem Lane.ask_held {v : V} (held : l.held = some v) : l.ask r = l.report r (.ok v) := by
  simp only [ask, held]

theorem Lane.ask_busy (missing : l.held = none) (busy : l.busy = true) :
    l.ask r = l.park r (.waits .open_) := by
  simp only [ask, missing, busy, if_true]

theorem Lane.ask_free (missing : l.held = none) (free : l.busy = false) :
    l.ask r = (l.start r).lead r := by
  simp only [ask, missing, free, Bool.false_eq_true, if_false]

end

/-- Nobody hears that a flight is over which nobody waits for. -/
theorem Lane.close_of_impatient {l : Lane V} (x : Flight V)
    (nobody : ∀ r ∈ l.riders, r.stance.patient = false) : l.close x = { l with busy := false } := by
  have same : l.riders.map (·.hear x) = l.riders := by
    refine (List.map_congr_left fun r mem => ?_).trans (List.map_id _)
    rw [Rider.hear, nobody r mem]
    rfl
  have none : l.riders.filter (·.stance.patient) = [] := by
    rw [List.filter_eq_nil_iff]
    intro r mem
    rw [nobody r mem]
    exact Bool.false_ne_true
  simp only [Lane.close, same, none, List.map_nil, List.append_nil]

/-! ## The lane of a key at a course -/

/-- A task, by what has become of the flights. -/
def LoadTask.rider (flights : List (Flight V)) (t : LoadTask V) : Rider V where
  id := t.id
  outcome := t.outcome
  stance :=
    match t.standing with
    | .fresh => .fresh
    | .fetching => .fresh
    | .leading _ => .leads
    | .waiting f => .waits (flights[f]?.getD .open_)

/-- The tasks that are meant, by what has become of the flights. -/
def riders (mine : String → Bool) (flights : List (Flight V)) (ts : List (LoadTask V)) :
    List (Rider V) :=
  (ts.filter (mine ·.id)).map (·.rider flights)

/-- What there is of a bench for a key, and for those of its tasks that are
meant. -/
def Course.lane (k : String) (mine : String → Bool) (x : Course V) : Lane V where
  held := x.bench.accessor.cache.get? k
  retains := x.bench.accessor.cache.retains
  busy := x.bench.accessor.pending.contains k
  riders := riders mine x.bench.accessor.flights x.bench.tasks
  ready := x.bench.ready.filter mine
  names := x.names.filter mine
  seen := x.seen.filter (mine ·.id)

section
variable {mine : String → Bool} {flights flights' : List (Flight V)} {ts : List (LoadTask V)}

theorem LoadTask.rider_congr {t : LoadTask V}
    (same : ∀ f, t.standing = .waiting f → flights'[f]? = flights[f]?) :
    t.rider flights' = t.rider flights := by
  unfold rider
  cases stands : t.standing with
  | waiting f => simp only [same f stands]
  | _ => rfl

/-- A load waits for a flight that goes on. -/
theorem LoadTask.patient_rider {t : LoadTask V}
    (patient : (t.rider flights).stance.patient = true) :
    ∃ f, t.standing = .waiting f ∧ ∀ y, flights[f]? = some y → ¬ y.Over := by
  unfold rider at patient
  cases stands : t.standing with
  | waiting f =>
    refine ⟨f, rfl, fun y known isOver => ?_⟩
    simp only [stands, known, Option.getD_some] at patient
    cases y with
    | open_ => exact isOver rfl
    | landed r => cases patient
    | lost => cases patient
  | _ =>
    simp only [stands] at patient
    cases patient

theorem riders_congr
    (same : ∀ t ∈ ts, mine t.id = true → t.rider flights' = t.rider flights) :
    riders mine flights' ts = riders mine flights ts := by
  apply List.map_congr_left
  intro t mem
  obtain ⟨mem, own⟩ := List.mem_filter.mp mem
  exact same t mem own

theorem riders_append (us : List (LoadTask V)) :
    riders mine flights (ts ++ us) = riders mine flights ts ++ riders mine flights us := by
  simp [riders]

theorem riders_own {t : LoadTask V} (own : mine t.id = true) :
    riders mine flights [t] = [t.rider flights] := by
  simp [riders, own]

theorem mem_riders {r : Rider V} :
    r ∈ riders mine flights ts ↔
      ∃ t ∈ ts, mine t.id = true ∧ t.rider flights = r := by
  simp only [riders, List.mem_map, List.mem_filter, and_assoc]

/-- A name that is not meant is the name of no load of the key. -/
theorem ne_of_foreign {id : String} (foreign : mine id = false) {r : Rider V}
    (among : r ∈ riders mine flights ts) : r.id ≠ id := by
  obtain ⟨t, _, own, rfl⟩ := mem_riders.mp among
  rintro rfl
  exact absurd (own.symm.trans foreign) (by decide)

/-- The loads of a key without one. -/
theorem riders_without (b : Bench V) (id : String) :
    riders mine flights (b.without id) = (riders mine flights b.tasks).filter (·.id ≠ id) := by
  simp only [riders, Bench.without, List.filter_map, List.filter_filter]
  congr 1
  apply List.filter_congr
  intro t _
  simp [LoadTask.rider, Bool.and_comm]

theorem riders_without_foreign (b : Bench V) {id : String} (foreign : mine id = false) :
    riders mine flights (b.without id) = riders mine flights b.tasks := by
  rw [riders_without, List.filter_eq_self]
  intro r among
  exact decide_eq_true (ne_of_foreign foreign among)

/-- A load is found among those of its key. -/
theorem find?_riders (flights : List (Flight V)) (ts : List (LoadTask V)) {id : String}
    (own : mine id = true) :
    (riders mine flights ts).find? (·.id = id) =
      (ts.find? (·.id = id)).map (·.rider flights) := by
  rw [riders, List.find?_map, List.find?_filter]
  congr 2
  funext t
  by_cases same : t.id = id
  · simp [LoadTask.rider, same, own]
  · simp [LoadTask.rider, same]

end

/-- What is taken out is gone, if it is meant. -/
theorem filter_erase_own {mine : String → Bool} {id : String} (own : mine id = true)
    (l : List String) : (l.erase id).filter mine = (l.filter mine).erase id := by
  induction l with
  | nil => rfl
  | cons i l ih =>
    by_cases same : i = id
    · subst same
      simp [own]
    · rw [List.erase_cons_tail (by simpa using same)]
      cases here : mine i with
      | true => simp [here, List.erase_cons_tail, same, ih]
      | false => simp [here, ih]

theorem filter_erase_foreign {mine : String → Bool} {id : String} (foreign : mine id = false)
    (l : List String) : (l.erase id).filter mine = l.filter mine := by
  induction l with
  | nil => rfl
  | cons i l ih =>
    by_cases same : i = id
    · subst same
      simp [foreign]
    · rw [List.erase_cons_tail (by simpa using same)]
      simp [List.filter_cons, ih]

/-! ## Tasks of their own key -/

/-- The names that are meant are those of the loads of the key, and no read of
the cache reports nothing. -/
structure Course.Apart (k : String) (mine : String → Bool) (x : Course V) : Prop where
  sound : x.Sound
  truthful : x.bench.accessor.misses = 0
  ours : ∀ t ∈ x.bench.tasks, mine t.id = true ↔ t.purpose = .load ∧ t.key = k

namespace Course.Apart

variable {k : String} {mine : String → Bool} {x : Course V} {t : LoadTask V}

/-- A task that leads or waits, and is not meant, is at another key. -/
theorem other_key (h : x.Apart k mine) (mem : t ∈ x.bench.tasks) (foreign : mine t.id = false)
    (inside : ¬ t.Outside) : k ≠ t.key := by
  rintro rfl
  have own := (h.ours t mem).mpr ⟨h.sound.staffed.load_of_inside mem inside, rfl⟩
  rw [foreign] at own
  cases own

/-- What a load of the key waits for is over, or is the flight of the key. -/
theorem awaited (h : x.Apart k mine) (mem : t ∈ x.bench.tasks) (own : mine t.id = true) {f : Nat}
    (waits : t.standing = .waiting f) :
    (∃ y, x.bench.accessor.flights[f]? = some y ∧ y.Over) ∨
      x.bench.accessor.pending.get? k = some f := by
  have key := ((h.ours t mem).mp own).2
  exact key ▸ h.sound.staffed.flights.awaited ⟨t, mem, rfl, rfl, waits⟩

/-- A load that waits for the flight of the key is meant, and the flight goes
on. -/
theorem waits_iff (h : x.Apart k mine) (mem : t ∈ x.bench.tasks) {f : Nat}
    (announced : x.bench.accessor.pending.get? k = some f) :
    t.standing = .waiting f ↔
      mine t.id = true ∧ (t.rider x.bench.accessor.flights).stance.patient = true := by
  have going := h.sound.staffed.flights.going announced
  constructor
  · intro waits
    have at_key := h.sound.staffed.announced_of_waiting ⟨t, mem, rfl, rfl, waits⟩ going
    have key := h.sound.staffed.flights.apart at_key announced
    have load := h.sound.staffed.load_of_standing mem (.inr waits)
    refine ⟨(h.ours t mem).mpr ⟨load, key⟩, ?_⟩
    simp [LoadTask.rider, waits, going, Stance.patient]
  · rintro ⟨own, patient⟩
    obtain ⟨g, stands, going⟩ := LoadTask.patient_rider patient
    rcases h.awaited mem own stands with ⟨y, known, isOver⟩ | at_key
    · exact absurd isOver (going y known)
    · rw [at_key] at announced
      rw [stands, Option.some.inj announced]

/-- Those who wait for the flight of the key, in the order in which they joined
it. -/
theorem waiters_eq (h : x.Apart k mine) {f : Nat}
    (announced : x.bench.accessor.pending.get? k = some f) :
    x.bench.waiters f =
      ((riders mine x.bench.accessor.flights x.bench.tasks).filter (·.stance.patient)).map
        (·.id) := by
  rw [Bench.waiters, riders, List.filter_map, List.filter_filter, List.map_map]
  have same : x.bench.tasks.filter (·.standing = .waiting f) =
      x.bench.tasks.filter fun t =>
        ((·.stance.patient) ∘ (·.rider x.bench.accessor.flights)) t && mine t.id := by
    apply List.filter_congr
    intro t mem
    rw [Bool.eq_iff_iff, decide_eq_true_iff, h.waits_iff mem announced, Bool.and_eq_true, and_comm]
    rfl
  rw [same]
  rfl

/-- The flight of the key is over, and its waiters hear what has become of
it. -/
theorem riders_set (h : x.Apart k mine) {f : Nat} (y : Flight V)
    (announced : x.bench.accessor.pending.get? k = some f) :
    riders mine (x.bench.accessor.flights.set f y) x.bench.tasks =
      (riders mine x.bench.accessor.flights x.bench.tasks).map (·.hear y) := by
  have lt : f < x.bench.accessor.flights.length :=
    (List.getElem?_eq_some_iff.mp (h.sound.staffed.flights.going announced)).1
  rw [riders, riders, List.map_map]
  apply List.map_congr_left
  intro t mem
  obtain ⟨mem, own⟩ := List.mem_filter.mp mem
  have iff := h.waits_iff mem announced
  rw [Function.comp_apply, Rider.hear]
  split
  · rename_i patient
    have waits := iff.mpr ⟨own, patient⟩
    simp [LoadTask.rider, waits, List.getElem?_set_self lt]
  · rename_i impatient
    apply LoadTask.rider_congr
    intro g waits
    apply List.getElem?_set_ne
    rintro rfl
    exact impatient (iff.mp waits).2

/-- A new flight concerns nobody yet. -/
theorem riders_open (h : x.Apart k mine) (fs : List (Flight V)) :
    riders mine (x.bench.accessor.flights ++ fs) x.bench.tasks =
      riders mine x.bench.accessor.flights x.bench.tasks := by
  apply riders_congr
  intro t mem own
  apply LoadTask.rider_congr
  intro f waits
  exact List.getElem?_append_left (h.sound.staffed.lt_of_waiting ⟨t, mem, rfl, rfl, waits⟩)

/-- While the key has no flight, nobody waits for one that goes on. -/
theorem nobody_waits (h : x.Apart k mine)
    (free : x.bench.accessor.pending.get? k = none) :
    ∀ r ∈ riders mine x.bench.accessor.flights x.bench.tasks, r.stance.patient = false := by
  intro r among
  obtain ⟨t, mem, own, rfl⟩ := mem_riders.mp among
  rw [← Bool.not_eq_true]
  intro patient
  obtain ⟨f, stands, going⟩ := LoadTask.patient_rider patient
  rcases h.awaited mem own stands with ⟨y, known, isOver⟩ | announced
  · exact going y known isOver
  · rw [free] at announced
    cases announced

/-- Moves keep it, but for misses that are set, and calls whose names are
meant for others. -/
theorem move (h : x.Apart k mine) (m : Move V) (set : ∀ n, m ≠ .miss n)
    (meant : ∀ id purpose key outcome, m = .call id purpose key outcome → id ∉ x.names →
      (mine id = true ↔ purpose = .load ∧ key = k)) : (x.move m).Apart k mine where
  sound := h.sound.move m
  truthful := misses_move h.truthful set
  ours := by
    intro u mem
    rcases (moved h.sound.named m).origin mem with ⟨t, old, id, key, purpose⟩ | ⟨rfl, _⟩
    · rw [← id, ← key, ← purpose]
      exact h.ours t old
    · by_cases used : u.id ∈ x.names
      · simp only [Course.move, if_pos used] at mem
        exact h.ours u mem
      · exact meant _ _ _ _ rfl used

/-- No load of the key waits for what a task leads that is not meant. -/
theorem not_led_elsewhere (h : x.Apart k mine) (mem : t ∈ x.bench.tasks)
    (foreign : mine t.id = false) {f : Nat} (leads : t.standing = .leading f) {u : LoadTask V}
    (other : u ∈ x.bench.tasks) (own : mine u.id = true) : u.standing ≠ .waiting f := by
  intro waits
  have announced := h.sound.staffed.announced mem leads
  have going := h.sound.staffed.flights.going announced
  have inside : ¬ t.Outside := fun outside => outside.idle f leads
  rcases h.awaited other own waits with ⟨y, hy, isOver⟩ | at_key
  · rw [going] at hy
    exact isOver (Option.some.inj hy).symm
  · exact h.other_key mem foreign inside (h.sound.staffed.flights.apart at_key announced)


end Course.Apart

end LearningClient.Rehearsal
