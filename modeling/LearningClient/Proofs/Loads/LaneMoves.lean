import LearningClient.Proofs.Loads.Lane

/-!
# Moves at the lane of a key

A turn of a load of the key is its turn at the lane
(`Course.Apart.turn_own`), and a turn of anybody else leaves the lane as it
is (`Course.Apart.turn_foreign`). The same goes for every other move that
does not set misses (`Course.Apart.move_own`, `Course.Apart.move_foreign`),
and so for what comes of it when the tasks that are ready take their turns
(`Course.Apart.settles`).
-/

namespace LearningClient.Rehearsal

open LearningClient

variable {V : Type}

/-! ## Turns of others -/

namespace Course.Apart

variable {k : String} {mine : String → Bool} {x : Course V} {t : LoadTask V}

/-- Nobody who waits for what a task leads is meant, if the task is not. -/
theorem nobody_elsewhere (h : x.Apart k mine) (mem : t ∈ x.bench.tasks)
    (foreign : mine t.id = false) {f : Nat} (leads : t.standing = .leading f) :
    (x.bench.waiters f).filter mine = [] := by
  rw [List.filter_eq_nil_iff]
  intro i waiting own
  obtain ⟨u, among, rfl, waits⟩ := Bench.of_mem_waiters waiting
  exact h.not_led_elsewhere mem foreign leads among own waits

/-- What the turn of a task that is not meant leaves for the key. -/
structure Untouched (x : Course V) (k : String) (mine : String → Bool) (a : Accessor V)
    (flight : Option Nat) : Prop where
  held : a.cache.get? k = x.bench.accessor.cache.get? k
  retains : a.cache.retains = x.bench.accessor.cache.retains
  pending : a.pending.get? k = x.bench.accessor.pending.get? k
  riders : riders mine a.flights x.bench.tasks =
    riders mine x.bench.accessor.flights x.bench.tasks
  woken : ∀ f, flight = some f → (x.bench.waiters f).filter mine = []

/-- The flight that ends with a task. -/
def ended : TurnEnd V → Option Nat
  | .parked _ => none
  | .over _ flight => flight

theorem untouched (h : x.Apart k mine) (mem : t ∈ x.bench.tasks) (foreign : mine t.id = false)
    {es : List (Event V)} {e : TurnEnd V} {a : Accessor V}
    (turned : t.Turned x.bench.accessor (es, e, a)) : Untouched x k mine a (ended e) := by
  have asks : t.Asks x.bench.accessor → k ≠ t.key := fun asks =>
    h.other_key mem foreign
      (h.sound.staffed.inside mem (h.sound.staffed.load_of_asks mem asks))
  constructor
  case held =>
    rcases turned.writes with same | ⟨v, flight, _, _, put, _, inside⟩
    · rw [same]
    · rw [put, Cache.get?_insert_other _ _ (h.other_key mem foreign inside)]
  case retains =>
    rcases turned.cache with same | ⟨v, put⟩
    · rw [same]
    · rw [put, Cache.retains_insert]
  case pending =>
    cases turned with
    | landed stands known =>
      have other := h.other_key mem foreign fun outside => outside.idle _ stands
      exact Table.get?_erase_of_ne _ other
    | opened asked free missing unknown => exact Table.get?_insert_of_ne _ _ (asks asked)
    | flew asked free missing known =>
      exact (Table.get?_erase_of_ne _ (asks asked)).trans
        (Table.get?_insert_of_ne _ _ (asks asked))
    | _ => rfl
  case riders =>
    apply riders_congr
    intro u other own
    apply LoadTask.rider_congr
    intro f waits
    have lt := h.sound.staffed.lt_of_waiting ⟨u, other, rfl, rfl, waits⟩
    have same := List.getElem?_eq_getElem (Nat.lt_of_lt_of_le lt turned.length_flights)
    rcases turned.flight same with old | new | ⟨r, leads, _⟩
    · exact same.trans old.symm
    · omega
    · exact absurd waits (h.not_led_elsewhere mem foreign leads other own)
  case woken =>
    intro f ends
    cases turned with
    | landed stands known =>
      cases ends
      exact h.nobody_elsewhere mem foreign stands
    | flew asked free missing known =>
      cases ends
      rw [h.sound.staffed.nobody_joined]
      rfl
    | _ => cases ends

/-- What is left for the key stays, whichever tasks that are not meant come
and go. -/
theorem lane_untouched {a : Accessor V} {flight : Option Nat} (same : Untouched x k mine a flight)
    {tasks : List (LoadTask V)} {ready : List String} {es : List (Event V)}
    (riders_eq : riders mine a.flights tasks = riders mine a.flights x.bench.tasks)
    (ready_eq : ready.filter mine = x.bench.ready.filter mine)
    (shown : es.filter (mine ·.id) = []) :
    Course.lane k mine { x with bench := { accessor := a, tasks, ready }, seen := x.seen ++ es } =
      x.lane k mine := by
  apply Lane.ext
  case held => exact same.held
  case retains => exact same.retains
  case busy => exact congrArg Option.isSome same.pending
  case riders => exact riders_eq.trans same.riders
  case ready => exact ready_eq
  case names => rfl
  case seen =>
    show (x.seen ++ es).filter (mine ·.id) = _
    rw [List.filter_append, shown, List.append_nil]
    rfl

/-- Events of a task that is not meant. -/
theorem filter_shown {es : List (Event V)} {id : String} (foreign : mine id = false)
    (shown : ∀ e ∈ es, e.id = id) : es.filter (mine ·.id) = [] := by
  rw [List.filter_eq_nil_iff]
  intro e mem
  rw [shown e mem, foreign]
  exact Bool.false_ne_true

/-- The turn of a task that is not meant changes nothing for the key. -/
theorem turn_foreign (h : x.Apart k mine) {id : String} (foreign : mine id = false) :
    (x.move (.turn id)).lane k mine = x.lane k mine := by
  have moved := x.bench.take_moved id
  have shown := filter_shown foreign (x.bench.ids_of_take id)
  show Course.lane k mine
    { x with bench := (x.bench.take id).2, seen := x.seen ++ (x.bench.take id).1 } = _
  generalize (x.bench.take id).1 = es, (x.bench.take id).2 = b at moved shown
  generalize made : Move.turn id = m at moved
  cases moved with
  | still => simp only [Course.lane, List.append_nil]
  | absent gone =>
    cases made
    simp only [Course.lane, List.append_nil, filter_erase_foreign foreign]
  | @parked t u es a mem turned =>
    cases made
    have named := turned.same_call.1
    have parks : mine u.id = false := named ▸ foreign
    refine lane_untouched (h.untouched mem foreign turned) ?_ (filter_erase_foreign foreign _) shown
    rw [riders, x.bench.filter_park t mine parks, riders]
  | @last t es r flight a mem turned =>
    cases made
    have same := h.untouched mem foreign turned
    refine lane_untouched same (riders_without_foreign _ foreign) ?_ shown
    have woken : ((flight.map x.bench.waiters).getD []).filter mine = [] := by
      cases flight with
      | none => rfl
      | some f => exact same.woken f rfl
    rw [List.filter_append, woken, List.append_nil]
    exact filter_erase_foreign foreign _
  | missing => simp only [Course.lane, List.append_nil]
  | _ => cases made

/-! ## Turns of its own -/

theorem filter_own {es : List (Event V)} {id : String} (own : mine id = true)
    (shown : ∀ e ∈ es, e.id = id) : es.filter (mine ·.id) = es := by
  rw [List.filter_eq_self]
  intro e mem
  rw [shown e mem]
  exact own

/-- The turn of a load of the key that goes on as it is. -/
theorem lane_rests (h : x.Apart k mine) (mem : t ∈ x.bench.tasks) (own : mine t.id = true)
    (turn : t.turn x.bench.accessor = ([], .parked t, x.bench.accessor)) :
    (x.move (.turn t.id)).lane k mine = (x.lane k mine).rest t.id := by
  have taken : x.bench.take t.id = ([], { x.bench with ready := x.bench.ready.erase t.id }) := by
    have same : Bench.park { x.bench with ready := x.bench.ready.erase t.id } t t = x.bench.tasks :=
      h.sound.staffed.park_self mem
    simp only [Bench.take, h.sound.staffed.find?_eq mem, Bench.step, turn, same]
  simp only [Course.move, Course.lane, Lane.rest, taken, filter_erase_own own, List.append_nil]

/-- The turn of a load of the key that goes on later, but stands otherwise. -/
theorem lane_parked (h : x.Apart k mine) (mem : t ∈ x.bench.tasks) (own : mine t.id = true)
    {u : LoadTask V} {es : List (Event V)} {a : Accessor V}
    (turn : t.turn x.bench.accessor = (es, .parked u, a)) (moves : u.standing ≠ t.standing) :
    (x.move (.turn t.id)).lane k mine =
      { held := a.cache.get? k
        retains := a.cache.retains
        busy := a.pending.contains k
        riders := (riders mine a.flights x.bench.tasks).filter (·.id ≠ t.id) ++
          [u.rider a.flights]
        ready := (x.lane k mine).ready.erase t.id
        names := (x.lane k mine).names
        seen := (x.lane k mine).seen ++ es } := by
  have turned := t.turned x.bench.accessor
  rw [turn] at turned
  have same := turned.same_call.1
  have taken : x.bench.take t.id = (es,
      { accessor := a, tasks := x.bench.without u.id ++ [u]
        ready := x.bench.ready.erase t.id }) := by
    simp only [Bench.take, h.sound.staffed.find?_eq mem, Bench.step, turn, Bench.park,
      if_neg moves, Bench.without]
  have shown := filter_own own (x.bench.ids_of_take t.id)
  rw [taken] at shown
  simp only [Course.move, Course.lane, taken, List.filter_append, shown,
    filter_erase_own own, riders_append, riders_own (same ▸ own), riders_without, same]

/-- The last turn of a load of the key. -/
theorem lane_over (h : x.Apart k mine) (mem : t ∈ x.bench.tasks) (own : mine t.id = true)
    {r : Outcome V} {flight : Option Nat} {es : List (Event V)} {a : Accessor V}
    (turn : t.turn x.bench.accessor = (es, .over r flight, a)) :
    (x.move (.turn t.id)).lane k mine =
      { held := a.cache.get? k
        retains := a.cache.retains
        busy := a.pending.contains k
        riders := (riders mine a.flights x.bench.tasks).filter (·.id ≠ t.id)
        ready := (x.lane k mine).ready.erase t.id ++
          ((flight.map x.bench.waiters).getD []).filter mine
        names := (x.lane k mine).names
        seen := (x.lane k mine).seen ++ (es ++ [.done t.id r]) } := by
  have taken : x.bench.take t.id = (es ++ [.done t.id r],
      { accessor := a, tasks := x.bench.without t.id
        ready := x.bench.ready.erase t.id ++ (flight.map x.bench.waiters).getD [] }) := by
    simp only [Bench.take, h.sound.staffed.find?_eq mem, Bench.step, turn, Bench.without]
    rfl
  have shown := filter_own own (x.bench.ids_of_take t.id)
  rw [taken] at shown
  have seen := List.filter_append (p := (mine ·.id)) x.seen (es ++ [.done t.id r])
  rw [shown] at seen
  simp only [Course.move, Course.lane, taken, riders_without, seen]
  rw [List.filter_append, filter_erase_own own]

/-- What the landing of a flight makes of a cache. -/
theorem held_land (k : String) (mine : String → Bool) (x : Course V) (f : Nat) (o : Outcome V) :
    (x.bench.accessor.land k f o).cache.get? k = ((x.lane k mine).store o).held := by
  cases o with
  | error e => rfl
  | ok v => exact Cache.get?_insert ..

theorem retains_land (a : Accessor V) (k : String) (f : Nat) (o : Outcome V) :
    (a.land k f o).cache.retains = a.cache.retains := by
  cases o with
  | error e => rfl
  | ok v => exact Cache.retains_insert ..

/-- Who asks does not wait for a flight that goes on. -/
theorem not_waiting_of_asks {a : Accessor V} (asking : t.Asks a) {f : Nat}
    (going : a.flights[f]? = some .open_) : t.standing ≠ .waiting f := by
  intro waits
  rcases asking with ⟨_, fresh⟩ | ⟨g, stands, lost⟩
  · cases waits.symm.trans fresh
  · cases waits.symm.trans stands
    cases going.symm.trans lost

/-- A load that opens a flight, and ends it in the same turn because the outcome
of its fetch is known. -/
theorem lane_flew (h : x.Apart k mine) (mem : t ∈ x.bench.tasks) (own : mine t.id = true)
    (free : x.bench.accessor.pending.get? k = none) {o : Outcome V} (known : t.outcome = some o)
    (turn : t.turn x.bench.accessor =
      ([.fetch t.id], .over o (some x.bench.accessor.flights.length),
        (x.bench.accessor.openFlight k).land k x.bench.accessor.flights.length o)) :
    (x.move (.turn t.id)).lane k mine =
      (((x.lane k mine).without t.id).start (t.rider x.bench.accessor.flights)).lead
        (t.rider x.bench.accessor.flights) := by
  rw [h.lane_over mem own turn, Lane.lead_known known, Lane.close_of_impatient]
  case nobody =>
    exact fun r mem => h.nobody_waits free r (List.mem_filter.mp mem).1
  have flights : riders mine ((x.bench.accessor.flights ++ [Flight.open_]).set
      x.bench.accessor.flights.length (.landed o)) x.bench.tasks =
        riders mine x.bench.accessor.flights x.bench.tasks := by
    rw [List.set_append_right _ _ (Nat.le_refl _), Nat.sub_self]
    exact h.riders_open _
  apply Lane.ext
  case held => exact held_land k mine x x.bench.accessor.flights.length o
  case retains => exact retains_land ..
  case busy => exact congrArg Option.isSome (Table.get?_erase_self ..)
  case riders => exact congrArg (List.filter _) flights
  case ready =>
    show _ ++ (x.bench.waiters _).filter mine = _
    rw [h.sound.staffed.nobody_joined, List.filter_nil, List.append_nil]
    rfl
  case names => rfl
  case seen => exact (List.append_assoc ..).symm

/-- A load that asks for the key. -/
theorem lane_ask (h : x.Apart k mine) (mem : t ∈ x.bench.tasks) (own : mine t.id = true)
    (asking : t.Asks x.bench.accessor)
    (asks : t.turn x.bench.accessor = t.loadTurn (x.bench.accessor.load k)) :
    (x.move (.turn t.id)).lane k mine =
      ((x.lane k mine).without t.id).ask (t.rider x.bench.accessor.flights) := by
  have key : t.key = k := ((h.ours t mem).mp own).2
  cases held : x.bench.accessor.cache.get? k with
  | some v =>
    rw [Accessor.load_of_held h.truthful held] at asks
    rw [h.lane_over mem own asks, Lane.ask_held held]
    simp [Course.lane, Lane.without, Lane.report, held, LoadTask.rider]
  | none =>
    cases announced : x.bench.accessor.pending.get? k with
    | some f =>
      have going := h.sound.staffed.flights.going announced
      have busy : ((x.lane k mine).without t.id).busy = true := congrArg Option.isSome announced
      rw [Accessor.load_of_announced h.truthful held announced] at asks
      rw [h.lane_parked mem own asks (Ne.symm (not_waiting_of_asks asking going)),
        Lane.ask_busy held busy]
      simp [Course.lane, Lane.without, Lane.park, LoadTask.rider, going]
    | none =>
      have free : ((x.lane k mine).without t.id).busy = false := congrArg Option.isSome announced
      rw [Accessor.load_of_free h.truthful held announced] at asks
      simp only [LoadTask.loadTurn, LoadTask.leadTurn, key] at asks
      rw [Lane.ask_free held free]
      cases known : t.outcome with
      | none =>
        rw [known] at asks
        rw [h.lane_parked mem own asks (Ne.symm (asking.idle _)), Lane.lead_unknown known]
        simp [Course.lane, Lane.without, Lane.start, Lane.park, LoadTask.rider, Table.contains,
          known, Accessor.openFlight, h.riders_open, Table.get?_insert_self]
      | some o =>
        rw [known] at asks
        exact h.lane_flew mem own announced known asks

/-- A flight of the key is over that a load leads: those who wait for it hear
of it. -/
theorem riders_close (h : x.Apart k mine) {f : Nat} (y : Flight V) (id : String)
    (announced : x.bench.accessor.pending.get? k = some f) :
    (riders mine (x.bench.accessor.flights.set f y) x.bench.tasks).filter (·.id ≠ id) =
      (((x.lane k mine).without id).close y).riders := by
  rw [h.riders_set y announced, List.filter_map]
  congr 2
  funext r
  simp only [Function.comp_apply, Rider.hear]
  split <;> rfl

/-- A flight of the key is over that a load leads: those who wait for it are
the loads that become ready. -/
theorem waiters_close (h : x.Apart k mine) (mem : t ∈ x.bench.tasks) {f : Nat}
    (leads : t.standing = .leading f) (announced : x.bench.accessor.pending.get? k = some f) :
    (x.bench.waiters f).filter mine =
      (((x.lane k mine).without t.id).riders.filter (·.stance.patient)).map (·.id) := by
  have all : ∀ r ∈ (x.lane k mine).riders, r.stance.patient = true → r.id ≠ t.id := by
    intro r among patient same
    obtain ⟨u, other, own, rfl⟩ := mem_riders.mp among
    have waits := (h.waits_iff other announced).mpr ⟨own, patient⟩
    rw [h.sound.staffed.eq_of_id other mem same, leads] at waits
    cases waits
  have meant : ∀ i ∈ x.bench.waiters f, mine i = true := by
    intro i waiting
    obtain ⟨u, other, rfl, waits⟩ := Bench.of_mem_waiters waiting
    exact ((h.waits_iff other announced).mp waits).1
  rw [List.filter_eq_self.mpr meant, h.waiters_eq announced, Lane.without, List.filter_filter]
  congr 1
  apply List.filter_congr
  intro r among
  cases patient : r.stance.patient with
  | false => rfl
  | true => simp [all r among patient]

/-- A load that leads for the key, and whose fetch is over. -/
theorem lane_lead (h : x.Apart k mine) (mem : t ∈ x.bench.tasks) (own : mine t.id = true)
    {f : Nat} (leads : t.standing = .leading f) {o : Outcome V} (known : t.outcome = some o) :
    (x.move (.turn t.id)).lane k mine =
      ((x.lane k mine).without t.id).lead (t.rider x.bench.accessor.flights) := by
  have key : t.key = k := ((h.ours t mem).mp own).2
  have announced := key ▸ h.sound.staffed.announced mem leads
  have turn : t.turn x.bench.accessor =
      ([], .over o (some f), x.bench.accessor.land k f o) := by
    simp only [LoadTask.turn, leads, LoadTask.leadTurn, known, key]
  rw [h.lane_over mem own turn, Lane.lead_known known]
  apply Lane.ext
  case held => exact held_land k mine x f o
  case retains => exact retains_land ..
  case busy => exact congrArg Option.isSome (Table.get?_erase_self ..)
  case riders => exact h.riders_close _ _ announced
  case ready => exact congrArg (_ ++ ·) (h.waiters_close mem leads announced)
  case names => rfl
  case seen => rfl

/-- The turn of a load of the key. -/
theorem turn_own (h : x.Apart k mine) {id : String} (own : mine id = true) :
    (x.move (.turn id)).lane k mine = (x.lane k mine).turn id := by
  rw [Lane.turn, show (x.lane k mine).riders = riders mine _ _ from rfl, find?_riders _ _ own]
  cases found : x.bench.tasks.find? (·.id = id) with
  | none =>
    simp only [Course.move, Course.lane, Bench.take, found, filter_erase_own own, Option.map_none,
      List.append_nil, Lane.rest]
  | some t =>
    obtain ⟨mem, rfl⟩ := Bench.mem_of_find? found
    obtain ⟨load, key⟩ := (h.ours t mem).mp own
    show _ = Lane.serve _ (t.rider x.bench.accessor.flights)
    cases stands : t.standing with
    | fresh =>
      rw [h.lane_ask mem own (.inl ⟨load, stands⟩)
        (by simp only [LoadTask.turn, stands, load, key])]
      simp only [Lane.serve, LoadTask.rider, stands]
    | fetching => exact absurd (.inl stands) (h.sound.staffed.inside mem load)
    | leading f =>
      cases known : t.outcome with
      | none =>
        have same : { t with standing := .leading f, outcome := none } = t := by
          rw [← stands, ← known]
        have turn : t.turn x.bench.accessor = ([], .parked t, x.bench.accessor) := by
          simp only [LoadTask.turn, stands, LoadTask.leadTurn, known, same]
        rw [h.lane_rests mem own turn]
        simp [Lane.serve, LoadTask.rider, stands, known]
      | some o =>
        rw [h.lane_lead mem own stands known]
        simp [Lane.serve, LoadTask.rider, stands, known]
    | waiting f =>
      have resumes : t.turn x.bench.accessor = t.loadTurn (x.bench.accessor.resume k f) := by
        simp only [LoadTask.turn, stands, key]
      rcases h.awaited mem own stands with ⟨y, flight, isOver⟩ | announced
      · cases y with
        | open_ => exact absurd rfl isOver
        | landed o =>
          simp only [Accessor.resume, flight] at resumes
          rw [h.lane_over mem own resumes]
          simp [Lane.serve, LoadTask.rider, stands, flight, Lane.report, Lane.without, Course.lane]
        | lost =>
          simp only [Accessor.resume, flight] at resumes
          rw [h.lane_ask mem own (.inr ⟨f, stands, flight⟩) resumes]
          simp only [Lane.serve, LoadTask.rider, stands, flight, Option.getD_some]
      · have flight := h.sound.staffed.flights.going announced
        have same : { t with standing := .waiting f } = t := by rw [← stands]
        simp only [Accessor.resume, flight, LoadTask.loadTurn, same] at resumes
        rw [h.lane_rests mem own resumes]
        simp only [Lane.serve, LoadTask.rider, stands, flight, Option.getD_some]

/-! ## Other moves -/

/-- The riders are given what the tasks are given. -/
theorem riders_given (flights : List (Flight V)) (ts : List (LoadTask V)) (id : String)
    (o : Outcome V) :
    riders mine flights (ts.map (·.given id o)) =
      (riders mine flights ts).map (·.given id o) := by
  simp only [riders, List.filter_map, List.map_map]
  have same : (fun t : LoadTask V => mine t.id) ∘ LoadTask.given id o = fun t => mine t.id := by
    funext t
    rw [Function.comp_apply, t.given_id]
  rw [same]
  congr 1
  funext t
  simp only [Function.comp_apply, LoadTask.given, Rider.given, LoadTask.rider]
  split <;> rfl

theorem call_own {id key : String} (own : mine id = true) (purpose : Purpose)
    (o : Option (Outcome V)) :
    (x.move (.call id purpose key o)).lane k mine = (x.lane k mine).call id o := by
  have named : id ∈ (x.lane k mine).names ↔ id ∈ x.names := by
    rw [Course.lane, List.mem_filter, and_iff_left own]
  unfold Lane.call
  by_cases used : id ∈ x.names
  · rw [if_pos (named.mpr used), Course.move_used used]
  · rw [if_neg (mt named.mp used)]
    simp only [Course.move, if_neg used]
    simp [Course.lane, Bench.spawn, riders, own, LoadTask.rider]

theorem call_foreign {id key : String} (foreign : mine id = false) (purpose : Purpose)
    (o : Option (Outcome V)) :
    (x.move (.call id purpose key o)).lane k mine = x.lane k mine := by
  by_cases used : id ∈ x.names
  · rw [Course.move_used used]
  · simp only [Course.move, if_neg used]
    simp [Course.lane, Bench.spawn, riders, foreign]

theorem finish_own (h : x.Apart k mine) {id : String} (own : mine id = true) (o : Outcome V) :
    (x.move (.finish id o)).lane k mine = (x.lane k mine).finish id o := by
  rw [Lane.finish, show (x.lane k mine).riders = riders mine _ _ from rfl, find?_riders _ _ own]
  cases found : x.bench.tasks.find? (·.id = id) with
  | none => simp only [Course.move, Bench.finish, found, Option.map_none]
  | some t =>
    obtain ⟨mem, rfl⟩ := Bench.mem_of_find? found
    have load := ((h.ours t mem).mp own).1
    cases known : t.outcome with
    | some _ => simp [Course.move, Bench.finish, found, known, LoadTask.rider]
    | none =>
      simp only [Course.move, Bench.finish, found, known, Option.isSome_none, Option.map_some,
        LoadTask.rider, Bool.false_eq_true, if_false]
      apply Lane.ext
      case held => rfl
      case retains => rfl
      case busy => rfl
      case riders => exact riders_given x.bench.accessor.flights x.bench.tasks t.id o
      case ready =>
        cases stands : t.standing with
        | fresh => rfl
        | fetching => exact absurd (.inl stands) (h.sound.staffed.inside mem load)
        | leading f => simp [Course.lane, own]
        | waiting f => rfl
      case names => rfl
      case seen => rfl

theorem finish_foreign {id : String} (foreign : mine id = false) (o : Outcome V) :
    (x.move (.finish id o)).lane k mine = x.lane k mine := by
  have others : (riders mine x.bench.accessor.flights x.bench.tasks).map (·.given id o) =
      riders mine x.bench.accessor.flights x.bench.tasks := by
    refine (List.map_congr_left fun r among => ?_).trans (List.map_id _)
    exact if_neg (ne_of_foreign foreign among)
  cases found : x.bench.tasks.find? (·.id = id) with
  | none => simp only [Course.move, Bench.finish, found]
  | some t =>
    cases known : t.outcome with
    | some _ => simp [Course.move, Bench.finish, found, known]
    | none =>
      simp only [Course.move, Bench.finish, found, known, Option.isSome_none,
        Bool.false_eq_true, if_false]
      apply Lane.ext
      case held => rfl
      case retains => rfl
      case busy => rfl
      case riders =>
        exact (riders_given x.bench.accessor.flights x.bench.tasks id o).trans others
      case ready =>
        have unmeant : (x.bench.ready ++ [id]).filter mine = x.bench.ready.filter mine := by
          simp [foreign]
        cases stands : t.standing with
        | fresh => rfl
        | fetching => exact unmeant
        | leading f => exact unmeant
        | waiting f => rfl
      case names => rfl
      case seen => rfl

theorem abort_own (h : x.Apart k mine) {id : String} (own : mine id = true) :
    (x.move (.abort id)).lane k mine = (x.lane k mine).abort id := by
  rw [Lane.abort, show (x.lane k mine).riders = riders mine _ _ from rfl, find?_riders _ _ own]
  cases found : x.bench.tasks.find? (·.id = id) with
  | none => simp only [Course.move, Bench.abort, found, Option.map_none]
  | some t =>
    obtain ⟨mem, rfl⟩ := Bench.mem_of_find? found
    obtain ⟨load, key⟩ := (h.ours t mem).mp own
    cases stands : t.standing with
    | leading f =>
      have announced := key ▸ h.sound.staffed.announced mem stands
      simp only [Course.move, Bench.abort, found, stands, Option.map_some, LoadTask.rider]
      apply Lane.ext
      case held => rfl
      case retains => rfl
      case busy =>
        rw [key]
        exact congrArg Option.isSome (Table.get?_erase_self ..)
      case riders =>
        show riders mine (x.bench.accessor.flights.set f .lost) (x.bench.without t.id) = _
        rw [riders_without]
        exact h.riders_close _ _ announced
      case ready =>
        show (x.bench.ready ++ x.bench.waiters f).filter mine = _
        rw [List.filter_append, h.waiters_close mem stands announced]
        rfl
      case names => rfl
      case seen => rfl
    | _ =>
      simp only [Course.move, Bench.abort, found, stands, Option.map_some, LoadTask.rider,
        Course.lane, riders_without]

theorem abort_foreign (h : x.Apart k mine) {id : String} (foreign : mine id = false) :
    (x.move (.abort id)).lane k mine = x.lane k mine := by
  cases found : x.bench.tasks.find? (·.id = id) with
  | none => simp only [Course.move, Bench.abort, found]
  | some t =>
    obtain ⟨mem, rfl⟩ := Bench.mem_of_find? found
    cases stands : t.standing with
    | leading f =>
      have other := h.other_key mem foreign fun outside => outside.idle f stands
      simp only [Course.move, Bench.abort, found, stands]
      apply Lane.ext
      case held => rfl
      case retains => rfl
      case busy => exact congrArg Option.isSome (Table.get?_erase_of_ne _ other)
      case riders =>
        show riders mine (x.bench.accessor.flights.set f .lost) (x.bench.without t.id) = _
        rw [riders_without_foreign _ foreign]
        apply riders_congr
        intro u among own
        apply LoadTask.rider_congr
        intro g waits
        apply List.getElem?_set_ne
        rintro rfl
        exact h.not_led_elsewhere mem foreign stands among own waits
      case ready =>
        show (x.bench.ready ++ x.bench.waiters f).filter mine = _
        rw [List.filter_append, h.nobody_elsewhere mem foreign stands, List.append_nil]
        rfl
      case names => rfl
      case seen => rfl
    | _ =>
      simp only [Course.move, Bench.abort, found, stands, Course.lane,
        riders_without_foreign _ foreign]

/-! ## Any move -/

/-- Whether a move is about a key, or about one of the calls that are
meant. -/
def Owns (k : String) (mine : String → Bool) : Move V → Bool
  | .call id .. => mine id
  | .turn id => mine id
  | .finish id _ => mine id
  | .abort id => mine id
  | .cacheResource key _ => key = k
  | .invalidate key => key = k
  | .read key => key = k
  | .miss _ => false

/-- Nobody who reads the cache changes it. -/
theorem read_unchanged (h : x.Apart k mine) (key : String) : x.move (.read key) = x := by
  simp only [Course.move, Accessor.cached, Accessor.read, h.truthful]

/-- A move that is about the key is a move at its lane. -/
theorem move_own (h : x.Apart k mine) {m : Move V} (own : Owns k mine m = true) :
    (x.move m).lane k mine = (x.lane k mine).move m := by
  cases m with
  | call id purpose key o => exact call_own own purpose o
  | turn id => exact h.turn_own own
  | finish id o => exact h.finish_own own o
  | abort id => exact h.abort_own own
  | cacheResource key v =>
    obtain rfl := of_decide_eq_true own
    apply Lane.ext
    case held => exact Cache.get?_insert ..
    case retains => exact Cache.retains_insert ..
    all_goals rfl
  | invalidate key =>
    obtain rfl := of_decide_eq_true own
    apply Lane.ext
    case held => exact Cache.get?_invalidate_self ..
    all_goals rfl
  | read key =>
    rw [h.read_unchanged key]
    rfl
  | miss n => cases own

/-- No other move changes the lane, as long as it sets no misses. -/
theorem move_foreign (h : x.Apart k mine) {m : Move V} (foreign : Owns k mine m = false)
    (set : ∀ n, m ≠ .miss n) : (x.move m).lane k mine = x.lane k mine := by
  cases m with
  | call id purpose key o => exact call_foreign foreign purpose o
  | turn id => exact h.turn_foreign foreign
  | finish id o => exact finish_foreign foreign o
  | abort id => exact h.abort_foreign foreign
  | cacheResource key v =>
    have other : k ≠ key := Ne.symm (of_decide_eq_false foreign)
    apply Lane.ext
    case held => exact Cache.get?_insert_other _ _ other
    case retains => exact Cache.retains_insert ..
    all_goals rfl
  | invalidate key =>
    have other : k ≠ key := Ne.symm (of_decide_eq_false foreign)
    apply Lane.ext
    case held => exact Cache.get?_invalidate_other _ other
    all_goals rfl
  | read key => rw [h.read_unchanged key]
  | miss n => exact absurd rfl (set n)

end Course.Apart

/-! ## Turns until nobody is ready -/

/-- The loads of a lane that are ready take their turns until none is. -/
inductive Lane.Settles : Lane V → Lane V → Prop
  | rest {l : Lane V} (none : l.ready = []) : Settles l l
  | turn {l l' : Lane V} {id : String} {others : List String} (next : l.ready = id :: others)
      (later : Settles (l.turn id) l') : Settles l l'

/-- They take them in one way only. -/
theorem Lane.Settles.unique {l a b : Lane V} (ha : l.Settles a) (hb : l.Settles b) : a = b := by
  induction ha with
  | rest none =>
    cases hb with
    | rest _ => rfl
    | turn next _ =>
      rw [none] at next
      cases next
  | turn next _ ih =>
    cases hb with
    | rest none =>
      rw [none] at next
      cases next
    | turn next' later =>
      obtain ⟨rfl, _⟩ := List.cons.inj (next.symm.trans next')
      exact ih later

/-- When the tasks of a bench that are ready take their turns, the loads of
the lane take theirs. -/
theorem Course.Apart.settles {k : String} {mine : String → Bool} (x : Course V)
    (h : x.Apart k mine) :
    x.settle.Apart k mine ∧ (x.lane k mine).Settles (x.settle.lane k mine) := by
  induction x using next_wellFounded.induction with
  | _ x ih =>
    cases hr : x.bench.ready with
    | nil =>
      rw [settle_of_nil hr]
      have none : (x.lane k mine).ready = [] := by rw [Course.lane, hr]; rfl
      exact ⟨h, .rest none⟩
    | cons id rest =>
      rw [settle_of_cons hr]
      have kept : (x.move (.turn id)).Apart k mine :=
        h.move (.turn id) (fun n e => by cases e) (fun _ _ _ _ e => by cases e)
      obtain ⟨apart, settles⟩ := ih _ ⟨id, by rw [hr]; exact List.mem_cons_self, rfl⟩ kept
      refine ⟨apart, ?_⟩
      cases own : mine id with
      | true =>
        rw [h.turn_own own] at settles
        have next : (x.lane k mine).ready = id :: rest.filter mine := by
          rw [Course.lane, hr, List.filter_cons_of_pos own]
        exact .turn next settles
      | false =>
        rw [h.turn_foreign own] at settles
        exact settles

end LearningClient.Rehearsal

