import LearningClient.Proofs.Traffic.Services

/-!
# Where loaded values come from

What an accessor of a client hands out has come in, under the same key, in one
of two ways. Either it was brought (`Service.Brought`): a load of the service
had its request under way, and the answer to it said so. Or a call has put it
into the cache. `Service.Serves` is what has to hold in every state for that:
the open calls staff the flights of the accessor, what its cache holds has
come in, and the result of a flight has been brought since each call that
waits for it was made. Every step keeps it (`Service.Served.step`), and the
result of a load is read off it (`Service.Served.result`).
-/

namespace LearningClient.Rehearsal

open LearningClient LearningClient.Http

namespace Traffic

/-- The first request of a call was under way after `before`, and this answer
to it came next. -/
structure Answered (l before : List Entry) (j : Nat) (r : Request) (a : Outcome Response) :
    Prop where
  came : ∃ after, l = before ++ .answered j a :: after
  sent : requests before j = [r]

theorem Answered.append {l before : List Entry} {j : Nat} {r : Request} {a : Outcome Response}
    (h : Answered l before j r a) (l' : List Entry) : Answered (l ++ l') before j r a := by
  obtain ⟨⟨after, rfl⟩, sent⟩ := h
  exact ⟨⟨after ++ l', by rw [List.append_assoc, List.cons_append]⟩, sent⟩

theorem Answered.mem {l before : List Entry} {j : Nat} {r : Request} {a : Outcome Response}
    (h : Answered l before j r a) {e : Entry} (he : e ∈ before) : e ∈ l := by
  obtain ⟨⟨after, rfl⟩, _⟩ := h
  exact List.mem_append_left _ he

theorem find?_without (x : Traffic) (id j : Nat) :
    (x.without id).find? (·.id = j) = if j = id then none else x.open? j := by
  by_cases e : j = id
  · rw [if_pos e, List.find?_eq_none]
    intro c hc
    simpa [e] using (mem_without.mp hc).2
  · rw [if_neg e, without, open?, List.find?_filter]
    congr 1
    funext c
    by_cases h : c.id = j
    · simp [h, e]
    · simp [h]

theorem open?_turned (x : Traffic) (id : Nat) (call : Call) (g : Progress × Client) (j : Nat) :
    (x.turned id call g).open? j =
      if j = id then (pause? g.1).map fun pause => ⟨id, call, pause⟩ else x.open? j := by
  rw [open?, turned, List.find?_append, find?_without]
  by_cases e : j = id
  · subst e
    cases pause? g.1 with
    | none => simp
    | some P => simp
  · rw [if_neg e, if_neg e]
    have none : (((pause? g.1).map fun pause => (⟨id, call, pause⟩ : OpenCall)).toList.find?
        (·.id = j)) = none := by
      cases pause? g.1 with
      | none => rfl
      | some P => simp [Ne.symm e]
    rw [none, Option.or_none]

/-- What the calls are suspended at, by their numbers. -/
def pauses (x : Traffic) (i : Nat) : Option Pause := (x.open? i).map (·.pause)

theorem pauses_turned (x : Traffic) (id : Nat) (call : Call) (g : Progress × Client) :
    (x.turned id call g).pauses = Function.update x.pauses id (pause? g.1) := by
  funext j
  rw [pauses, open?_turned]
  by_cases e : j = id
  · rw [if_pos e, e, Function.update_self]
    cases pause? g.1 <;> rfl
  · rw [if_neg e, Function.update_of_ne e]
    rfl

theorem pauses_dropped (x : Traffic) (id : Nat) (c : Client) :
    pauses { x with client := c, calls := x.without id } =
      Function.update x.pauses id none := by
  funext j
  rw [pauses, open?, find?_without]
  by_cases e : j = id
  · rw [if_pos e, e, Function.update_self]
    rfl
  · rw [if_neg e, Function.update_of_ne e]
    rfl

theorem Kept.pauses_open {x : Traffic} (h : x.Kept) {c : OpenCall} (hc : c ∈ x.calls) :
    x.pauses c.id = some c.pause := by
  rw [pauses, h.open?_self hc]
  rfl

/-- Who is suspended at something is open. -/
theorem open_of_pauses {x : Traffic} {i : Nat} {P : Pause} (h : x.pauses i = some P) :
    ∃ c ∈ x.calls, c.id = i ∧ c.pause = P := by
  obtain ⟨c, found, pause⟩ := Option.map_eq_some_iff.mp h
  obtain ⟨mem, id⟩ := mem_of_open? found
  exact ⟨c, mem, id, pause⟩

end Traffic

namespace Service

open Traffic

variable {V : Type} {S : Service V}

/-- Where the call with a number stands, if it is open. -/
def places (S : Service V) (x : Traffic) (i : Nat) : Place :=
  S.placed ((x.open? i).map (·.pause))

theorem places_turned (x : Traffic) (id : Nat) (call : Call) (g : Progress × Client) :
    S.places (x.turned id call g) = Function.update (S.places x) id (S.placed (pause? g.1)) := by
  show S.placed ∘ (x.turned id call g).pauses = _
  rw [pauses_turned, Function.comp_update]
  rfl

theorem places_dropped (x : Traffic) (id : Nat) (c : Client) :
    S.places { x with client := c, calls := x.without id } =
      Function.update (S.places x) id .away := by
  show S.placed ∘ pauses { x with client := c, calls := x.without id } = _
  rw [pauses_dropped, Function.comp_update]
  rfl

theorem places_open {x : Traffic} (h : x.Kept) {c : OpenCall} (hc : c ∈ x.calls) :
    S.places x c.id = S.place c.pause := congrArg S.placed (h.pauses_open hc)

/-- Who stands somewhere is open. -/
theorem open_of_places {x : Traffic} {i : Nat} (h : S.places x i ≠ .away) :
    ∃ c ∈ x.calls, c.id = i := by
  cases found : x.open? i with
  | none =>
    rw [places, found] at h
    exact absurd rfl h
  | some c => exact ⟨c, mem_of_open? found⟩

/-! ## What has come in -/

/-- A load of the service for a key has been answered, after `before`, and
this is what the answer says. -/
inductive Brought (S : Service V) (l : List Entry) (key : String) :
    Outcome V → List Entry → Prop
  | mk {before : List Entry} {j : Nat} {call : Call} {r : Request} {a : Outcome Response}
      (answered : Answered l before j r a) (called : .called j call ∈ before)
      (load : S.load? call = some (key, r)) : Brought S l key (received a S.read) before

theorem Brought.append {l : List Entry} {key : String} {v : Outcome V} {before : List Entry}
    (h : S.Brought l key v before) (l' : List Entry) : S.Brought (l ++ l') key v before := by
  cases h with
  | mk answered called load => exact .mk (answered.append l') called load

theorem Brought.mem {l : List Entry} {key : String} {v : Outcome V} {before : List Entry}
    (h : S.Brought l key v before) {e : Entry} (he : e ∈ before) : e ∈ l := by
  cases h with
  | mk answered called load => exact answered.mem he

/-- A value has come in for a key. -/
def CameIn (S : Service V) (l : List Entry) (key : String) (v : V) : Prop :=
  (∃ before, S.Brought l key (.ok v) before) ∨
    ∃ j call, .called j call ∈ l ∧ S.stores? call = some (key, v)

theorem CameIn.append {l : List Entry} {key : String} {v : V} (h : S.CameIn l key v)
    (l' : List Entry) : S.CameIn (l ++ l') key v := by
  rcases h with ⟨before, brought⟩ | ⟨j, call, called, stores⟩
  · exact .inl ⟨before, brought.append l'⟩
  · exact .inr ⟨j, call, List.mem_append_left _ called, stores⟩

/-- A result for a key has been brought since a call was made. -/
def Told (S : Service V) (l : List Entry) (i : Nat) (key : String) (v : Outcome V) : Prop :=
  ∃ before call, S.Brought l key v before ∧ .called i call ∈ before

theorem Told.append {l : List Entry} {i : Nat} {key : String} {v : Outcome V}
    (h : S.Told l i key v) (l' : List Entry) : S.Told (l ++ l') i key v := by
  obtain ⟨before, call, brought, called⟩ := h
  exact ⟨before, call, brought.append l', called⟩

/-- Calls at their places staff the flights of the accessor, and what it holds
has come in. -/
structure Serves (S : Service V) (c : Client) (place : Nat → Place) (l : List Entry) : Prop where
  manned : (S.accessor c).Manned place
  sourced : (S.accessor c).Sourced place (S.CameIn l) (S.Told l)

/-- It holds of a client and its open calls. -/
def Served (S : Service V) (x : Traffic) : Prop := S.Serves x.client (S.places x) x.log

namespace Serves

variable {c c' : Client} {place : Nat → Place} {l : List Entry}

/-- More is said in the log. -/
theorem append (h : S.Serves c place l) (l' : List Entry) : S.Serves c place (l ++ l') where
  manned := h.manned
  sourced := h.sourced.mono rfl (fun _ _ => .inl) (fun _ _ came => came.append l')
    (fun _ _ _ told => told.append l')

/-- A call that is in the log and does not load touches the client. -/
theorem touched (sound : S.Sound) (h : S.Serves c place l) {id : Nat} {call : Call}
    {p : Option Pause} {a : Option (Outcome Response)} (touches : Touches c call p a c')
    (other : S.load? call = none) (called : .called id call ∈ l) : S.Serves c' place l := by
  rcases sound.others touches other with same | ⟨key, v, stores, same⟩
  · constructor
    · rw [same]
      exact h.manned
    · rw [same]
      exact h.sourced
  · constructor
    · rw [same]
      exact h.manned.congr rfl rfl
    · rw [same]
      refine h.sourced.mono rfl (fun k w held => ?_) (fun _ _ came => came)
        (fun _ _ _ told => told)
      rcases Cache.eq_or_get?_of_insert held with ⟨rfl, rfl⟩ | old
      · exact .inr (.inr ⟨id, call, called, stores⟩)
      · exact .inl old

theorem worn (sound : S.Sound) (h : S.Serves c place l) {s : Step} (worn : Worn s c c') :
    S.Serves c' place l := by
  obtain ⟨pending, flights, cache⟩ := sound.wears worn
  exact ⟨h.manned.congr pending flights,
    h.sourced.mono flights (fun k v held => .inl (cache k v held)) (fun _ _ came => came)
      (fun _ _ _ told => told)⟩

/-- A turn of a call that is in the log. If the call leads, everyone who
stands somewhere has been told what it brings. -/
theorem turned (sound : S.Sound) (h : S.Serves c place l) {id : Nat} {call : Call}
    {p : Option Pause} {a : Option (Outcome Response)} {g : Progress × Client}
    (turn : Turned c call p a g) (suits : ∀ P, p = some P → Suits call P)
    (stood : place id = S.placed p) (called : .called id call ∈ l)
    (told : ∀ m key request f, a = some m → S.load? call = some (key, request) →
      S.placed p = .leads key f → ∀ i, place i ≠ .away → S.Told l i key (received m S.read)) :
    S.Serves g.2 (Function.update place id (S.placed (pause? g.1))) l := by
  cases load : S.load? call with
  | none =>
    -- the call stands nowhere, neither before the turn nor after it
    have away : S.placed p = .away := by
      cases p with
      | none => rfl
      | some P => exact sound.away (suits P rfl) load
    have still : S.placed (pause? g.1) = .away := by
      cases paused : pause? g.1 with
      | none => rfl
      | some P => exact sound.away (turn.suits suits paused) load
    rw [still, ← away, ← stood, Function.update_eq_self]
    exact h.touched sound (turn.touches suits) load called
  | some loaded =>
    obtain ⟨key, request⟩ := loaded
    obtain ⟨o, acts, ends, brings⟩ := sound.loads turn suits load
    rw [← stood] at acts
    refine ⟨acts.manned h.manned, acts.sourced h.manned h.sourced fun f v leads result => ?_⟩
    rw [stood] at leads
    obtain ⟨m, rfl, rfl⟩ := brings f v leads result
    have heard := told m key request f rfl load leads
    refine ⟨fun v read => ?_, fun j g waits => heard j (by rw [waits]; nofun)⟩
    obtain ⟨before, _, brought, _⟩ := heard id (by rw [stood, leads]; nofun)
    exact .inl ⟨before, read ▸ brought⟩

/-- The result of a load has come in for its key, or has been brought since
the load was called. -/
theorem result (sound : S.Sound) (h : S.Serves c place l) {id : Nat} {call : Call}
    {p : Option Pause} {a : Option (Outcome Response)} {g : Progress × Client}
    (turn : Turned c call p a g) (suits : ∀ P, p = some P → Suits call P)
    (stood : place id = S.placed p) {key : String} {request : Request}
    (load : S.load? call = some (key, request))
    (told : ∀ m f, a = some m → S.placed p = .leads key f → S.Told l id key (received m S.read))
    {r : Outcome Reply} (done : g.1 = .done r) :
    ∃ v : Outcome V, r = v.map S.reply ∧
      ((∃ w, v = .ok w ∧ S.CameIn l key w) ∨ S.Told l id key v) := by
  obtain ⟨o, acts, ends, brings⟩ := sound.loads turn suits load
  obtain ⟨v, rfl, rfl⟩ := ends r done
  rw [← stood] at acts
  refine ⟨v, rfl, ?_⟩
  rcases acts.report h.sourced with held | heard | ⟨f, leads⟩
  · exact .inl held
  · exact .inr heard
  · rw [stood] at leads
    obtain ⟨m, rfl, rfl⟩ := brings f v leads rfl
    exact .inr (told m f rfl leads)

/-- A call that is in the log goes away. -/
theorem left (sound : S.Sound) (h : S.Serves c place l) {id : Nat} {call : Call} {P : Pause}
    (suits : Suits call P) (stood : place id = S.place P) (called : .called id call ∈ l) :
    S.Serves (leave c P) (Function.update place id .away) l := by
  cases load : S.load? call with
  | none =>
    rw [← sound.away suits load, ← stood, Function.update_eq_self]
    exact h.touched sound (leave_touches suits) load called
  | some loaded =>
    obtain ⟨key, request⟩ := loaded
    have acts := sound.leaves (c := c) suits load
    rw [← stood] at acts
    exact ⟨acts.manned h.manned, acts.sourced h.manned h.sourced nofun⟩

end Serves

namespace Served

/-- Nobody has called. -/
theorem of_nobody {c : Client} {limits : CacheLimits}
    (empty : S.accessor c = { cache := .withLimits limits }) : S.Served { client := c } := by
  have away : ∀ i, S.places { client := c } i = .away := fun i => rfl
  constructor
  · show (S.accessor c).Manned _
    rw [empty]
    exact .empty _ (fun i k f leads => by rw [away] at leads; cases leads)
      (fun i k f waits => by rw [away] at waits; cases waits)
  · show (S.accessor c).Sourced _ _ _
    rw [empty]
    exact ⟨nofun, fun waits => by rw [away] at waits; cases waits⟩

variable {x : Traffic}

/-- What the answer to a load brings is told to everyone who is open. -/
theorem told_by_answer (sound : S.Sound) (kept : x.Kept) {l : List Entry} {id : Nat} {call : Call}
    {p : Option Pause} {a : Option (Outcome Response)} {g : Progress × Client}
    (turning : x.Turning l id call p a g) {m : Outcome Response} {key k : String}
    {request : Request} {f : Nat} (answer : a = some m)
    (load : S.load? call = some (key, request)) (leads : S.placed p = .leads k f) {i : Nat}
    (stands : S.places x i ≠ .away) : S.Told l i key (received m S.read) := by
  obtain ⟨d, hd, rfl⟩ := open_of_places stands
  cases p with
  | none => cases leads
  | some P =>
    obtain ⟨e, rfl, first⟩ := sound.under_way (turning.suits P rfl) load leads
    obtain ⟨rfl, sent⟩ := turning.answered rfl answer first
    have called : .called id call ∈ x.log := by simpa using turning.called
    exact ⟨x.log, d.call, .mk ⟨⟨[], rfl⟩, sent⟩ called load, kept.called d hd⟩

theorem grown (h : S.Served x) {l : List Entry}
    (grown : l = x.log ∨ ∃ e, l = x.log ++ [e] ∧ ∀ i r, e ≠ .returned i r) :
    S.Serves x.client (S.places x) l := by
  rcases grown with rfl | ⟨e, rfl, _⟩
  · exact h
  · exact h.append _

/-- The result of a load has come in for its key, or has been brought since
the load was called. -/
theorem result (sound : S.Sound) (kept : x.Kept) (h : S.Served x) {l : List Entry} {id : Nat}
    {call : Call} {p : Option Pause} {a : Option (Outcome Response)} {g : Progress × Client}
    (turning : x.Turning l id call p a g) {key : String} {request : Request}
    (load : S.load? call = some (key, request)) {r : Outcome Reply} (done : g.1 = .done r) :
    ∃ v : Outcome V, r = v.map S.reply ∧
      ((∃ w, v = .ok w ∧ S.CameIn l key w) ∨ S.Told l id key v) := by
  have stood : S.places x id = S.placed p := congrArg S.placed turning.stood
  refine (h.grown turning.grown).result sound turning.turn turning.suits stood load
    (fun m f answer leads => ?_) done
  exact told_by_answer sound kept turning answer load leads (by rw [stood, leads]; nofun)

/-- Every step keeps it. -/
theorem step (sound : S.Sound) (kept : x.Kept) (h : S.Served x) (s : Step) :
    S.Served (x.step s) := by
  have moved := kept.moved s
  generalize x.step s = y at moved
  cases moved with
  | turned _ _ turning =>
    have turned := (h.grown turning.grown).turned sound turning.turn turning.suits
      (congrArg S.placed turning.stood) turning.called
      fun m key request f answer load leads i => told_by_answer sound kept turning answer load leads
    rw [Served, places_turned]
    exact turned.append _
  | @dropped c mem =>
    have left := h.left sound (kept.suits c mem) (places_open kept mem) (kept.called c mem)
    rw [Served, places_dropped]
    exact left
  | worn worn => exact h.worn sound worn

theorem play (sound : S.Sound) {token : Option String} {pages rights limits : CacheLimits}
    (empty : S.accessor (play token pages rights []).client = { cache := .withLimits limits })
    (ss : List Step) : S.Served (Traffic.play token pages rights ss) := by
  induction ss using List.reverseRecOn with
  | nil => exact of_nobody empty
  | append_singleton ss s ih =>
    rw [play_concat]
    exact ih.step sound (kept_play token pages rights ss) s

end Served

end Service

end LearningClient.Rehearsal
