import LearningClient.Proofs.Traffic.Sources
import LearningClient.Proofs.Traffic.TokenTurns

/-!
# The token of requests that change something

What is known of the token at a moment is a matter of the log alone
(`TokenKnown`): it was given at the start, or a response has brought it. In
every state that steps lead to, the token cell holds the token exactly then,
the open calls stand at the cell where it has put them, and all that is in the
log was allowed by what was known before it (`Traffic.Guarded`,
`Traffic.guarded_play`). What a caller may rely on follows from these, and is
collected in `Traffic.TokenSafe`.
-/

namespace LearningClient.Rehearsal

open LearningClient LearningClient.Http

/-! ## What is known of the token -/

/-- A response that is in the log after `before` has brought a token. -/
structure Fetched (l before : List Entry) (t : String) : Prop where
  response : ∃ j r a, Traffic.Answered l before j r a ∧ r.path = "/csrfhandler" ∧
    received a readToken = .ok t
  used : t ≠ ""

/-- The token is known by what is in the log: it was given at the start, or
else a response has brought it. -/
inductive TokenKnown (token : Option String) (l : List Entry) : String → Prop
  | given {t : String} (seed : token = some t) : TokenKnown token l t
  | fetched {before : List Entry} {t : String} (unseeded : token = none)
      (fetched : Fetched l before t) : TokenKnown token l t

theorem TokenKnown.append {token : Option String} {l : List Entry} {t : String}
    (h : TokenKnown token l t) (l' : List Entry) : TokenKnown token (l ++ l') t := by
  cases h with
  | given seed => exact .given seed
  | fetched unseeded fetched =>
    obtain ⟨⟨j, r, a, answered, path, read⟩, used⟩ := fetched
    exact .fetched unseeded ⟨⟨j, r, a, answered.append l', path, read⟩, used⟩

theorem tokenKnown_concat {token : Option String} {l : List Entry} {e : Entry} {t : String} :
    TokenKnown token (l ++ [e]) t ↔
      TokenKnown token l t ∨ token = none ∧ ∃ j r a, e = .answered j a ∧
        Traffic.requests l j = [r] ∧ r.path = "/csrfhandler" ∧
        Client.receivedToken a = .ok t := by
  constructor
  · intro h
    cases h with
    | given seed => exact .inl (.given seed)
    | @fetched before t unseeded fetched =>
      obtain ⟨⟨j, r, a, ⟨⟨after, split⟩, sent⟩, path, read⟩, used⟩ := fetched
      rcases after.eq_nil_or_concat' with rfl | ⟨m, z, rfl⟩
      · obtain ⟨rfl, last⟩ := List.append_inj' split rfl
        exact .inr ⟨unseeded, j, r, a, (List.cons.inj last).1, sent, path,
          receivedToken_eq_ok.mpr ⟨read, used⟩⟩
      · rw [← List.cons_append, ← List.append_assoc] at split
        have earlier := (List.append_inj' split rfl).1
        exact .inl (.fetched unseeded ⟨⟨j, r, a, ⟨⟨m, earlier⟩, sent⟩, path, read⟩, used⟩)
  · rintro (h | ⟨unseeded, j, r, a, rfl, sent, path, brings⟩)
    · cases h with
      | given seed => exact .given seed
      | fetched unseeded fetched =>
        obtain ⟨⟨j, r, a, answered, path, read⟩, used⟩ := fetched
        exact .fetched unseeded ⟨⟨j, r, a, answered.append _, path, read⟩, used⟩
    · obtain ⟨read, used⟩ := receivedToken_eq_ok.mp brings
      exact .fetched unseeded ⟨⟨j, r, a, ⟨⟨[], rfl⟩, sent⟩, path, read⟩, used⟩

theorem tokenKnown_shows {token : Option String} {l : List Entry} {id : Nat} {g : Progress}
    {t : String} : TokenKnown token (l ++ shows id g) t ↔ TokenKnown token l t := by
  cases g with
  | done r => simp [shows, tokenKnown_concat]
  | sends r e => simp [shows, tokenKnown_concat]
  | waits w => simp [shows]

/-- What an entry has to be after those before it. A request that changes
something carries the token that is known by then. The token is requested, and
brought, only while it is not known. -/
def Allowed (token : Option String) (l : List Entry) : Entry → Prop
  | .sent _ r =>
    (r.method = .post → r.path = "/topic_editor_handler/create_new" ∧
      ∃ t, r.headers = [("X-CSRFToken", t)] ∧ TokenKnown token l t) ∧
    (r.path = "/csrfhandler" → ∀ t, ¬ TokenKnown token l t)
  | .answered j a =>
    ∀ r t, Traffic.requests l j = [r] → r.path = "/csrfhandler" →
      Client.receivedToken a = .ok t → ∀ t', ¬ TokenKnown token l t'
  | _ => True

namespace Traffic

/-- What is said in the log of how a turn begins. -/
inductive Opens (id : Nat) (call : Call) :
    Option Pause → Option (Outcome Response) → List Entry → Prop
  | called : Opens id call none none [.called id call]
  | answered {r : Request} {e : Errand} {a : Outcome Response} :
      Opens id call (some (.request r e)) (some a) [.answered id a]
  | woken {w : Wait} : Opens id call (some (.wait w)) none []

/-- What a step can be, with what is said in the log of how a turn begins. -/
inductive Goes (x : Traffic) : Traffic → Prop
  | turned {n id : Nat} {call : Call} {p : Option Pause} {a : Option (Outcome Response)}
      {head : List Entry} {g : Progress × Client} (opens : Opens id call p a head)
      (turn : Turned x.client call p a g) (suits : ∀ P, p = some P → Suits call P)
      (stood : x.pauses id = p) (newest : p = none → id = x.made) (made : x.made ≤ n) :
      Goes x (turned { x with log := x.log ++ head, made := n } id call g)
  | dropped {c : OpenCall} (mem : c ∈ x.calls) :
      Goes x { x with client := leave x.client c.pause, calls := x.without c.id }
  | worn {s : Step} {c : Client} (worn : Worn s x.client c) : Goes x { x with client := c }

theorem Kept.goes {x : Traffic} (h : x.Kept) (s : Step) : x.Goes (x.step s) := by
  have stepped := x.stepped s
  generalize x.step s = y at stepped
  cases stepped with
  | called turn =>
    have stood : x.pauses x.made = none := by
      rw [pauses, h.open?_made]
      rfl
    exact .turned .called turn (fun P h => by cases h) stood (fun _ => rfl) (Nat.le_succ _)
  | @answered c r e a g mem pause turn =>
    exact .turned .answered turn (h.suits_at mem pause) (pause ▸ h.pauses_open mem)
      (fun h => by cases h) (Nat.le_refl _)
  | @woken c w g mem pause turn =>
    have goes :
        x.Goes (Traffic.turned { x with log := x.log ++ [], made := x.made } c.id c.call g) :=
      .turned .woken turn (h.suits_at mem pause) (pause ▸ h.pauses_open mem)
        (fun h => by cases h) (Nat.le_refl _)
    rw [List.append_nil] at goes
    exact goes
  | dropped mem => exact .dropped mem
  | worn worn => exact .worn worn

/-- The cell agrees with the open calls and with the log, and all that is in
the log was allowed. -/
structure Guarded (token : Option String) (x : Traffic) : Prop where
  attended : x.client.token.Attended (spot ∘ x.pauses)
  known : ∀ t, x.client.token.token = some t ↔ TokenKnown token x.log t
  sent : ∀ c ∈ x.calls, ∀ r e, c.pause = .request r e → r ∈ requests x.log c.id
  allowed : AtEach (Allowed token) x.log

namespace Guarded

variable {token : Option String} {x : Traffic}

/-- While a call fetches the token, it is not known. -/
theorem unknown_of_fetching (h : x.Guarded token) (i : Nat)
    (fetches : spot (x.pauses i) = .fetching) : x.client.token.token = none :=
  h.attended.unknown_of_fetching (i := i) fetches

theorem not_known (h : x.Guarded token) (unknown : x.client.token.token = none) (t : String) :
    ¬ TokenKnown token x.log t := by
  intro known
  cases unknown.symm.trans ((h.known t).mpr known)

theorem unseeded (h : x.Guarded token) (unknown : x.client.token.token = none) :
    token = none := by
  cases seed : token with
  | none => rfl
  | some t => exact absurd (.given seed) (h.not_known unknown t)

section
variable {id n : Nat} {call : Call} {p : Option Pause} {a : Option (Outcome Response)}
  {head : List Entry}

/-- A response that a call has been waiting for brings a token only if the
call has requested it. -/
theorem brings_of_answered (h : x.Guarded token) {r s : Request} {e : Errand}
    {m : Outcome Response} {t : String} (suits : Suits call (.request r e))
    (stood : x.pauses id = some (.request r e)) (only : requests x.log id = [s])
    (path : s.path = "/csrfhandler") (brings : Client.receivedToken m = .ok t) :
    Brings (some (.request r e)) (some m) t := by
  obtain ⟨c, mem, rfl, pause⟩ := open_of_pauses stood
  have same : r = s := by
    have sent := h.sent c mem r e pause
    rwa [only, List.mem_singleton] at sent
  subst same
  obtain ⟨use, _, rfl, rfl⟩ := fetch_of_path suits path
  exact ⟨use, m, rfl, rfl, brings⟩

/-- What a turn brings is known by the log as soon as the turn begins. -/
theorem known_of_opens (kept : x.Kept) (h : x.Guarded token) (opens : Opens id call p a head)
    (suits : ∀ P, p = some P → Suits call P) (stood : x.pauses id = p) (t : String) :
    TokenKnown token (x.log ++ head) t ↔ TokenKnown token x.log t ∨ Brings p a t := by
  cases opens with
  | called => simp [tokenKnown_concat, Brings]
  | woken => simp [Brings]
  | @answered r e m =>
    rw [tokenKnown_concat]
    refine or_congr_right ⟨?_, ?_⟩
    · rintro ⟨_, j, s, o, same, only, path, brings⟩
      cases same
      exact h.brings_of_answered (suits _ rfl) stood only path brings
    · rintro ⟨use, o, request, answer, brings⟩
      cases request
      cases answer
      obtain ⟨c, mem, rfl, pause⟩ := open_of_pauses stood
      have unknown := h.unknown_of_fetching c.id (by rw [stood]; rfl)
      have only := kept.sent c mem _ _ pause fun h => by cases h
      exact ⟨h.unseeded unknown, c.id, _, m, rfl, only, rfl, brings⟩

/-- What is in the log of how a turn begins was allowed. -/
theorem allowed_opens (h : x.Guarded token) (opens : Opens id call p a head)
    (suits : ∀ P, p = some P → Suits call P) (stood : x.pauses id = p) :
    AtEach (Allowed token) (x.log ++ head) := by
  cases opens with
  | called => exact h.allowed.concat trivial
  | woken =>
    rw [List.append_nil]
    exact h.allowed
  | @answered r e m =>
    refine h.allowed.concat ?_
    intro s t only path brings t'
    obtain ⟨use, _, request, _⟩ :=
      h.brings_of_answered (suits _ rfl) stood only path brings
    cases request
    exact h.not_known (h.unknown_of_fetching id (by rw [stood]; rfl)) t'

/-- What is seen of the end of a turn is allowed by what is known then. -/
theorem allowed_shows {c : Client} {l : List Entry} {g : Progress × Client}
    (allowed : AtEach (Allowed token) l) (on : OnToken c call p a g)
    (known : ∀ t, g.2.token.token = some t ↔ TokenKnown token l t) :
    AtEach (Allowed token) (l ++ shows id g.1) := by
  cases progress : g.1 with
  | done r => exact allowed.concat trivial
  | waits w =>
    rw [shows, List.append_nil]
    exact allowed
  | sends r e =>
    refine allowed.concat ?_
    rcases on.sent progress with ⟨get, other⟩ | ⟨d, t, rfl, now⟩ | ⟨rfl, unknown⟩
    · refine ⟨?_, fun path => absurd path other⟩
      intro post
      cases get.symm.trans post
    · refine ⟨fun _ => ⟨rfl, t, rfl, (known t).mp now⟩, ?_⟩
      intro path
      have other : (d.request t).path ≠ "/csrfhandler" := by
        show "/topic_editor_handler/create_new" ≠ "/csrfhandler"
        decide
      exact absurd path other
    · refine ⟨(fun post => by cases post), ?_⟩
      intro _ t then_
      cases unknown.symm.trans ((known t).mpr then_)

/-- Every turn keeps the token guarded. -/
theorem turned (kept : x.Kept) (h : x.Guarded token) {g : Progress × Client}
    (opens : Opens id call p a head) (turn : Turned x.client call p a g)
    (suits : ∀ P, p = some P → Suits call P) (stood : x.pauses id = p)
    (newest : p = none → id = x.made) :
    (Traffic.turned { x with log := x.log ++ head, made := n } id call g).Guarded token := by
  have on := turn.onToken suits
  have known : ∀ t, g.2.token.token = some t ↔ TokenKnown token (x.log ++ head) t := by
    intro t
    rw [on.known (fun fetches => h.unknown_of_fetching id (by rw [stood, fetches])) t,
      h.known_of_opens kept opens suits stood, h.known t]
  constructor
  case attended =>
    show g.2.token.Attended (spot ∘ (Traffic.turned _ id call g).pauses)
    rw [pauses_turned, Function.comp_update]
    refine on.acts.attended h.attended (congrArg spot stood) ?_
    intro away comes j stands
    replace stands : spot (x.pauses j) ≠ .away := stands
    have began : p = none := by
      cases on with
      | apart _ stays => exact absurd stays comes
      | asked => rfl
      | answered => cases away
      | woken => cases away
    rw [newest began]
    cases paused : x.pauses j with
    | none =>
      rw [paused] at stands
      exact absurd rfl stands
    | some P =>
      obtain ⟨c, mem, rfl, _⟩ := open_of_pauses paused
      exact kept.known_open mem
  case known =>
    intro t
    show g.2.token.token = some t ↔ TokenKnown token (x.log ++ head ++ shows id g.1) t
    rw [tokenKnown_shows]
    exact known t
  case sent =>
    intro c mem r e pause
    show r ∈ requests (x.log ++ head ++ shows id g.1) c.id
    rw [requests_append, requests_append, List.mem_append, List.mem_append]
    rcases mem_turned.mp mem with ⟨old, _⟩ | ⟨P, paused, rfl⟩
    · exact .inl (.inl (h.sent c old r e pause))
    · right
      rw [requests_shows paused, show P = .request r e from pause]
      exact List.mem_singleton_self r
  case allowed =>
    exact allowed_shows (h.allowed_opens opens suits stood) on known

end

/-- Every step keeps the token guarded. -/
theorem step (kept : x.Kept) (h : x.Guarded token) (s : Step) : (x.step s).Guarded token := by
  have goes := kept.goes s
  generalize x.step s = y at goes
  cases goes with
  | turned opens turn suits stood newest _ => exact h.turned kept opens turn suits stood newest
  | @dropped c mem =>
    constructor
    case attended =>
      show (leave x.client c.pause).token.Attended
        (spot ∘ pauses { x with client := leave x.client c.pause, calls := x.without c.id })
      rw [pauses_dropped, Function.comp_update]
      exact (leave_acts x.client c.pause).attended h.attended
        (congrArg spot (kept.pauses_open mem)) fun _ comes => absurd rfl comes
    case known =>
      intro t
      show (leave x.client c.pause).token.token = some t ↔ TokenKnown token x.log t
      rw [token_leave]
      exact h.known t
    case sent => exact fun d old => h.sent d (mem_without.mp old).1
    case allowed => exact h.allowed
  | @worn s c worn =>
    constructor
    case attended =>
      show c.token.Attended (spot ∘ x.pauses)
      rw [worn.token]
      exact h.attended
    case known =>
      intro t
      show c.token.token = some t ↔ TokenKnown token x.log t
      rw [worn.token]
      exact h.known t
    case sent => exact h.sent
    case allowed => exact h.allowed

end Guarded

/-- Whatever steps are taken, the token is guarded. -/
theorem guarded_play (token : Option String) (pages rights : CacheLimits) (ss : List Step) :
    (play token pages rights ss).Guarded token := by
  induction ss using List.reverseRecOn with
  | nil =>
    have start : (play token pages rights []).client.token = { token } := by
      cases token <;> rfl
    constructor
    case attended =>
      rw [start]
      exact .of_nobody token
    case known =>
      intro t
      rw [start]
      refine ⟨.given, ?_⟩
      rintro (seed | ⟨_, ⟨j, r, a, ⟨⟨after, split⟩, _⟩, _⟩, _⟩)
      · exact seed
      · replace split : [] = _ ++ .answered j a :: after := split
        simp at split
    case sent => exact fun _ mem => absurd mem List.not_mem_nil
    case allowed => exact .nil
  | append_singleton ss s ih =>
    rw [play_concat]
    exact ih.step (kept_play token pages rights ss) s

/-! ## A fetch that fails -/

theorem id_of_opens {id : Nat} {call : Call} {p : Option Pause} {a : Option (Outcome Response)}
    {head : List Entry} (opens : Opens id call p a head) {e : Entry} (he : e ∈ head) :
    e.id = id := by
  cases opens with
  | called =>
    rw [List.mem_singleton.mp he]
    rfl
  | answered =>
    rw [List.mem_singleton.mp he]
    rfl
  | woken => exact absurd he List.not_mem_nil

/-- A call that has come to its end sends nothing more. -/
theorem Kept.ended_step {x : Traffic} (h : x.Kept) {id : Nat} (made : id < x.made)
    (ended : x.pauses id = none) (s : Step) :
    id < (x.step s).made ∧ (x.step s).pauses id = none ∧
      requests (x.step s).log id = requests x.log id := by
  have goes := h.goes s
  generalize x.step s = y at goes
  cases goes with
  | @turned n i call p a head g opens turn suits stood newest grown =>
    have other : id ≠ i := by
      rintro rfl
      exact Nat.ne_of_lt made (newest (stood.symm.trans ended))
    refine ⟨Nat.lt_of_lt_of_le made grown, ?_, ?_⟩
    · rw [pauses_turned, Function.update_of_ne other]
      exact ended
    · show requests (x.log ++ head ++ shows i g.1) id = requests x.log id
      have begins : requests head id = [] :=
        requests_of_others fun e he => id_of_opens opens he ▸ other.symm
      have ends : requests (shows i g.1) id = [] :=
        requests_of_others fun e he => id_of_shows he ▸ other.symm
      rw [requests_append, requests_append, begins, ends, List.append_nil, List.append_nil]
  | @dropped c mem =>
    refine ⟨made, ?_, rfl⟩
    rw [pauses_dropped]
    by_cases same : id = c.id
    · rw [same, Function.update_self]
    · rw [Function.update_of_ne same]
      exact ended
  | worn => exact ⟨made, ended, rfl⟩

theorem Kept.ended_steps {x : Traffic} (h : x.Kept) {id : Nat} (made : id < x.made)
    (ended : x.pauses id = none) (ss : List Step) :
    requests (x.steps ss).log id = requests x.log id := by
  suffices all : id < (x.steps ss).made ∧ (x.steps ss).pauses id = none ∧
      requests (x.steps ss).log id = requests x.log id from all.2.2
  induction ss using List.reverseRecOn with
  | nil => exact ⟨made, ended, rfl⟩
  | append_singleton ss s ih =>
    obtain ⟨made, ended, same⟩ := ih
    rw [steps_concat, ← same]
    exact (h.steps ss).ended_step made ended s

/-- An open call that waits looks again. -/
theorem Kept.step_wake {x : Traffic} (h : x.Kept) {c : OpenCall} (mem : c ∈ x.calls) {w : Wait}
    (pause : c.pause = .wait w) :
    x.step (.wake c.id) = x.turned c.id c.call (x.client.wake w) := by
  have found := h.open?_self mem
  obtain ⟨id, call, p⟩ := c
  cases pause
  simp only [Traffic.step, found]

/-- A call that waits and may fetch does so when it looks again. -/
theorem Kept.wake_fetches {x : Traffic} (h : x.Kept) {c : OpenCall} (mem : c ∈ x.calls)
    {use : TokenUse} {ticket : Nat} (pause : c.pause = .wait (.token use ticket))
    (unknown : x.client.token.token = none) (held : x.client.token.holder = some ticket) :
    (x.step (.wake c.id)).log = x.log ++ [.sent c.id tokenRequest] := by
  rw [h.step_wake mem pause]
  simp [Traffic.turned, Client.wake, TokenCell.askAgain, unknown, held, Client.tokenTurn, shows]

/-- A call that needs the token, which nobody fetches, does so. -/
theorem call_fetches (x : Traffic) {call : Call} {use : TokenUse} (uses : Uses call use)
    (unknown : x.client.token.token = none) (free : x.client.token.holder = none) :
    (x.step (.call call)).log =
      x.log ++ [.called x.made call, .sent x.made tokenRequest] := by
  have asks : x.client.start call = x.client.askToken use := by
    cases uses with
    | handOut => rfl
    | create valid => simp only [Client.start, Client.checked, valid]
  simp [step, turned, record, asks, Client.askToken, TokenCell.ask_of_free unknown free,
    Client.tokenTurn, shows]

/-- The token is unset, so the next caller fetches it: whoever has waited
longest, or else whoever calls next. -/
def NextFetches (y : Traffic) : Prop :=
  y.client.token.token = none ∧
    ((∃ d ∈ y.calls, (∃ use ticket, d.pause = .wait (.token use ticket)) ∧
        (∀ e ∈ y.calls, (∃ use ticket, e.pause = .wait (.token use ticket)) → d.id ≤ e.id) ∧
        (y.step (.wake d.id)).log = y.log ++ [.sent d.id tokenRequest]) ∨
      (∀ e ∈ y.calls, ∀ use ticket, e.pause ≠ .wait (.token use ticket)) ∧
        ∀ call use, Uses call use → (y.step (.call call)).log =
          y.log ++ [.called y.made call, .sent y.made tokenRequest])

theorem Guarded.nextFetches {token : Option String} {y : Traffic} (kept : y.Kept)
    (h : y.Guarded token) (unknown : y.client.token.token = none)
    (nobody : ∀ i, spot (y.pauses i) ≠ .fetching) : NextFetches y := by
  refine ⟨unknown, ?_⟩
  have waits : ∀ {e : OpenCall}, e ∈ y.calls → (∃ use ticket, e.pause = .wait (.token use ticket)) →
      ∃ ticket, spot (y.pauses e.id) = .queued ticket := by
    rintro e mem ⟨use, ticket, pause⟩
    rw [kept.pauses_open mem, pause]
    exact ⟨ticket, rfl⟩
  rcases h.attended.next unknown nobody with ⟨free, empty⟩ | ⟨i, k, queued, held, first⟩
  · refine .inr ⟨?_, fun call use uses => y.call_fetches uses unknown free⟩
    intro e mem use ticket pause
    obtain ⟨k, queued⟩ := waits mem ⟨use, ticket, pause⟩
    exact empty e.id k queued
  · left
    obtain ⟨P, paused⟩ : ∃ P, y.pauses i = some P := by
      cases paused : y.pauses i with
      | none =>
        rw [Function.comp_apply, paused] at queued
        cases queued
      | some P => exact ⟨P, rfl⟩
    obtain ⟨d, mem, rfl, rfl⟩ := open_of_pauses paused
    obtain ⟨use, pause⟩ : ∃ use, d.pause = .wait (.token use k) := by
      rw [Function.comp_apply, paused] at queued
      exact pause_of_queued queued
    refine ⟨d, mem, ⟨use, k, pause⟩, ?_, kept.wake_fetches mem pause unknown held⟩
    intro e other stands
    obtain ⟨ticket, later⟩ := waits other stands
    exact first e.id ticket later

/-! ## Safety -/

/-- A call awaits the response to its request for the token. -/
def Fetches (c : OpenCall) : Prop := ∃ r e, c.pause = .request r e ∧ r.path = "/csrfhandler"

/-- What holds of the token whenever. -/
structure TokenSafe (token : Option String) (x : Traffic) : Prop where
  /-- A request that changes something carries the token, which is known
  before it is sent. -/
  posts : ∀ l i r l', x.log = l ++ .sent i r :: l' → r.method = .post →
    r.path = "/topic_editor_handler/create_new" ∧
      ∃ t, r.headers = [("X-CSRFToken", t)] ∧ TokenKnown token l t
  one_value : ∀ i j r s, .sent i r ∈ x.log → .sent j s ∈ x.log → r.method = .post →
    s.method = .post → r.headers = s.headers
  /-- One response at most brings a token. -/
  one_response : ∀ before before' t t', Fetched x.log before t → Fetched x.log before' t' →
    before = before'
  one_fetch : ∀ c ∈ x.calls, ∀ d ∈ x.calls, Fetches c → Fetches d → c = d
  /-- The token is requested only while it is not known. -/
  no_fetch : ∀ l i r l', x.log = l ++ .sent i r :: l' → r.path = "/csrfhandler" →
    ∀ t, ¬ TokenKnown token l t
  /-- The response to a request for the token brings it, or is a failure. -/
  decided : ∀ c ∈ x.calls, Fetches c → ∀ a,
    (∃ t, received a readToken = .ok t ∧ TokenKnown token (x.step (.answer c.id a)).log t) ∨
      ∃ f, TokenFailure a f
  /-- A call whose request for the token fails returns that failure, and
  sends nothing more. -/
  failed : ∀ c ∈ x.calls, Fetches c → ∀ a f, TokenFailure a f →
    (x.step (.answer c.id a)).log = x.log ++ [.answered c.id a, .returned c.id (.error f)] ∧
      (∀ ss, requests ((x.step (.answer c.id a)).steps ss).log c.id = [tokenRequest]) ∧
      NextFetches (x.step (.answer c.id a))

namespace Guarded

variable {token : Option String} {x : Traffic}

theorem unique (h : x.Guarded token) {t t' : String} (one : TokenKnown token x.log t)
    (two : TokenKnown token x.log t') : t = t' :=
  Option.some.inj (((h.known t).mpr one).symm.trans ((h.known t').mpr two))

theorem posts (h : x.Guarded token) {l l' : List Entry} {i : Nat} {r : Request}
    (split : x.log = l ++ .sent i r :: l') (post : r.method = .post) :
    r.path = "/topic_editor_handler/create_new" ∧
      ∃ t, r.headers = [("X-CSRFToken", t)] ∧ TokenKnown token l t :=
  (h.allowed l (.sent i r) l' split).1 post

/-- A response brings a token only while none is known. -/
theorem unknown_before (h : x.Guarded token) {before : List Entry} {t : String}
    (fetched : Fetched x.log before t) (t' : String) : ¬ TokenKnown token before t' := by
  obtain ⟨⟨j, r, a, ⟨⟨after, split⟩, sent⟩, path, read⟩, used⟩ := fetched
  exact h.allowed before _ after split r t sent path (receivedToken_eq_ok.mpr ⟨read, used⟩) t'

/-- A token that has been brought is known later on. -/
theorem known_after (h : x.Guarded token) {before m : List Entry} {e : Entry} {t : String}
    (fetched : Fetched x.log before t) {after : List Entry}
    (split : x.log = before ++ e :: (m ++ after)) : TokenKnown token (before ++ e :: m) t := by
  have unseeded : token = none := by
    cases seed : token with
    | none => rfl
    | some s => exact absurd (.given seed) (h.unknown_before fetched s)
  obtain ⟨⟨j, r, a, ⟨⟨rest, came⟩, sent⟩, path, read⟩, used⟩ := fetched
  have same := List.append_cancel_left (split.symm.trans came)
  rw [(List.cons.inj same).1]
  exact .fetched unseeded ⟨⟨j, r, a, ⟨⟨m, rfl⟩, sent⟩, path, read⟩, used⟩

theorem one_response (h : x.Guarded token) {before before' : List Entry} {t t' : String}
    (one : Fetched x.log before t) (two : Fetched x.log before' t') : before = before' := by
  obtain ⟨_, _, _, ⟨⟨after, split⟩, _⟩, _⟩ := one.response
  obtain ⟨_, _, _, ⟨⟨after', split'⟩, _⟩, _⟩ := two.response
  rcases List.append_eq_append_iff.mp (split.symm.trans split') with ⟨m, rfl, rest⟩ | ⟨m, rfl, rest⟩
  · cases m with
    | nil => exact (List.append_nil _).symm
    | cons e m =>
      rw [rest, List.cons_append] at split
      exact absurd (h.known_after one split) (h.unknown_before two t)
  · cases m with
    | nil => exact List.append_nil _
    | cons e m =>
      rw [rest, List.cons_append] at split'
      exact absurd (h.known_after two split') (h.unknown_before one t')

theorem one_fetch (kept : x.Kept) (h : x.Guarded token) {c d : OpenCall} (hc : c ∈ x.calls)
    (hd : d ∈ x.calls) (one : Fetches c) (two : Fetches d) : c = d := by
  have fetching : ∀ {c : OpenCall}, c ∈ x.calls → Fetches c →
      (spot ∘ x.pauses) c.id = .fetching := by
    rintro c mem ⟨r, e, pause, path⟩
    obtain ⟨use, _, rfl, rfl⟩ := fetch_of_path (pause ▸ kept.suits c mem) path
    rw [Function.comp_apply, kept.pauses_open mem, pause]
    rfl
  exact kept.eq_of_id hc hd (h.attended.alone (fetching hc one) (fetching hd two))

theorem decided (kept : x.Kept) (h : x.Guarded token) {c : OpenCall} (mem : c ∈ x.calls)
    (fetches : Fetches c) (a : Outcome Response) :
    (∃ t, received a readToken = .ok t ∧ TokenKnown token (x.step (.answer c.id a)).log t) ∨
      ∃ f, TokenFailure a f := by
  cases read : Client.receivedToken a with
  | error f => exact .inr ⟨f, failure_of_receivedToken read⟩
  | ok t =>
    obtain ⟨r, e, pause, path⟩ := fetches
    obtain ⟨use, _, rfl, rfl⟩ := fetch_of_path (pause ▸ kept.suits c mem) path
    refine .inl ⟨t, (receivedToken_eq_ok.mp read).1, ?_⟩
    rw [← (h.step kept (.answer c.id a)).known, kept.step_answer mem pause]
    simp only [Traffic.turned, Client.receive, read]
    rfl

theorem failed (kept : x.Kept) (h : x.Guarded token) {c : OpenCall} (mem : c ∈ x.calls)
    (fetches : Fetches c) {a : Outcome Response} {f : Failure} (failure : TokenFailure a f) :
    (x.step (.answer c.id a)).log = x.log ++ [.answered c.id a, .returned c.id (.error f)] ∧
      (∀ ss, requests ((x.step (.answer c.id a)).steps ss).log c.id = [tokenRequest]) ∧
      NextFetches (x.step (.answer c.id a)) := by
  obtain ⟨r, e, pause, path⟩ := fetches
  obtain ⟨use, _, rfl, rfl⟩ := fetch_of_path (pause ▸ kept.suits c mem) path
  have turn : x.client.receive (.token use) a =
      (.done (.error f), { x.client with token := x.client.token.release }) := by
    simp only [Client.receive, receivedToken_of_failure failure, TokenCell.settle_error]
  have stands : spot (x.pauses c.id) = .fetching := by
    rw [kept.pauses_open mem, pause]
    rfl
  have kept' := kept.step (.answer c.id a)
  have guarded' := h.step kept (.answer c.id a)
  rw [kept.step_answer mem pause, turn] at kept' guarded' ⊢
  generalize same : Traffic.turned _ _ _ _ = y at kept' guarded' ⊢
  have log : y.log = x.log ++ [.answered c.id a, .returned c.id (.error f)] := by
    rw [← same]
    exact List.append_assoc ..
  have pauses : y.pauses = Function.update x.pauses c.id none := by
    rw [← same]
    exact pauses_turned _ _ _ _
  have token : y.client.token = x.client.token.release := by rw [← same]; rfl
  have made : y.made = x.made := by rw [← same]; rfl
  refine ⟨log, ?_, guarded'.nextFetches kept' ?_ ?_⟩
  · intro ss
    have ended : y.pauses c.id = none := by rw [pauses, Function.update_self]
    have only := kept.sent c mem _ _ pause fun h => by cases h
    rw [kept'.ended_steps (made ▸ kept.known_open mem) ended ss, log, requests_append, only]
    rfl
  · rw [token, TokenCell.token_release]
    exact h.unknown_of_fetching c.id stands
  · intro i fetches
    by_cases own : i = c.id
    · rw [pauses, own, Function.update_self] at fetches
      cases fetches
    · rw [pauses, Function.update_of_ne own] at fetches
      exact own (h.attended.alone fetches stands)

end Guarded

/-- The token is safe in every run. Whatever steps are taken at a client that
nobody has called, with calls of all services, requests answered in any order
and in any way, and calls dropped: a request that changes something carries the
token that was given at the start, or else the one that the one response to a
request for it has brought, and is sent only after that. One request for the
token at most is under way, and none is sent once the token is known. A call
whose request for it fails ends with that failure, and the next one fetches
the token again. -/
theorem token_safety (token : Option String) (pages rights : CacheLimits) (ss : List Step) :
    TokenSafe token (play token pages rights ss) := by
  have kept := kept_play token pages rights ss
  have guarded := guarded_play token pages rights ss
  constructor
  case posts => exact fun l i r l' split post => guarded.posts split post
  case one_value =>
    intro i j r s sent sent' post post'
    obtain ⟨l, l', split⟩ := List.append_of_mem sent
    obtain ⟨m, m', split'⟩ := List.append_of_mem sent'
    obtain ⟨_, t, headers, known⟩ := guarded.posts split post
    obtain ⟨_, t', headers', known'⟩ := guarded.posts split' post'
    have one := known.append (.sent i r :: l')
    have two := known'.append (.sent j s :: m')
    rw [← split] at one
    rw [← split'] at two
    rw [headers, headers', guarded.unique one two]
  case one_response => exact fun _ _ _ _ one two => guarded.one_response one two
  case one_fetch => exact fun c hc d hd one two => guarded.one_fetch kept hc hd one two
  case no_fetch => exact fun l i r l' split path => (guarded.allowed l _ l' split).2 path
  case decided => exact fun c mem fetches a => guarded.decided kept mem fetches a
  case failed => exact fun c mem fetches a f failure => guarded.failed kept mem fetches failure

/-- Two calls that need the token. The first fetches it, and the second waits. -/
def twoTopics : List Step :=
  [.call (.createTopic "Algebra" "alg"), .call (.createTopic "Geometry" "geo")]

/-- A response to a request for the token, with a text in it. -/
def tokenResponse (body : String) : Outcome Response := .ok ⟨200, body⟩

/-- The one that has waited fetches the token in its turn. -/
def secondFetch : List Step :=
  [.answer 0 (tokenResponse "\x7b\"token\":\"\"\x7d"), .wake 1,
    .answer 1 (tokenResponse "\x7b\"token\":\"t1\"\x7d")]

/-- The first call finds the token empty. It fails, sends nothing more whatever
happens, and the second fetches the token again. Its topic carries what the second
response has brought. -/
theorem token_safety_second_fetch :
    let emptied := (play none {} {} twoTopics).step
      (.answer 0 (tokenResponse "\x7b\"token\":\"\"\x7d"))
    emptied.log = (play none {} {} twoTopics).log ++
        [.answered 0 (tokenResponse "\x7b\"token\":\"\"\x7d"),
          .returned 0 (.error (.other "backend returned an empty csrf token"))] ∧
      (∀ ss, requests (emptied.steps ss).log 0 = [tokenRequest]) ∧
      NextFetches emptied ∧
      ∃ l, (play none {} {} (twoTopics ++ secondFetch)).log =
          l ++ [.sent 1 (TopicDraft.request ⟨"Geometry", "geo"⟩ "t1")] ∧
        TokenKnown none l "t1" := by
  intro emptied
  have mem : ⟨0, .createTopic "Algebra" "alg",
      .request tokenRequest (.token (.create ⟨"Algebra", "alg"⟩))⟩ ∈
      (play none {} {} twoTopics).calls := List.mem_cons_self
  have empty : TokenFailure (tokenResponse "\x7b\"token\":\"\"\x7d")
      (.other "backend returned an empty csrf token") := .empty rfl rfl
  obtain ⟨log, silent, next⟩ :=
    (token_safety none {} {} twoTopics).failed _ mem ⟨_, _, rfl, rfl⟩ _ _ empty
  refine ⟨log, silent, next, _, rfl, ?_⟩
  obtain ⟨_, t, headers, known⟩ :=
    (token_safety none {} {} (twoTopics ++ secondFetch)).posts _ 1 _ [] rfl rfl
  cases headers
  exact known

end Traffic

end LearningClient.Rehearsal
