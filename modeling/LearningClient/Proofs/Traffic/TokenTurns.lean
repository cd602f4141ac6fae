import LearningClient.Proofs.Store.Tickets
import LearningClient.Proofs.Traffic.Turns

/-!
# What a turn is to the token

Where a call stands at the token cell is read off what it is suspended at
(`spot`). A turn concerns the token in one of four ways (`Turned.onToken`):
not at all, a call asks for it, the request of a call for it is answered, or a
call that waits for it looks again. All else is read off these four: what the
turn does to the cell (`OnToken.acts`), what it sends (`OnToken.sent`), and
when the token becomes known (`OnToken.known`).
-/

namespace LearningClient

open LearningClient.Http LearningClient.Json

/-! ## Requests and responses -/

theorem path_rightsRequest (skillId : String) : (rightsRequest skillId).path ≠ "/csrfhandler" := by
  intro same
  have letters := congrArg String.toList same
  simp [rightsRequest, Request.get] at letters

theorem path_request (q : QuestionQuery) : q.request.path ≠ "/csrfhandler" := by
  show "/question_player_handler" ≠ "/csrfhandler"
  decide

/-- The failures of a fetch of the token. -/
inductive TokenFailure : Outcome Response → Failure → Prop
  /-- The request or its response did not get through. -/
  | lost (e : Failure) : TokenFailure (.error e) e
  /-- The status is no success. -/
  | refused {r : Response} (status : r.isSuccess = false) : TokenFailure (.ok r) r.failure
  | undecodable {r : Response} {fault : Fault} (status : r.isSuccess = true)
      (body : decode readToken (String.ofList (stripGuard r.body.toList)) = .error fault) :
      TokenFailure (.ok r) (.invalidData fault.message)
  | empty {r : Response} (status : r.isSuccess = true)
      (body : decode readToken (String.ofList (stripGuard r.body.toList)) = .ok "") :
      TokenFailure (.ok r) (.other "backend returned an empty csrf token")

section
variable {a : Outcome Response} {e : Failure} {t : String}

/-- The token in a response is not empty. -/
theorem receivedToken_eq_ok :
    Client.receivedToken a = .ok t ↔ received a readToken = .ok t ∧ t ≠ "" := by
  unfold Client.receivedToken
  cases read : received a readToken with
  | error e => simp [Except.bind, bind]
  | ok s =>
    by_cases empty : s = ""
    · subst empty
      simp [Except.bind, bind, throw, throwThe, MonadExceptOf.throw]
    · simp [Except.bind, bind, pure, Except.pure, empty]
      rintro rfl
      exact empty

theorem receivedToken_of_failure (h : TokenFailure a e) : Client.receivedToken a = .error e := by
  cases h with
  | lost => rfl
  | refused status =>
    simp [Client.receivedToken, received, Response.result, Except.bind, bind, status]
  | undecodable status body =>
    simp [Client.receivedToken, received, Response.result, Except.bind, bind, status, body]
  | empty status body =>
    simp [Client.receivedToken, received, Response.result, Except.bind, bind, status, body, throw,
      throwThe, MonadExceptOf.throw]

/-- A response either brings a token or is a failure. -/
theorem failure_of_receivedToken (h : Client.receivedToken a = .error e) : TokenFailure a e := by
  cases a with
  | error f =>
    obtain rfl : f = e := Except.error.inj h
    exact .lost f
  | ok r =>
    cases status : r.isSuccess with
    | false =>
      have failed := receivedToken_of_failure (.refused status)
      rw [Except.error.inj (h.symm.trans failed)]
      exact .refused status
    | true =>
      cases body : decode readToken (String.ofList (stripGuard r.body.toList)) with
      | error fault =>
        have failed := receivedToken_of_failure (.undecodable status body)
        rw [Except.error.inj (h.symm.trans failed)]
        exact .undecodable status body
      | ok t =>
        by_cases empty : t = ""
        · subst empty
          have failed := receivedToken_of_failure (.empty status body)
          rw [Except.error.inj (h.symm.trans failed)]
          exact .empty status body
        · have read : received (.ok r) readToken = .ok t := by
            simp [received, Response.result, Except.bind, bind, status, body]
          have found := receivedToken_eq_ok.mpr ⟨read, empty⟩
          rw [found] at h
          cases h

end

namespace Rehearsal

/-! ## One turn -/

/-- Where a call stands at the token, by what it is suspended at. -/
def spot : Option Pause → Spot
  | some (.request _ (.token _)) => .fetching
  | some (.wait (.token _ ticket)) => .queued ticket
  | _ => .away

theorem pause_of_queued {P : Pause} {ticket : Nat} (h : spot (some P) = .queued ticket) :
    ∃ use, P = .wait (.token use ticket) := by
  cases P with
  | request r e => cases e <;> cases h
  | wait w =>
    cases w with
    | token use k =>
      cases h
      exact ⟨use, rfl⟩
    | _ => cases h

/-- What a turn is to the token. -/
inductive OnToken (c : Client) (call : Call) :
    Option Pause → Option (Outcome Response) → Progress × Client → Prop
  /-- The call does not need it, and sends nothing that has to do with it. -/
  | apart {p : Option Pause} {a : Option (Outcome Response)} {g : Progress × Client}
      (stood : spot p = .away) (stands : spot (pause? g.1) = .away)
      (same : g.2.token = c.token)
      (sends : ∀ r e, g.1 = .sends r e → r.method = .get ∧ r.path ≠ "/csrfhandler") :
      OnToken c call p a g
  | asked {use : TokenUse} (uses : Uses call use) : OnToken c call none none (c.askToken use)
  | answered {use : TokenUse} {a : Outcome Response} (uses : Uses call use) :
      OnToken c call (some (.request tokenRequest (.token use))) (some a)
        (c.receive (.token use) a)
  | woken {use : TokenUse} {ticket : Nat} (uses : Uses call use) :
      OnToken c call (some (.wait (.token use ticket))) none (c.wake (.token use ticket))

section
variable {c : Client} {call : Call} {p : Option Pause} {a : Option (Outcome Response)}
  {g : Progress × Client}

theorem OnToken.of_done (stood : spot p = .away) (same : g.2.token = c.token) {r : Outcome Reply}
    (done : g.1 = .done r) : OnToken c call p a g := by
  refine .apart stood ?_ same ?_
  · rw [done]
    rfl
  · intro r e sends
    cases done.symm.trans sends

theorem pageTurn_onToken (stood : spot p = .away) (q : QuestionQuery)
    (t : Turn QuestionBatch × Accessor QuestionBatch) : OnToken c call p a (c.pageTurn q t) := by
  obtain ⟨turn, pages⟩ := t
  cases turn with
  | answered r => exact .of_done stood rfl rfl
  | waits f => exact .apart stood rfl rfl nofun
  | leads f =>
    refine .apart stood rfl rfl ?_
    rintro r e ⟨⟩
    exact ⟨rfl, path_request _⟩

theorem rightsTurn_onToken (stood : spot p = .away) (skillId : String)
    (t : Turn SkillRights × Accessor SkillRights) :
    OnToken c call p a (c.rightsTurn skillId t) := by
  obtain ⟨turn, rights⟩ := t
  cases turn with
  | answered r => exact .of_done stood rfl rfl
  | waits f => exact .apart stood rfl rfl nofun
  | leads f =>
    refine .apart stood rfl rfl ?_
    rintro r e ⟨⟩
    exact ⟨rfl, path_rightsRequest _⟩

theorem start_onToken : OnToken c call none none (c.start call) := by
  cases call with
  | fetchQuestions s n cursor =>
    simp only [Client.start, Client.checked]
    split
    · refine .apart rfl rfl rfl ?_
      rintro r e ⟨⟩
      exact ⟨rfl, path_request _⟩
    · exact .of_done rfl rfl rfl
  | loadQuestions s n cursor =>
    simp only [Client.start, Client.checked]
    split
    · exact pageTurn_onToken rfl _ _
    · exact .of_done rfl rfl rfl
  | isPageCached s n cursor =>
    simp only [Client.start, Client.checked]
    split
    · exact .of_done rfl rfl rfl
    · exact .of_done rfl rfl rfl
  | resetCursor s => exact .of_done rfl rfl rfl
  | createTopic n a =>
    simp only [Client.start, Client.checked]
    split
    · exact .asked (.create ‹_›)
    · exact .of_done rfl rfl rfl
  | fetchRights s =>
    simp only [Client.start, Client.checked]
    split
    · refine .apart rfl rfl rfl ?_
      rintro r e ⟨⟩
      exact ⟨rfl, path_rightsRequest _⟩
    · exact .of_done rfl rfl rfl
  | loadRights s =>
    simp only [Client.start, Client.checked]
    split
    · exact rightsTurn_onToken rfl _ _
    · exact .of_done rfl rfl rfl
  | areRightsCached s => exact .of_done rfl rfl rfl
  | cacheRights s v => exact .of_done rfl rfl rfl
  | getToken => exact .asked .handOut

/-- What a turn can be to the token. -/
theorem Turned.onToken (turn : Turned c call p a g) (suits : ∀ P, p = some P → Suits call P) :
    OnToken c call p a g := by
  cases turn with
  | started => exact start_onToken
  | @answered r e m =>
    cases suits _ rfl with
    | fetchPage valid start explicit =>
      refine .of_done rfl ?_ (receive_page _ _)
      simp only [Client.receive, Client.remember]
      split
      · split <;> rfl
      · rfl
    | loadPage valid => exact .of_done rfl rfl rfl
    | fetchRights valid => exact .of_done rfl rfl rfl
    | loadRights valid => exact .of_done rfl rfl rfl
    | fetchToken => exact .answered .handOut
    | fetchTokenFor valid => exact .answered (.create valid)
    | createTopic valid => exact .of_done rfl rfl rfl
  | woken =>
    cases suits _ rfl with
    | awaitPage valid => exact pageTurn_onToken rfl _ _
    | awaitRights valid => exact rightsTurn_onToken rfl _ _
    | awaitToken => exact .woken .handOut
    | awaitTokenFor valid => exact .woken (.create valid)

theorem spot_useToken (t : String) (use : TokenUse) :
    spot (pause? (Client.useToken t use)) = .away := by
  cases use <;> rfl

theorem spot_tokenTurn (use : TokenUse) (turn : TokenTurn) :
    spot (pause? (Client.tokenTurn use turn)) = TokenCell.spotOf turn := by
  cases turn with
  | known t => exact spot_useToken t use
  | fetches => rfl
  | waits ticket => rfl

/-- What a turn does to the cell. -/
theorem OnToken.acts (h : OnToken c call p a g) :
    c.token.Acts (spot p) (spot (pause? g.1)) g.2.token := by
  cases h with
  | apart stood stands same =>
    rw [stood, stands, same]
    exact .apart
  | @asked use =>
    show c.token.Acts .away (spot (pause? (Client.tokenTurn use c.token.ask.1))) c.token.ask.2
    rw [spot_tokenTurn]
    exact c.token.ask_acts
  | @answered use m =>
    simp only [Client.receive]
    cases read : Client.receivedToken m with
    | ok t =>
      simp only [spot_useToken]
      exact .brought t
    | error e => exact .failed
  | @woken use ticket =>
    show c.token.Acts (.queued ticket)
      (spot (pause? (Client.tokenTurn use (c.token.askAgain ticket)))) c.token
    rw [spot_tokenTurn]
    exact c.token.askAgain_acts ticket

/-- What a call that is dropped does to the cell. -/
theorem leave_acts (c : Client) (P : Pause) :
    c.token.Acts (spot (some P)) .away (leave c P).token := by
  cases P with
  | request r e =>
    cases e with
    | token use => exact .failed
    | _ => exact .apart
  | wait w =>
    cases w with
    | token use ticket => exact .withdrawn
    | _ => exact .apart

/-- A call that has sent a request for the token needs it. -/
theorem fetch_of_path {r : Request} {e : Errand} (suits : Suits call (.request r e))
    (path : r.path = "/csrfhandler") :
    ∃ use, Uses call use ∧ e = .token use ∧ r = tokenRequest := by
  cases suits with
  | fetchPage valid start explicit => exact absurd path (path_request _)
  | loadPage valid => exact absurd path (path_request _)
  | fetchRights valid => exact absurd path (path_rightsRequest _)
  | loadRights valid => exact absurd path (path_rightsRequest _)
  | fetchToken => exact ⟨_, .handOut, rfl, rfl⟩
  | fetchTokenFor valid => exact ⟨_, .create valid, rfl, rfl⟩
  | @createTopic n a token t valid =>
    have other : (t.request token).path ≠ "/csrfhandler" := by
      show "/topic_editor_handler/create_new" ≠ "/csrfhandler"
      decide
    exact absurd path other

theorem sends_useToken {t : String} {use : TokenUse} {r : Request} {e : Errand}
    (sends : Client.useToken t use = .sends r e) : ∃ d : TopicDraft, r = d.request t := by
  cases use with
  | handOut => cases sends
  | create d =>
    cases sends
    exact ⟨d, rfl⟩

theorem sends_tokenTurn {turn : TokenTurn} {use : TokenUse} {r : Request} {e : Errand}
    (sends : Client.tokenTurn use turn = .sends r e) :
    (∃ t, turn = .known t ∧ ∃ d : TopicDraft, r = d.request t) ∨
      turn = .fetches ∧ r = tokenRequest := by
  cases turn with
  | known t => exact .inl ⟨t, rfl, sends_useToken sends⟩
  | fetches =>
    cases sends
    exact .inr ⟨rfl, rfl⟩
  | waits ticket => cases sends

/-- What a turn sends: nothing that has to do with the token, or a topic with
the token that is known now, or a request for the token, which is not known. -/
theorem OnToken.sent (h : OnToken c call p a g) {r : Request} {e : Errand}
    (sends : g.1 = .sends r e) :
    (r.method = .get ∧ r.path ≠ "/csrfhandler") ∨
      (∃ (d : TopicDraft) (t : String), r = d.request t ∧ g.2.token.token = some t) ∨
      r = tokenRequest ∧ g.2.token.token = none := by
  cases h with
  | apart _ _ _ others => exact .inl (others r e sends)
  | @asked use =>
    have same : (c.askToken use).2.token.token = c.token.token := c.token.token_ask
    rw [same]
    rcases sends_tokenTurn sends with ⟨t, known, d, rfl⟩ | ⟨fetches, rfl⟩
    · exact .inr (.inl ⟨d, t, rfl, TokenCell.known_of_ask known⟩)
    · exact .inr (.inr ⟨rfl, TokenCell.unknown_of_ask fetches⟩)
  | @answered use m =>
    simp only [Client.receive] at sends ⊢
    cases read : Client.receivedToken m with
    | ok t =>
      rw [read] at sends
      obtain ⟨d, rfl⟩ := sends_useToken sends
      exact .inr (.inl ⟨d, t, rfl, rfl⟩)
    | error f =>
      rw [read] at sends
      cases sends
  | @woken use ticket =>
    show _ ∨ (∃ (d : TopicDraft) (t : String), r = d.request t ∧ c.token.token = some t) ∨
      r = tokenRequest ∧ c.token.token = none
    rcases sends_tokenTurn sends with ⟨t, known, d, rfl⟩ | ⟨fetches, rfl⟩
    · exact .inr (.inl ⟨d, t, rfl, TokenCell.known_of_askAgain known⟩)
    · exact .inr (.inr ⟨rfl, TokenCell.unknown_of_askAgain fetches⟩)

/-- A turn brings the token: the request for it has been answered with it. -/
def Brings (p : Option Pause) (a : Option (Outcome Response)) (t : String) : Prop :=
  ∃ use m, p = some (.request tokenRequest (.token use)) ∧ a = some m ∧
    Client.receivedToken m = .ok t

/-- What is known after a turn was known before, or the turn has brought it. -/
theorem OnToken.known (h : OnToken c call p a g)
    (fetches : spot p = .fetching → c.token.token = none) (t : String) :
    g.2.token.token = some t ↔ c.token.token = some t ∨ Brings p a t := by
  cases h with
  | apart stood _ same =>
    rw [same]
    refine ⟨.inl, ?_⟩
    rintro (known | ⟨use, m, rfl, _⟩)
    · exact known
    · cases stood
  | @asked use =>
    have same : (c.askToken use).2.token.token = c.token.token := c.token.token_ask
    rw [same]
    refine ⟨.inl, ?_⟩
    rintro (known | ⟨_, _, none, _⟩)
    · exact known
    · cases none
  | @answered use m =>
    have unknown := fetches rfl
    simp only [Client.receive, Brings]
    cases read : Client.receivedToken m with
    | ok s => simp [TokenCell.settle, unknown, read]
    | error f => simp [TokenCell.settle_error, TokenCell.token_release, unknown, read]
  | @woken use ticket =>
    show c.token.token = some t ↔ _
    refine ⟨.inl, ?_⟩
    rintro (known | ⟨_, _, wait, _⟩)
    · exact known
    · cases wait

theorem token_leave (c : Client) (P : Pause) : (leave c P).token.token = c.token.token := by
  cases P with
  | request r e =>
    cases e with
    | token use => exact c.token.token_release
    | _ => rfl
  | wait w =>
    cases w with
    | token use ticket => exact c.token.token_withdraw ticket
    | _ => rfl

end

end Rehearsal

end LearningClient
