import LearningClient.Proofs.Client.Rules
import LearningClient.Proofs.Form
import LearningClient.Proofs.Traffic.Kept

/-!
# What goes out

Every request that a client sends has one of four shapes (`OnWire`), down to
the text of its path and query. The shapes name neither calls nor the state of
the client: what a caller has passed and what the backend has said before are
there only as far as they have passed a rule or an encoder. A cursor passes no
rule, so it can be any text, but it stays one value of the query; the name of
a skill stays one segment of the path.

A request under way suits the call that sent it (`Suits`), so the shapes are
read off what the parameters of that call have passed (`Suits.onWire`), and
whole runs follow from the log of each step (`Traffic.sent_suits`).
-/

namespace LearningClient.Rehearsal

open LearningClient LearningClient.Http LearningClient.Text

/-- A request that asks, and carries nothing. -/
structure Bare (r : Request) : Prop where
  method : r.method = .get
  headers : r.headers = []
  body : r.body = none

/-- The shapes of requests. -/
inductive OnWire (r : Request) : Prop
  /-- The token. -/
  | token (bare : Bare r) (query : r.query = []) (text : r.pathAndQuery = "/csrfhandler")
  /-- A page of questions. The parameters are read off the query in this
  order, and the list of skills and the count, a number of 63 bits, go out as
  they are. -/
  | page (ids cursor : String) (count : Nat) (bare : Bare r)
      (path : r.path = "/question_player_handler")
      (list : IsNumberList ids) (positive : 1 ≤ count) (bounded : count ≤ 0x7fffffffffffffff)
      (parameters : r.parameters =
        [("skill_ids", ids), ("question_count", Nat.repr count), ("start_cursor", cursor)])
      (text : r.pathAndQuery =
        "/question_player_handler?skill_ids=" ++ ids ++ "&question_count=" ++ Nat.repr count ++
          "&start_cursor=" ++ String.ofList (Form.encodePart cursor))
  /-- The rights on a skill. -/
  | rights (segment : List Char) (bare : Bare r) (query : r.query = [])
      (text : r.pathAndQuery = "/skill_editor_handler/rights/" ++ String.ofList segment)
      (full : segment ≠ []) (escaped : Form.Escaped segment)
      (apart : segment ≠ ['.'] ∧ segment ≠ ['.', '.'])
  /-- A topic. -/
  | topic (name abbreviated token : String) (method : r.method = .post) (query : r.query = [])
      (text : r.pathAndQuery = "/topic_editor_handler/create_new")
      (headers : r.headers = [(tokenHeader, token)])
      (body : r.body = some (.obj [("abbreviated_name", .str abbreviated), ("name", .str name)]))
      (named : name ≠ "" ∧ abbreviated ≠ "")

theorem OnWire.bare_of_get {r : Request} (h : OnWire r) (get : r.method = .get) : Bare r := by
  cases h with
  | token bare => exact bare
  | page _ _ _ bare => exact bare
  | rights _ bare => exact bare
  | topic _ _ _ post =>
    rw [post] at get
    cases get

theorem onWire_tokenRequest : OnWire tokenRequest := .token ⟨rfl, rfl, rfl⟩ rfl rfl

/-- The list of skills and the count of a page have nothing that has to be
encoded. -/
theorem pathAndQuery_of_valid {q : QuestionQuery} (valid : q.Valid) :
    q.request.pathAndQuery =
      "/question_player_handler?skill_ids=" ++ q.skillIds ++ "&question_count=" ++ q.countText ++
        "&start_cursor=" ++ String.ofList (Form.encodePart q.startCursor) := by
  have ids : Form.encodePart q.skillIds = q.skillIds.toList :=
    Form.encodePart_eq_self fun c mem => Parameter.eq_comma_or_isDigit valid mem
  have count : Form.encodePart q.countText = q.countText.toList := by
    refine Form.encodePart_eq_self fun c mem => .inr ?_
    rw [QuestionQuery.countText, String.toList_ofList] at mem
    exact Nat.isDigit_of_mem_toDigits (by decide) (by decide) mem
  have names : Form.encodePart "skill_ids" = "skill_ids".toList ∧
      Form.encodePart "question_count" = "question_count".toList ∧
      Form.encodePart "start_cursor" = "start_cursor".toList := by decide +kernel
  obtain ⟨first, second, third⟩ := names
  apply String.toList_injective
  simp [Request.pathAndQuery, Request.encodedQuery, Form.encodePairs, Form.encodePair,
    QuestionQuery.request, Request.withQuery, Request.get, ids, count, first, second, third]

example : (QuestionQuery.request ⟨"1,2", 3, "a&b=c d"⟩).pathAndQuery =
    "/question_player_handler?skill_ids=1,2&question_count=3&start_cursor=a%26b%3Dc+d" := by
  decide +kernel

theorem onWire_page {s n : String} {q : QuestionQuery} (valid : QuestionQuery.ofTexts s n = .ok q)
    (start : String) : OnWire (q.startingAt start).request := by
  obtain ⟨list, positive, spelled⟩ := QuestionQuery.spelled_of_ofTexts valid
  obtain ⟨rfl, _, ok⟩ := QuestionQuery.ofTexts_eq_ok valid
  have bounded : q.count ≤ 0x7fffffffffffffff := by
    have high := spelled.high
    unfold int64Max at high
    omega
  exact .page q.skillIds start q.count ⟨rfl, rfl, rfl⟩ rfl list positive bounded
    (Request.parameters_eq_query _) (pathAndQuery_of_valid (QuestionQuery.startingAt_valid ok))

theorem onWire_rights {s : String} (valid : checkSkillId s = .ok s) :
    OnWire (rightsRequest s) := by
  obtain ⟨full, dot, dots⟩ := segment_of_checkSkillId valid
  -- the segment of another text is another one
  have other : ∀ {t : String}, s ≠ t → Form.encodeSegment s ≠ Form.encodeSegment t :=
    fun ne same => ne (Form.encodeSegment_injective same)
  exact .rights (Form.encodeSegment s) ⟨rfl, rfl, rfl⟩ rfl rfl (other full)
    (Form.escaped_encodeSegment s) ⟨other dot, other dots⟩

theorem onWire_topic {n a : String} {t : TopicDraft} (valid : TopicDraft.ofTexts n a = .ok t)
    (token : String) : OnWire (t.request token) := by
  obtain ⟨rfl, named⟩ := TopicDraft.named_of_ofTexts valid
  exact .topic n a token rfl rfl rfl rfl rfl named

/-- What a call is suspended at as a request has one of the shapes. -/
theorem Suits.onWire {call : Call} {r : Request} {e : Errand}
    (suits : Suits call (.request r e)) : OnWire r := by
  cases suits with
  | fetchPage valid start explicit => exact onWire_page valid start
  | loadPage valid => exact onWire_page valid _
  | fetchRights valid => exact onWire_rights valid
  | loadRights valid => exact onWire_rights valid
  | fetchToken => exact onWire_tokenRequest
  | fetchTokenFor valid => exact onWire_tokenRequest
  | createTopic valid => exact onWire_topic valid _

namespace Traffic

/-- What is sent in a step suits a call. -/
theorem Kept.sent_step {x : Traffic} (h : x.Kept) {s : Step} {i : Nat} {r : Request}
    (sent : .sent i r ∈ (x.step s).log) :
    .sent i r ∈ x.log ∨ ∃ call e, Suits call (.request r e) := by
  have turned : ∀ {id call p a g}, Turned x.client call p a g →
      (∀ P, p = some P → Suits call P) → .sent i r ∈ shows id g.1 →
      ∃ call e, Suits call (.request r e) := by
    intro id call p a g turn suits shown
    obtain ⟨e, pause⟩ := pause?_of_sent shown
    exact ⟨call, e, turn.suits suits pause⟩
  have hs := x.stepped s
  generalize x.step s = y at hs sent
  cases hs with
  | @called call g turn =>
    simp only [Traffic.turned, record, List.mem_append, List.mem_singleton, reduceCtorEq,
      or_false] at sent
    exact sent.imp id (turned turn fun P none => by cases none)
  | @answered c r e a g mem pause turn =>
    simp only [Traffic.turned, record, List.mem_append, List.mem_singleton, reduceCtorEq,
      or_false] at sent
    exact sent.imp id (turned turn (h.suits_at mem pause))
  | @woken c w g mem pause turn =>
    exact (List.mem_append.mp sent).imp id (turned turn (h.suits_at mem pause))
  | dropped mem => exact .inl sent
  | worn worn => exact .inl sent

/-- Whatever has been sent suits a call. -/
theorem sent_suits (token : Option String) (pages rights : CacheLimits) {ss : List Step} {i : Nat}
    {r : Request} (sent : .sent i r ∈ (play token pages rights ss).log) :
    ∃ call e, Suits call (.request r e) := by
  induction ss using List.reverseRecOn with
  | nil => exact absurd sent List.not_mem_nil
  | append_singleton ss s ih =>
    rw [play_concat] at sent
    exact ((kept_play token pages rights ss).sent_step sent).elim ih id

/-- The contract of what goes out. Whatever steps are taken at a client that
nobody has called, with calls of all services and any parameters, and requests
answered in any order and in any way, every request that has been sent has one
of the four shapes, and one that asks carries neither headers nor a body. -/
theorem shape_of_sent (token : Option String) (pages rights : CacheLimits) (ss : List Step)
    {i : Nat} {r : Request} (sent : .sent i r ∈ (play token pages rights ss).log) :
    OnWire r ∧ (r.method = .get → r.headers = [] ∧ r.body = none) := by
  obtain ⟨call, e, suits⟩ := sent_suits token pages rights sent
  refine ⟨suits.onWire, fun get => ?_⟩
  obtain ⟨_, headers, body⟩ := suits.onWire.bare_of_get get
  exact ⟨headers, body⟩

/-- A fetch goes on where the backend has said, at a cursor with marks of its
own, and its count is spelled with a sign and blanks. -/
theorem shape_of_sent_cursor :
    .sent 1 (QuestionQuery.request ⟨"1,2", 3, "a&b=c d"⟩) ∈
      (play none {} {}
        [.call (.fetchQuestions "1,2" "5" none),
          .answer 0 (.ok (.ofValue 200 (.arr [.arr [], .str "a&b=c d"]))),
          .call (.fetchQuestions "1,2" " +03 " none)]).log ∧
    OnWire (QuestionQuery.request ⟨"1,2", 3, "a&b=c d"⟩) := by
  have sent : .sent 1 (QuestionQuery.request ⟨"1,2", 3, "a&b=c d"⟩) ∈
      (play none {} {}
        [.call (.fetchQuestions "1,2" "5" none),
          .answer 0 (.ok (.ofValue 200 (.arr [.arr [], .str "a&b=c d"]))),
          .call (.fetchQuestions "1,2" " +03 " none)]).log :=
    List.mem_of_getElem? (show _[5]? = _ from rfl)
  exact ⟨sent, (shape_of_sent none {} {} _ sent).1⟩

end Traffic

end LearningClient.Rehearsal
