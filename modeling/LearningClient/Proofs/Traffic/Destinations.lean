import LearningClient.Proofs.Http.Address
import LearningClient.Proofs.Settings
import LearningClient.Proofs.Traffic.Outgoing

/-!
# Where requests go

All requests that a client sends are routed to one of four handlers
(`Suits.routed`). With the address of the backend out of the settings, which has
the form in which addresses are written, each has an address
(`Traffic.address_of_sent`): on the host and port of the backend, and behind its
path unless a query or a fragment stands there.

Requests at one path are routed alike (`names_eq_of_address`). So the rights on a
skill are asked for where nothing else is, whatever the skill is called
(`rights_address`).
-/

namespace LearningClient

open LearningClient.Http LearningClient.Text LearningClient.Url

/-! ## Requests of the services -/

theorem encodeSegment_handlers :
    Form.encodeSegment "skill_editor_handler" = "skill_editor_handler".toList ∧
    Form.encodeSegment "rights" = "rights".toList := by
  decide +kernel

theorem routed_rightsRequest {s : String} (valid : checkSkillId s = .ok s) :
    (rightsRequest s).Routed ["skill_editor_handler", "rights", s] := by
  obtain ⟨_, apart⟩ := segment_of_checkSkillId valid
  obtain ⟨handler, rights⟩ := encodeSegment_handlers
  refine ⟨?_, by simp, ?_⟩
  · simp [rightsRequest, Request.get, Path.text, handler, rights]
  · simp only [List.forall_mem_cons]
    exact ⟨by decide, by decide, apart, by simp⟩

/-- A request of the services is routed to one of four handlers, and only the
rights on a skill are asked for where they are. -/
theorem Rehearsal.Suits.routed {call : Call} {r : Request} {e : Errand}
    (suits : Suits call (.request r e)) :
    ∃ names, r.Routed names ∧
      ∀ s, names = ["skill_editor_handler", "rights", s] → r = rightsRequest s := by
  have page : ∀ q : QuestionQuery, q.request.Routed ["question_player_handler"] := fun q =>
    ⟨show "/question_player_handler".toList = _ by decide +kernel, by simp, by decide⟩
  have token : tokenRequest.Routed ["csrfhandler"] := ⟨by decide +kernel, by simp, by decide⟩
  have topic : ∀ (t : TopicDraft) token, (t.request token).Routed
      ["topic_editor_handler", "create_new"] := fun t token =>
    ⟨show "/topic_editor_handler/create_new".toList = _ by decide +kernel, by simp, by decide⟩
  cases suits with
  | fetchPage => exact ⟨_, page _, by simp⟩
  | loadPage => exact ⟨_, page _, by simp⟩
  | fetchRights valid => exact ⟨_, routed_rightsRequest valid, by simp⟩
  | loadRights valid => exact ⟨_, routed_rightsRequest valid, by simp⟩
  | fetchToken => exact ⟨_, token, by simp⟩
  | fetchTokenFor => exact ⟨_, token, by simp⟩
  | createTopic => exact ⟨_, topic _ _, by simp⟩

/-! ## The address of the backend -/

/-- The address of the backend has the form in which it is written. -/
theorem Settings.settled_of_ofLookup {lookup : String → Option String} {settings : Settings}
    (configured : ofLookup lookup = .ok settings) (web : IsWeb settings.baseUrl.scheme) :
    settings.baseUrl.Settled := by
  have made := (ofLookupWith_eq_ok.mp configured).baseUrl
  generalize lookup _ = value, settings.baseUrl = base at made web ⊢
  cases made with
  | given parsed => exact settled_of_parse parsed web
  | missing => exact settled_of_parse parse_localBackend web

theorem Rehearsal.Traffic.routed_of_sent (token : Option String) (pages rights : CacheLimits)
    {ss : List Step} {i : Nat} {r : Request} (sent : .sent i r ∈ (play token pages rights ss).log) :
    ∃ names, r.Routed names ∧
      ∀ s, names = ["skill_editor_handler", "rights", s] → r = rightsRequest s := by
  obtain ⟨call, e, suits⟩ := sent_suits token pages rights sent
  exact suits.routed

/-- Where requests go. The address of the backend is whatever the settings say, of
one of the two schemes of the web, and the request is one that a client has sent,
whatever it has been called for. Then the request has an address, on the host and
port of the backend and with its user, and

- if the address of the backend ends with its path, the path of the request is
  added to that, with the slashes between them gone;
- if it has a fragment, or a query, that is where the path of the request goes,
  and the path of the backend is all that is left of the path. -/
theorem Rehearsal.Traffic.address_of_sent {lookup : String → Option String} {settings : Settings}
    (configured : Settings.ofLookup lookup = .ok settings) (web : IsWeb settings.baseUrl.scheme)
    (token : Option String) (pages rights : CacheLimits) (ss : List Step) {i : Nat} {r : Request}
    (sent : .sent i r ∈ (play token pages rights ss).log) :
    ∃ a, r.address settings.baseUrl = .ok a ∧ SamePlace a settings.baseUrl ∧
      (settings.baseUrl.query = none → settings.baseUrl.fragment = none →
        a.path.text = dropSlashes settings.baseUrl.path.text ++ r.path.toList) ∧
      (∀ f, settings.baseUrl.fragment = some f →
        a.path = settings.baseUrl.path ∧ a.fragment = some (dropSlashes f ++ r.path.toList)) ∧
      ∀ q, settings.baseUrl.query = some q → settings.baseUrl.fragment = none →
        a.path = settings.baseUrl.path ∧
          a.query = (r.encodedQuery.map String.toList).or
            (some (dropSlashes q ++ r.path.toList)) := by
  have settled := Settings.settled_of_ofLookup configured web
  obtain ⟨names, routed, _⟩ := routed_of_sent token pages rights sent
  cases fragment : settings.baseUrl.fragment with
  | some f =>
    obtain ⟨a, address, place, path, marked⟩ := address_of_marked settled routed fragment
    refine ⟨a, address, place, by simp, fun g same => ?_, by simp⟩
    cases same
    exact ⟨path, marked⟩
  | none =>
    cases query : settings.baseUrl.query with
    | some q =>
      obtain ⟨a, address, place, path, queried⟩ := address_of_queried settled routed query fragment
      refine ⟨a, address, place, by simp, by simp, fun p same _ => ?_⟩
      cases same
      exact ⟨path, queried⟩
    | none =>
      obtain ⟨a, ss, address, place, dropped, path, _⟩ :=
        address_of_plain settled routed query fragment
      refine ⟨a, address, place, fun _ _ => ?_, by simp, by simp⟩
      rw [path, pathText_append, dropped, routed.path]

/-- The settings with an address of the backend and nothing else. -/
def Settings.only (url name : String) : Option String :=
  if name = baseUrlVar then some url else none

/-- A backend with a user, a port and a path that ends in slashes. -/
def Settings.nested : Settings :=
  { default with
    baseUrl :=
      { scheme := "https".toList, username := ['u'], password := ['p'],
        host := some (.long [0, 0, 0, 0, 0, 0, 0, 1]), port := some 8443,
        path := .segments ["app".toList, [], []] } }

theorem Rehearsal.Traffic.address_of_sent_nested :
    Settings.ofLookup (Settings.only "https://u:p@[::1]:8443/app//") = .ok Settings.nested ∧
    .sent 0 (rightsRequest "a b") ∈ (play none {} {} [.call (.fetchRights "a b")]).log ∧
    ∃ a, (rightsRequest "a b").address Settings.nested.baseUrl = .ok a ∧
      SamePlace a Settings.nested.baseUrl ∧
      a.path.text = "/app/skill_editor_handler/rights/a%20b".toList := by
  have configured : Settings.ofLookup (Settings.only "https://u:p@[::1]:8443/app//") =
      .ok Settings.nested := by decide +kernel
  have sent : .sent 0 (rightsRequest "a b") ∈ (play none {} {} [.call (.fetchRights "a b")]).log :=
    List.mem_of_getElem? (show _[1]? = _ from rfl)
  obtain ⟨a, address, place, path, _⟩ :=
    address_of_sent configured (.inr rfl) none {} {} [.call (.fetchRights "a b")] sent
  refine ⟨configured, sent, a, address, place, (path rfl rfl).trans ?_⟩
  decide +kernel

/-- A backend with a path and a fragment. -/
def Settings.marked : Settings :=
  { default with
    baseUrl :=
      { scheme := "http".toList, host := some (.name "backend".toList),
        path := .segments ["app".toList], fragment := some "top".toList } }

/-- The path of the backend is not always in front of that of the request: in this
address a fragment comes after it. -/
theorem Rehearsal.Traffic.path_not_always_joined :
    ¬ ∀ (lookup : String → Option String) (settings : Settings),
      Settings.ofLookup lookup = .ok settings → IsWeb settings.baseUrl.scheme →
      ∀ (token : Option String) (pages rights : CacheLimits) (ss : List Step) (i : Nat)
        (r : Request), .sent i r ∈ (play token pages rights ss).log →
        ∃ a, r.address settings.baseUrl = .ok a ∧ SamePlace a settings.baseUrl ∧
          a.path.text = dropSlashes settings.baseUrl.path.text ++ r.path.toList := by
  intro law
  have configured : Settings.ofLookup (Settings.only "http://backend/app#top") =
      .ok Settings.marked := by decide +kernel
  have sent : .sent 0 (rightsRequest "0") ∈ (play none {} {} [.call (.fetchRights "0")]).log :=
    List.mem_of_getElem? (show _[1]? = _ from rfl)
  obtain ⟨a, address, _, path⟩ := law _ _ configured (.inl rfl) none {} {} _ 0 _ sent
  have reached : (rightsRequest "0").address Settings.marked.baseUrl =
      .ok { Settings.marked.baseUrl with
        fragment := some "top/skill_editor_handler/rights/0".toList } := by decide +kernel
  cases address.symm.trans reached
  exact absurd path (by decide +kernel)

/-! ## The rights on a skill -/

section
variable {base : Address} {r q : Request} {names other : List String}

/-- Requests with one path are routed alike. -/
theorem Http.Request.Routed.names_eq (routed : r.Routed names) (same : q.Routed other)
    (path : r.path.toList = q.path.toList) : names = other := by
  rw [routed.path, same.path] at path
  have segments := congrArg (readSegments true) path
  rw [readSegments_text routed.isSegment (by simp [routed.some]),
    readSegments_text same.isSegment (by simp [same.some])] at segments
  exact List.map_injective_iff.mpr (fun _ _ => Form.encodeSegment_injective) segments

/-- With neither query nor fragment in the way, requests at one path are routed
alike. -/
theorem names_eq_of_address (settled : base.Settled) (query : base.query = none)
    (fragment : base.fragment = none) (routed : r.Routed names) (same : q.Routed other)
    {a b : Address} (first : r.address base = .ok a) (second : q.address base = .ok b)
    (path : a.path = b.path) : names = other := by
  obtain ⟨a', ss, address, _, dropped, joined, _⟩ := address_of_plain settled routed query fragment
  obtain ⟨b', ts, address', _, dropped', joined', _⟩ := address_of_plain settled same query fragment
  cases first.symm.trans address
  cases second.symm.trans address'
  refine routed.names_eq same ?_
  have texts := congrArg Path.text path
  rw [joined, joined', pathText_append, pathText_append, dropped, dropped', ← routed.path,
    ← same.path] at texts
  exact List.append_cancel_left texts

end

/-- The name of a skill stays one segment of a path, whatever it is, if it can be
put into a path at all. Where the address of the backend has neither query nor
fragment, the address that the rights on the skill are asked for

- is on the host and port of the backend, with neither query nor fragment;
- has the path of the backend, without slashes at its end, and after it just
  three segments, of which the last is the name, encoded;
- gives the name back: the octets of the last segment spell it;
- is that of no other name, and no other request that a client sends is for its
  path. -/
theorem rights_address {text : List Char} {base : Address} {s : String}
    (read : Address.parse text = .ok base) (web : IsWeb base.scheme) (query : base.query = none)
    (fragment : base.fragment = none) (valid : checkSkillId s = .ok s) :
    ∃ a front, (rightsRequest s).address base = .ok a ∧
      a.host = base.host ∧ a.port = base.port ∧ a.query = none ∧ a.fragment = none ∧
      Path.text (.segments front) = dropSlashes base.path.text ∧
      a.path = .segments
        (front ++ ["skill_editor_handler".toList, "rights".toList, Form.encodeSegment s]) ∧
      decode? (Form.percentDecode (Form.encodeSegment s)) = some s.toList ∧
      (∀ t, checkSkillId t = .ok t → (rightsRequest t).address base = .ok a → t = s) ∧
      ∀ (token : Option String) (pages rights : CacheLimits) (ss : List Rehearsal.Step) (i : Nat)
        (r : Request) (b : Address),
        .sent i r ∈ (Rehearsal.Traffic.play token pages rights ss).log →
        r.address base = .ok b → b.path = a.path → r = rightsRequest s := by
  have settled := settled_of_parse read web
  have routed := routed_rightsRequest valid
  obtain ⟨a, front, address, place, dropped, path, queried, marked⟩ :=
    address_of_plain settled routed query fragment
  obtain ⟨handler, rights⟩ := encodeSegment_handlers
  simp only [List.map_cons, List.map_nil, handler, rights] at path
  refine ⟨a, front, address, place.host, place.port, queried, marked, dropped, path, ?_, ?_, ?_⟩
  · rw [Form.percentDecode_encodeSegment, decode?_encode]
  · intro t accepted same
    have names := names_eq_of_address settled query fragment (routed_rightsRequest accepted) routed
      same address rfl
    simpa using names
  · intro token pages rights ss i r b sent reached path
    obtain ⟨names, sentTo, only⟩ := Rehearsal.Traffic.routed_of_sent token pages rights sent
    exact only s (names_eq_of_address settled query fragment sentTo routed reached address path)

/-- A name with all that could leave its segment. -/
theorem rights_address_escaping :
    Address.parse "http://localhost:8181".toList = .ok Settings.localBackend ∧
    checkSkillId "../%2e?x#y" = .ok "../%2e?x#y" ∧
    ∃ a, (rightsRequest "../%2e?x#y").address Settings.localBackend = .ok a ∧
      a.host = some (.name "localhost".toList) ∧ a.query = none ∧ a.fragment = none ∧
      a.path.text = "/skill_editor_handler/rights/..%2F%252e%3Fx%23y".toList ∧
      ∀ t, checkSkillId t = .ok t →
        (rightsRequest t).address Settings.localBackend = .ok a → t = "../%2e?x#y" := by
  have read : Address.parse "http://localhost:8181".toList = .ok Settings.localBackend := by
    decide +kernel
  have valid : checkSkillId "../%2e?x#y" = .ok "../%2e?x#y" := by decide +kernel
  obtain ⟨a, front, address, host, _, query, fragment, dropped, path, _, only, _⟩ :=
    rights_address read (.inl rfl) rfl rfl valid
  refine ⟨read, valid, a, address, host, query, fragment, ?_, only⟩
  rw [path, pathText_append, dropped]
  decide +kernel

end LearningClient
