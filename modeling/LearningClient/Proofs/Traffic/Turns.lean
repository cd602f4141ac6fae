import LearningClient.Proofs.Client.Query
import LearningClient.Rehearsal.Traffic
import Mathlib.Data.List.Induction
import Mathlib.Data.List.Nodup

/-!
# What one step can do at a client

A step is a turn of one call, the end of a call that is dropped, or wear: a
cache loses entries, or its next reads report nothing. `Traffic.Stepped` lists
these, and `Traffic.stepped` says that there are no others. The three ways in
which a turn begins (the call is made, its request is answered, it looks
again) are told apart by `Turned` only, so a property of turns has one lemma
with three cases.

`Suits` says which calls can be suspended at what: it ties a request to the
parameters of the call that sent it. Each turn leaves a call suspended at
something that suits it (`Turned.suits`), if it leaves it suspended at all.
`Touches` says which calls can touch what of a client, and how. It is a list
for all turns and for the end of a dropped call (`Turned.touches`,
`leave_touches`), so what a part of the client is left with by everyone else
is read off it.
-/

namespace LearningClient.Rehearsal

open LearningClient LearningClient.Http

/-! ## Turns -/

/-- The turns of a call at a client: what the call was suspended at, the
answer to its request, how the turn ends, and the client it leaves. -/
inductive Turned (c : Client) (call : Call) :
    Option Pause → Option (Outcome Response) → Progress × Client → Prop
  | started : Turned c call none none (c.start call)
  | answered {r : Request} {e : Errand} {a : Outcome Response} :
      Turned c call (some (.request r e)) (some a) (c.receive e a)
  | woken {w : Wait} : Turned c call (some (.wait w)) none (c.wake w)

/-- What a call can be suspended at. A fetch of a page sends its own list of
skills and count, and its own cursor if it has one. A load sends the page it
names, with the empty cursor if it names none. -/
inductive Suits : Call → Pause → Prop
  | fetchPage {s n : String} {cursor : Option String} {q : QuestionQuery}
      (valid : QuestionQuery.ofTexts s n = .ok q) (start : String)
      (explicit : ∀ c, cursor = some c → start = c) :
      Suits (.fetchQuestions s n cursor)
        (.request (q.startingAt start).request (.page (q.startingAt start)))
  | loadPage {s n : String} {cursor : Option String} {q : QuestionQuery} {flight : Nat}
      (valid : QuestionQuery.ofTexts s n = .ok q) :
      Suits (.loadQuestions s n cursor)
        (.request (q.startingAt (cursor.getD "")).request
          (.pageFlight (q.startingAt (cursor.getD "")) flight))
  | awaitPage {s n : String} {cursor : Option String} {q : QuestionQuery} {flight : Nat}
      (valid : QuestionQuery.ofTexts s n = .ok q) :
      Suits (.loadQuestions s n cursor) (.wait (.page (q.startingAt (cursor.getD "")) flight))
  | fetchRights {s : String} (valid : checkSkillId s = .ok s) :
      Suits (.fetchRights s) (.request (rightsRequest s) (.rights s))
  | loadRights {s : String} {flight : Nat} (valid : checkSkillId s = .ok s) :
      Suits (.loadRights s) (.request (rightsRequest s) (.rightsFlight s flight))
  | awaitRights {s : String} {flight : Nat} (valid : checkSkillId s = .ok s) :
      Suits (.loadRights s) (.wait (.rights s flight))
  | fetchToken : Suits .getToken (.request tokenRequest (.token .handOut))
  | awaitToken {ticket : Nat} : Suits .getToken (.wait (.token .handOut ticket))
  | fetchTokenFor {n a : String} {t : TopicDraft} (valid : TopicDraft.ofTexts n a = .ok t) :
      Suits (.createTopic n a) (.request tokenRequest (.token (.create t)))
  | awaitTokenFor {n a : String} {t : TopicDraft} {ticket : Nat}
      (valid : TopicDraft.ofTexts n a = .ok t) :
      Suits (.createTopic n a) (.wait (.token (.create t) ticket))
  | createTopic {n a token : String} {t : TopicDraft} (valid : TopicDraft.ofTexts n a = .ok t) :
      Suits (.createTopic n a) (.request (t.request token) .topic)

section
variable {c : Client} {call : Call}

theorem pageTurn_suits {s n : String} {cursor : Option String} {q : QuestionQuery}
    (valid : QuestionQuery.ofTexts s n = .ok q) (p : Turn QuestionBatch × Accessor QuestionBatch)
    {P : Pause} (h : pause? (c.pageTurn (q.startingAt (cursor.getD "")) p).1 = some P) :
    Suits (.loadQuestions s n cursor) P := by
  obtain ⟨turn, pages⟩ := p
  cases turn with
  | answered r => cases h
  | waits f =>
    cases h
    exact .awaitPage valid
  | leads f =>
    cases h
    exact .loadPage valid

theorem rightsTurn_suits {s : String} (valid : checkSkillId s = .ok s)
    (p : Turn SkillRights × Accessor SkillRights) {P : Pause}
    (h : pause? (c.rightsTurn s p).1 = some P) : Suits (.loadRights s) P := by
  obtain ⟨turn, rights⟩ := p
  cases turn with
  | answered r => cases h
  | waits f =>
    cases h
    exact .awaitRights valid
  | leads f =>
    cases h
    exact .loadRights valid

/-- What a call needs the token for. -/
inductive Uses : Call → TokenUse → Prop
  | handOut : Uses .getToken .handOut
  | create {n a : String} {t : TopicDraft} (valid : TopicDraft.ofTexts n a = .ok t) :
      Uses (.createTopic n a) (.create t)

theorem useToken_suits {use : TokenUse} (uses : Uses call use) {token : String} {P : Pause}
    (h : pause? (Client.useToken token use) = some P) : Suits call P := by
  cases uses with
  | handOut => cases h
  | create valid =>
    cases h
    exact .createTopic valid

theorem tokenTurn_suits {use : TokenUse} (uses : Uses call use) {turn : TokenTurn} {P : Pause}
    (h : pause? (Client.tokenTurn use turn) = some P) : Suits call P := by
  cases turn with
  | known token => exact useToken_suits uses h
  | fetches =>
    cases h
    cases uses with
    | handOut => exact .fetchToken
    | create valid => exact .fetchTokenFor valid
  | waits ticket =>
    cases h
    cases uses with
    | handOut => exact .awaitToken
    | create valid => exact .awaitTokenFor valid

theorem start_suits {P : Pause} (h : pause? (c.start call).1 = some P) : Suits call P := by
  cases call with
  | fetchQuestions s n cursor =>
    simp only [Client.start, Client.checked] at h
    cases valid : QuestionQuery.ofTexts s n with
    | error e =>
      rw [valid] at h
      cases h
    | ok q =>
      rw [valid] at h
      cases explicit : cursor with
      | some start =>
        subst explicit
        cases h
        exact .fetchPage valid start (fun c e => Option.some.inj e)
      | none =>
        subst explicit
        cases h
        simp only [Client.nextPage, Option.none_or]
        cases c.cursors.get? q.skillIds with
        | some start => exact .fetchPage valid start (fun c e => by cases e)
        | none => exact .fetchPage valid q.startCursor (fun c e => by cases e)
  | loadQuestions s n cursor =>
    simp only [Client.start, Client.checked] at h
    cases valid : QuestionQuery.ofTexts s n with
    | error e =>
      rw [valid] at h
      cases h
    | ok q =>
      rw [valid] at h
      exact pageTurn_suits valid _ h
  | isPageCached s n cursor =>
    simp only [Client.start, Client.checked] at h
    split at h <;> cases h
  | resetCursor s => cases h
  | createTopic n a =>
    simp only [Client.start, Client.checked] at h
    cases valid : TopicDraft.ofTexts n a with
    | error e =>
      rw [valid] at h
      cases h
    | ok t =>
      rw [valid] at h
      exact tokenTurn_suits (.create valid) h
  | fetchRights s =>
    simp only [Client.start, Client.checked] at h
    cases valid : checkSkillId s with
    | error e =>
      rw [valid] at h
      cases h
    | ok t =>
      obtain rfl := checkSkillId_eq valid
      rw [valid] at h
      cases h
      exact .fetchRights valid
  | loadRights s =>
    simp only [Client.start, Client.checked] at h
    cases valid : checkSkillId s with
    | error e =>
      rw [valid] at h
      cases h
    | ok t =>
      obtain rfl := checkSkillId_eq valid
      rw [valid] at h
      exact rightsTurn_suits valid _ h
  | areRightsCached s => cases h
  | cacheRights s v => cases h
  | getToken => exact tokenTurn_suits .handOut h

/-- A call goes on to a second request only from the token to its topic. -/
theorem receive_suits {r : Request} {e : Errand} {a : Outcome Response}
    (suits : Suits call (.request r e)) {P : Pause} (h : pause? (c.receive e a).1 = some P) :
    Suits call P ∧ ∃ s, P = .request s .topic := by
  have token : ∀ use, Uses call use → pause? (c.receive (.token use) a).1 = some P →
      Suits call P ∧ ∃ s, P = .request s .topic := by
    intro use uses h
    simp only [Client.receive] at h
    cases known : Client.receivedToken a with
    | error f =>
      rw [known] at h
      cases h
    | ok t =>
      rw [known] at h
      refine ⟨useToken_suits uses h, ?_⟩
      cases uses with
      | handOut => cases h
      | create valid =>
        cases h
        exact ⟨_, rfl⟩
  cases suits with
  | fetchPage valid start explicit =>
    simp only [Client.receive] at h
    split at h <;> cases h
  | loadPage valid => cases h
  | fetchRights valid => cases h
  | loadRights valid => cases h
  | fetchToken => exact token _ .handOut h
  | fetchTokenFor valid => exact token _ (.create valid) h
  | createTopic valid => cases h

/-- The answer to the request of a fetch of a page. -/
theorem receive_page (q : QuestionQuery) (a : Outcome Response) :
    (c.receive (.page q) a).1 =
      .done ((received a QuestionBatch.read).map fun b => .questions b.questions) := by
  simp only [Client.receive]
  cases received a QuestionBatch.read <;> rfl

theorem wake_suits {w : Wait} (suits : Suits call (.wait w)) {P : Pause}
    (h : pause? (c.wake w).1 = some P) : Suits call P := by
  cases suits with
  | awaitPage valid => exact pageTurn_suits valid _ h
  | awaitRights valid => exact rightsTurn_suits valid _ h
  | awaitToken => exact tokenTurn_suits .handOut h
  | awaitTokenFor valid => exact tokenTurn_suits (.create valid) h

/-- A turn leaves a call suspended at what suits it. -/
theorem Turned.suits {p : Option Pause} {a : Option (Outcome Response)} {g : Progress × Client}
    (h : Turned c call p a g) (suits : ∀ P, p = some P → Suits call P) {P : Pause}
    (hP : pause? g.1 = some P) : Suits call P := by
  cases h with
  | started => exact start_suits hP
  | answered => exact (receive_suits (suits _ rfl) hP).1
  | woken => exact wake_suits (suits _ rfl) hP

theorem Turned.after_request {r : Request} {e : Errand} {a : Option (Outcome Response)}
    {g : Progress × Client} (h : Turned c call (some (.request r e)) a g)
    (suits : Suits call (.request r e)) {P : Pause} (hP : pause? g.1 = some P) :
    ∃ s, P = .request s .topic := by
  cases h with
  | answered => exact (receive_suits suits hP).2

/-- What a turn of a call can touch of a client: the accessor that the call
loads through, the token, or the cursor of the list that it is about. -/
inductive Touches (c : Client) :
    Call → Option Pause → Option (Outcome Response) → Client → Prop
  | nothing {call : Call} {p : Option Pause} {a : Option (Outcome Response)} :
      Touches c call p a c
  | token {call : Call} {p : Option Pause} {a : Option (Outcome Response)} (cell : TokenCell) :
      Touches c call p a { c with token := cell }
  | pages {s n : String} {cursor : Option String} {q : QuestionQuery} {p : Option Pause}
      {a : Option (Outcome Response)} (valid : QuestionQuery.ofTexts s n = .ok q)
      (accessor : Accessor QuestionBatch) :
      Touches c (.loadQuestions s n cursor) p a { c with pages := accessor }
  | rights {s : String} {p : Option Pause} {a : Option (Outcome Response)}
      (valid : checkSkillId s = .ok s) (accessor : Accessor SkillRights) :
      Touches c (.loadRights s) p a { c with rights := accessor }
  | seeded {s : String} {v : SkillRights} :
      Touches c (.cacheRights s v) none none { c with rights := c.rights.cacheResource s v }
  | reset {s : String} :
      Touches c (.resetCursor s) none none { c with cursors := c.cursors.erase s }
  | remembered {s n : String} {cursor : Option String} {p : Option Pause} {o : Outcome Response}
      {b : QuestionBatch} (read : received o QuestionBatch.read = .ok b) :
      Touches c (.fetchQuestions s n cursor) p (some o) (c.remember s b.nextCursor)

theorem pageTurn_touches {s n : String} {cursor : Option String} {q : QuestionQuery}
    (valid : QuestionQuery.ofTexts s n = .ok q) {p : Option Pause} {a : Option (Outcome Response)}
    (page : QuestionQuery) (t : Turn QuestionBatch × Accessor QuestionBatch) :
    Touches c (.loadQuestions s n cursor) p a (c.pageTurn page t).2 := by
  obtain ⟨turn, pages⟩ := t
  cases turn <;> exact .pages valid pages

theorem rightsTurn_touches {s : String} (valid : checkSkillId s = .ok s) {p : Option Pause}
    {a : Option (Outcome Response)} (t : Turn SkillRights × Accessor SkillRights) :
    Touches c (.loadRights s) p a (c.rightsTurn s t).2 := by
  obtain ⟨turn, rights⟩ := t
  cases turn <;> exact .rights valid rights

theorem start_touches : Touches c call none none (c.start call).2 := by
  cases call with
  | fetchQuestions s n cursor =>
    simp only [Client.start, Client.checked]
    split <;> exact .nothing
  | loadQuestions s n cursor =>
    simp only [Client.start, Client.checked]
    cases valid : QuestionQuery.ofTexts s n with
    | error e => exact .nothing
    | ok q => exact pageTurn_touches valid _ _
  | isPageCached s n cursor =>
    simp only [Client.start, Client.checked]
    split <;> exact .nothing
  | resetCursor s => exact .reset
  | createTopic n a =>
    simp only [Client.start, Client.checked]
    split
    · exact .token _
    · exact .nothing
  | fetchRights s =>
    simp only [Client.start, Client.checked]
    split <;> exact .nothing
  | loadRights s =>
    simp only [Client.start, Client.checked]
    cases valid : checkSkillId s with
    | error e => exact .nothing
    | ok t =>
      obtain rfl := checkSkillId_eq valid
      exact rightsTurn_touches valid _
  | areRightsCached s => exact .nothing
  | cacheRights s v => exact .seeded
  | getToken => exact .token _

theorem receive_touches {r : Request} {e : Errand} {a : Outcome Response}
    (suits : Suits call (.request r e)) :
    Touches c call (some (.request r e)) (some a) (c.receive e a).2 := by
  have token : ∀ use, Touches c call (some (.request r e)) (some a)
      (c.receive (.token use) a).2 := by
    intro use
    simp only [Client.receive]
    split <;> exact .token _
  cases suits with
  | @fetchPage s n cursor q valid start explicit =>
    obtain ⟨rfl, _⟩ := QuestionQuery.ofTexts_eq_ok valid
    simp only [Client.receive]
    cases read : received a QuestionBatch.read with
    | ok b => exact .remembered read
    | error f => exact .nothing
  | loadPage valid => exact .pages valid _
  | fetchRights valid => exact .nothing
  | loadRights valid => exact .rights valid _
  | fetchToken => exact token _
  | fetchTokenFor valid => exact token _
  | createTopic valid => exact .nothing

/-- A turn touches nothing else. -/
theorem Turned.touches {p : Option Pause} {a : Option (Outcome Response)} {g : Progress × Client}
    (h : Turned c call p a g) (suits : ∀ P, p = some P → Suits call P) :
    Touches c call p a g.2 := by
  cases h with
  | started => exact start_touches
  | answered => exact receive_touches (suits _ rfl)
  | woken =>
    cases suits _ rfl with
    | awaitPage valid => exact pageTurn_touches valid _ _
    | awaitRights valid => exact rightsTurn_touches valid _
    | awaitToken => exact .nothing
    | awaitTokenFor valid => exact .nothing

/-- What a call that goes away touches is what its turns touch. -/
theorem leave_touches {P : Pause} (suits : Suits call P) :
    Touches c call (some P) none (leave c P) := by
  cases suits with
  | loadPage valid => exact .pages valid _
  | loadRights valid => exact .rights valid _
  | fetchToken => exact .token _
  | awaitToken => exact .token _
  | fetchTokenFor valid => exact .token _
  | awaitTokenFor valid => exact .token _
  | _ => exact .nothing

end

/-! ## Steps -/

/-- A step at which the cache of rights loses an entry, or after which its
next reads report nothing. -/
def Step.WearsRights : Step → Prop
  | .loseRights _ => True
  | .missRights _ => True
  | _ => False

/-- A client after wear by a step: entries may be gone from its caches, and
the next reads may report nothing. A page is gone, and the rights are touched
at all, only if the step says so. -/
structure Worn (s : Step) (c c' : Client) : Prop where
  token : c'.token = c.token
  cursors : c'.cursors = c.cursors
  pages : c'.pages.pending = c.pages.pending ∧ c'.pages.flights = c.pages.flights
  rights : c'.rights.pending = c.rights.pending ∧ c'.rights.flights = c.rights.flights
  retains : c'.pages.cache.retains = c.pages.cache.retains
  page : ∀ {k b}, c'.pages.cache.get? k = some b → c.pages.cache.get? k = some b
  stays : ∀ {k}, s ≠ .losePage k → c'.pages.cache.get? k = c.pages.cache.get? k
  right : ∀ {k v}, c'.rights.cache.get? k = some v → c.rights.cache.get? k = some v
  spares : ¬ s.WearsRights → c'.rights = c.rights

theorem Worn.refl (s : Step) (c : Client) : Worn s c c :=
  ⟨rfl, rfl, ⟨rfl, rfl⟩, ⟨rfl, rfl⟩, rfl, id, fun _ => rfl, id, fun _ => rfl⟩

theorem get?_of_invalidate {V : Type} {c : Cache V} {key k : String} {v : V}
    (h : (c.invalidate key).get? k = some v) : c.get? k = some v := by
  by_cases e : k = key
  · rw [e, Cache.get?_invalidate_self] at h
    cases h
  · rwa [Cache.get?_invalidate_other c e] at h

namespace Traffic

/-- The steps at a client. -/
inductive Stepped (x : Traffic) : Step → Traffic → Prop
  | called {call : Call} {g : Progress × Client} (turn : Turned x.client call none none g) :
      Stepped x (.call call)
        (({ x with made := x.made + 1 }.record (.called x.made call)).turned x.made call g)
  | answered {c : OpenCall} {r : Request} {e : Errand} {a : Outcome Response}
      {g : Progress × Client} (mem : c ∈ x.calls) (pause : c.pause = .request r e)
      (turn : Turned x.client c.call (some (.request r e)) (some a) g) :
      Stepped x (.answer c.id a) ((x.record (.answered c.id a)).turned c.id c.call g)
  | woken {c : OpenCall} {w : Wait} {g : Progress × Client} (mem : c ∈ x.calls)
      (pause : c.pause = .wait w) (turn : Turned x.client c.call (some (.wait w)) none g) :
      Stepped x (.wake c.id) (x.turned c.id c.call g)
  | dropped {c : OpenCall} (mem : c ∈ x.calls) :
      Stepped x (.drop c.id)
        { x with client := leave x.client c.pause, calls := x.without c.id }
  /-- The step concerns nobody, or is wear. -/
  | worn {s : Step} {c' : Client} (worn : Worn s x.client c') :
      Stepped x s { x with client := c' }

theorem mem_of_open? {x : Traffic} {id : Nat} {c : OpenCall} (h : x.open? id = some c) :
    c ∈ x.calls ∧ c.id = id :=
  ⟨List.mem_of_find?_eq_some h, by simpa using List.find?_some h⟩

/-- There are no other steps than those listed. -/
theorem stepped (x : Traffic) (s : Step) : x.Stepped s (x.step s) := by
  cases s with
  | call call => exact .called .started
  | answer id a =>
    simp only [step]
    cases found : x.open? id with
    | none => exact .worn (.refl _ _)
    | some c =>
      obtain ⟨mem, rfl⟩ := mem_of_open? found
      obtain ⟨id, call, pause⟩ := c
      cases pause with
      | request r e => exact .answered mem rfl .answered
      | wait w => exact .worn (.refl _ _)
  | wake id =>
    simp only [step]
    cases found : x.open? id with
    | none => exact .worn (.refl _ _)
    | some c =>
      obtain ⟨mem, rfl⟩ := mem_of_open? found
      obtain ⟨id, call, pause⟩ := c
      cases pause with
      | request r e => exact .worn (.refl _ _)
      | wait w => exact .woken mem rfl .woken
  | drop id =>
    simp only [step]
    cases found : x.open? id with
    | none => exact .worn (.refl _ _)
    | some c =>
      obtain ⟨mem, rfl⟩ := mem_of_open? found
      exact .dropped mem
  | losePage key =>
    exact .worn ⟨rfl, rfl, ⟨rfl, rfl⟩, ⟨rfl, rfl⟩, rfl, get?_of_invalidate,
      fun other => Cache.get?_invalidate_other _ fun e => other (by rw [e]), id, fun _ => rfl⟩
  | loseRights skillId =>
    exact .worn ⟨rfl, rfl, ⟨rfl, rfl⟩, ⟨rfl, rfl⟩, rfl, id, fun _ => rfl, get?_of_invalidate,
      fun spared => absurd trivial spared⟩
  | missPages n =>
    exact .worn ⟨rfl, rfl, ⟨rfl, rfl⟩, ⟨rfl, rfl⟩, rfl, id, fun _ => rfl, id, fun _ => rfl⟩
  | missRights n =>
    exact .worn ⟨rfl, rfl, ⟨rfl, rfl⟩, ⟨rfl, rfl⟩, rfl, id, fun _ => rfl, id,
      fun spared => absurd trivial spared⟩

theorem play_concat (token : Option String) (pages rights : CacheLimits) (ss : List Step)
    (s : Step) : play token pages rights (ss ++ [s]) = (play token pages rights ss).step s :=
  List.foldl_append

theorem steps_concat (x : Traffic) (ss : List Step) (s : Step) :
    x.steps (ss ++ [s]) = (x.steps ss).step s := List.foldl_append

theorem mem_without {x : Traffic} {id : Nat} {c : OpenCall} :
    c ∈ x.without id ↔ c ∈ x.calls ∧ c.id ≠ id := by
  simp [without]

/-- Who is open after a turn of a call. -/
theorem mem_turned {x : Traffic} {id : Nat} {call : Call} {g : Progress × Client} {c : OpenCall} :
    c ∈ (x.turned id call g).calls ↔
      (c ∈ x.calls ∧ c.id ≠ id) ∨ ∃ P, pause? g.1 = some P ∧ c = ⟨id, call, P⟩ := by
  simp only [turned, List.mem_append, mem_without, Option.mem_toList, Option.map_eq_some_iff]
  refine or_congr_right ⟨?_, ?_⟩
  · rintro ⟨P, hP, rfl⟩
    exact ⟨P, hP, rfl⟩
  · rintro ⟨P, hP, rfl⟩
    exact ⟨P, hP, rfl⟩

end Traffic

end LearningClient.Rehearsal
