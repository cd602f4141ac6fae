import LearningClient.Proofs.Traffic.Sources

/-!
# No answer for other parameters

Whatever a call for questions or for rights returns stems from its own
parameters (`Stems`). Unless they break a rule, a fetch returns what the
answer to its own request says, and a load returns what the answer to a
request of a load for the same page, or for the rights on the same skill,
says, or rights that were cached for that skill. A failure that a load returns
was answered while the call was open.

Loads share results under a key. The key of a page stands for one page only
(`QuestionQuery.cacheKey_inj`), so sharing under equal keys is sharing between
equal parameters. The theorem for whole runs (`Traffic.own_parameters`) is by
induction over the steps, on the log before each return.
-/

namespace LearningClient.Rehearsal

open LearningClient LearningClient.Http

/-- The calls that ask for questions or for rights. -/
inductive Asks : Call → Prop
  | fetchPage (s n : String) (cursor : Option String) : Asks (.fetchQuestions s n cursor)
  | loadPage (s n : String) (cursor : Option String) : Asks (.loadQuestions s n cursor)
  | fetchRights (s : String) : Asks (.fetchRights s)
  | loadRights (s : String) : Asks (.loadRights s)

/-- A rule that the parameters of a call break, or the failure that says so. -/
inductive Refused : Call → Failure → Prop
  | fetchPage {s n : String} {cursor : Option String} {e : Failure}
      (refusal : QuestionQuery.ofTexts s n = .error e) : Refused (.fetchQuestions s n cursor) e
  | loadPage {s n : String} {cursor : Option String} {e : Failure}
      (refusal : QuestionQuery.ofTexts s n = .error e) : Refused (.loadQuestions s n cursor) e
  | fetchRights {s : String} {e : Failure} (refusal : checkSkillId s = .error e) :
      Refused (.fetchRights s) e
  | loadRights {s : String} {e : Failure} (refusal : checkSkillId s = .error e) :
      Refused (.loadRights s) e

/-- Where the result of the call with number `i` comes from, by the log `l`
that was there when it returned. -/
inductive Stems (l : List Entry) (i : Nat) : Call → Outcome Reply → Prop
  /-- The parameters break a rule, and nothing has been sent. -/
  | refused {call : Call} {text : String} (refusal : Refused call (.validation text))
      (silent : Traffic.requests l i = []) : Stems l i call (.error (.validation text))
  /-- The fetch has sent one request, with its own parameters, and this is
  what the answer says. -/
  | fetchedPage {s n start : String} {cursor : Option String} {q : QuestionQuery}
      {before : List Entry} {a : Outcome Response} (valid : QuestionQuery.ofTexts s n = .ok q)
      (explicit : ∀ c, cursor = some c → start = c)
      (only : Traffic.requests l i = [(q.startingAt start).request])
      (answered : Traffic.Answered l before i (q.startingAt start).request a) :
      Stems l i (.fetchQuestions s n cursor)
        ((received a QuestionBatch.read).map fun b => .questions b.questions)
  /-- A load of the same page has sent the request for it, and this is what
  the answer says. If that is a failure, it came after the call was made. -/
  | loadedPage {s n n' : String} {cursor cursor' : Option String} {q : QuestionQuery} {j : Nat}
      {before : List Entry} {a : Outcome Response} (valid : QuestionQuery.ofTexts s n = .ok q)
      (called : .called j (.loadQuestions s n' cursor') ∈ before)
      (same : QuestionQuery.ofTexts s n' = .ok q ∧ cursor'.getD "" = cursor.getD "")
      (answered : Traffic.Answered l before j (q.startingAt (cursor.getD "")).request a)
      (meanwhile : ∀ e, received a QuestionBatch.read = .error e →
        .called i (.loadQuestions s n cursor) ∈ before) :
      Stems l i (.loadQuestions s n cursor)
        ((received a QuestionBatch.read).map fun b => .questions b.questions)
  | fetchedRights {s : String} {before : List Entry} {a : Outcome Response}
      (valid : checkSkillId s = .ok s) (only : Traffic.requests l i = [rightsRequest s])
      (answered : Traffic.Answered l before i (rightsRequest s) a) :
      Stems l i (.fetchRights s) ((received a SkillRights.read).map .rights)
  | loadedRights {s : String} {j : Nat} {before : List Entry} {a : Outcome Response}
      (valid : checkSkillId s = .ok s) (called : .called j (.loadRights s) ∈ before)
      (answered : Traffic.Answered l before j (rightsRequest s) a)
      (meanwhile : ∀ e, received a SkillRights.read = .error e →
        .called i (.loadRights s) ∈ before) :
      Stems l i (.loadRights s) ((received a SkillRights.read).map .rights)
  /-- A call has cached the rights on this skill. -/
  | givenRights {s : String} {j : Nat} {v : SkillRights} (valid : checkSkillId s = .ok s)
      (given : .called j (.cacheRights s v) ∈ l) : Stems l i (.loadRights s) (.ok (.rights v))

namespace Traffic

/-! ## One turn -/

section
variable {x : Traffic} {l : List Entry} {id : Nat} {p : Option Pause}
  {a : Option (Outcome Response)} {g : Progress × Client} {r : Outcome Reply}

theorem stems_of_fetchPage {s n : String} {cursor : Option String}
    (turning : x.Turning l id (.fetchQuestions s n cursor) p a g) (done : g.1 = .done r) :
    Stems l id (.fetchQuestions s n cursor) r := by
  cases turning.turn with
  | started =>
    simp only [Client.start, Client.checked] at done
    cases valid : QuestionQuery.ofTexts s n with
    | error e =>
      rw [valid] at done
      cases done
      obtain ⟨text, rfl⟩ := QuestionQuery.ofTexts_eq_error valid
      exact .refused (.fetchPage valid) (turning.silent fun r e none => by cases none)
    | ok q =>
      rw [valid] at done
      cases done
  | answered =>
    cases turning.suits _ rfl with
    | fetchPage valid start explicit =>
      obtain ⟨rfl, sent⟩ := turning.answered rfl rfl (fun topic => by cases topic)
      rw [receive_page] at done
      cases done
      refine .fetchedPage valid explicit ?_ ⟨⟨[], rfl⟩, sent⟩
      rw [requests_append, sent, requests_answered, List.append_nil]
  | woken => cases turning.suits _ rfl

theorem stems_of_fetchRights {s : String} (turning : x.Turning l id (.fetchRights s) p a g)
    (done : g.1 = .done r) : Stems l id (.fetchRights s) r := by
  cases turning.turn with
  | started =>
    simp only [Client.start, Client.checked] at done
    cases valid : checkSkillId s with
    | error e =>
      rw [valid] at done
      cases done
      obtain ⟨text, rfl⟩ := checkSkillId_eq_error valid
      exact .refused (.fetchRights valid) (turning.silent fun r e none => by cases none)
    | ok q =>
      rw [valid] at done
      cases done
  | answered =>
    cases turning.suits _ rfl with
    | fetchRights valid =>
      obtain ⟨rfl, sent⟩ := turning.answered rfl rfl (fun topic => by cases topic)
      cases done
      refine .fetchedRights valid ?_ ⟨⟨[], rfl⟩, sent⟩
      rw [requests_append, sent, requests_answered, List.append_nil]
  | woken => cases turning.suits _ rfl

/-- A page that has been brought under the key of a page is that page. -/
theorem stems_of_brought_page {s n : String} {cursor : Option String} {q : QuestionQuery}
    (valid : QuestionQuery.ofTexts s n = .ok q) {v : Outcome QuestionBatch} {before : List Entry}
    (brought : Service.pages.Brought l (q.startingAt (cursor.getD "")).cacheKey v before)
    (meanwhile : ∀ e, v = .error e → .called id (.loadQuestions s n cursor) ∈ before) :
    Stems l id (.loadQuestions s n cursor) (v.map fun b => .questions b.questions) := by
  cases brought with
  | @mk before j call request m answered called load =>
    obtain ⟨s', n', cursor', q', rfl, valid', keys, rfl⟩ := Service.pages_load? load
    obtain ⟨rfl, first, ok⟩ := QuestionQuery.ofTexts_eq_ok valid
    obtain ⟨rfl, first', ok'⟩ := QuestionQuery.ofTexts_eq_ok valid'
    have page := QuestionQuery.cacheKey_inj (QuestionQuery.startingAt_valid ok)
      (QuestionQuery.startingAt_valid ok') keys
    obtain ⟨rfl, cursors⟩ := QuestionQuery.startingAt_inj first first' page
    rw [← cursors] at answered
    exact .loadedPage valid called ⟨valid', cursors.symm⟩ answered meanwhile

theorem stems_of_loadPage (kept : x.Kept) (served : Service.pages.Served x) {s n : String}
    {cursor : Option String} (turning : x.Turning l id (.loadQuestions s n cursor) p a g)
    (done : g.1 = .done r) : Stems l id (.loadQuestions s n cursor) r := by
  cases valid : QuestionQuery.ofTexts s n with
  | error e =>
    cases turning.turn with
    | started =>
      simp only [Client.start, Client.checked, valid] at done
      cases done
      obtain ⟨text, rfl⟩ := QuestionQuery.ofTexts_eq_error valid
      exact .refused (.loadPage valid) (turning.silent fun r e none => by cases none)
    | answered =>
      cases turning.suits _ rfl with
      | loadPage valid' => cases valid.symm.trans valid'
    | woken =>
      cases turning.suits _ rfl with
      | awaitPage valid' => cases valid.symm.trans valid'
  | ok q =>
    obtain ⟨v, rfl, source⟩ := served.result Service.pages_sound kept turning
      (Service.pages_load?_of_valid valid) done
    rcases source with ⟨b, rfl, came⟩ | ⟨before, call, brought, called⟩
    · rcases came with ⟨before, brought⟩ | ⟨_, _, _, stores⟩
      · exact stems_of_brought_page valid brought fun e failed => by cases failed
      · cases stores
    · obtain rfl := turning.single (brought.mem called)
      exact stems_of_brought_page valid brought fun _ _ => called

/-- Rights that have been brought under the name of a skill are the rights on
it. -/
theorem stems_of_brought_rights {s : String} (valid : checkSkillId s = .ok s)
    {v : Outcome SkillRights} {before : List Entry} (brought : Service.rights.Brought l s v before)
    (meanwhile : ∀ e, v = .error e → .called id (.loadRights s) ∈ before) :
    Stems l id (.loadRights s) (v.map .rights) := by
  cases brought with
  | mk answered called load =>
    obtain ⟨rfl, _, rfl⟩ := Service.rights_load? load
    exact .loadedRights valid called answered meanwhile

theorem stems_of_loadRights (kept : x.Kept) (served : Service.rights.Served x) {s : String}
    (turning : x.Turning l id (.loadRights s) p a g) (done : g.1 = .done r) :
    Stems l id (.loadRights s) r := by
  cases valid : checkSkillId s with
  | error e =>
    cases turning.turn with
    | started =>
      simp only [Client.start, Client.checked, valid] at done
      cases done
      obtain ⟨text, rfl⟩ := checkSkillId_eq_error valid
      exact .refused (.loadRights valid) (turning.silent fun r e none => by cases none)
    | answered =>
      cases turning.suits _ rfl with
      | loadRights valid' => cases valid.symm.trans valid'
    | woken =>
      cases turning.suits _ rfl with
      | awaitRights valid' => cases valid.symm.trans valid'
  | ok t =>
    obtain rfl := checkSkillId_eq valid
    obtain ⟨v, rfl, source⟩ := served.result Service.rights_sound kept turning
      (Service.rights_load?_of_valid valid) done
    rcases source with ⟨b, rfl, came⟩ | ⟨before, call, brought, called⟩
    · rcases came with ⟨before, brought⟩ | ⟨j, call, given, stores⟩
      · exact stems_of_brought_rights valid brought fun e failed => by cases failed
      · cases call with
        | cacheRights t w =>
          cases stores
          exact .givenRights valid given
        | _ => cases stores
    · obtain rfl := turning.single (brought.mem called)
      exact stems_of_brought_rights valid brought fun _ _ => called

/-- What a turn returns stems from the parameters of its call. -/
theorem stems_of_turning (kept : x.Kept) (pages : Service.pages.Served x)
    (rights : Service.rights.Served x) {call : Call} (turning : x.Turning l id call p a g)
    (done : g.1 = .done r) (asks : Asks call) : Stems l id call r := by
  cases asks with
  | fetchPage s n cursor => exact stems_of_fetchPage turning done
  | loadPage s n cursor => exact stems_of_loadPage kept pages turning done
  | fetchRights s => exact stems_of_fetchRights turning done
  | loadRights s => exact stems_of_loadRights kept rights turning done

end

/-! ## Runs -/

/-- What is returned by a call that is in the log, and, if it asks for
questions or rights, stems from its parameters. -/
def Accounted (l : List Entry) (i : Nat) (r : Outcome Reply) : Prop :=
  (∃ call, .called i call ∈ l) ∧ ∀ call, .called i call ∈ l → Asks call → Stems l i call r

/-- Every return in a log is accounted for by what is there before it. -/
def Honest (log : List Entry) : Prop :=
  ∀ l i r l', log = l ++ .returned i r :: l' → Accounted l i r

theorem honest_iff {log : List Entry} :
    Honest log ↔ AtEach (fun l e => ∀ i r, e = .returned i r → Accounted l i r) log := by
  constructor
  · rintro h l e l' split i r rfl
    exact h l i r l' split
  · intro h l i r l' split
    exact h l _ l' split i r rfl

theorem Honest.nil : Honest [] := honest_iff.mpr .nil

theorem Honest.concat {log : List Entry} (h : Honest log) {e : Entry}
    (accounted : ∀ i r, e = .returned i r → Accounted log i r) : Honest (log ++ [e]) :=
  honest_iff.mpr ((honest_iff.mp h).concat accounted)

/-- What is shown of a turn is accounted for. -/
theorem Honest.turned {x : Traffic} (kept : x.Kept) (pages : Service.pages.Served x)
    (rights : Service.rights.Served x) {l : List Entry} {id : Nat} {call : Call}
    {p : Option Pause} {a : Option (Outcome Response)} {g : Progress × Client}
    (turning : x.Turning l id call p a g) (h : Honest l) : Honest (l ++ shows id g.1) := by
  cases done : g.1 with
  | done r =>
    refine h.concat fun i r' e => ?_
    cases e
    refine ⟨⟨call, turning.called⟩, fun other called asks => ?_⟩
    obtain rfl := turning.single called
    exact stems_of_turning kept pages rights turning done asks
  | sends r e => exact h.concat fun _ _ returned => by cases returned
  | waits w =>
    rw [shows, List.append_nil]
    exact h

theorem honest_play (token : Option String) (pages rights : CacheLimits) (ss : List Step) :
    Honest (play token pages rights ss).log := by
  induction ss using List.reverseRecOn with
  | nil => exact .nil
  | append_singleton ss s ih =>
    have kept := kept_play token pages rights ss
    have moved := kept.moved s
    rw [play_concat]
    generalize (play token pages rights ss).step s = y at moved
    cases moved with
    | turned _ _ turning =>
      refine Honest.turned kept (.play Service.pages_sound rfl ss) (.play Service.rights_sound rfl ss)
        turning ?_
      rcases turning.grown with rfl | ⟨e, rfl, other⟩
      · exact ih
      · exact ih.concat fun i r returned => absurd returned (other i r)
    | dropped mem => exact ih
    | worn worn => exact ih

/-- No answer for other parameters. Whatever steps are taken at a client that
nobody has called, with calls of all services, requests answered in any order
and in any way, calls dropped, and caches of any limits that may lose entries:
a call that returns has been called, and if it asks for questions or for
rights, what it returns stems from its own parameters. -/
theorem own_parameters (token : Option String) (pages rights : CacheLimits) (ss : List Step)
    {l l' : List Entry} {i : Nat} {r : Outcome Reply}
    (returned : (play token pages rights ss).log = l ++ .returned i r :: l') :
    (∃ call, .called i call ∈ l) ∧
      ∀ call, .called i call ∈ l → Asks call → Stems l i call r :=
  honest_play token pages rights ss l i r l' returned

/-- Two loads of one page meet: the second one waits for the request of the
first, which fails. -/
def meeting : List Step :=
  [.call (.loadQuestions "1" "3" none), .call (.loadQuestions "1" "3" (some "")),
    .answer 0 (.error (.transport "reset")), .wake 1]

/-- What has happened by the time the second load returns. -/
def beforeReturn : List Entry :=
  [.called 0 (.loadQuestions "1" "3" none), .sent 0 (QuestionQuery.request ⟨"1", 3, ""⟩),
    .called 1 (.loadQuestions "1" "3" (some "")), .answered 0 (.error (.transport "reset")),
    .returned 0 (.error (.transport "reset"))]

/-- The second load returns the failure of the first, which it has seen come. -/
theorem own_parameters_of_waiter :
    (play none {} {} meeting).log =
      beforeReturn ++ [.returned 1 (.error (.transport "reset"))] ∧
    Stems beforeReturn 1 (.loadQuestions "1" "3" (some "")) (.error (.transport "reset")) := by
  have returned : (play none {} {} meeting).log =
      beforeReturn ++ [.returned 1 (.error (.transport "reset"))] := rfl
  refine ⟨returned, (own_parameters none {} {} meeting returned).2 _ ?_ (.loadPage _ _ _)⟩
  simp [beforeReturn]

end Traffic

end LearningClient.Rehearsal
