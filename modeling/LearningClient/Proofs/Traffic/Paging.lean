import LearningClient.Proofs.Form
import LearningClient.Proofs.Traffic.Cursors
import LearningClient.Proofs.Wire.Question

/-!
# Following the pages of a list of skills

A backend serves the questions for some skills as a chain of pages, each but
the last of which says with which cursor the next one is asked for
(`Chain`). Whoever fetches one page after the other without naming a cursor
gets the pages in their order, from the first one again after the last, and
no failure makes a page come twice or be left out (`Traffic.pages_in_order`).

`Orderly` says what is assumed: that there is one fetch for the list at a
time, that nobody names a cursor for it or resets it, and that the fetch is
answered with the page whose turn it is, or fails, or is dropped. All else may
happen in between. `Follows` is what every step keeps: the client remembers
the cursor of the page whose turn it is, and a fetch that is under way has
asked with it. That the backend reads the same cursor off the address is
`Request.parameters_eq_query`.
-/

namespace LearningClient.Rehearsal

open LearningClient LearningClient.Http

/-! ## Chains of pages -/

/-- Pages for some skills, from the first to the last, as answers and as what
they are read as. `cursor i` is where page `i` starts, the empty one for the
first. -/
structure Chain where
  last : Nat
  answer : Nat → Response
  batch : Nat → QuestionBatch
  cursor : Nat → String
  reads : ∀ i ≤ last, received (.ok (answer i)) QuestionBatch.read = .ok (batch i)
  first : cursor 0 = ""
  links : ∀ i < last, (batch i).nextCursor = some (cursor (i + 1)) ∧ cursor (i + 1) ≠ ""
  ends : (batch last).nextCursor = none ∨ (batch last).nextCursor = some ""

namespace Chain

/-- Cursors of any text are carried by a chain of pages. -/
def ofCursors (last : Nat) (cursor : Nat → String) (first : cursor 0 = "")
    (full : ∀ i < last, cursor (i + 1) ≠ "") : Chain :=
  let next (i : Nat) := if i < last then some (cursor (i + 1)) else none
  { last, cursor, first
    answer i := .ofCursor (next i)
    batch i := ⟨[], next i⟩
    reads := fun i _ => by
      cases next i with
      | some c => exact received_cursor c
      | none => exact received_no_cursor
    links := fun i h => ⟨if_pos h, full i h⟩
    ends := .inl (if_neg (Nat.lt_irrefl _)) }

variable (chain : Chain)

/-- Whose turn it is after `n` pages. After the last page it is the first
again. -/
def turn (n : Nat) : Nat := n % (chain.last + 1)

/-- What a client remembers after `n` pages. -/
def remembered (n : Nat) : Option String :=
  if chain.turn n = 0 then none else some (chain.cursor (chain.turn n))

theorem turn_le (n : Nat) : chain.turn n ≤ chain.last :=
  Nat.le_of_lt_succ (Nat.mod_lt n (Nat.succ_pos _))

theorem turn_succ_of_lt {n : Nat} (h : chain.turn n < chain.last) :
    chain.turn (n + 1) = chain.turn n + 1 := by
  unfold turn at *
  rw [Nat.add_mod, Nat.mod_eq_of_lt (a := 1) (by omega), Nat.mod_eq_of_lt (by omega)]

theorem turn_succ_of_eq {n : Nat} (h : chain.turn n = chain.last) : chain.turn (n + 1) = 0 := by
  unfold turn at *
  cases last : chain.last with
  | zero => exact Nat.mod_one _
  | succ k =>
    rw [last] at h
    rw [Nat.add_mod, h, Nat.mod_eq_of_lt (a := 1) (by omega), Nat.mod_self]

/-- The cursor that is remembered, the empty one if there is none, is the one
of the page whose turn it is. -/
theorem remembered_getD (n : Nat) :
    (chain.remembered n).getD "" = chain.cursor (chain.turn n) := by
  unfold remembered
  split
  · rename_i h
    rw [h, chain.first]
    rfl
  · rfl

/-- The page whose turn it is says what is to be remembered. -/
theorem nextCursor_turn (n : Nat) :
    (chain.batch (chain.turn n)).nextCursor.filter (!·.isEmpty) = chain.remembered (n + 1) := by
  rcases Nat.lt_or_eq_of_le (chain.turn_le n) with lt | eq
  · obtain ⟨next, full⟩ := chain.links _ lt
    have isEmpty : (chain.cursor (chain.turn n + 1)).isEmpty = false := by
      rw [Bool.eq_false_iff]
      exact fun h => full (String.isEmpty_iff.mp h)
    rw [remembered, chain.turn_succ_of_lt lt, if_neg (Nat.succ_ne_zero _), next, Option.filter_some,
      isEmpty]
    rfl
  · rw [remembered, chain.turn_succ_of_eq eq, if_pos rfl, eq]
    rcases chain.ends with none | empty
    · rw [none]
      rfl
    · rw [empty]
      rfl

end Chain

/-! ## What is seen of the pages of a list -/

/-- A call fetches a page for a list of skills. -/
def Fetches (s : String) (call : Call) : Prop := ∃ n cursor, call = .fetchQuestions s n cursor

/-- An entry says that a call is such a fetch. -/
def Entry.fetches (s : String) (id : Nat) : Entry → Bool
  | .called i (.fetchQuestions t _ _) => i = id && t = s
  | _ => false

/-- What the backend and the caller see of a fetch that succeeds: the start
cursors of the requests that it has sent, as they are read off the address,
and the questions that it returns. -/
def page? (s : String) (seen : List Entry) : Entry → Option (List (Option String) × List Question)
  | .returned id (.ok (.questions qs)) =>
    if seen.any (·.fetches s id) then
      some ((Traffic.requests seen id).map fun r => r.parameters.lookup "start_cursor", qs)
    else none
  | _ => none

/-- What is seen of the fetches that succeed in the rest of a log. -/
def pagesFrom (s : String) (seen : List Entry) :
    List Entry → List (List (Option String) × List Question)
  | [] => []
  | e :: rest => (page? s seen e).toList ++ pagesFrom s (seen ++ [e]) rest

/-- What is seen of the fetches that succeed, in their order. -/
def pagesOf (s : String) (log : List Entry) : List (List (Option String) × List Question) :=
  pagesFrom s [] log

theorem pagesFrom_concat (s : String) (seen l : List Entry) (e : Entry) :
    pagesFrom s seen (l ++ [e]) = pagesFrom s seen l ++ (page? s (seen ++ l) e).toList := by
  induction l generalizing seen with
  | nil => simp [pagesFrom]
  | cons f l ih => simp [pagesFrom, ih]

theorem pagesOf_concat (s : String) (log : List Entry) (e : Entry) :
    pagesOf s (log ++ [e]) = pagesOf s log ++ (page? s log e).toList :=
  pagesFrom_concat s [] log e

/-- A fetch for the list that returns questions shows a page. -/
theorem page?_of_called {s n : String} {cursor : Option String} {log : List Entry} {id : Nat}
    (called : .called id (.fetchQuestions s n cursor) ∈ log) (qs : List Question) :
    page? s log (.returned id (.ok (.questions qs))) =
      some ((Traffic.requests log id).map fun r => r.parameters.lookup "start_cursor", qs) := by
  have fetches : log.any (·.fetches s id) = true :=
    List.any_eq_true.mpr ⟨_, called, by simp [Entry.fetches]⟩
  simp only [page?, fetches, if_true]

/-- Only a return shows a page. -/
theorem pagesOf_concat_of_ne {s : String} {log : List Entry} {e : Entry}
    (h : ∀ i r, e ≠ .returned i r) : pagesOf s (log ++ [e]) = pagesOf s log := by
  rw [pagesOf_concat]
  cases e with
  | returned i r => exact absurd rfl (h i r)
  | _ => exact List.append_nil _

theorem pagesOf_concat_answered {s : String} {log : List Entry} {i : Nat} {a : Outcome Response} :
    pagesOf s (log ++ [.answered i a]) = pagesOf s log :=
  pagesOf_concat_of_ne fun _ _ e => by cases e

theorem pagesOf_concat_called {s : String} {log : List Entry} {i : Nat} {call : Call} :
    pagesOf s (log ++ [.called i call]) = pagesOf s log :=
  pagesOf_concat_of_ne fun _ _ e => by cases e

theorem pagesOf_concat_sent {s : String} {log : List Entry} {i : Nat} {r : Request} :
    pagesOf s (log ++ [.sent i r]) = pagesOf s log :=
  pagesOf_concat_of_ne fun _ _ e => by cases e

/-- A failure shows no page. -/
theorem pagesOf_concat_error {s : String} {log : List Entry} {i : Nat} {f : Failure} :
    pagesOf s (log ++ [.returned i (.error f)]) = pagesOf s log := by
  rw [pagesOf_concat]
  exact List.append_nil _

/-- What others return shows no page. -/
theorem pagesOf_concat_of_other {s : String} {log : List Entry} {i : Nat} {r : Outcome Reply}
    (h : ∀ call, .called i call ∈ log → ¬ Fetches s call) :
    pagesOf s (log ++ [.returned i r]) = pagesOf s log := by
  have none : log.any (·.fetches s i) = false := by
    rw [List.any_eq_false]
    intro e he fetches
    cases e with
    | called j call =>
      cases call with
      | fetchQuestions t n cursor =>
        simp only [Entry.fetches, Bool.and_eq_true, decide_eq_true_eq] at fetches
        obtain ⟨rfl, rfl⟩ := fetches
        exact h _ he ⟨n, cursor, rfl⟩
      | _ => cases fetches
    | _ => cases fetches
  have nothing : page? s log (.returned i r) = .none := by
    cases r with
    | error f => rfl
    | ok reply =>
      cases reply with
      | questions qs => simp only [page?, none, Bool.false_eq_true, if_false]
      | _ => rfl
  rw [pagesOf_concat, nothing]
  exact List.append_nil _

/-! ## Orderly runs -/

/-- A step that is no business of fetches for a list: it neither calls nor
answers one, and it does not reset the list. -/
def Elsewhere (s : String) (x : Traffic) : Step → Prop
  | .call call => ¬ Fetches s call ∧ call ≠ .resetCursor s
  | .answer id _ => ∀ c ∈ x.calls, c.id = id → ¬ Fetches s c.call
  | _ => True

/-- Steps after which `n` pages of a chain have been fetched, one fetch at a
time. -/
inductive Orderly (chain : Chain) (s : String) (x₀ : Traffic) : List Step → Nat → Prop
  | start : Orderly chain s x₀ [] 0
  /-- A fetch without a cursor of its own, while there is no other one. -/
  | fetch {ss : List Step} {n : Nat} (so_far : Orderly chain s x₀ ss n) (count : String)
      (alone : ∀ c ∈ (x₀.steps ss).calls, ¬ Fetches s c.call) :
      Orderly chain s x₀ (ss ++ [.call (.fetchQuestions s count none)]) n
  /-- The fetch is answered with the page whose turn it is. -/
  | page {ss : List Step} {n : Nat} (so_far : Orderly chain s x₀ ss n) {c : OpenCall}
      (mem : c ∈ (x₀.steps ss).calls) (fetch : Fetches s c.call) :
      Orderly chain s x₀ (ss ++ [.answer c.id (.ok (chain.answer (chain.turn n)))]) (n + 1)
  /-- The fetch fails: its request does, or the answer is no success, or
  cannot be read. -/
  | failure {ss : List Step} {n : Nat} (so_far : Orderly chain s x₀ ss n) {c : OpenCall}
      (mem : c ∈ (x₀.steps ss).calls) (fetch : Fetches s c.call) {a : Outcome Response}
      {f : Failure} (fails : received a QuestionBatch.read = .error f) :
      Orderly chain s x₀ (ss ++ [.answer c.id a]) n
  /-- Anything else. A fetch may be dropped too. -/
  | elsewhere {ss : List Step} {n : Nat} (so_far : Orderly chain s x₀ ss n) {m : Step}
      (elsewhere : Elsewhere s (x₀.steps ss) m) : Orderly chain s x₀ (ss ++ [m]) n

/-- What is seen of the fetch that gets page `j` in the count of all pages. -/
def Chain.shown (chain : Chain) (j : Nat) : List (Option String) × List Question :=
  ([some (chain.cursor (chain.turn j))], (chain.batch (chain.turn j)).questions)

namespace Traffic

/-- What every orderly step keeps. -/
structure Follows (x : Traffic) (chain : Chain) (s : String) (x₀ : Traffic) (n : Nat) : Prop where
  kept : x.Kept
  remembered : x.client.cursors.get? s = chain.remembered n
  single : ∀ c ∈ x.calls, ∀ d ∈ x.calls, Fetches s c.call → Fetches s d.call → c = d
  /-- A fetch that is under way asks for the page whose turn it is. -/
  asks : ∀ c ∈ x.calls, Fetches s c.call → ∃ q : QuestionQuery, q.skillIds = s ∧
    c.pause = .request (q.startingAt (chain.cursor (chain.turn n))).request
      (.page (q.startingAt (chain.cursor (chain.turn n))))
  pages : pagesOf s x.log = pagesOf s x₀.log ++ (List.range n).map chain.shown

section
variable {chain : Chain} {s : String} {x₀ x : Traffic} {n : Nat}

/-- The log and the calls after a fetch is answered. -/
theorem answer_fetch (kept : x.Kept) {c : OpenCall} (mem : c ∈ x.calls) (fetch : Fetches s c.call)
    (a : Outcome Response) :
    (x.step (.answer c.id a)).calls = x.without c.id ∧
      (x.step (.answer c.id a)).log = x.log ++ [.answered c.id a] ++
        [.returned c.id ((received a QuestionBatch.read).map fun b => .questions b.questions)] := by
  obtain ⟨count, cursor, call⟩ := fetch
  have suits := kept.suits c mem
  cases pause : c.pause with
  | wait w =>
    rw [call, pause] at suits
    cases suits
  | request r e =>
    obtain ⟨q, rfl, _⟩ := errand_of_fetch suits call pause
    rw [kept.step_answer mem pause]
    simp only [turned, record, receive_page, pause?, shows, Option.map_none, Option.toList_none,
      List.append_nil]
    exact ⟨rfl, trivial⟩

/-- The calls and the log after a fetch is made with parameters that pass. -/
theorem call_fetch (x : Traffic) {count : String} {q : QuestionQuery}
    (valid : QuestionQuery.ofTexts s count = .ok q) {page : QuestionQuery}
    (start : page = q.startingAt ((x.client.cursors.get? s).getD "")) :
    (x.step (.call (.fetchQuestions s count none))).calls = x.without x.made ++
        [⟨x.made, .fetchQuestions s count none, .request page.request (.page page)⟩] ∧
      (x.step (.call (.fetchQuestions s count none))).log =
        x.log ++ [.called x.made (.fetchQuestions s count none)] ++
          [.sent x.made page.request] := by
  subst start
  simp only [step, turned, record, start_fetch _ valid]
  exact ⟨rfl, rfl⟩

/-- The calls and the log after a fetch is made that breaks a rule. -/
theorem refuse_fetch (x : Traffic) {count : String} {e : Failure}
    (refusal : QuestionQuery.ofTexts s count = .error e) :
    (x.step (.call (.fetchQuestions s count none))).calls = x.without x.made ∧
      (x.step (.call (.fetchQuestions s count none))).log =
        x.log ++ [.called x.made (.fetchQuestions s count none)] ++
          [.returned x.made (.error e)] := by
  simp only [step, turned, record, Client.start, refusal, Client.checked]
  exact ⟨List.append_nil _, rfl⟩

namespace Follows

/-- When the only fetch is over, there is none. -/
theorem none_left (h : x.Follows chain s x₀ n) {c : OpenCall} (mem : c ∈ x.calls)
    (fetch : Fetches s c.call) : ∀ d ∈ x.without c.id, ¬ Fetches s d.call := by
  intro d hd other
  obtain ⟨hd, ne⟩ := mem_without.mp hd
  exact ne (congrArg OpenCall.id (h.single d hd c mem other fetch))

/-- The request of a fetch that is under way, as the backend reads it. -/
theorem request (h : x.Follows chain s x₀ n) {c : OpenCall} (mem : c ∈ x.calls)
    (fetch : Fetches s c.call) : ∃ q : QuestionQuery,
      requests x.log c.id = [(q.startingAt (chain.cursor (chain.turn n))).request] ∧
      (q.startingAt (chain.cursor (chain.turn n))).request.parameters =
        [("skill_ids", s), ("question_count", q.countText),
          ("start_cursor", chain.cursor (chain.turn n))] := by
  obtain ⟨q, rfl, pause⟩ := h.asks c mem fetch
  refine ⟨q, h.kept.sent c mem _ _ pause nofun, ?_⟩
  rw [Request.parameters_eq_query]
  rfl

theorem page (h : x.Follows chain s x₀ n) {c : OpenCall} (mem : c ∈ x.calls)
    (fetch : Fetches s c.call) :
    (x.step (.answer c.id (.ok (chain.answer (chain.turn n))))).Follows chain s x₀ (n + 1) := by
  have read := chain.reads _ (chain.turn_le n)
  obtain ⟨calls, log⟩ := answer_fetch h.kept mem fetch (.ok (chain.answer (chain.turn n)))
  have gone := h.none_left mem fetch
  have settles : Settles s x (.answer c.id (.ok (chain.answer (chain.turn n))))
      (chain.remembered (n + 1)) := by
    obtain ⟨count, cursor, call⟩ := fetch
    obtain ⟨q, _, pause⟩ := h.asks c mem ⟨count, cursor, call⟩
    rw [← chain.nextCursor_turn]
    exact .fetched mem call pause read
  refine ⟨h.kept.step _, cursor_of_settles h.kept settles, ?_, ?_, ?_⟩
  · intro d hd _ _ other
    exact absurd other (gone d (calls ▸ hd))
  · intro d hd other
    exact absurd other (gone d (calls ▸ hd))
  · obtain ⟨count, cursor, call⟩ := fetch
    obtain ⟨q, sent, parameters⟩ := h.request mem ⟨count, cursor, call⟩
    have called := h.kept.called c mem
    rw [call] at called
    have shown : page? s (x.log ++ [.answered c.id (.ok (chain.answer (chain.turn n)))])
        (.returned c.id (.ok (.questions (chain.batch (chain.turn n)).questions))) =
        some (chain.shown n) := by
      rw [page?_of_called (List.mem_append_left _ called), requests_append, requests_answered,
        List.append_nil, sent, List.map_singleton, parameters]
      rfl
    rw [log, read, pagesOf_concat, pagesOf_concat_answered, h.pages, List.range_succ,
      List.map_append, ← List.append_assoc]
    exact congrArg _ (congrArg Option.toList shown)

theorem failure (h : x.Follows chain s x₀ n) {c : OpenCall} (mem : c ∈ x.calls)
    (fetch : Fetches s c.call) {a : Outcome Response} {f : Failure}
    (fails : received a QuestionBatch.read = .error f) :
    (x.step (.answer c.id a)).Follows chain s x₀ n := by
  obtain ⟨calls, log⟩ := answer_fetch h.kept mem fetch a
  have gone := h.none_left mem fetch
  have quiet : ∀ w, ¬ Settles s x (.answer c.id a) w := by
    intro w settles
    obtain ⟨b, read⟩ := settles.answered.2
    cases fails.symm.trans read
  refine ⟨h.kept.step _, (cursor_of_not_settles h.kept quiet).trans h.remembered, ?_, ?_, ?_⟩
  · intro d hd _ _ other
    exact absurd other (gone d (calls ▸ hd))
  · intro d hd other
    exact absurd other (gone d (calls ▸ hd))
  · rw [log, fails]
    exact (pagesOf_concat_error.trans pagesOf_concat_answered).trans h.pages

/-- A fetch begins, and asks for the page whose turn it is, unless its
parameters break a rule. -/
theorem fetch (h : x.Follows chain s x₀ n) (count : String)
    (alone : ∀ c ∈ x.calls, ¬ Fetches s c.call) :
    (x.step (.call (.fetchQuestions s count none))).Follows chain s x₀ n := by
  have quiet : ∀ w, ¬ Settles s x (.call (.fetchQuestions s count none)) w := by
    intro w settles
    cases settles
  have kept := h.kept.step (.call (.fetchQuestions s count none))
  have remembered := (cursor_of_not_settles h.kept quiet).trans h.remembered
  have none_there : ∀ d ∈ x.without x.made, ¬ Fetches s d.call :=
    fun d hd => alone d (mem_without.mp hd).1
  cases valid : QuestionQuery.ofTexts s count with
  | error e =>
    obtain ⟨calls, log⟩ := refuse_fetch x valid
    refine ⟨kept, remembered, ?_, ?_, ?_⟩
    · intro d hd _ _ other
      exact absurd other (none_there d (calls ▸ hd))
    · intro d hd other
      exact absurd other (none_there d (calls ▸ hd))
    · rw [log]
      exact (pagesOf_concat_error.trans pagesOf_concat_called).trans h.pages
  | ok q =>
    have start : q.startingAt (chain.cursor (chain.turn n)) =
        q.startingAt ((x.client.cursors.get? s).getD "") := by
      rw [h.remembered, chain.remembered_getD]
    obtain ⟨calls, log⟩ := call_fetch x valid start
    -- the new call is the only fetch
    have new : ∀ d ∈ (x.step (.call (.fetchQuestions s count .none))).calls, Fetches s d.call →
        d = ⟨x.made, .fetchQuestions s count .none,
          .request (q.startingAt (chain.cursor (chain.turn n))).request
            (.page (q.startingAt (chain.cursor (chain.turn n))))⟩ := by
      intro d hd other
      rw [calls] at hd
      rcases List.mem_append.mp hd with old | new
      · exact absurd other (none_there d old)
      · exact List.mem_singleton.mp new
    refine ⟨kept, remembered, ?_, ?_, ?_⟩
    · intro c hc d hd hc' hd'
      rw [new c hc hc', new d hd hd']
    · intro d hd other
      rw [new d hd other]
      exact ⟨q, (QuestionQuery.ofTexts_eq_ok valid).1, rfl⟩
    · rw [log]
      exact (pagesOf_concat_sent.trans pagesOf_concat_called).trans h.pages

/-- Whatever happens elsewhere does not matter. -/
theorem elsewhere (h : x.Follows chain s x₀ n) {m : Step} (other : Elsewhere s x m) :
    (x.step m).Follows chain s x₀ n := by
  have quiet : ∀ w, ¬ Settles s x m w := by
    intro w settles
    cases settles with
    | reset => exact other.2 rfl
    | fetched mem call pause read => exact other _ mem rfl ⟨_, _, call⟩
  have remembered := (cursor_of_not_settles h.kept quiet).trans h.remembered
  have kept := h.kept.step m
  have moved := h.kept.moved m
  generalize x.step m = y at moved remembered kept
  cases moved with
  | @turned _ l made id call p a g _ takes turning =>
    have notFetch : ¬ Fetches s call := by
      cases takes with
      | made => exact other.1
      | answered mem => exact other _ mem rfl
      | woken mem pause =>
        rintro ⟨count, cursor, call⟩
        have suits := h.kept.suits _ mem
        rw [call, pause] at suits
        cases suits
    have old : ∀ c ∈ ({ x with log := l, made }.turned id call g).calls, Fetches s c.call →
        c ∈ x.calls := by
      intro c hc fetch
      rcases mem_turned.mp hc with ⟨hc, _⟩ | ⟨P, _, rfl⟩
      · exact hc
      · exact absurd fetch notFetch
    refine ⟨kept, remembered, fun c hc d hd hc' hd' => ?_, fun c hc hc' => ?_, ?_⟩
    · exact h.single c (old c hc hc') d (old d hd hd') hc' hd'
    · exact h.asks c (old c hc hc') hc'
    · have grown : pagesOf s l = pagesOf s x.log := by
        rcases turning.grown with rfl | ⟨e, rfl, quiet⟩
        · rfl
        · exact pagesOf_concat_of_ne quiet
      rw [← h.pages, ← grown]
      show pagesOf s (l ++ shows id g.1) = pagesOf s l
      cases g.1 with
      | done r =>
        refine pagesOf_concat_of_other fun other called => ?_
        rw [turning.single called]
        exact notFetch
      | sends r e => exact pagesOf_concat_sent
      | waits w => rw [shows, List.append_nil]
  | @dropped c mem =>
    exact ⟨kept, remembered,
      fun c hc d hd => h.single c (mem_without.mp hc).1 d (mem_without.mp hd).1,
      fun c hc => h.asks c (mem_without.mp hc).1, h.pages⟩
  | worn worn => exact ⟨kept, remembered, h.single, h.asks, h.pages⟩

/-- An orderly run follows the chain. -/
theorem run {ss : List Step} (start : x₀.Follows chain s x₀ 0)
    (orderly : Orderly chain s x₀ ss n) : (x₀.steps ss).Follows chain s x₀ n := by
  induction orderly with
  | start => exact start
  | fetch so_far count alone ih =>
    rw [steps_concat]
    exact ih.fetch count alone
  | page so_far mem fetch ih =>
    rw [steps_concat]
    exact ih.page mem fetch
  | failure so_far mem fetch fails ih =>
    rw [steps_concat]
    exact ih.failure mem fetch fails
  | elsewhere so_far other ih =>
    rw [steps_concat]
    exact ih.elsewhere other

end Follows

end

/-- Paging neither skips nor repeats. From any reachable state in which
nothing is remembered for a list of skills and no fetch for it is open, after
steps that fetch `n` pages of a chain, one fetch at a time, with failures and
anything else in between:

- the fetches that have succeeded since have sent the cursors of the pages
  0, 1, ..., one each, as the backend reads them off the address, and have
  returned the questions of these pages, starting over after the last;
- a fetch that begins asks for the page whose turn it is, also if the one
  before it has failed, or breaks a rule and sends nothing;
- a fetch that is under way has asked for the page whose turn it is; if it is
  answered with that page, it returns its questions, and if it fails, its
  failure. -/
theorem pages_in_order (chain : Chain) {s : String} {x₀ : Traffic}
    (reached : ∃ token pages rights ss₀, x₀ = play token pages rights ss₀)
    (fresh : x₀.client.cursors.get? s = none) (alone : ∀ c ∈ x₀.calls, ¬ Fetches s c.call)
    {ss : List Step} {n : Nat} (orderly : Orderly chain s x₀ ss n) :
    pagesOf s (x₀.steps ss).log = pagesOf s x₀.log ++ (List.range n).map chain.shown ∧
    (∀ count q, QuestionQuery.ofTexts s count = .ok q → ∃ r,
      ((x₀.steps ss).step (.call (.fetchQuestions s count none))).log = (x₀.steps ss).log ++
        [.called (x₀.steps ss).made (.fetchQuestions s count none)] ++
        [.sent (x₀.steps ss).made r] ∧
      r.parameters = [("skill_ids", s), ("question_count", q.countText),
        ("start_cursor", chain.cursor (chain.turn n))]) ∧
    (∀ count e, QuestionQuery.ofTexts s count = .error e →
      ((x₀.steps ss).step (.call (.fetchQuestions s count none))).log = (x₀.steps ss).log ++
        [.called (x₀.steps ss).made (.fetchQuestions s count none)] ++
        [.returned (x₀.steps ss).made (.error e)]) ∧
    (∀ c ∈ (x₀.steps ss).calls, Fetches s c.call →
      (∃ r count, requests (x₀.steps ss).log c.id = [r] ∧
        r.parameters = [("skill_ids", s), ("question_count", count),
          ("start_cursor", chain.cursor (chain.turn n))]) ∧
      ((x₀.steps ss).step (.answer c.id (.ok (chain.answer (chain.turn n))))).log =
        (x₀.steps ss).log ++ [.answered c.id (.ok (chain.answer (chain.turn n)))] ++
          [.returned c.id (.ok (.questions (chain.batch (chain.turn n)).questions))] ∧
      ∀ a f, received a QuestionBatch.read = .error f →
        ((x₀.steps ss).step (.answer c.id a)).log =
          (x₀.steps ss).log ++ [.answered c.id a] ++ [.returned c.id (.error f)]) := by
  obtain ⟨token, pages, rights, ss₀, rfl⟩ := reached
  have start : (play token pages rights ss₀).Follows chain s (play token pages rights ss₀) 0 :=
    { kept := kept_play token pages rights ss₀
      remembered := fresh.trans (if_pos (Nat.zero_mod _)).symm
      single := fun c hc _ _ fetch => absurd fetch (alone c hc)
      asks := fun c hc fetch => absurd fetch (alone c hc)
      pages := (List.append_nil _).symm }
  have follows := Follows.run start orderly
  refine ⟨follows.pages, fun count q valid => ?_, fun count e refusal => ?_, fun c mem fetch => ?_⟩
  · have page : q.startingAt (chain.cursor (chain.turn n)) = q.startingAt
        ((((play token pages rights ss₀).steps ss).client.cursors.get? s).getD "") := by
      rw [follows.remembered, chain.remembered_getD]
    refine ⟨_, (call_fetch _ valid page).2, ?_⟩
    obtain ⟨rfl, _⟩ := QuestionQuery.ofTexts_eq_ok valid
    rw [Request.parameters_eq_query]
    rfl
  · exact (refuse_fetch _ refusal).2
  · obtain ⟨q, sent, parameters⟩ := follows.request mem fetch
    refine ⟨⟨_, _, sent, parameters⟩, ?_, fun a f fails => ?_⟩
    · rw [(answer_fetch follows.kept mem fetch _).2, chain.reads _ (chain.turn_le n)]
      rfl
    · rw [(answer_fetch follows.kept mem fetch a).2, fails]
      rfl

/-- Two pages, the second of which starts at a cursor that has to be escaped. -/
def twoPages : Chain :=
  .ofCursors 1 (fun i => if i = 0 then "" else "\u00e9 &=+%") rfl (by decide)

/-- A client that nobody has called. -/
def nobody : Traffic := play none {} {} []

/-- A fetch of three questions on two skills that is under way. -/
def fetching (id : Nat) (cursor : String) : OpenCall where
  id := id
  call := .fetchQuestions "1,2" "3" none
  pause := .request (QuestionQuery.request ⟨"1,2", 3, cursor⟩) (.page ⟨"1,2", 3, cursor⟩)

/-- A fetch fails, a load begins, and then both pages are fetched, and the
first one again. -/
def attempts : List Step :=
  [.call (.fetchQuestions "1,2" "3" none), .answer 0 (.error (.transport "reset")),
    .call (.loadQuestions "1,2" "3" none),
    .call (.fetchQuestions "1,2" "3" none), .answer 2 (.ok (twoPages.answer 0)),
    .call (.fetchQuestions "1,2" "3" none), .answer 3 (.ok (twoPages.answer 1)),
    .call (.fetchQuestions "1,2" "3" none), .answer 4 (.ok (twoPages.answer 0))]

theorem pages_in_order_despite_failure :
    (∃ token pages rights ss₀, nobody = play token pages rights ss₀) ∧
    nobody.client.cursors.get? "1,2" = none ∧
    (∀ c ∈ nobody.calls, ¬ Fetches "1,2" c.call) ∧
    Orderly twoPages "1,2" nobody attempts 3 ∧
    pagesOf "1,2" (nobody.steps attempts).log =
      [([some ""], []), ([some "\u00e9 &=+%"], []), ([some ""], [])] := by
  have reached : ∃ token pages rights ss₀, nobody = play token pages rights ss₀ :=
    ⟨none, {}, {}, [], rfl⟩
  have alone : ∀ c ∈ nobody.calls, ¬ Fetches "1,2" c.call := fun c hc => by cases hc
  have fetches : ∀ id cursor, Fetches "1,2" (fetching id cursor).call :=
    fun _ _ => ⟨"3", none, rfl⟩
  have only : ∀ {id} {c : OpenCall},
      c ∈ [⟨id, .loadQuestions "1,2" "3" none,
        .request (QuestionQuery.request ⟨"1,2", 3, ""⟩) (.pageFlight ⟨"1,2", 3, ""⟩ 0)⟩] →
      ¬ Fetches "1,2" c.call := by
    rintro id c hc ⟨n, cursor, call⟩
    rw [List.mem_singleton.mp hc] at call
    cases call
  have begun : Orderly twoPages "1,2" nobody _ 0 := Orderly.start.fetch "3" alone
  have failed := begun.failure (c := fetching 0 "") (List.mem_singleton_self _) (fetches _ _)
    (a := .error (.transport "reset")) (f := .transport "reset") rfl
  have loading := failed.elsewhere (m := .call (.loadQuestions "1,2" "3" none))
    ⟨fun ⟨_, _, e⟩ => (by cases e), fun e => (by cases e)⟩
  have again := loading.fetch "3" (fun c hc => only hc)
  have first := again.page (c := fetching 2 "") (by exact .tail _ (.head _)) (fetches _ _)
  have second := (first.fetch "3" (fun c hc => only hc)).page
    (c := fetching 3 "\u00e9 &=+%") (by exact .tail _ (.head _)) (fetches _ _)
  have third := (second.fetch "3" (fun c hc => only hc)).page
    (c := fetching 4 "") (by exact .tail _ (.head _)) (fetches _ _)
  have orderly : Orderly twoPages "1,2" nobody attempts 3 := third
  refine ⟨reached, rfl, alone, orderly, ?_⟩
  rw [(pages_in_order twoPages reached rfl alone orderly).1]
  rfl

end Traffic

end LearningClient.Rehearsal
