import LearningClient.Proofs.Client.Query
import LearningClient.Proofs.Form
import Mathlib.Data.List.TFAE
import Mathlib.Tactic.TFAE

/-!
# Which pages are the same

A page is remembered under a name and asked for by a request. Both are texts
that are put together from the list of skills, the count and the cursor, and
each of them loses nothing: the name, because the bars that divide it cannot
stand in a list of numbers or in a count; the request, because the query can be
read back (`Http.Request.query_of_pathAndQuery`). So two pages share a place in
the store exactly if they would be asked for by the same request
(`QuestionQuery.same_page`). The cursor may hold bars, commas and all that
divides a query.
-/

namespace LearningClient

open LearningClient.Text

/-- Requests for one path that are written alike have the same names and
values in their queries. -/
theorem Http.Request.query_of_pathAndQuery {r s : Http.Request} (path : r.path = s.path)
    (h : r.pathAndQuery = s.pathAndQuery) : r.query = s.query := by
  have encoded : r.encodedQuery = s.encodedQuery := by
    have texts := congrArg String.toList h
    unfold pathAndQuery at texts
    rw [path] at texts
    -- a query adds at least its question mark to the path
    cases hr : r.encodedQuery with
    | none =>
      cases hs : s.encodedQuery with
      | none => rfl
      | some query =>
        rw [hr, hs] at texts
        simp at texts
    | some query =>
      cases hs : s.encodedQuery with
      | none =>
        rw [hr, hs] at texts
        simp at texts
      | some query' =>
        rw [hr, hs] at texts
        simp only [String.toList_append, List.append_assoc, List.append_cancel_left_eq] at texts
        rw [String.toList_injective texts]
  rw [← r.parameters_eq_query, ← s.parameters_eq_query, parameters, parameters, encoded]

namespace QuestionQuery

theorem query_request (q : QuestionQuery) :
    q.request.query =
      [("skill_ids", q.skillIds), ("question_count", q.countText),
        ("start_cursor", q.startCursor)] := rfl

/-- Pages whose requests are written alike agree in all three parts. -/
theorem eq_of_pathAndQuery {q r : QuestionQuery}
    (h : q.request.pathAndQuery = r.request.pathAndQuery) :
    q.skillIds = r.skillIds ∧ q.count = r.count ∧ q.startCursor = r.startCursor := by
  have path : q.request.path = r.request.path := rfl
  have query := Http.Request.query_of_pathAndQuery path h
  rw [query_request, query_request] at query
  simp only [List.cons.injEq, Prod.mk.injEq, true_and, and_true] at query
  obtain ⟨skills, count, start⟩ := query
  exact ⟨skills, natText_injective (String.ofList_injective count), start⟩

/-- For two pages that pass the rules, whatever they start at, it is the same
to say that they have one name in the store, that their requests have one path
and query, and that they are for the same skills, as many questions and the
same start. -/
theorem same_page {s n s' n' : String} {q r : QuestionQuery} (valid : ofTexts s n = .ok q)
    (valid' : ofTexts s' n' = .ok r) (c d : String) :
    [(q.startingAt c).cacheKey = (r.startingAt d).cacheKey,
      (q.startingAt c).request.pathAndQuery = (r.startingAt d).request.pathAndQuery,
      (q.startingAt c).skillIds = (r.startingAt d).skillIds ∧
        (q.startingAt c).count = (r.startingAt d).count ∧
        (q.startingAt c).startCursor = (r.startingAt d).startCursor].TFAE := by
  obtain ⟨_, _, ok⟩ := ofTexts_eq_ok valid
  obtain ⟨_, _, ok'⟩ := ofTexts_eq_ok valid'
  tfae_have 1 → 2 := by
    intro key
    rw [cacheKey_inj (startingAt_valid ok) (startingAt_valid ok') key]
  tfae_have 2 → 3 := eq_of_pathAndQuery
  tfae_have 3 → 1 := by
    intro ⟨skills, count, start⟩
    rw [cacheKey, cacheKey, countText, countText, skills, count, start]
  tfae_finish

/-- A count in two spellings, and a cursor with all that divides a name or a
query. -/
theorem same_page_spelled :
    ofTexts "1,2" " +05 " = .ok ⟨"1,2", 5, ""⟩ ∧ ofTexts "1,2" "5" = .ok ⟨"1,2", 5, ""⟩ ∧
    ((QuestionQuery.mk "1,2" 5 "").startingAt "|,&=%+").request.pathAndQuery =
      "/question_player_handler?skill_ids=1,2&question_count=5&start_cursor=%7C,%26%3D%25%2B" ∧
    (((QuestionQuery.mk "1,2" 5 "").startingAt "|,&=%+").cacheKey =
        ((QuestionQuery.mk "1,2" 5 "").startingAt "|").cacheKey ↔
      ((QuestionQuery.mk "1,2" 5 "").startingAt "|,&=%+").request.pathAndQuery =
        ((QuestionQuery.mk "1,2" 5 "").startingAt "|").request.pathAndQuery) := by
  have spelled : ofTexts "1,2" " +05 " = .ok ⟨"1,2", 5, ""⟩ := by decide +kernel
  have plain : ofTexts "1,2" "5" = .ok ⟨"1,2", 5, ""⟩ := by decide +kernel
  exact ⟨spelled, plain, by decide +kernel, (same_page spelled plain "|,&=%+" "|").out 0 1⟩

end QuestionQuery

end LearningClient
