import LearningClient.Proofs.Client.Rules
import LearningClient.Proofs.Traffic.Kept
import LearningClient.Rehearsal.Session

/-!
# Rejected parameters leave no trace

A call whose parameters break a rule fails when it is made, with the text of
the first rule that it breaks (`Traffic.refused_without_trace`). All that is
left of it is that it has been called and has returned: the client is the
same to the last entry of its caches, calls that are under way stay where
they stand, nothing is sent, and a scripted backend keeps all of its answers.
What the caller is told depends on the parameters alone, since the text is
chosen before the state.
-/

namespace LearningClient.Rehearsal

open LearningClient LearningClient.Http LearningClient.Text

namespace Traffic

/-- The calls that are open leave the number of the next call free. -/
theorem Kept.without_made {x : Traffic} (h : x.Kept) : x.without x.made = x.calls := by
  refine List.filter_eq_self.mpr fun c mem => ?_
  simpa using Nat.ne_of_lt (h.known_open mem)

theorem Kept.step_of_firstBroken {x : Traffic} (h : x.Kept) {call : Call} {text : String}
    (breach : FirstBroken call.rules text) :
    x.step (.call call) =
      { x with
        made := x.made + 1
        log := x.log ++
          [.called x.made call, .returned x.made (.error (.validation text))] } := by
  have open_ : Traffic.without { x with made := x.made + 1, log := x.log ++ [.called x.made call] }
      x.made = x.calls := h.without_made
  simp only [Traffic.step, record, Traffic.turned, x.client.start_of_firstBroken breach, open_,
    pause?, shows, Option.map_none, Option.toList_none, List.append_nil, List.append_assoc]
  rfl

end Traffic

theorem turn_of_firstBroken (c : Client) (b : Backend) {call : Call} {text : String}
    (breach : FirstBroken call.rules text) :
    turn c b (.fresh call) = (.over (.error (.validation text)), c, b) := by
  simp only [turn, c.start_of_firstBroken breach, Backend.after]

namespace Traffic

/-- Rejected parameters leave no trace. For every call whose parameters break
a rule there is a text, that of the first rule that is broken, such that

- in whatever state the call is made, with other calls open or not, it returns
  the text as a failure of validation at once, and nothing else changes;
- at whatever client and against whatever backend that answers from a list, it
  is over after one turn, and the client, the answers that are left and the
  requests that have been sent are the same. -/
theorem refused_without_trace (call : Call) (broken : ∃ rule ∈ call.rules, rule.broken) :
    ∃ text, FirstBroken call.rules text ∧
      (∀ (token : Option String) (pages rights : CacheLimits) (ss : List Step),
        (play token pages rights ss).step (.call call) =
          { play token pages rights ss with
            made := (play token pages rights ss).made + 1
            log := (play token pages rights ss).log ++
              [.called (play token pages rights ss).made call,
                .returned (play token pages rights ss).made (.error (.validation text))] }) ∧
      ∀ (c : Client) (b : Backend),
        turn c b (.fresh call) = (.over (.error (.validation text)), c, b) := by
  obtain ⟨text, breach⟩ := exists_firstBroken broken
  refine ⟨text, breach, fun token pages rights ss => ?_, fun c b => ?_⟩
  · exact (kept_play token pages rights ss).step_of_firstBroken breach
  · exact turn_of_firstBroken c b breach

/-- A load with two parameters that break rules, and what its list of skills
breaks. -/
theorem firstBroken_of_gap : FirstBroken (Call.loadQuestions "1,,2" "0" none).rules
    "Skill ids should be comma separated numbers" := by
  have odd : ¬ IsNumberList "1,,2" := fun list =>
    absurd (Parameter.isNumberList_iff.mpr list) (by decide)
  exact .later (fun empty => absurd empty (by decide)) (.here odd)

/-- While a load leads and another waits for it, a load with a gap in its list
of skills and a count that is not positive is told of the gap. -/
theorem refused_without_trace_in_flight :
    (∃ rule ∈ (Call.loadQuestions "1,,2" "0" none).rules, rule.broken) ∧
    (play none {} {}
        [.call (.loadQuestions "1" "3" none), .call (.loadQuestions "1" "3" none),
          .call (.loadQuestions "1,,2" "0" none)]).log =
      [.called 0 (.loadQuestions "1" "3" none), .sent 0 (QuestionQuery.request ⟨"1", 3, ""⟩),
        .called 1 (.loadQuestions "1" "3" none), .called 2 (.loadQuestions "1,,2" "0" none),
        .returned 2 (.error (.validation "Skill ids should be comma separated numbers"))] := by
  have broken : ∃ rule ∈ (Call.loadQuestions "1,,2" "0" none).rules, rule.broken := by
    refine ⟨_, List.mem_cons_of_mem _ List.mem_cons_self, fun list => ?_⟩
    exact absurd (Parameter.isNumberList_iff.mpr list) (by decide)
  refine ⟨broken, ?_⟩
  obtain ⟨text, breach, traffic, _⟩ := refused_without_trace _ broken
  obtain rfl := breach.unique firstBroken_of_gap
  exact congrArg log (traffic none {} {}
    [.call (.loadQuestions "1" "3" none), .call (.loadQuestions "1" "3" none)])

end Traffic

end LearningClient.Rehearsal
