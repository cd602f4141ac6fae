import LearningClient.Proofs.LastWord
import LearningClient.Proofs.Traffic.Kept

/-!
# Where a list of skills goes on

A client remembers one cursor for each list of skills. The cursor is what the
last of two kinds of steps has left (`Traffic.Settles`): a fetch of a page for
the list is answered with a page, or the list is reset. `Touches.cursor` says
of one turn that nothing else touches a cursor, whatever the turn is of; that
fetches for one list may overlap, and be answered in any order, does not
matter for it. The law for whole runs (`Traffic.cursor_decided`) follows from
that of one step.
-/

namespace LearningClient.Rehearsal

open LearningClient LearningClient.Http

/-! ## One turn -/

theorem get?_remember_self (c : Client) (s : String) (next : Option String) :
    (c.remember s next).cursors.get? s = next.filter (!·.isEmpty) := by
  unfold Client.remember
  split
  · rename_i cursor h
    rw [h]
    exact Table.get?_insert_self ..
  · rename_i h
    rw [h]
    exact Table.get?_erase_self ..

theorem get?_remember_other (c : Client) {s t : String} (next : Option String) (h : t ≠ s) :
    (c.remember s next).cursors.get? t = c.cursors.get? t := by
  unfold Client.remember
  split
  · exact Table.get?_insert_of_ne _ _ h
  · exact Table.get?_erase_of_ne _ h

/-- A turn leaves the cursor of a list as it was, or it is the reset of the
list, or the answer to a fetch for the list, which can be read as a page. -/
theorem Touches.cursor {c c' : Client} {call : Call} {p : Option Pause}
    {a : Option (Outcome Response)} (touches : Touches c call p a c') (s : String) :
    c'.cursors.get? s = c.cursors.get? s ∨ call = .resetCursor s ∧ p = none ∨
      ∃ n cursor o b, call = .fetchQuestions s n cursor ∧ a = some o ∧
        received o QuestionBatch.read = .ok b := by
  cases touches with
  | nothing => exact .inl rfl
  | token cell => exact .inl rfl
  | pages valid accessor => exact .inl rfl
  | rights valid accessor => exact .inl rfl
  | seeded => exact .inl rfl
  | @reset t =>
    by_cases e : s = t
    · exact .inr (.inl ⟨by rw [e], rfl⟩)
    · exact .inl (Table.get?_erase_of_ne _ e)
  | @remembered t n cursor p o b read =>
    by_cases e : s = t
    · exact .inr (.inr ⟨n, cursor, o, b, by rw [e], rfl, read⟩)
    · exact .inl (get?_remember_other c _ e)

/-- A call that goes away leaves all cursors. -/
theorem leave_cursors (c : Client) (P : Pause) : (leave c P).cursors = c.cursors := by
  unfold leave
  split <;> rfl

namespace Traffic

/-! ## Runs -/

/-- A step decides where a list of skills goes on, and how: a reset, or the
answer to a fetch for the list, if it can be read as a page. A page with no
cursor, or an empty one, is the last. -/
inductive Settles (s : String) (x : Traffic) : Step → Option String → Prop
  | reset : Settles s x (.call (.resetCursor s)) none
  | fetched {c : OpenCall} {n : String} {cursor : Option String} {r : Request} {e : Errand}
      {a : Outcome Response} {b : QuestionBatch} (mem : c ∈ x.calls)
      (call : c.call = .fetchQuestions s n cursor) (pause : c.pause = .request r e)
      (read : received a QuestionBatch.read = .ok b) :
      Settles s x (.answer c.id a) (b.nextCursor.filter (!·.isEmpty))

theorem Settles.ne_empty {s : String} {x : Traffic} {m : Step} {w : Option String}
    (h : Settles s x m w) : w ≠ some "" := by
  cases h with
  | reset => exact fun e => by cases e
  | @fetched c n cursor r e a b mem call pause read =>
    intro h
    obtain ⟨_, full⟩ := Option.filter_eq_some_iff.mp h
    exact absurd full (by decide)

/-- An answer that settles where a list goes on is to a fetch for the list,
and can be read. -/
theorem Settles.answered {s : String} {x : Traffic} {id : Nat} {a : Outcome Response}
    {w : Option String} (h : Settles s x (.answer id a) w) :
    (∃ c ∈ x.calls, c.id = id ∧ ∃ n cursor, c.call = .fetchQuestions s n cursor) ∧
      ∃ b, received a QuestionBatch.read = .ok b := by
  generalize is : Step.answer id a = m at h
  cases h with
  | reset => cases is
  | fetched mem call pause read =>
    obtain ⟨rfl, rfl⟩ := Step.answer.inj is
    exact ⟨⟨_, mem, rfl, _, _, call⟩, _, read⟩

/-- The request of a fetch of a page is on the errand of that page. -/
theorem errand_of_fetch {c : OpenCall} {s n : String} {cursor : Option String} {r : Request}
    {e : Errand} (suits : Suits c.call c.pause) (call : c.call = .fetchQuestions s n cursor)
    (pause : c.pause = .request r e) :
    ∃ q, e = .page q ∧ q.skillIds = s ∧ r = q.request := by
  rw [call, pause] at suits
  cases suits with
  | fetchPage valid start explicit =>
    exact ⟨_, rfl, (QuestionQuery.ofTexts_eq_ok valid).1, rfl⟩

theorem cursor_of_settles {x : Traffic} (h : x.Kept) {s : String} {m : Step} {w : Option String}
    (settles : Settles s x m w) : (x.step m).client.cursors.get? s = w := by
  cases settles with
  | reset => exact Table.get?_erase_self ..
  | @fetched c n cursor r e a b mem call pause read =>
    obtain ⟨q, rfl, rfl, _⟩ := errand_of_fetch (h.suits c mem) call pause
    rw [h.step_answer mem pause]
    simp only [turned, Client.receive, read]
    exact get?_remember_self ..

theorem cursor_of_not_settles {x : Traffic} (h : x.Kept) {s : String} {m : Step}
    (quiet : ∀ w, ¬ Settles s x m w) :
    (x.step m).client.cursors.get? s = x.client.cursors.get? s := by
  have hs := x.stepped m
  generalize x.step m = y at hs
  cases hs with
  | @called call g turn =>
    rcases (turn.touches nofun).cursor s with same | ⟨rfl, _⟩ | ⟨_, _, _, _, _, none, _⟩
    · exact same
    · exact absurd .reset (quiet none)
    · cases none
  | @answered c r e a g mem pause turn =>
    rcases (turn.touches (h.suits_at mem pause)).cursor s with
      same | ⟨_, none⟩ | ⟨n, cursor, o, b, call, answer, read⟩
    · exact same
    · cases none
    · cases answer
      exact absurd (.fetched mem call pause read) (quiet _)
  | @woken c w g mem pause turn =>
    rcases (turn.touches (h.suits_at mem pause)).cursor s with
      same | ⟨_, none⟩ | ⟨_, _, _, _, _, none, _⟩
    · exact same
    · cases none
    · cases none
  | @dropped c mem =>
    show (leave x.client c.pause).cursors.get? s = _
    rw [leave_cursors]
  | worn worn =>
    show Table.get? (Client.cursors _) s = _
    rw [worn.cursors]

/-- A fetch without a cursor of its own sends the cursor that is remembered
when it starts, and the empty one if there is none. -/
theorem start_fetch (c : Client) {s n : String} {q : QuestionQuery}
    (valid : QuestionQuery.ofTexts s n = .ok q) :
    c.start (.fetchQuestions s n none) =
      (.sends (q.startingAt ((c.cursors.get? s).getD "")).request
        (.page (q.startingAt ((c.cursors.get? s).getD ""))), c) := by
  obtain ⟨rfl, first, _⟩ := QuestionQuery.ofTexts_eq_ok valid
  have page : c.nextPage q none = q.startingAt ((c.cursors.get? q.skillIds).getD "") := by
    simp only [Client.nextPage, Option.none_or]
    cases c.cursors.get? q.skillIds with
    | some cursor => rfl
    | none =>
      show q = { q with startCursor := "" }
      rw [← first]
  simp only [Client.start, valid, Client.checked, page]

theorem decided_by_settling (token : Option String) (pages rights : CacheLimits) (s : String) :
    Decided (play token pages rights) (fun x => x.client.cursors.get? s) (Settles s) where
  obeyed settles := by
    rw [play_concat]
    exact cursor_of_settles (kept_play token pages rights _) settles
  kept quiet := by
    rw [play_concat]
    exact cursor_of_not_settles (kept_play token pages rights _) quiet

theorem cursor_ne_empty (token : Option String) (pages rights : CacheLimits) (ss : List Step)
    (s : String) : (play token pages rights ss).client.cursors.get? s ≠ some "" := by
  have decided := decided_by_settling token pages rights s
  induction ss using List.reverseRecOn with
  | nil => exact fun h => by cases h
  | append_singleton ss m ih =>
    by_cases settles : ∃ w, Settles s (play token pages rights ss) m w
    · obtain ⟨w, settles⟩ := settles
      rw [decided.obeyed settles]
      exact settles.ne_empty
    · rw [decided.kept (not_exists.mp settles)]
      exact ih

/-- Cursors under any interleaving. Whatever steps are taken at a client that
nobody has called, with calls of all services and requests answered in any
order, and for every list of skills:

- as long as no step has settled it, nothing is remembered for the list;
- after a step that settles it, what that step left is remembered, until the
  next one that does;
- a step that does not settle it leaves what is remembered;
- what is remembered is never empty;
- a fetch without a cursor of its own sends the cursor that is remembered for
  its list when it starts, the empty one if there is none;
- when the request of a fetch is answered, the fetch is over, and it is a
  success exactly if the answer can be read as a page. -/
theorem cursor_decided (token : Option String) (pages rights : CacheLimits) (ss : List Step)
    (s : String) :
    (Silent (play token pages rights) (Settles s) [] ss →
      (play token pages rights ss).client.cursors.get? s = none) ∧
    (∀ ss₁ m ss₂ w, ss = ss₁ ++ m :: ss₂ → Settles s (play token pages rights ss₁) m w →
      Silent (play token pages rights) (Settles s) (ss₁ ++ [m]) ss₂ →
      (play token pages rights ss).client.cursors.get? s = w) ∧
    (∀ m, (∀ w, ¬ Settles s (play token pages rights ss) m w) →
      (play token pages rights (ss ++ [m])).client.cursors.get? s =
        (play token pages rights ss).client.cursors.get? s) ∧
    (play token pages rights ss).client.cursors.get? s ≠ some "" ∧
    (∀ n q, QuestionQuery.ofTexts s n = .ok q →
      (play token pages rights (ss ++ [.call (.fetchQuestions s n none)])).log =
        (play token pages rights ss).log ++
          [.called (play token pages rights ss).made (.fetchQuestions s n none),
            .sent (play token pages rights ss).made
              (q.startingAt
                (((play token pages rights ss).client.cursors.get? s).getD "")).request]) ∧
    (∀ c ∈ (play token pages rights ss).calls, ∀ n cursor r e a,
      c.call = .fetchQuestions s n cursor → c.pause = .request r e →
      (play token pages rights (ss ++ [.answer c.id a])).log =
        (play token pages rights ss).log ++
          [.answered c.id a,
            .returned c.id
              ((received a QuestionBatch.read).map fun b => .questions b.questions)]) := by
  have decided := decided_by_settling token pages rights s
  have kept := kept_play token pages rights ss
  refine ⟨fun silent => ?_, ?_, fun m quiet => decided.kept quiet, ?_, ?_, ?_⟩
  · exact decided.silent silent
  · rintro ss₁ m ss₂ w rfl settles silent
    exact decided.last settles silent
  · exact cursor_ne_empty token pages rights ss s
  · intro n q valid
    rw [play_concat]
    simp only [step, turned, record, start_fetch _ valid, shows, List.append_assoc]
    rfl
  · intro c mem n cursor r e a call pause
    obtain ⟨q, rfl, _⟩ := errand_of_fetch (kept.suits c mem) call pause
    rw [play_concat, kept.step_answer mem pause]
    simp only [turned, record, receive_page, shows, List.append_assoc]
    rfl

/-- An answer with no questions that says where to go on. -/
def servedPage (next : String) : Response := .ofValue 200 (.arr [.arr [], .str next])

/-- Two fetches for one list start, the second one is answered first, and
then the list is reset. -/
def overlapping : List Step :=
  [.call (.fetchQuestions "1" "3" none), .call (.fetchQuestions "1" "2" none),
    .answer 1 (.ok (servedPage "b")), .call (.resetCursor "1")]

/-- The answer to the first fetch comes last, so it is the one that counts,
also after another fetch has started. -/
theorem cursor_decided_by_late_answer :
    Settles "1" (play none {} {} overlapping) (.answer 0 (.ok (servedPage "a"))) (some "a") ∧
    Silent (play none {} {}) (Settles "1") (overlapping ++ [.answer 0 (.ok (servedPage "a"))])
      [.call (.fetchQuestions "1" "3" none)] ∧
    (play none {} {} (overlapping ++ .answer 0 (.ok (servedPage "a")) ::
      [.call (.fetchQuestions "1" "3" none)])).client.cursors.get? "1" = some "a" := by
  let first : OpenCall :=
    { id := 0
      call := .fetchQuestions "1" "3" none
      pause := .request (QuestionQuery.request ⟨"1", 3, ""⟩) (.page ⟨"1", 3, ""⟩) }
  have there : first ∈ (play none {} {} overlapping).calls := List.mem_singleton_self first
  have settles : Settles "1" (play none {} {} overlapping) (.answer 0 (.ok (servedPage "a")))
      (some "a") :=
    Settles.fetched (b := ⟨[], some "a"⟩) there rfl rfl rfl
  have silent : Silent (play none {} {}) (Settles "1")
      (overlapping ++ [.answer 0 (.ok (servedPage "a"))])
      [.call (.fetchQuestions "1" "3" none)] :=
    .cons (fun w h => by cases h) (.nil _)
  exact ⟨settles, silent, (cursor_decided none {} {} _ "1").2.1 _ _ _ _ rfl settles silent⟩

end Traffic

end LearningClient.Rehearsal
