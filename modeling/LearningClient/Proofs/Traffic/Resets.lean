import LearningClient.Proofs.Traffic.Paging

/-!
# After a reset

A reset forgets where a list of skills goes on, and the next fetch asks for
the first page, as long as the fetches that were under way at the reset keep
quiet. A cursor is remembered when an answer comes, though, and an answer does
not say when it was asked for. So a fetch that overtakes the reset
(`Traffic.Overtakes`), that is, one that was under way at it and is answered
with a page only after it, has the last word, and the list goes on where this
page says.

Only what comes after the reset and before the next fetch counts. No fetch is
made in between, so whatever fetch is open then was open at the reset
(`Kept.fetch_open`).
-/

namespace LearningClient.Rehearsal

open LearningClient LearningClient.Http

namespace Traffic

/-- A step that answers a fetch for a list with a page, where the fetch was
under way in an earlier state, and where the page says to go on. -/
inductive Overtakes (s : String) (before x : Traffic) : Step → Option String → Prop
  | mk {c : OpenCall} {a : Outcome Response} {b : QuestionBatch} (since : c ∈ before.calls)
      (mem : c ∈ x.calls) (fetch : Fetches s c.call)
      (read : received a QuestionBatch.read = .ok b) :
      Overtakes s before x (.answer c.id a) (b.nextCursor.filter (!·.isEmpty))

/-- A fetch for a list without a cursor of its own that is made now sends the
request for this page. -/
def FetchSends (x : Traffic) (s n : String) (page : QuestionQuery) : Prop :=
  (x.step (.call (.fetchQuestions s n none))).log =
    x.log ++ [.called x.made (.fetchQuestions s n none), .sent x.made page.request]

/-! ## Fetches that are open -/

variable {s : String}

/-- A fetch is open after a step only if it was open before, or is made by
the step. -/
theorem Kept.fetch_open_step {x : Traffic} (h : x.Kept) {m : Step}
    (other : ∀ n cursor, m ≠ .call (.fetchQuestions s n cursor)) {c : OpenCall}
    (mem : c ∈ (x.step m).calls) (fetch : Fetches s c.call) : c ∈ x.calls := by
  have hs := x.stepped m
  generalize x.step m = y at hs mem
  cases hs with
  | called turn =>
    rcases mem_turned.mp mem with ⟨old, _⟩ | ⟨P, _, rfl⟩
    · exact old
    · obtain ⟨n, cursor, rfl⟩ := fetch
      exact absurd rfl (other n cursor)
  | @answered d r e a g there pause turn =>
    rcases mem_turned.mp mem with ⟨old, _⟩ | ⟨P, paused, rfl⟩
    · exact old
    · -- a fetch is over when its request is answered
      have suits := h.suits_at there pause
      obtain ⟨t, rfl⟩ := turn.after_request (suits _ rfl) paused
      obtain ⟨n, cursor, call⟩ := fetch
      have topic := turn.suits suits paused
      simp only at call
      rw [call] at topic
      cases topic
  | @woken d w g there pause turn =>
    rcases mem_turned.mp mem with ⟨old, _⟩ | ⟨P, _, rfl⟩
    · exact old
    · obtain ⟨n, cursor, call⟩ := fetch
      have suits := h.suits d there
      simp only at call
      rw [pause, call] at suits
      cases suits
  | dropped there => exact (mem_without.mp mem).1
  | worn worn => exact mem

/-- While no fetch for a list is made, no other is open than was open. -/
theorem Kept.fetch_open {x : Traffic} (h : x.Kept) {ss : List Step}
    (alone : ∀ n cursor, .call (.fetchQuestions s n cursor) ∉ ss) {c : OpenCall}
    (mem : c ∈ (x.steps ss).calls) (fetch : Fetches s c.call) : c ∈ x.calls := by
  induction ss using List.reverseRecOn with
  | nil => exact mem
  | append_singleton ss m ih =>
    simp only [List.mem_append, List.mem_singleton, not_or] at alone
    rw [steps_concat] at mem
    refine ih (fun n cursor => (alone n cursor).1) ?_
    exact (h.steps ss).fetch_open_step (fun n cursor => Ne.symm (alone n cursor).2) mem fetch

/-! ## What is remembered -/

section
variable {token : Option String} {pages rights : CacheLimits} {ss₁ : List Step}

theorem play_append (token : Option String) (pages rights : CacheLimits) (ss₁ ss₂ : List Step) :
    play token pages rights (ss₁ ++ ss₂) = (play token pages rights ss₁).steps ss₂ :=
  List.foldl_append

/-- While no fetch for a list is made after a reset, where the list goes on is
settled by another reset or by a fetch that overtakes this one. -/
theorem reset_or_overtakes {as : List Step}
    (alone : ∀ n cursor, .call (.fetchQuestions s n cursor) ∉ as) {m : Step} {w : Option String}
    (settles : Settles s (play token pages rights (ss₁ ++ .call (.resetCursor s) :: as)) m w) :
    m = .call (.resetCursor s) ∧ w = none ∨
      Overtakes s (play token pages rights ss₁)
        (play token pages rights (ss₁ ++ .call (.resetCursor s) :: as)) m w := by
  cases settles with
  | reset => exact .inl ⟨rfl, rfl⟩
  | @fetched c n cursor r e a b mem call pause read =>
    have fetch : Fetches s c.call := ⟨n, cursor, call⟩
    have since : c ∈ (play token pages rights ss₁).calls := by
      refine (kept_play token pages rights ss₁).fetch_open (fun n cursor => ?_)
        (play_append token pages rights ss₁ _ ▸ mem) fetch
      simpa using alone n cursor
    exact .inr (.mk since mem fetch read)

theorem Overtakes.settles {before : Traffic} {ss : List Step} {m : Step} {w : Option String}
    (h : Overtakes s before (play token pages rights ss) m w) :
    Settles s (play token pages rights ss) m w := by
  cases h with
  | @mk c a b since mem fetch read =>
    obtain ⟨n, cursor, call⟩ := fetch
    have suits := (kept_play token pages rights ss).suits c mem
    cases pause : c.pause with
    | request r e => exact .fetched mem call pause read
    | wait w =>
      rw [call, pause] at suits
      cases suits

/-- If no fetch overtakes a reset with a cursor, nothing is remembered. -/
theorem cursor_after_reset {ss₂ : List Step}
    (alone : ∀ n cursor, .call (.fetchQuestions s n cursor) ∉ ss₂)
    (quiet : ∀ as m bs cursor, ss₂ = as ++ m :: bs →
      ¬ Overtakes s (play token pages rights ss₁)
        (play token pages rights (ss₁ ++ .call (.resetCursor s) :: as)) m (some cursor)) :
    (play token pages rights (ss₁ ++ .call (.resetCursor s) :: ss₂)).client.cursors.get? s =
      none := by
  have decided := decided_by_settling token pages rights s
  rw [List.append_cons]
  refine decided.unopposed (decided.obeyed .reset) fun as m bs v split settles => ?_
  subst split
  rw [← List.append_cons] at settles
  have before : ∀ n cursor, .call (.fetchQuestions s n cursor) ∉ as :=
    fun n cursor mem => alone n cursor (List.mem_append_left _ mem)
  rcases reset_or_overtakes before settles with ⟨_, none⟩ | overtakes
  · exact none
  · cases v with
    | none => rfl
    | some cursor => exact absurd overtakes (quiet as m bs cursor rfl)

/-- The last fetch that overtakes a reset has the last word. -/
theorem cursor_after_overtaking {as bs : List Step} {m : Step} {w : Option String}
    (alone : ∀ n cursor, .call (.fetchQuestions s n cursor) ∉ as ++ m :: bs)
    (overtakes : Overtakes s (play token pages rights ss₁)
      (play token pages rights (ss₁ ++ .call (.resetCursor s) :: as)) m w)
    (last : .call (.resetCursor s) ∉ bs)
    (silent : Silent (play token pages rights) (Overtakes s (play token pages rights ss₁))
      (ss₁ ++ .call (.resetCursor s) :: (as ++ [m])) bs) :
    (play token pages rights (ss₁ ++ .call (.resetCursor s) :: (as ++ m :: bs))).client.cursors.get?
      s = w := by
  have decided := decided_by_settling token pages rights s
  have joined : ∀ l, ss₁ ++ .call (.resetCursor s) :: (as ++ m :: l) =
      (ss₁ ++ .call (.resetCursor s) :: as) ++ m :: l := by simp
  have gathered : ∀ l, ss₁ ++ .call (.resetCursor s) :: (as ++ [m]) ++ l =
      ss₁ ++ .call (.resetCursor s) :: (as ++ m :: l) := by simp
  rw [joined]
  refine decided.last overtakes.settles fun cs k ds v split settles => ?_
  subst split
  rw [List.append_assoc, List.singleton_append, ← joined] at settles
  have before : ∀ n cursor, .call (.fetchQuestions s n cursor) ∉ as ++ m :: cs := by
    intro n cursor mem
    refine alone n cursor ?_
    rw [← List.cons_append, ← List.append_assoc]
    exact List.mem_append_left _ mem
  rcases reset_or_overtakes before settles with ⟨rfl, _⟩ | overtakes
  · exact last (List.mem_append_right _ List.mem_cons_self)
  · refine silent cs k ds v rfl ?_
    rwa [gathered]

end

/-- A fetch asks for the page at which the list goes on when it is made. -/
theorem fetchSends_of_cursor {x : Traffic} {n : String} {q : QuestionQuery}
    (valid : QuestionQuery.ofTexts s n = .ok q) {w : Option String}
    (cursor : x.client.cursors.get? s = w) : FetchSends x s n (q.startingAt (w.getD "")) := by
  subst cursor
  rw [FetchSends, (call_fetch x valid rfl).2, List.append_assoc]
  rfl

/-! ## What the next fetch asks for -/

/-- The first page after a reset. In every run, and for every list of skills,
take a reset of the list and a later fetch for it without a cursor of its own,
with no other fetch for the list made in between. The fetch sends

- the request for the first page, unless a fetch that was under way at the
  reset has been answered since with a page that says where to go on;
- the request for the page that the last such answer names, the first one if
  it names none, unless the list has been reset once more after that. -/
theorem first_page_after_reset (token : Option String) (pages rights : CacheLimits)
    (ss₁ ss₂ : List Step) {s n : String} {q : QuestionQuery}
    (valid : QuestionQuery.ofTexts s n = .ok q)
    (alone : ∀ n cursor, .call (.fetchQuestions s n cursor) ∉ ss₂) :
    ((∀ as m bs cursor, ss₂ = as ++ m :: bs →
        ¬ Overtakes s (play token pages rights ss₁)
          (play token pages rights (ss₁ ++ .call (.resetCursor s) :: as)) m (some cursor)) →
      FetchSends (play token pages rights (ss₁ ++ .call (.resetCursor s) :: ss₂)) s n
        (q.startingAt "")) ∧
    ∀ as m bs w, ss₂ = as ++ m :: bs →
      Overtakes s (play token pages rights ss₁)
        (play token pages rights (ss₁ ++ .call (.resetCursor s) :: as)) m w →
      .call (.resetCursor s) ∉ bs →
      Silent (play token pages rights) (Overtakes s (play token pages rights ss₁))
        (ss₁ ++ .call (.resetCursor s) :: (as ++ [m])) bs →
      FetchSends (play token pages rights (ss₁ ++ .call (.resetCursor s) :: ss₂)) s n
        (q.startingAt (w.getD "")) := by
  constructor
  · intro quiet
    exact fetchSends_of_cursor valid (cursor_after_reset alone quiet)
  · rintro as m bs w rfl overtakes last silent
    exact fetchSends_of_cursor valid (cursor_after_overtaking alone overtakes last silent)

/-- A fetch is made, and is under way when the list is reset. -/
def underWay : List Step := [.call (.fetchQuestions "1" "3" none)]

/-- The fetch that was under way has the last word if it is answered with a
page, and none if it fails. -/
theorem first_page_after_reset_late :
    QuestionQuery.ofTexts "1" "3" = .ok ⟨"1", 3, ""⟩ ∧
    FetchSends (play none {} {} (underWay ++ .call (.resetCursor "1") ::
      [.answer 0 (.error (.transport "reset"))])) "1" "3" ⟨"1", 3, ""⟩ ∧
    FetchSends (play none {} {} (underWay ++ .call (.resetCursor "1") ::
      [.answer 0 (.ok (servedPage "a"))])) "1" "3" ⟨"1", 3, "a"⟩ := by
  have valid : QuestionQuery.ofTexts "1" "3" = .ok ⟨"1", 3, ""⟩ := rfl
  have alone : ∀ a n cursor, Step.call (.fetchQuestions "1" n cursor) ∉ [Step.answer 0 a] := by
    simp
  have failure : ∀ as m bs cursor,
      [.answer 0 (.error (.transport "reset"))] = as ++ m :: bs →
      ¬ Overtakes "1" (play none {} {} underWay)
        (play none {} {} (underWay ++ .call (.resetCursor "1") :: as)) m (some cursor) := by
    intro as m bs cursor split overtakes
    obtain ⟨rfl, rfl, rfl⟩ : as = [] ∧ m = .answer 0 (.error (.transport "reset")) ∧ bs = [] := by
      simpa [List.singleton_eq_append_iff] using split
    obtain ⟨_, b, read⟩ := overtakes.settles.answered
    cases read
  let fetch : OpenCall :=
    { id := 0
      call := .fetchQuestions "1" "3" none
      pause := .request (QuestionQuery.request ⟨"1", 3, ""⟩) (.page ⟨"1", 3, ""⟩) }
  have page : Overtakes "1" (play none {} {} underWay)
      (play none {} {} (underWay ++ [.call (.resetCursor "1")]))
      (.answer 0 (.ok (servedPage "a"))) (some "a") :=
    Overtakes.mk (c := fetch) (b := ⟨[], some "a"⟩) (List.mem_singleton_self _)
      (List.mem_singleton_self _) ⟨"3", none, rfl⟩ rfl
  have first := (first_page_after_reset none {} {} underWay _ valid (alone _)).1 failure
  have late := (first_page_after_reset none {} {} underWay _ valid (alone _)).2 [] _ [] _ rfl page
    List.not_mem_nil (.nil _)
  exact ⟨valid, first, late⟩

/-- A reset does not make the next fetch ask for the first page whatever comes
in between: an answer that was under way brings the old cursor back. -/
theorem reset_undone :
    ¬ ∀ (ss₁ ss₂ : List Step) (s n : String) (q : QuestionQuery),
      QuestionQuery.ofTexts s n = .ok q →
      (∀ n cursor, .call (.fetchQuestions s n cursor) ∉ ss₂) →
      FetchSends (play none {} {} (ss₁ ++ .call (.resetCursor s) :: ss₂)) s n
        (q.startingAt "") := by
  intro law
  have told := law underWay [.answer 0 (.ok (servedPage "a"))] "1" "3" ⟨"1", 3, ""⟩ rfl (by simp)
  have sent := congrArg (fun log => (requests log 2).map Request.query) told
  exact absurd sent (by decide +kernel)

end Traffic

end LearningClient.Rehearsal
