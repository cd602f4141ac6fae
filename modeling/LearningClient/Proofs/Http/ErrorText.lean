import LearningClient.Proofs.Text.Trimming
import LearningClient.Proofs.Wire.RoundTrip

/-!
# The text of a failure

An answer that is no success carries a text for a person. The backend says it as
a text or as the member `error` of an object (`Value.Tells`), and it arrives as it
was said, whatever characters it has, blanks at its ends included
(`Http.Response.error_text`). What else the backend sends is the text itself,
without blanks at its ends. No failure is without a text: where nothing is said,
the status is.

The rules take the prefix off first, then the blanks, and then read. So it
matters that trimming stops at the quotes or braces of what was said
(`trim_between`).
-/

namespace LearningClient

open LearningClient.Text LearningClient.Json LearningClient.Http

/-! ## Blanks -/

/-- The blanks of JSON are blanks of Unicode. -/
theorem isBlank_of_json {c : Char} (h : Json.isBlank c = true) : Text.isBlank c = true := by
  simp only [Json.isBlank, Bool.or_eq_true, decide_eq_true_eq] at h
  rcases h with ((rfl | rfl) | rfl) | rfl <;> decide

/-! ## What is told -/

/-- A value tells a text: it is the text, or an object whose member `error` is. -/
inductive Json.Value.Tells : Value → String → Prop
  | text (m : String) : Tells (.str m) m
  | member {ms : Members} {m : String} (error : ms.lookup "error" = some (.str m)) :
    Tells (.obj ms) m

theorem errorText?_eq_some {v : Value} {m : String} : errorText? v = some m ↔ v.Tells m := by
  constructor
  · intro h
    cases v with
    | str s =>
      cases h
      exact .text m
    | obj ms =>
      obtain ⟨w, error, text⟩ := Option.bind_eq_some_iff.mp h
      rw [text?_eq_some text] at error
      exact .member error
    | _ => cases h
  · intro h
    cases h with
    | text => rfl
    | member error =>
      show (List.lookup "error" _).bind Value.text? = _
      rw [error]
      rfl

/-- What is told is not lost when members are put in order. -/
theorem Json.Value.Tells.arranged {v : Value} {m : String} (h : v.Tells m) (once : v.namesOnce) :
    v.arranged.Tells m := by
  cases h with
  | text => exact .text m
  | @member ms _ error =>
    have nodup : (names (arrangedMembers ms)).Nodup := by
      rw [names_arrangedMembers]
      exact once
    rw [Value.arranged]
    apply Tells.member
    rw [lookup_sortMembers nodup, lookup_arrangedMembers, error]
    rfl

/-- The compact text of a value that tells something is between quotes or braces. -/
theorem Json.Value.Tells.ends {v : Value} {m : String} (h : v.Tells m) :
    (∃ c t, v.write .compact 0 = c :: t ∧ Text.isBlank c = false) ∧
      ∃ t c, v.write .compact 0 = t ++ [c] ∧ Text.isBlank c = false := by
  cases h with
  | text =>
    refine ⟨⟨_, _, rfl, by decide⟩, '"' :: m.toList.flatMap escapeChar, '"', ?_, by decide⟩
    rw [Value.write, stringText, List.cons_append]
  | @member ms _ error =>
    cases ms with
    | nil => cases error
    | cons first ms =>
      obtain ⟨name, w⟩ := first
      refine ⟨⟨_, _, rfl, by decide⟩, ?_⟩
      rw [Value.write, ← List.cons_append]
      exact ⟨_, _, rfl, by decide⟩

theorem Json.Value.Tells.whole {v : Value} {m : String} (h : v.Tells m) : v.whole := by
  cases h <;> trivial

theorem ofText_write {v : Value} (whole : v.Throughout Value.whole) (fits : v.depth ≤ maxDepth)
    (st : Style) : Value.ofText (String.ofList (v.write st 0)) = .ok v.arranged := by
  obtain ⟨rest, read, blanks⟩ := readWhole_eq_ok.mp (readWhole_write whole fits st)
  have arranged : readWhole (readValue maxDepth) (v.write st 0) = .ok v.arranged := by
    rw [readWhole_eq_ok, readValue_eq]
    exact ⟨rest, mapped_eq_ok read, blanks⟩
  rw [Value.ofText, decode, String.toList_ofList, arranged]
  rfl

/-! ## Failures -/

/-- What is read of a body: it is without the prefix and without blanks at its
ends. -/
def bodyText (body : String) : String := String.ofList (trim (stripGuard body.toList))

/-- A text, or if there is none the status in words. -/
def orStatus (status : Nat) (m : String) : String :=
  if m = "" then "Request failed with status " ++ toString status else m

theorem orStatus_ne_empty (status : Nat) (m : String) : orStatus status m ≠ "" := by
  rw [orStatus]
  split
  · intro empty
    have length := congrArg String.length empty
    rw [String.length_append] at length
    exact absurd length (by simp)
  · assumption

/-- The failure that an answer is, by what its body is read as. -/
theorem failure_eq (r : Response) :
    r.failure = .backend (orStatus r.status
      (match Value.ofText (bodyText r.body) with
        | .ok v => (errorText? v).getD (bodyText r.body)
        | .error _ => bodyText r.body)) r.status := by
  have same : ∀ m : String, (if m.isEmpty then
      Failure.backend ("Request failed with status " ++ String.ofList (natText r.status)) r.status
      else .backend m r.status) = .backend (orStatus r.status m) r.status := by
    intro m
    rw [orStatus]
    by_cases empty : m = ""
    · rw [if_pos empty, if_pos (String.isEmpty_iff.mpr empty)]
      rfl
    · rw [if_neg empty, if_neg (fun h => empty (String.isEmpty_iff.mp h))]
  have text : String.ofList (trim (stripGuard r.body.toList)) = bodyText r.body := rfl
  simp only [Response.failure, text]
  cases Value.ofText (bodyText r.body) with
  | ok v => exact same _
  | error fault => exact same _

theorem failure_of_tells (r : Response) {v : Value} {m : String}
    (read : Value.ofText (bodyText r.body) = .ok v) (told : v.Tells m) :
    r.failure = .backend (orStatus r.status m) r.status := by
  rw [failure_eq, read]
  simp only [errorText?_eq_some.mpr told, Option.getD_some]

theorem failure_of_untold (r : Response)
    (untold : ∀ v, Value.ofText (bodyText r.body) = .ok v → ∀ m, ¬v.Tells m) :
    r.failure = .backend (orStatus r.status (bodyText r.body)) r.status := by
  rw [failure_eq]
  cases read : Value.ofText (bodyText r.body) with
  | error fault => rfl
  | ok v =>
    have none : errorText? v = none := by
      rw [Option.eq_none_iff_forall_not_mem]
      exact fun m told => untold v read m (errorText?_eq_some.mp told)
    simp only [none, Option.getD_none]

/-- The body with a value that tells something: the prefix or none, and blanks
around the compact text. -/
def tellingBody (guarded : Bool) (before after : List Char) (v : Value) : String :=
  String.ofList ((if guarded then guardPrefix else []) ++ (before ++ (v.compact.toList ++ after)))

theorem bodyText_tellingBody (guarded : Bool) {before after : List Char} {v : Value} {m : String}
    (told : v.Tells m) (blankBefore : ∀ c ∈ before, Json.isBlank c = true)
    (blankAfter : ∀ c ∈ after, Json.isBlank c = true) :
    bodyText (tellingBody guarded before after v) = v.compact := by
  have text : v.compact.toList = v.write .compact 0 := String.toList_ofList
  obtain ⟨front, back⟩ := told.ends
  have stripped : stripGuard (tellingBody guarded before after v).toList =
      before ++ (v.write .compact 0 ++ after) := by
    rw [tellingBody, String.toList_ofList, text]
    cases guarded with
    | true => exact stripGuard_guarded _
    | false =>
      show stripGuard (before ++ _) = _
      -- neither a blank nor what is written begins like the prefix
      cases before with
      | nil =>
        obtain ⟨c, t, begins, -, -, other⟩ := write_front told.whole .compact 0
        rw [List.nil_append, begins, List.cons_append, stripGuard_cons other]
      | cons c cs =>
        have other : c ≠ ')' := by
          rintro rfl
          exact absurd (blankBefore _ List.mem_cons_self) (by decide)
        rw [List.cons_append, stripGuard_cons other]
  rw [bodyText, stripped, trim_between (fun c mem => isBlank_of_json (blankBefore c mem))
    (fun c mem => isBlank_of_json (blankAfter c mem)) front back]
  rfl

/-- What the backend tells is told as it is, what it does not tell is read off the
body, and if that is empty the status is told. -/
theorem Http.Response.error_text {status : Nat} (refused : ¬(200 ≤ status ∧ status < 300)) :
    (∀ body {α : Type} (read : Reader α),
      (Response.mk status body).result read = .error (Response.mk status body).failure) ∧
    (∀ {v : Value} {m : String}, v.Tells m → m ≠ "" → v.namesOnce → v.Throughout Value.whole →
      v.depth ≤ maxDepth → ∀ (guarded : Bool) {before after : List Char},
      (∀ c ∈ before, Json.isBlank c = true) → (∀ c ∈ after, Json.isBlank c = true) →
        (Response.mk status (tellingBody guarded before after v)).failure = .backend m status) ∧
    (∀ body, (∀ v, Value.ofText (bodyText body) = .ok v → ∀ m, ¬v.Tells m) →
      (Response.mk status body).failure = .backend (orStatus status (bodyText body)) status) ∧
    (∀ body v m, Value.ofText (bodyText body) = .ok v → v.Tells m →
      (Response.mk status body).failure = .backend (orStatus status m) status) ∧
    ∀ body, (Response.mk status body).failure.message ≠ "" := by
  refine ⟨fun body α read => ?_, ?_, fun body untold => ?_, fun body v m read told => ?_,
    fun body => ?_⟩
  · have failed : (Response.mk status body).isSuccess = false := by
      simpa [Response.isSuccess] using refused
    rw [Response.result, failed]
    rfl
  · intro v m told some once whole fits guarded before after blankBefore blankAfter
    have read : Value.ofText (bodyText (tellingBody guarded before after v)) = .ok v.arranged := by
      rw [bodyText_tellingBody guarded told blankBefore blankAfter]
      exact ofText_write whole fits .compact
    rw [failure_of_tells ⟨status, tellingBody guarded before after v⟩ read (told.arranged once),
      orStatus, if_neg some]
  · exact failure_of_untold ⟨status, body⟩ untold
  · exact failure_of_tells ⟨status, body⟩ read told
  · rw [failure_eq]
    exact orStatus_ne_empty status _

/-- A refusal whose text has blanks at its ends and has to be escaped. -/
def awkwardRefusal : Value :=
  .obj [("code", .arr [.int 7]), ("error", .str " \"no\"\\\n")]

theorem Http.Response.error_text_awkward :
    ¬(200 ≤ 404 ∧ 404 < 300) ∧ awkwardRefusal.Tells " \"no\"\\\n" ∧ awkwardRefusal.namesOnce ∧
      awkwardRefusal.Throughout Value.whole ∧ awkwardRefusal.depth ≤ maxDepth ∧
      (Response.mk 404 (tellingBody true ['\n'] [' '] awkwardRefusal)).result SkillRights.read =
        .error (.backend " \"no\"\\\n" 404) := by
  have refused : ¬(200 ≤ 404 ∧ 404 < 300) := by decide
  have told : awkwardRefusal.Tells " \"no\"\\\n" := .member rfl
  have once : awkwardRefusal.namesOnce := (by decide : ["code", "error"].Nodup)
  have whole : awkwardRefusal.Throughout Value.whole := by
    refine throughout_obj trivial fun m mem => ?_
    simp only [List.mem_cons, List.not_mem_nil, or_false] at mem
    rcases mem with rfl | rfl
    · refine throughout_arr trivial fun v mem => ?_
      rw [List.mem_singleton.mp mem]
      exact throughout_int (by decide : _ ∧ _)
    · exact throughout_str trivial
  have fits : awkwardRefusal.depth ≤ maxDepth := by
    simp [awkwardRefusal, Value.depth, maxDepth]
  have some : " \"no\"\\\n" ≠ "" := by decide
  have before : ∀ c ∈ ['\n'], Json.isBlank c = true := by
    intro c mem
    rw [List.mem_singleton.mp mem]
    rfl
  have after : ∀ c ∈ [' '], Json.isBlank c = true := by
    intro c mem
    rw [List.mem_singleton.mp mem]
    rfl
  obtain ⟨failed, telling, -⟩ := error_text refused
  refine ⟨refused, told, once, whole, fits, (failed _ SkillRights.read).trans ?_⟩
  rw [telling told some once whole fits true before after]

end LearningClient
