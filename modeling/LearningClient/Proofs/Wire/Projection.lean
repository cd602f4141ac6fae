import LearningClient.Proofs.Json.Gathering
import LearningClient.Wire.Question
import LearningClient.Wire.Topic

/-!
# What a value says

What the answers of the backend mean is said here of values, member by member
and item by item: which rights, topic, question or page a value holds, if it
holds one (`SkillRights.ofValue?` and its like). The readers of documents go by
characters and know nothing of these. Each of them gives what the value of its
document holds (`SkillRights.follows` and its like), as long as no object of the
document names a member twice.
-/

namespace LearningClient

open LearningClient.Json

/-! ## What a value holds -/

/-- Two members, or two items in this order. -/
def SkillRights.ofValue? : Value → Option SkillRights
  | .obj ms => do
    let skillId ← (← ms.lookup "skill_id").text?
    let canEditDescription ← (← ms.lookup "can_edit_skill_description").bool?
    return { skillId, canEditDescription }
  | .arr [skillId, canEditDescription] => do
    return { skillId := ← skillId.text?, canEditDescription := ← canEditDescription.bool? }
  | _ => none

/-- One member, in one of its two spellings and not in both, or one item. -/
def TopicCreated.ofValue? : Value → Option TopicCreated
  | .obj ms =>
    match ms.lookup "topicId", ms.lookup "topic_id" with
    | some v, none => v.text?.map TopicCreated.mk
    | none, some v => v.text?.map TopicCreated.mk
    | _, _ => none
  | .arr [v] => v.text?.map TopicCreated.mk
  | _ => none

/-- The names of the fields of a question. -/
def Question.ownNames : List String :=
  ["id", "question_state_data", "language_code", "version"]

/-- Four members, of which two may be missing, and any others. -/
def Question.ofValue? : Value → Option Question
  | .obj ms => do
    let id ← (← ms.lookup "id").text?
    let stateData ← ms.lookup "question_state_data"
    let languageCode ← (ms.lookup "language_code").elim (some "") Value.text?
    let version ← (ms.lookup "version").elim (some 0) Value.int64?
    return { id, stateData, languageCode, version,
             extra := ms.filter fun m => m.1 ∉ Question.ownNames }
  | _ => none

/-- Two members or two items, of which the second may be missing. -/
def QuestionBatch.ofValue? : Value → Option QuestionBatch
  | .obj ms => do
    let questions ← (← ms.lookup "question_dicts").items? Question.ofValue?
    let nextCursor ← (ms.lookup "next_start_cursor").elim (some none) Value.textOrNull?
    return { questions, nextCursor }
  | .arr [questions] => do
    return { questions := ← questions.items? Question.ofValue?, nextCursor := none }
  | .arr [questions, nextCursor] => do
    return { questions := ← questions.items? Question.ofValue?
             nextCursor := ← nextCursor.textOrNull? }
  | _ => none

/-! ## Fields that are required or not -/

/-- A field that must be there. -/
theorem optional_required {α : Type} (f : Value → Option α) (found : Option Value) :
    ((optional f found).bind fun field => field) = found.bind f := by
  cases found with
  | none => rfl
  | some v =>
    show ((f v).map some).bind _ = f v
    cases f v <;> rfl

/-- A field that something stands in for. -/
theorem optional_getD {α : Type} (f : Value → Option α) (found : Option Value) (standIn : α) :
    ((optional f found).bind fun field => some (field.getD standIn)) =
      found.elim (some standIn) f := by
  cases found with
  | none => rfl
  | some v =>
    show ((f v).map some).bind _ = f v
    cases f v <;> rfl

/-! ## Rights -/

/-- The fields of rights, gathered from one more member. -/
def SkillRights.step (s : SkillRights.Fields) (m : String × Value) : Option SkillRights.Fields :=
  (both (slot (· = "skill_id") Value.text?)
    (slot (· = "can_edit_skill_description") Value.bool?)
    (s.skillId, s.canEditDescription) m).map fun p => ⟨p.1, p.2⟩

theorem SkillRights.fields_follow (depth : Nat) :
    FieldsFollow depth (SkillRights.record.field depth) SkillRights.step := by
  intro s name cs cs' v rest colon read once
  simp only [SkillRights.record]
  split
  · rename_i own
    subst own
    refine (readField_follows (follows_readText depth) _ _ (fun v => { s with skillId := some v })
      colon read once).trans ?_
    simp only [SkillRights.step, both, slot]
    cases givenOnce Value.text? s.skillId v.arranged <;> rfl
  split
  · rename_i notId own
    subst own
    refine (readField_follows (follows_readBool depth) _ _
      (fun v => { s with canEditDescription := some v }) colon read once).trans ?_
    simp only [SkillRights.step, both, slot]
    cases givenOnce Value.bool? s.canEditDescription v.arranged <;> rfl
  · rename_i notId notEdit
    rw [skipField_follows s colon read]
    simp [SkillRights.step, both, slot, notId, notEdit, together]

theorem SkillRights.foldlM_step {ms : Members} (once : (names ms).Nodup) :
    ms.foldlM SkillRights.step ⟨none, none⟩ =
      (together (optional Value.text? (ms.lookup "skill_id"))
        (optional Value.bool? (ms.lookup "can_edit_skill_description"))).map
        fun p => ⟨p.1, p.2⟩ :=
  foldlM_twoFields (fun p => SkillRights.Fields.mk p.1 p.2) (fun _ _ => rfl) once

theorem SkillRights.toOption_finish (p : Option String × Option Bool) :
    (SkillRights.record.finish ⟨p.1, p.2⟩).toOption =
      (together p.1 p.2).map fun p => ⟨p.1, p.2⟩ := by
  obtain ⟨a, b⟩ := p
  cases a <;> cases b <;> rfl

theorem SkillRights.finish_foldlM {ms : Members} (once : (names ms).Nodup) :
    ((ms.foldlM SkillRights.step ⟨none, none⟩).bind fun s =>
      (SkillRights.record.finish s).toOption) = SkillRights.ofValue? (.obj (sortMembers ms)) := by
  rw [foldlM_step once, together_finish _ _ (fun x => x) (fun x => x) toOption_finish]
  rw [optional_required, optional_required, ofValue?, lookup_sortMembers once,
    lookup_sortMembers once]
  cases ms.lookup "skill_id" with
  | none => rfl
  | some v =>
    show (together v.text? _).map _ = v.text?.bind _
    cases v.text? with
    | none => rfl
    | some id =>
      cases ms.lookup "can_edit_skill_description" with
      | none => rfl
      | some w =>
        show (together _ w.bool?).map _ = w.bool?.bind _
        cases w.bool? <;> rfl

theorem SkillRights.items_follow (depth : Nat) {cs rest : List Char} {vs : List Value}
    (inside : Items (readAsWritten depth) true cs vs rest)
    (once : ∀ v ∈ vs, v.Throughout Value.namesOnce) :
    ((do
      let whole := "struct SkillRights with 2 elements"
      let (skillId, cs) ← readNthItem 0 whole none readText cs
      let (canEditDescription, cs) ← readNthItem 1 whole none readBool cs
      return (SkillRights.mk skillId canEditDescription, cs) : Except Stop _) >>= closed).toOption =
      (SkillRights.ofValue? (.arr (arrangedItems vs))).map (·, rest) := by
  refine (twoItems_follow (follows_readText depth) (follows_readBool depth) inside once _ none
    SkillRights.mk).trans ?_
  congr 1
  rcases arrangedItems vs with _ | ⟨v, _ | ⟨w, _ | ⟨u, ws⟩⟩⟩
  · rfl
  · exact Option.bind_fun_none v.text?
  · show v.text?.bind _ = v.text?.bind _
    congr 1
    funext id
    show w.bool?.map _ = w.bool?.bind _
    cases w.bool? <;> rfl
  · exact Option.bind_fun_none v.text?

/-- A value without brackets holds no record. -/
theorem other_of_brackets {α : Type} {f : Value → Option α}
    (null : f .null = none) (bool : ∀ b, f (.bool b) = none) (int : ∀ n, f (.int n) = none)
    (float : ∀ x, f (.float x) = none) (str : ∀ s, f (.str s) = none) (v : Value)
    (notObj : ∀ ms, v ≠ .obj ms) (notArr : ∀ vs, v ≠ .arr vs) : f v = none := by
  cases v with
  | null => exact null
  | bool b => exact bool b
  | int n => exact int n
  | float x => exact float x
  | str s => exact str s
  | arr vs => exact absurd rfl (notArr vs)
  | obj ms => exact absurd rfl (notObj ms)

theorem SkillRights.projects :
    SkillRights.record.Projects SkillRights.step SkillRights.ofValue? where
  fields := SkillRights.fields_follow
  object ms once := SkillRights.finish_foldlM once
  items items given depth cs vs rest inside once := by
    cases given
    exact SkillRights.items_follow depth inside once
  noItems := nofun
  other := other_of_brackets rfl (fun _ => rfl) (fun _ => rfl) (fun _ => rfl) (fun _ => rfl)

theorem SkillRights.follows : Follows maxDepth SkillRights.read SkillRights.ofValue? :=
  SkillRights.projects.follows maxDepth

/-! ## Topics -/

/-- The name of a topic, gathered from one more member. -/
def TopicCreated.step : Option String → String × Value → Option (Option String) :=
  slot (fun n => n = "topicId" ∨ n = "topic_id") Value.text?

theorem TopicCreated.fields_follow (depth : Nat) :
    FieldsFollow depth (TopicCreated.record.field depth) TopicCreated.step := by
  intro s name cs cs' v rest colon read once
  simp only [TopicCreated.record]
  split
  · rename_i own
    refine (readField_follows (follows_readText depth) _ _ (fun v => some v) colon read
      once).trans ?_
    simp only [TopicCreated.step, slot, own, decide_true, if_true]
  · rename_i other
    rw [skipField_follows s colon read]
    simp [TopicCreated.step, slot, other]

theorem TopicCreated.finish_foldlM {ms : Members} (once : (names ms).Nodup) :
    ((ms.foldlM TopicCreated.step none).bind fun s => (TopicCreated.record.finish s).toOption) =
      TopicCreated.ofValue? (.obj (sortMembers ms)) := by
  rw [step, foldlM_slot_twoNames once (by decide), ofValue?, lookup_sortMembers once,
    lookup_sortMembers once]
  cases ms.lookup "topicId" with
  | none =>
    cases ms.lookup "topic_id" with
    | none => rfl
    | some v =>
      show (v.text?.map some).bind _ = v.text?.map _
      cases v.text? <;> rfl
  | some v =>
    cases ms.lookup "topic_id" with
    | none =>
      show (v.text?.map some).bind _ = v.text?.map _
      cases v.text? <;> rfl
    | some w => rfl

theorem TopicCreated.items_follow (depth : Nat) {cs rest : List Char} {vs : List Value}
    (inside : Items (readAsWritten depth) true cs vs rest)
    (once : ∀ v ∈ vs, v.Throughout Value.namesOnce) :
    ((do
      let (topicId, cs) ← readNthItem 0 "struct TopicCreated with 1 element" none readText cs
      return (TopicCreated.mk topicId, cs) : Except Stop _) >>= closed).toOption =
      (TopicCreated.ofValue? (.arr (arrangedItems vs))).map (·, rest) := by
  have item := lastItem_follows 0 (follows_readText depth) inside once
    "struct TopicCreated with 1 element" none
  refine (congrArg Except.toOption (bind_closed _ TopicCreated.mk)).trans ?_
  rw [toOption_bind, item]
  rcases arrangedItems vs with _ | ⟨v, _ | ⟨w, ws⟩⟩
  · rfl
  · show (v.text?.map _).bind _ = (v.text?.map _).map _
    cases v.text? <;> rfl
  · rfl

theorem TopicCreated.projects :
    TopicCreated.record.Projects TopicCreated.step TopicCreated.ofValue? where
  fields := TopicCreated.fields_follow
  object ms once := TopicCreated.finish_foldlM once
  items items given depth cs vs rest inside once := by
    cases given
    exact TopicCreated.items_follow depth inside once
  noItems := nofun
  other := other_of_brackets rfl (fun _ => rfl) (fun _ => rfl) (fun _ => rfl) (fun _ => rfl)

theorem TopicCreated.follows : Follows maxDepth TopicCreated.read TopicCreated.ofValue? :=
  TopicCreated.projects.follows maxDepth

/-! ## Questions -/

/-- The fields of a question side by side. -/
abbrev Question.Parts := Option String × Option Value × Option String × Option Int × Members

def Question.Fields.ofParts (p : Question.Parts) : Question.Fields :=
  ⟨p.1, p.2.1, p.2.2.1, p.2.2.2.1, p.2.2.2.2⟩

/-- The fields of a question, gathered from one more member. -/
def Question.stepParts : Question.Parts → String × Value → Option Question.Parts :=
  both (slot (· = "id") Value.text?)
    (both (slot (· = "question_state_data") some)
      (both (slot (· = "language_code") Value.text?)
        (both (slot (· = "version") Value.int64?) (leftover (· ∈ Question.ownNames)))))

def Question.step (s : Question.Fields) (m : String × Value) : Option Question.Fields :=
  (stepParts (s.id, s.stateData, s.languageCode, s.version, s.extra) m).map Fields.ofParts

theorem Question.fields_follow (depth : Nat) :
    FieldsFollow depth (Question.record.field depth) Question.step := by
  intro s name cs cs' v rest colon read once
  simp only [Question.record]
  split
  · rename_i own
    subst own
    refine (readField_follows (follows_readText depth) _ _ (fun v => { s with id := some v })
      colon read once).trans ?_
    simp only [Question.step, stepParts, both, slot]
    cases givenOnce Value.text? s.id v.arranged <;> rfl
  split
  · rename_i own
    subst own
    refine (readField_follows (follows_readValue depth) _ _
      (fun v => { s with stateData := some v }) colon read once).trans ?_
    simp only [Question.step, stepParts, both, slot]
    cases givenOnce some s.stateData v.arranged <;> rfl
  split
  · rename_i own
    subst own
    refine (readField_follows (follows_readText depth) _ _
      (fun v => { s with languageCode := some v }) colon read once).trans ?_
    simp only [Question.step, stepParts, both, slot]
    cases givenOnce Value.text? s.languageCode v.arranged <;> rfl
  split
  · rename_i own
    subst own
    refine (readField_follows (follows_readInt64 depth) _ _
      (fun v => { s with version := some v }) colon read once).trans ?_
    simp only [Question.step, stepParts, both, slot]
    cases givenOnce Value.int64? s.version v.arranged <;> rfl
  · rename_i notId notState notLanguage notVersion
    rw [toOption_bind, readMember_follows s.extra name colon read]
    simp [Question.step, stepParts, both, slot, leftover, together, ownNames, notId, notState,
      notLanguage, notVersion, Fields.ofParts, Except.toOption, pure, Except.pure]

theorem Question.foldlM_step {ms : Members} (once : (names ms).Nodup) :
    ms.foldlM Question.step ⟨none, none, none, none, []⟩ =
      (together (optional Value.text? (ms.lookup "id"))
        (together (optional some (ms.lookup "question_state_data"))
          (together (optional Value.text? (ms.lookup "language_code"))
            (together (optional Value.int64? (ms.lookup "version"))
              (some (sortMembers (ms.filter fun m => !decide (m.1 ∈ ownNames)))))))).map
        Fields.ofParts := by
  have parts : ms.foldlM Question.step (.ofParts (none, none, none, none, [])) =
      (ms.foldlM stepParts (none, none, none, none, [])).map Fields.ofParts :=
    foldlM_renamed Fields.ofParts (fun _ _ => rfl) ms _
  refine parts.trans ?_
  rw [stepParts, foldlM_both, foldlM_both, foldlM_both, foldlM_both, foldlM_slot once,
    foldlM_slot once, foldlM_slot once, foldlM_slot once, foldlM_leftover]

/-- The last two fields have something that stands in for them. -/
def Question.givenOr (p : Option String × Option Int × Members) :
    Option (String × Int × Members) :=
  together (some (p.1.getD "")) (together (some (p.2.1.getD 0)) (some p.2.2))

theorem Question.toOption_finish (p : Question.Parts) :
    (Question.record.finish (.ofParts p)).toOption =
      (together p.1 (together p.2.1 (givenOr p.2.2))).map
        fun q => ⟨q.1, q.2.1, q.2.2.1, q.2.2.2.1, q.2.2.2.2⟩ := by
  obtain ⟨id, state, rest⟩ := p
  cases id <;> cases state <;> rfl

theorem Question.finish_foldlM {ms : Members} (once : (names ms).Nodup) :
    ((ms.foldlM Question.step ⟨none, none, none, none, []⟩).bind fun s =>
      (Question.record.finish s).toOption) = Question.ofValue? (.obj (sortMembers ms)) := by
  have extra := sortMembers_filter once fun n => !decide (n ∈ ownNames)
  -- of the last three parts none can be missing, so they are taken as one
  have given : ∀ (x : Option (Option String)) (y : Option (Option Int)) (ms : Members),
      (together x (together y (some ms))).bind givenOr =
        together (x.bind fun field => some (field.getD ""))
          (together (y.bind fun field => some (field.getD 0)) (some ms)) := by
    intro x y ms
    cases x <;> cases y <;> rfl
  rw [foldlM_step once, together_finish _ _ (fun x => x)
    (fun q => together q.1 (givenOr q.2)) toOption_finish, optional_required,
    together_bind _ _ (fun x => x) givenOr, optional_required, given, optional_getD, optional_getD,
    extra, ofValue?]
  simp only [lookup_sortMembers once, decide_not]
  cases ms.lookup "id" with
  | none => rfl
  | some v =>
    show (together v.text? _).map _ = v.text?.bind _
    cases v.text? with
    | none => rfl
    | some id =>
      cases ms.lookup "question_state_data" with
      | none => rfl
      | some state =>
        cases (ms.lookup "language_code").elim (some "") Value.text? with
        | none => rfl
        | some languageCode => cases (ms.lookup "version").elim (some 0) Value.int64? <;> rfl

theorem Question.projects : Question.record.Projects Question.step Question.ofValue? where
  fields := Question.fields_follow
  object _ once := Question.finish_foldlM once
  items := nofun
  noItems _ _ := rfl
  other := other_of_brackets rfl (fun _ => rfl) (fun _ => rfl) (fun _ => rfl) (fun _ => rfl)

theorem Question.follows : Follows maxDepth Question.read Question.ofValue? :=
  Question.projects.follows maxDepth

/-! ## Pages -/

/-- The fields of a page, gathered from one more member. -/
def QuestionBatch.step (s : QuestionBatch.Fields) (m : String × Value) :
    Option QuestionBatch.Fields :=
  (both (slot (· = "question_dicts") (Value.items? Question.ofValue?))
    (slot (· = "next_start_cursor") Value.textOrNull?)
    (s.questions, s.nextCursor) m).map fun p => ⟨p.1, p.2⟩

theorem follows_questions (depth : Nat) :
    Follows depth (readList depth Question.record.read) (Value.items? Question.ofValue?) :=
  follows_readList (fun depth => Question.projects.follows depth) depth

theorem QuestionBatch.fields_follow (depth : Nat) :
    FieldsFollow depth (QuestionBatch.record.field depth) QuestionBatch.step := by
  intro s name cs cs' v rest colon read once
  simp only [QuestionBatch.record]
  split
  · rename_i own
    subst own
    refine (readField_follows (follows_questions depth) _ _
      (fun v => { s with questions := some v }) colon read once).trans ?_
    simp only [QuestionBatch.step, both, slot]
    cases givenOnce (Value.items? Question.ofValue?) s.questions v.arranged <;> rfl
  split
  · rename_i own
    subst own
    refine (readField_follows (follows_readTextOrNull depth) _ _
      (fun v => { s with nextCursor := some v }) colon read once).trans ?_
    simp only [QuestionBatch.step, both, slot]
    cases givenOnce Value.textOrNull? s.nextCursor v.arranged <;> rfl
  · rename_i notQuestions notCursor
    rw [skipField_follows s colon read]
    simp [QuestionBatch.step, both, slot, notQuestions, notCursor, together]

theorem QuestionBatch.foldlM_step {ms : Members} (once : (names ms).Nodup) :
    ms.foldlM QuestionBatch.step ⟨none, none⟩ =
      (together (optional (Value.items? Question.ofValue?) (ms.lookup "question_dicts"))
        (optional Value.textOrNull? (ms.lookup "next_start_cursor"))).map
        fun p => ⟨p.1, p.2⟩ :=
  foldlM_twoFields (fun p => QuestionBatch.Fields.mk p.1 p.2) (fun _ _ => rfl) once

theorem QuestionBatch.toOption_finish (p : Option (List Question) × Option (Option String)) :
    (QuestionBatch.record.finish ⟨p.1, p.2⟩).toOption =
      (together p.1 (some (p.2.getD none))).map fun p => ⟨p.1, p.2⟩ := by
  obtain ⟨a, b⟩ := p
  cases a <;> rfl

theorem QuestionBatch.finish_foldlM {ms : Members} (once : (names ms).Nodup) :
    ((ms.foldlM QuestionBatch.step ⟨none, none⟩).bind fun s =>
      (QuestionBatch.record.finish s).toOption) =
      QuestionBatch.ofValue? (.obj (sortMembers ms)) := by
  rw [foldlM_step once, together_finish _ _ (fun x => x) (fun x => some (x.getD none))
    toOption_finish, optional_required, optional_getD, ofValue?, lookup_sortMembers once,
    lookup_sortMembers once]
  cases ms.lookup "question_dicts" with
  | none => rfl
  | some v =>
    show (together (v.items? _) _).map _ = (v.items? _).bind _
    cases v.items? Question.ofValue? with
    | none => rfl
    | some questions =>
      cases (ms.lookup "next_start_cursor").elim (some none) Value.textOrNull? <;> rfl

theorem QuestionBatch.items_follow (depth : Nat) {cs rest : List Char} {vs : List Value}
    (inside : Items (readAsWritten depth) true cs vs rest)
    (once : ∀ v ∈ vs, v.Throughout Value.namesOnce) :
    ((do
      let whole := "struct QuestionBatch with 2 elements"
      let (questions, cs) ← readNthItem 0 whole none (readList depth Question.record.read) cs
      let (nextCursor, cs) ← readNthItem 1 whole (some none) readTextOrNull cs
      return (QuestionBatch.mk questions nextCursor, cs) : Except Stop _) >>= closed).toOption =
      (QuestionBatch.ofValue? (.arr (arrangedItems vs))).map (·, rest) := by
  refine (twoItems_follow (follows_questions depth) (follows_readTextOrNull depth) inside once _
    (some none) QuestionBatch.mk).trans ?_
  congr 1
  rcases arrangedItems vs with _ | ⟨v, _ | ⟨w, _ | ⟨u, ws⟩⟩⟩
  · rfl
  · rfl
  · show (v.items? _).bind _ = (v.items? _).bind _
    congr 1
    funext questions
    show w.textOrNull?.map _ = w.textOrNull?.bind _
    cases w.textOrNull? <;> rfl
  · exact Option.bind_fun_none (v.items? Question.ofValue?)

theorem QuestionBatch.projects :
    QuestionBatch.record.Projects QuestionBatch.step QuestionBatch.ofValue? where
  fields := QuestionBatch.fields_follow
  object _ once := QuestionBatch.finish_foldlM once
  items _ given depth _ _ _ inside once := by
    cases given
    exact QuestionBatch.items_follow depth inside once
  noItems := nofun
  other := other_of_brackets rfl (fun _ => rfl) (fun _ => rfl) (fun _ => rfl) (fun _ => rfl)

theorem QuestionBatch.follows : Follows maxDepth QuestionBatch.read QuestionBatch.ofValue? :=
  QuestionBatch.projects.follows maxDepth

end LearningClient
