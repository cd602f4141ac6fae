import LearningClient.Http.Response
import LearningClient.Proofs.Wire.Projection
import Mathlib

/-!
# Reading an answer as what is expected

The body of an answer that is a success can be read as any value, and as what
its caller expects. Wherever the first can be done, the value alone decides
whether the second can, and what comes out (`Http.Response.typed_results`).
So the blanks of the body, the order of members, members that nobody asked for
and the prefix in front of the body make no difference. No object of the body
may name a member twice: the value keeps the last of the two, where a field
that is known is refused.

A question keeps all members that it does not know. If it is written again, it
is the value that it was read from, with the two members in their places that
may be missing.
-/

namespace LearningClient

open LearningClient.Json LearningClient.Http

/-! ## Whole documents -/

/-- No object of a document names a member twice, as far as the document can be
read. -/
def NamesOnce (document : List Char) : Prop :=
  ∀ v, readWhole (readAsWritten maxDepth) document = .ok v → v.Throughout Value.namesOnce

theorem readWhole_eq_ok {α : Type} {read : Reader α} {document : List Char} {a : α} :
    readWhole read document = .ok a ↔
      ∃ rest, read document = .ok (a, rest) ∧ skipBlanks rest = [] := by
  rw [readWhole, bind_eq_ok]
  constructor
  · rintro ⟨⟨a', rest⟩, first, h⟩
    cases blanks : skipBlanks rest with
    | nil =>
      simp only [blanks] at h
      cases h
      exact ⟨rest, first, blanks⟩
    | cons c cs =>
      simp only [blanks] at h
      cases h
  · rintro ⟨rest, first, blanks⟩
    refine ⟨(a, rest), first, ?_⟩
    simp only [blanks]
    rfl

theorem readWhole_mapped {α β : Type} {g : α → β} {read : Reader α} {document : List Char} {b : β}
    (h : readWhole (read.mapped g) document = .ok b) :
    ∃ a, readWhole read document = .ok a ∧ b = g a := by
  obtain ⟨rest, first, blanks⟩ := readWhole_eq_ok.mp h
  cases plain : read document with
  | error s =>
    rw [mapped_eq_error plain] at first
    cases first
  | ok p =>
    rw [mapped_eq_ok plain] at first
    cases first
    exact ⟨p.1, readWhole_eq_ok.mpr ⟨_, plain, blanks⟩, rfl⟩

/-- A reader that follows a function gives what the function makes of the value
of a document. -/
theorem readWhole_follows {α : Type} {read : Reader α} {f : Value → Option α}
    (follows : Follows maxDepth read f) {document : List Char} {v : Value}
    (untyped : readWhole (readAsWritten maxDepth) document = .ok v)
    (once : v.Throughout Value.namesOnce) :
    (readWhole read document).toOption = f v.arranged := by
  obtain ⟨rest, first, blanks⟩ := readWhole_eq_ok.mp untyped
  rw [readWhole, toOption_bind, follows first once]
  cases f v.arranged with
  | none => rfl
  | some a =>
    simp only [Option.map_some, Option.bind_some, blanks]
    rfl

/-! ## Answers -/

theorem toOption_result {α : Type} {r : Response} (success : r.isSuccess = true)
    (read : Reader α) :
    (r.result read).toOption = (readWhole read (stripGuard r.body.toList)).toOption := by
  rw [Response.result, if_pos success, decode, String.toList_ofList]
  cases readWhole read (stripGuard r.body.toList) <;> rfl

theorem isSuccess_of_result {α : Type} {r : Response} {read : Reader α} {a : α}
    (h : r.result read = .ok a) : r.isSuccess = true := by
  rw [Response.result] at h
  split at h
  · assumption
  · cases h

/-- The value of an answer is the one written in its body, arranged. -/
theorem written_of_result {r : Response} {v : Value}
    (h : r.result (readValue maxDepth) = .ok v) :
    ∃ w, readWhole (readAsWritten maxDepth) (stripGuard r.body.toList) = .ok w ∧
      v = w.arranged := by
  have whole := toOption_result (isSuccess_of_result h) (readValue maxDepth)
  rw [h] at whole
  have read := toOption_eq_some.mp whole.symm
  rw [readValue_eq] at read
  exact readWhole_mapped read

theorem toOption_result_follows {α : Type} {read : Reader α} {f : Value → Option α}
    (follows : Follows maxDepth read f) {r : Response} {v : Value}
    (untyped : r.result (readValue maxDepth) = .ok v)
    (once : NamesOnce (stripGuard r.body.toList)) : (r.result read).toOption = f v := by
  obtain ⟨w, written, rfl⟩ := written_of_result untyped
  rw [toOption_result (isSuccess_of_result untyped)]
  exact readWhole_follows follows written (once w written)

/-! ## Questions, written again -/

/-- A value with a member that it may lack. -/
def withMissing (name : String) (w : Value) : Value → Value
  | .obj ms => if name ∈ names ms then .obj ms else .obj (insertMember name w ms)
  | v => v

theorem text?_eq_some {v : Value} {s : String} (h : v.text? = some s) : v = .str s := by
  cases v with
  | str s' =>
    cases h
    rfl
  | _ => cases h

theorem int64?_eq_some {v : Value} {n : Int} (h : v.int64? = some n) : v = .int n := by
  cases v with
  | int n' =>
    rw [Value.int64?] at h
    split at h
    · cases h
      rfl
    · cases h
  | _ => cases h

section
variable {ms : Members} {q : Question}

/-- The members that a question is read from. -/
structure Question.ReadFrom (ms : Members) (q : Question) : Prop where
  id : ("id", .str q.id) ∈ ms
  stateData : ("question_state_data", q.stateData) ∈ ms
  languageCode : ("language_code", .str q.languageCode) ∈ ms ∨
    "language_code" ∉ names ms ∧ q.languageCode = ""
  version : ("version", .int q.version) ∈ ms ∨ "version" ∉ names ms ∧ q.version = 0
  extra : q.extra = ms.filter fun m => m.1 ∉ Question.ownNames

/-- A field with something that stands in for it is there or not. -/
theorem elim_eq_some (once : (names ms).Nodup) {α : Type} {name : String} {f : Value → Option α}
    {standIn a : α} (h : (ms.lookup name).elim (some standIn) f = some a) :
    (∃ v, (name, v) ∈ ms ∧ f v = some a) ∨ name ∉ names ms ∧ a = standIn := by
  cases found : ms.lookup name with
  | none =>
    rw [found] at h
    exact .inr ⟨lookup_eq_none_iff_notMem.mp found, (Option.some.inj h).symm⟩
  | some v =>
    rw [found] at h
    exact .inl ⟨v, (lookup_eq_some_iff_mem once).mp found, h⟩

theorem Question.readFrom_of_ofValue? (once : (names ms).Nodup)
    (h : Question.ofValue? (.obj ms) = some q) : Question.ReadFrom ms q := by
  simp only [ofValue?, Option.bind_eq_bind, Option.bind_eq_some_iff] at h
  obtain ⟨v, id, s, text, state, stateData, language, languageCode, n, version, whole⟩ := h
  cases whole
  rw [text?_eq_some text] at id
  refine ⟨(lookup_eq_some_iff_mem once).mp id, (lookup_eq_some_iff_mem once).mp stateData,
    ?_, ?_, rfl⟩
  · rcases elim_eq_some once languageCode with ⟨w, mem, text⟩ | absent
    · rw [text?_eq_some text] at mem
      exact .inl mem
    · exact .inr absent
  · rcases elim_eq_some once version with ⟨w, mem, number⟩ | absent
    · rw [int64?_eq_some number] at mem
      exact .inl mem
    · exact .inr absent

/-- The members that a question is written with. -/
def Question.members (q : Question) : Members :=
  [("id", .str q.id), ("question_state_data", q.stateData),
    ("language_code", .str q.languageCode), ("version", .int q.version)] ++ q.extra

theorem Question.mem_members {m : String × Value} :
    m ∈ q.members ↔ m = ("id", .str q.id) ∨ m = ("question_state_data", q.stateData) ∨
      m = ("language_code", .str q.languageCode) ∨ m = ("version", .int q.version) ∨
        m ∈ q.extra := by
  simp [members]

/-- No other member has the name of a field. -/
theorem Question.names_members_nodup (others : ∀ m ∈ q.extra, m.1 ∉ ownNames)
    (once : (names q.extra).Nodup) : (names q.members).Nodup := by
  have split : names q.members = ownNames ++ names q.extra := rfl
  rw [split, List.nodup_append]
  refine ⟨by decide, once, ?_⟩
  intro own mem name mem' same
  obtain ⟨v, mem'⟩ := mem_names.mp mem'
  exact others _ mem' (same ▸ mem)

/-- A question is written with the members that it was read from, and with
those that were missing. -/
theorem Question.ReadFrom.mem_members_iff (h : ReadFrom ms q) (once : (names ms).Nodup)
    (m : String × Value) :
    m ∈ q.members ↔ (m ∈ ms ∨ m = ("language_code", .str "") ∧ "language_code" ∉ names ms) ∨
      m = ("version", .int 0) ∧ "version" ∉ names ms := by
  obtain ⟨name, w⟩ := m
  rw [Question.mem_members, h.extra, List.mem_filter, decide_eq_true_eq]
  constructor
  · rintro (whole | whole | whole | whole | ⟨mem, -⟩)
    · exact .inl (.inl (whole ▸ h.id))
    · exact .inl (.inl (whole ▸ h.stateData))
    · rcases h.languageCode with mem | ⟨absent, same⟩
      · exact .inl (.inl (whole ▸ mem))
      · exact .inl (.inr ⟨same ▸ whole, absent⟩)
    · rcases h.version with mem | ⟨absent, same⟩
      · exact .inl (.inl (whole ▸ mem))
      · exact .inr ⟨same ▸ whole, absent⟩
    · exact .inl (.inl mem)
  · rintro ((mem | ⟨whole, absent⟩) | ⟨whole, absent⟩)
    · by_cases own : name ∈ ownNames
      -- no name stands twice, so this is the member that the field was read from
      · have named : name ∈ names ms := mem_names.mpr ⟨w, mem⟩
        simp only [ownNames, List.mem_cons, List.not_mem_nil, or_false] at own
        rcases own with rfl | rfl | rfl | rfl
        · exact .inl (by rw [value_unique once mem h.id])
        · exact .inr (.inl (by rw [value_unique once mem h.stateData]))
        · obtain there | ⟨absent, -⟩ := h.languageCode
          · exact .inr (.inr (.inl (by rw [value_unique once mem there])))
          · exact absurd named absent
        · obtain there | ⟨absent, -⟩ := h.version
          · exact .inr (.inr (.inr (.inl (by rw [value_unique once mem there]))))
          · exact absurd named absent
      · exact .inr (.inr (.inr (.inr ⟨mem, own⟩)))
    · obtain there | ⟨-, same⟩ := h.languageCode
      · exact absurd (mem_names.mpr ⟨_, there⟩) absent
      · exact .inr (.inr (.inl (by rw [whole, same])))
    · obtain there | ⟨-, same⟩ := h.version
      · exact absurd (mem_names.mpr ⟨_, there⟩) absent
      · exact .inr (.inr (.inr (.inl (by rw [whole, same]))))

theorem mem_withMissing (ordered : Ascending ms) (name : String) (w : Value) :
    ∃ ms', withMissing name w (.obj ms) = .obj ms' ∧ Ascending ms' ∧
      ∀ m, m ∈ ms' ↔ m ∈ ms ∨ m = (name, w) ∧ name ∉ names ms := by
  rw [withMissing]
  split
  · rename_i there
    exact ⟨ms, rfl, ordered, fun m => by simp [there]⟩
  · rename_i absent
    refine ⟨_, rfl, ascending_insertMember ordered, fun m => ?_⟩
    rw [(insertMember_perm absent).mem_iff, List.mem_cons]
    simp [absent, or_comm]

/-- A question that is written again is the value that it was read from. -/
theorem Question.toValue_arranged {v : Value} (ordered : v.Throughout Value.ordered)
    (h : Question.ofValue? v = some q) :
    q.toValue.arranged =
      withMissing "version" (.int 0) (withMissing "language_code" (.str "") v) := by
  cases v with
  | obj ms =>
    have ascending : Ascending ms := ordered.self
    have from_ := readFrom_of_ofValue? ascending.nodup h
    obtain ⟨ms₁, whole₁, ascending₁, mem₁⟩ :=
      mem_withMissing ascending "language_code" (.str "")
    obtain ⟨ms₂, whole₂, ascending₂, mem₂⟩ := mem_withMissing ascending₁ "version" (.int 0)
    have others : ∀ m ∈ q.extra, m.1 ∉ ownNames := by
      intro m mem
      rw [from_.extra, List.mem_filter, decide_eq_true_eq] at mem
      exact mem.2
    have once : (names q.extra).Nodup := by
      rw [from_.extra]
      exact names_filter_nodup ascending.nodup fun n => n ∉ ownNames
    have same : arrangedMembers q.members = q.members := by
      apply arrangedMembers_eq_self
      intro m mem
      rcases (from_.mem_members_iff ascending.nodup m).mp mem with (mem | ⟨rfl, -⟩) | ⟨rfl, -⟩
      · exact Value.arranged_eq_self (ordered.member mem)
      · rfl
      · rfl
    have sorted := sortMembers_perm (names_members_nodup others once)
    have version : "version" ∉ names ms₁ ↔ "version" ∉ names ms := by
      simp only [mem_names, mem₁]
      simp
    show Value.obj (sortMembers (arrangedMembers q.members)) = _
    rw [whole₁, whole₂, same]
    congr 1
    apply (ascending_sortMembers _).ext ascending₂
    intro m
    rw [sorted.mem_iff, from_.mem_members_iff ascending.nodup, mem₂, mem₁, version]
  | _ => cases h

end

/-! ## What an answer is read as -/

/-- The value that a body can be read as decides for each thing that a caller may
expect whether the body can be read as that, and what comes out. A question that
has been read and is written again is that value, with the members in their
places that it lacked. -/
theorem Http.Response.typed_results {r : Response} {v : Value}
    (untyped : r.result (readValue maxDepth) = .ok v)
    (once : NamesOnce (stripGuard r.body.toList)) :
    (r.result Question.read).toOption = Question.ofValue? v ∧
      (r.result QuestionBatch.read).toOption = QuestionBatch.ofValue? v ∧
      (r.result SkillRights.read).toOption = SkillRights.ofValue? v ∧
      (r.result TopicCreated.read).toOption = TopicCreated.ofValue? v ∧
      ∀ q, Question.ofValue? v = some q → q.toValue.arranged =
        withMissing "version" (.int 0) (withMissing "language_code" (.str "") v) := by
  refine ⟨toOption_result_follows Question.follows untyped once,
    toOption_result_follows QuestionBatch.follows untyped once,
    toOption_result_follows SkillRights.follows untyped once,
    toOption_result_follows TopicCreated.follows untyped once, ?_⟩
  intro q h
  obtain ⟨w, -, rfl⟩ := written_of_result untyped
  exact q.toValue_arranged w.ordered_arranged h

/-- An answer with a prefix, whose members are in no order. -/
def unorderedAnswer : Response :=
  ⟨200, ")]\x7d'\n\x7b\"version\": 2, \"id\": \"q\", \"hint\": [1], \"question_state_data\": \x7b\x7d\x7d"⟩

/-- The value of that answer. -/
def orderedValue : Value :=
  .obj [("hint", .arr [.int 1]), ("id", .str "q"), ("question_state_data", .obj []),
    ("version", .int 2)]

theorem unorderedAnswer_namesOnce : NamesOnce (stripGuard unorderedAnswer.body.toList) := by
  have written : readWhole (readAsWritten maxDepth) (stripGuard unorderedAnswer.body.toList) =
      .ok (.obj [("version", .int 2), ("id", .str "q"), ("hint", .arr [.int 1]),
        ("question_state_data", .obj [])]) := by cbv
  intro v read
  cases written.symm.trans read
  refine throughout_obj (P := Value.namesOnce) (by decide : List.Nodup _) ?_
  intro m mem
  simp only [List.mem_cons, List.not_mem_nil, or_false] at mem
  rcases mem with rfl | rfl | rfl | rfl
  · exact throughout_int trivial
  · exact throughout_str trivial
  · refine throughout_arr (P := Value.namesOnce) trivial fun v mem => ?_
    rw [List.mem_singleton.mp mem]
    exact throughout_int trivial
  · exact throughout_obj (P := Value.namesOnce) List.nodup_nil fun m mem =>
      absurd mem List.not_mem_nil

theorem Http.Response.typed_results_unordered :
    unorderedAnswer.result (readValue maxDepth) = .ok orderedValue ∧
      NamesOnce (stripGuard unorderedAnswer.body.toList) ∧
      (unorderedAnswer.result Question.read).toOption =
        some ⟨"q", .obj [], "", 2, [("hint", .arr [.int 1])]⟩ ∧
      (unorderedAnswer.result SkillRights.read).toOption = none := by
  have untyped : unorderedAnswer.result (readValue maxDepth) = .ok orderedValue := by cbv
  obtain ⟨question, -, rights, -⟩ := typed_results untyped unorderedAnswer_namesOnce
  refine ⟨untyped, unorderedAnswer_namesOnce, question.trans ?_, rights.trans ?_⟩
  · cbv
  · cbv

end LearningClient
