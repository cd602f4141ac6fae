import LearningClient.Proofs.Json.RoundTrip
import LearningClient.Proofs.Wire.Decoding

/-!
# Answers that are read back

What the answers of the backend mean can be written as their bodies, and is read
back from them (`Http.Response.result_written`): in either style, with the
prefix in front or without it, under any status that is a success. For this the
value that is written must hold what was written (`Question.ofValue?_toValue` and
its like), and its text must be read as that value, which is a matter of texts
and numbers and not of answers.

The members of objects are read in ascending order. So a question is read back
as it was if its members were in that order, and otherwise with its members in
that order (`Question.arranged`).
-/

namespace LearningClient

open LearningClient.Text LearningClient.Json LearningClient.Http

/-! ## Bodies that are written -/

/-- The answer whose body is the text of a value in a style, with the prefix in
front of it or without. -/
def Http.Response.written (status : Nat) (guarded : Bool) (st : Style) (v : Value) : Response :=
  ⟨status, String.ofList ((if guarded then guardPrefix else []) ++ v.write st 0)⟩

theorem stripGuard_guarded (cs : List Char) : stripGuard (guardPrefix ++ cs) = cs := by
  rw [stripGuard, if_pos (List.isPrefixOf_iff_prefix.mpr (List.prefix_append ..)), List.drop_left]

theorem stripGuard_cons {c : Char} (other : c ≠ ')') (cs : List Char) :
    stripGuard (c :: cs) = c :: cs := by
  have apart : guardPrefix.isPrefixOf (c :: cs) = false := by
    rw [guardPrefix, List.isPrefixOf, beq_eq_false_iff_ne.mpr (Ne.symm other), Bool.false_and]
  rw [stripGuard, apart]
  rfl

/-- What is written of a value does not begin like the prefix. -/
theorem stripGuard_written (status : Nat) (guarded : Bool) (st : Style) {v : Value}
    (whole : v.whole) :
    stripGuard (Response.written status guarded st v).body.toList = v.write st 0 := by
  rw [Response.written, String.toList_ofList]
  cases guarded with
  | true => exact stripGuard_guarded _
  | false =>
    obtain ⟨c, t, front, -, -, other⟩ := write_front whole st 0
    show stripGuard (v.write st 0) = _
    rw [front]
    exact stripGuard_cons other t

theorem readWhole_write {v : Value} (whole : v.Throughout Value.whole) (fits : v.depth ≤ maxDepth)
    (st : Style) : readWhole (readAsWritten maxDepth) (v.write st 0) = .ok v := by
  have back := readsBack_readAsWritten whole st 0 fits [] [] nofun delimited_nil
  rw [List.nil_append, List.append_nil] at back
  exact readWhole_eq_ok.mpr ⟨[], back, rfl⟩

/-- A value that holds a thing is read as that thing where it is written. -/
theorem result_of_holds {α : Type} {read : Reader α} {f : Value → Option α}
    (follows : Follows maxDepth read f) {v : Value} (once : v.Throughout Value.namesOnce)
    (whole : v.Throughout Value.whole) (fits : v.depth ≤ maxDepth) {a : α}
    (holds : f v.arranged = some a) {status : Nat} (success : 200 ≤ status ∧ status < 300)
    (guarded : Bool) (st : Style) :
    (Response.written status guarded st v).result read = .ok a := by
  have ok : (Response.written status guarded st v).isSuccess = true := by
    simp [Response.isSuccess, Response.written, success]
  rw [← toOption_eq_some, toOption_result ok, stripGuard_written _ _ _ whole.self,
    readWhole_follows follows (readWhole_write whole fits st) once, holds]

/-! ## What is written holds what was written -/

theorem SkillRights.ofValue?_toValue (r : SkillRights) :
    ofValue? r.toValue.arranged = some r := rfl

theorem TopicCreated.ofValue?_toValue (t : TopicCreated) :
    ofValue? t.toValue.arranged = some t := rfl

/-- A question with all members inside it in ascending order. -/
def Question.arranged (q : Question) : Question :=
  { q with stateData := q.stateData.arranged, extra := sortMembers (arrangedMembers q.extra) }

/-- A question as the program can hold it: its version has 64 bits, its other
members do not have the names of fields, and all members go by their names. -/
structure Question.Sound (q : Question) : Prop where
  version : isInt64 q.version = true
  others : ∀ m ∈ q.extra, m.1 ∉ Question.ownNames
  state : q.stateData.Throughout Value.namesOnce
  extra : (Value.obj q.extra).Throughout Value.namesOnce

/-- The numbers in the untyped parts of a question are whole. -/
structure Question.Whole (q : Question) : Prop where
  state : q.stateData.Throughout Value.whole
  extra : (Value.obj q.extra).Throughout Value.whole

/-- The members in the untyped parts of a question are in ascending order. -/
structure Question.InOrder (q : Question) : Prop where
  state : q.stateData.Throughout Value.ordered
  extra : (Value.obj q.extra).Throughout Value.ordered

section
variable {q : Question}

theorem Question.InOrder.arranged_eq (h : q.InOrder) : q.arranged = q := by
  have extra := Value.arranged_eq_self h.extra
  rw [Value.arranged, Value.obj.injEq] at extra
  rw [Question.arranged, Value.arranged_eq_self h.state, extra]

/-- What holds of the parts of a question holds throughout it. -/
theorem Question.throughout_toValue {P : Value → Prop} (own : P q.toValue)
    (str : ∀ s, P (.str s)) (int : P (.int q.version)) (state : q.stateData.Throughout P)
    (extra : ∀ m ∈ q.extra, m.2.Throughout P) : q.toValue.Throughout P := by
  refine throughout_obj own fun m mem => ?_
  rcases mem_members.mp mem with rfl | rfl | rfl | rfl | mem
  · exact throughout_str (str _)
  · exact state
  · exact throughout_str (str _)
  · exact throughout_int int
  · exact extra m mem

theorem Question.Sound.once (h : q.Sound) : q.toValue.Throughout Value.namesOnce :=
  throughout_toValue (names_members_nodup h.others h.extra.self) (fun _ => trivial) trivial h.state
    fun _ mem => h.extra.member mem

theorem Question.Sound.whole (h : q.Sound) (numbers : q.Whole) :
    q.toValue.Throughout Value.whole := by
  have version := h.version
  rw [isInt64, Bool.and_eq_true, decide_eq_true_eq, decide_eq_true_eq, int64Max] at version
  refine throughout_toValue trivial (fun _ => trivial) ⟨version.1, ?_⟩ numbers.state
    fun _ mem => numbers.extra.member mem
  have high := version.2
  rw [uint64Max]
  omega

/-- Only the members that are no fields are left over. -/
theorem Question.filter_members (others : ∀ m ∈ q.extra, m.1 ∉ ownNames) :
    ((arrangedMembers q.members).filter fun m => m.1 ∉ ownNames) = arrangedMembers q.extra := by
  have kept : ((arrangedMembers q.extra).filter fun m => m.1 ∉ ownNames) =
      arrangedMembers q.extra := by
    rw [List.filter_eq_self, arrangedMembers_eq_map]
    intro m mem
    obtain ⟨m', own, rfl⟩ := List.mem_map.mp mem
    exact decide_eq_true (others m' own)
  exact kept

theorem Question.ofValue?_toValue (h : q.Sound) :
    ofValue? q.toValue.arranged = some q.arranged := by
  have nodup : (names (arrangedMembers q.members)).Nodup := by
    rw [names_arrangedMembers]
    exact h.once.self
  have extra := sortMembers_filter nodup fun n => n ∉ ownNames
  have version : (Value.int q.version).int64? = some q.version := if_pos h.version
  rw [filter_members h.others] at extra
  show ofValue? (.obj (sortMembers (arrangedMembers q.members))) = _
  rw [ofValue?, ← extra]
  simp only [lookup_sortMembers nodup, lookup_arrangedMembers]
  show (Value.int q.version).int64?.bind _ = _
  rw [version]
  rfl

end

/-! ## Pages -/

/-- A page with all members inside its questions in ascending order. -/
def QuestionBatch.arranged (b : QuestionBatch) : QuestionBatch :=
  { b with questions := b.questions.map Question.arranged }

section
variable {b : QuestionBatch}

theorem QuestionBatch.arranged_eq (h : ∀ q ∈ b.questions, q.InOrder) : b.arranged = b := by
  have questions : b.questions.map Question.arranged = b.questions := by
    conv_rhs => rw [← List.map_id b.questions]
    exact List.map_congr_left fun q mem => (h q mem).arranged_eq
  rw [arranged, questions]

theorem QuestionBatch.throughout_toValue {P : Value → Prop} (own : P b.toValue)
    (list : P (Question.listValue b.questions)) (str : ∀ s, P (.str s)) (null : P .null)
    (questions : ∀ q ∈ b.questions, q.toValue.Throughout P) : b.toValue.Throughout P := by
  refine throughout_obj own fun m mem => ?_
  simp only [List.mem_cons, List.not_mem_nil, or_false] at mem
  rcases mem with rfl | rfl
  · refine throughout_arr list fun v mem => ?_
    obtain ⟨q, own, rfl⟩ := List.mem_map.mp mem
    exact questions q own
  · show ((b.nextCursor.map Value.str).getD .null).Throughout P
    cases b.nextCursor with
    | none => exact throughout_null null
    | some s => exact throughout_str (str s)

theorem items?_listValue {qs : List Question} (h : ∀ q ∈ qs, q.Sound) :
    (arrangedItems (qs.map Question.toValue)).mapM Question.ofValue? =
      some (qs.map Question.arranged) := by
  induction qs with
  | nil => rfl
  | cons q qs ih =>
    obtain ⟨sound, others⟩ := List.forall_mem_cons.mp h
    rw [List.map_cons, arrangedItems, List.mapM_cons, Question.ofValue?_toValue sound, ih others]
    rfl

theorem QuestionBatch.ofValue?_toValue (h : ∀ q ∈ b.questions, q.Sound) :
    ofValue? b.toValue.arranged = some b.arranged := by
  have questions := items?_listValue h
  have nodup : (names (arrangedMembers [("question_dicts", Question.listValue b.questions),
      ("next_start_cursor", (b.nextCursor.map Value.str).getD .null)])).Nodup := by
    rw [names_arrangedMembers]
    exact (by decide : ["question_dicts", "next_start_cursor"].Nodup)
  rw [toValue, Value.arranged, ofValue?, lookup_sortMembers nodup, lookup_sortMembers nodup,
    lookup_arrangedMembers, lookup_arrangedMembers]
  show ((arrangedItems (b.questions.map Question.toValue)).mapM Question.ofValue?).bind _ = _
  rw [questions, arranged]
  cases b.nextCursor <;> rfl

theorem QuestionBatch.once (h : ∀ q ∈ b.questions, q.Sound) :
    b.toValue.Throughout Value.namesOnce :=
  throughout_toValue (by decide : ["question_dicts", "next_start_cursor"].Nodup) trivial
    (fun _ => trivial) trivial fun q mem => (h q mem).once

theorem QuestionBatch.whole (h : ∀ q ∈ b.questions, q.Sound)
    (numbers : ∀ q ∈ b.questions, q.Whole) : b.toValue.Throughout Value.whole :=
  throughout_toValue trivial trivial (fun _ => trivial) trivial
    fun q mem => (h q mem).whole (numbers q mem)

end

/-! ## What is written is read back -/

theorem SkillRights.throughout_toValue {P : Value → Prop} {r : SkillRights} (own : P r.toValue)
    (str : ∀ s, P (.str s)) (bool : ∀ b, P (.bool b)) : r.toValue.Throughout P := by
  refine throughout_obj own fun m mem => ?_
  simp only [List.mem_cons, List.not_mem_nil, or_false] at mem
  rcases mem with rfl | rfl
  · exact throughout_str (str _)
  · exact throughout_bool (bool _)

theorem SkillRights.depth_toValue (r : SkillRights) : r.toValue.depth = 1 := by
  simp [toValue, Value.depth]

theorem TopicCreated.throughout_toValue {P : Value → Prop} {t : TopicCreated} (own : P t.toValue)
    (str : ∀ s, P (.str s)) : t.toValue.Throughout P := by
  refine throughout_obj own fun m mem => ?_
  rw [List.mem_singleton.mp mem]
  exact throughout_str (str _)

theorem TopicCreated.depth_toValue (t : TopicCreated) : t.toValue.depth = 1 := by
  simp [toValue, Value.depth]

/-- Rights, topics, questions and pages are read back from what is written of them. -/
theorem Http.Response.result_written {status : Nat} (success : 200 ≤ status ∧ status < 300)
    (guarded : Bool) (st : Style) :
    (∀ r : SkillRights, (written status guarded st r.toValue).result SkillRights.read = .ok r) ∧
      (∀ t : TopicCreated,
        (written status guarded st t.toValue).result TopicCreated.read = .ok t) ∧
      (∀ q : Question, q.Sound → q.Whole → q.toValue.depth ≤ maxDepth →
        (written status guarded st q.toValue).result Question.read = .ok q.arranged ∧
          (q.InOrder → q.arranged = q)) ∧
      ∀ b : QuestionBatch, (∀ q ∈ b.questions, q.Sound) → (∀ q ∈ b.questions, q.Whole) →
        b.toValue.depth ≤ maxDepth →
        (written status guarded st b.toValue).result QuestionBatch.read = .ok b.arranged ∧
          ((∀ q ∈ b.questions, q.InOrder) → b.arranged = b) := by
  refine ⟨fun r => ?_, fun t => ?_, fun q sound whole fits => ⟨?_, (·.arranged_eq)⟩,
    fun b sound whole fits => ⟨?_, b.arranged_eq⟩⟩
  · refine result_of_holds SkillRights.follows ?_ ?_ ?_ r.ofValue?_toValue success guarded st
    · exact SkillRights.throughout_toValue
        (by decide : ["skill_id", "can_edit_skill_description"].Nodup) (fun _ => trivial)
        (fun _ => trivial)
    · exact SkillRights.throughout_toValue trivial (fun _ => trivial) (fun _ => trivial)
    · rw [r.depth_toValue]
      decide
  · refine result_of_holds TopicCreated.follows ?_ ?_ ?_ t.ofValue?_toValue success guarded st
    · exact TopicCreated.throughout_toValue (by decide : ["topicId"].Nodup) (fun _ => trivial)
    · exact TopicCreated.throughout_toValue trivial (fun _ => trivial)
    · rw [t.depth_toValue]
      decide
  · exact result_of_holds Question.follows sound.once (sound.whole whole) fits
      (q.ofValue?_toValue sound) success guarded st
  · exact result_of_holds QuestionBatch.follows (b.once sound) (b.whole sound whole)
      fits (b.ofValue?_toValue sound) success guarded st

/-- A question with the least version, the largest number and members that have to
be escaped. -/
def extremeQuestion : Question :=
  ⟨"\"\\\n", .arr [.int 0xffffffffffffffff], "", -0x8000000000000000, [("\t", .null)]⟩

theorem extremeQuestion_sound : extremeQuestion.Sound where
  version := by decide
  others := by
    intro m mem
    rw [List.mem_singleton.mp mem]
    decide
  state := by
    refine throughout_arr trivial fun v mem => ?_
    rw [List.mem_singleton.mp mem]
    exact throughout_int trivial
  extra := by
    refine throughout_obj (by decide : ["\t"].Nodup) fun m mem => ?_
    rw [List.mem_singleton.mp mem]
    exact throughout_null trivial

theorem extremeQuestion_whole : extremeQuestion.Whole where
  state := by
    refine throughout_arr trivial fun v mem => ?_
    rw [List.mem_singleton.mp mem]
    exact throughout_int (by decide : _ ∧ _)
  extra := by
    refine throughout_obj trivial fun m mem => ?_
    rw [List.mem_singleton.mp mem]
    exact throughout_null trivial

theorem Http.Response.result_written_extreme :
    (200 ≤ 299 ∧ 299 < 300) ∧ extremeQuestion.Sound ∧ extremeQuestion.Whole ∧
      extremeQuestion.toValue.depth ≤ maxDepth ∧
      (written 299 true .pretty extremeQuestion.toValue).result Question.read =
        .ok extremeQuestion := by
  have success : 200 ≤ 299 ∧ 299 < 300 := by decide
  have fits : extremeQuestion.toValue.depth ≤ maxDepth := by
    simp [extremeQuestion, Question.toValue, Value.depth, maxDepth]
  obtain ⟨-, -, question, -⟩ := result_written success true .pretty
  exact ⟨success, extremeQuestion_sound, extremeQuestion_whole, fits,
    (question extremeQuestion extremeQuestion_sound extremeQuestion_whole fits).1⟩

end LearningClient
