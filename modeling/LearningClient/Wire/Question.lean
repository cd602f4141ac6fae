import LearningClient.Wire.SkillRights

/-!
# Questions

A page of questions, as the backend serves it to a quiz. Of a question only
the envelope is known here: its name, its state as any value, the code of
its language and its version. Whatever other members it has are kept, in
ascending order of their names; of members of one name the last one counts.
A page also says where the next one starts, if there is a next one.
-/

namespace LearningClient

open LearningClient.Json

/-- A question. -/
structure Question where
  id : String
  stateData : Value
  languageCode : String
  version : Int
  extra : Members
deriving Repr

/-- The fields read so far. -/
structure Question.Fields where
  id : Option String
  stateData : Option Value
  languageCode : Option String
  version : Option Int
  extra : Members

/-- How a question is read. It has no order of fields, so it is not read
from an array. -/
def Question.record : Record Question.Fields Question where
  expected := "struct QuestionDict"
  start := ⟨none, none, none, none, []⟩
  field := fun depth s name cs =>
    if name = "id" then do
      let (v, rest) ← readField name s.id readText cs
      return ({ s with id := some v }, rest)
    else if name = "question_state_data" then do
      let (v, rest) ← readField name s.stateData (readValue depth) cs
      return ({ s with stateData := some v }, rest)
    else if name = "language_code" then do
      let (v, rest) ← readField name s.languageCode readText cs
      return ({ s with languageCode := some v }, rest)
    else if name = "version" then do
      let (v, rest) ← readField name s.version readInt64 cs
      return ({ s with version := some v }, rest)
    else do
      let (extra, rest) ← readMember (readValue depth) s.extra name cs
      return ({ s with extra }, rest)
  finish := fun s => do
    let id ← required "id" s.id
    let stateData ← required "question_state_data" s.stateData
    return { id, stateData, languageCode := s.languageCode.getD "", version := s.version.getD 0,
             extra := s.extra }
  items := none

/-- Reads a question from a document. -/
def Question.read : Reader Question := Question.record.read maxDepth

/-- A question as a value: its own fields first, then the others. -/
def Question.toValue (q : Question) : Value :=
  .obj ([("id", .str q.id), ("question_state_data", q.stateData),
    ("language_code", .str q.languageCode), ("version", .int q.version)] ++ q.extra)

/-- A page of questions. -/
structure QuestionBatch where
  questions : List Question
  nextCursor : Option String
deriving Repr

/-- The fields read so far. -/
structure QuestionBatch.Fields where
  questions : Option (List Question)
  nextCursor : Option (Option String)

/-- How a page of questions is read. -/
def QuestionBatch.record : Record QuestionBatch.Fields QuestionBatch where
  expected := "struct QuestionBatch"
  start := ⟨none, none⟩
  field := fun depth s name cs =>
    if name = "question_dicts" then do
      let (v, rest) ← readField name s.questions (readList depth Question.record.read) cs
      return ({ s with questions := some v }, rest)
    else if name = "next_start_cursor" then do
      let (v, rest) ← readField name s.nextCursor readTextOrNull cs
      return ({ s with nextCursor := some v }, rest)
    else skipField s cs
  finish := fun s => do
    let questions ← required "question_dicts" s.questions
    return { questions, nextCursor := s.nextCursor.getD none }
  items := some fun depth cs => do
    let whole := "struct QuestionBatch with 2 elements"
    let (questions, cs) ← readNthItem 0 whole none (readList depth Question.record.read) cs
    let (nextCursor, cs) ← readNthItem 1 whole (some none) readTextOrNull cs
    return ({ questions, nextCursor }, cs)

/-- Reads a page of questions from a document. -/
def QuestionBatch.read : Reader QuestionBatch := QuestionBatch.record.read maxDepth

/-- Questions as an array. -/
def Question.listValue (qs : List Question) : Value := .arr (qs.map Question.toValue)

/-- A page of questions as a value. -/
def QuestionBatch.toValue (b : QuestionBatch) : Value :=
  .obj [("question_dicts", Question.listValue b.questions),
    ("next_start_cursor", (b.nextCursor.map Value.str).getD .null)]

end LearningClient
