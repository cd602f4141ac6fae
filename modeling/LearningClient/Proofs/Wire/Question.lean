import LearningClient.Client.Basic
import LearningClient.Proofs.Json.Text

/-!
# Pages that carry any cursor

A page can carry any text as its cursor, and is read back with it
(`received_cursor`): whatever characters the text has, writing escapes what
has to be escaped, and reading undoes it. Here the pages have no questions.
-/

namespace LearningClient

open LearningClient.Http LearningClient.Json

/-- The answer with a page that has no questions. -/
def Http.Response.ofCursor (next : Option String) : Response :=
  .ofValue 200 (QuestionBatch.toValue ⟨[], next⟩)

/-- What comes after the opening brace of such a page with a cursor. -/
def cursorMembers (next : String) : List Char :=
  stringText "question_dicts" ++ ':' :: '[' :: ']' :: ',' ::
    (stringText "next_start_cursor" ++ ':' :: (stringText next ++ ['\x7d']))

theorem write_cursor (next : String) :
    (QuestionBatch.toValue ⟨[], some next⟩).write .compact 0 = '\x7b' :: cursorMembers next := by
  simp only [QuestionBatch.toValue, Question.listValue, Option.map_some, Option.getD_some,
    Value.write, writeMembers, Style.newline, Style.colon, cursorMembers, List.map_nil,
    List.append_assoc, List.nil_append, List.cons_append]

theorem field_questions (cs : List Char) :
    QuestionBatch.record.field 126 ⟨none, none⟩ "question_dicts" (':' :: '[' :: ']' :: cs) =
      .ok (⟨some [], none⟩, cs) := rfl

theorem field_cursor (next : String) (cs : List Char) :
    QuestionBatch.record.field 126 ⟨some [], none⟩ "next_start_cursor"
      (':' :: (stringText next ++ cs)) = .ok (⟨some [], some (some next)⟩, cs) := by
  have colon : readColon (':' :: (stringText next ++ cs)) = .ok (stringText next ++ cs) := rfl
  have field : readField "next_start_cursor" (none : Option (Option String)) readTextOrNull
      (':' :: (stringText next ++ cs)) = .ok (some next, cs) := by
    simp only [readField, colon, bind, Except.bind, readTextOrNull_stringText]
  show (readField "next_start_cursor" none readTextOrNull (':' :: (stringText next ++ cs))).bind
    (fun p => .ok ((⟨some [], some p.1⟩ : QuestionBatch.Fields), p.2)) = _
  rw [field]
  rfl

theorem manyMembers_cursor (next : String) :
    manyMembers (QuestionBatch.record.field 126) ⟨none, none⟩ (cursorMembers next) =
      .ok (⟨some [], some (some next)⟩, ['\x7d']) := by
  -- two members and the brace take three rounds
  have long : 2 ≤ (cursorMembers next).length := by
    simp only [cursorMembers, List.length_append, List.length_cons]
    omega
  obtain ⟨rounds, enough⟩ : ∃ rounds, (cursorMembers next).length + 1 = rounds + 3 :=
    ⟨(cursorMembers next).length - 2, by omega⟩
  rw [manyMembers, enough, cursorMembers, membersLoop_first]
  simp only [field_questions, bind, Except.bind]
  rw [membersLoop_next]
  simp only [field_cursor, bind, Except.bind]
  rw [membersLoop_close]

theorem readWhole_cursor (next : String) :
    readWhole QuestionBatch.read ('\x7b' :: cursorMembers next) = .ok ⟨[], some next⟩ := by
  have blanks : skipBlanks ('\x7b' :: cursorMembers next) = '\x7b' :: cursorMembers next := rfl
  have page : QuestionBatch.record.read 127 ('\x7b' :: cursorMembers next) =
      .ok (⟨[], some next⟩, []) := by
    simp only [Record.read, blanks]
    have start : QuestionBatch.record.start = ⟨none, none⟩ := rfl
    rw [start, manyMembers_cursor]
    rfl
  have page : QuestionBatch.read ('\x7b' :: cursorMembers next) = .ok (⟨[], some next⟩, []) := page
  rw [readWhole, page]
  rfl

/-- An answer that is a success says what its body is read as. -/
theorem received_of_decoded {α : Type} {r : Response} {read : Reader α} {v : α}
    (success : r.isSuccess = true)
    (decoded : decode read (String.ofList (stripGuard r.body.toList)) = .ok v) :
    received (.ok r) read = .ok v := by
  show r.result read = _
  rw [Response.result, if_pos success, decoded]

/-- A page with a cursor is read back with it. -/
theorem received_cursor (next : String) :
    received (.ok (.ofCursor (some next))) QuestionBatch.read = .ok ⟨[], some next⟩ := by
  have body : (Response.ofCursor (some next)).body.toList = '\x7b' :: cursorMembers next := by
    rw [← write_cursor]
    exact String.toList_ofList ..
  have guard : stripGuard ('\x7b' :: cursorMembers next) = '\x7b' :: cursorMembers next := rfl
  refine received_of_decoded rfl ?_
  rw [body, guard, decode, String.toList_ofList, readWhole_cursor]
  rfl

/-- Also the last page is read back. -/
theorem received_no_cursor :
    received (.ok (.ofCursor none)) QuestionBatch.read = .ok ⟨[], none⟩ := rfl

end LearningClient
