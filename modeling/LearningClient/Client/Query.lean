import LearningClient.Http.Request
import LearningClient.Parameter

/-!
# What is asked of the backend

The parameters of each request, once they have passed their rules, and the
request they become: a page of questions for some skills, the rights on a
skill, a topic to be created, and the token for the latter.
-/

namespace LearningClient

open LearningClient.Http LearningClient.Text

/-- A page of questions: for which skills, how many, and where it starts.
The empty cursor is the first page. -/
structure QuestionQuery where
  skillIds : String
  count : Nat
  startCursor : String := ""
deriving DecidableEq, Repr

namespace QuestionQuery

/-- The first page for some skills. -/
def ofTexts (skillIds count : String) : Outcome QuestionQuery := do
  let skillIds ← Parameter.check "Skill ids" (Parameter.present skillIds)
  Parameter.check "Skill ids" (Parameter.numberList skillIds)
  let count ← Parameter.check "Question count" (Parameter.present count)
  let count ← Parameter.check "Question count" (Parameter.number count)
  let count ← Parameter.check "Question count" (Parameter.positive count)
  return { skillIds, count }

/-- The page that starts at a cursor. -/
def startingAt (q : QuestionQuery) (cursor : String) : QuestionQuery :=
  { q with startCursor := cursor }

/-- The number of questions in decimal. -/
def countText (q : QuestionQuery) : String := String.ofList (natText q.count)

/-- The request for the page. The cursor is sent even if it is empty. -/
def request (q : QuestionQuery) : Request :=
  (((Request.get "/question_player_handler").withQuery "skill_ids" q.skillIds).withQuery
    "question_count" q.countText).withQuery "start_cursor" q.startCursor

/-- The name under which the page is remembered. -/
def cacheKey (q : QuestionQuery) : String :=
  q.skillIds ++ "|" ++ q.countText ++ "|" ++ q.startCursor

end QuestionQuery

/-- The name of a skill that can be put into a path. -/
def checkSkillId (skillId : String) : Outcome String := do
  let skillId ← Parameter.check "Skill id" (Parameter.present skillId)
  Parameter.check "Skill id" (Parameter.pathSegment skillId)
  return skillId

/-- The request for the rights on a skill. -/
def rightsRequest (skillId : String) : Request :=
  Request.get ("/skill_editor_handler/rights/" ++ String.ofList (Form.encodeSegment skillId))

/-- A topic to be created. -/
structure TopicDraft where
  name : String
  abbreviatedName : String
deriving DecidableEq, Repr

namespace TopicDraft

/-- The topic with two names, both of which have to be there. -/
def ofTexts (name abbreviatedName : String) : Outcome TopicDraft := do
  let name ← Parameter.check "Topic name" (Parameter.present name)
  let abbreviatedName ← Parameter.check "Abbreviated name" (Parameter.present abbreviatedName)
  return { name, abbreviatedName }

/-- The topic as a value. -/
def toValue (t : TopicDraft) : Json.Value :=
  .obj [("abbreviated_name", .str t.abbreviatedName), ("name", .str t.name)]

/-- The request that creates the topic, with its token. -/
def request (t : TopicDraft) (token : String) : Request :=
  (Request.post "/topic_editor_handler/create_new" t.toValue).withToken token

end TopicDraft

/-- The request for a token. -/
def tokenRequest : Request := Request.get "/csrfhandler"

end LearningClient
