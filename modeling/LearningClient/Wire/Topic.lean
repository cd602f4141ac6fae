import LearningClient.Wire.SkillRights

/-!
# Topics

What the backend says about a topic that it has created: the name by which
it is known from now on. The field may be spelled in either of two ways, but
it stands once.
-/

namespace LearningClient

open LearningClient.Json

/-- A topic that has been created. -/
structure TopicCreated where
  topicId : String
deriving DecidableEq, Repr

/-- How the answer to the creation of a topic is read. -/
def TopicCreated.record : Record (Option String) TopicCreated where
  expected := "struct TopicCreated"
  start := none
  field := fun _ s name cs =>
    if name = "topicId" ∨ name = "topic_id" then do
      let (v, rest) ← readField "topicId" s readText cs
      return (some v, rest)
    else skipField s cs
  finish := fun s => do return ⟨← required "topicId" s⟩
  items := some fun _ cs => do
    let (topicId, cs) ← readNthItem 0 "struct TopicCreated with 1 element" none readText cs
    return (⟨topicId⟩, cs)

/-- Reads the answer to the creation of a topic from a document. -/
def TopicCreated.read : Reader TopicCreated := TopicCreated.record.read maxDepth

/-- A created topic as a value. -/
def TopicCreated.toValue (t : TopicCreated) : Value := .obj [("topicId", .str t.topicId)]

end LearningClient
