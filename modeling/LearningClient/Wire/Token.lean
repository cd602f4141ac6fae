import LearningClient.Wire.SkillRights

/-!
# The answer that carries a token

The backend hands out the token for requests that change something in a
record with one field.
-/

namespace LearningClient

open LearningClient.Json

/-- How the answer that carries a token is read. -/
def tokenRecord : Record (Option String) String where
  expected := "struct CsrfTokenResponse"
  start := none
  field := fun _ s name cs =>
    if name = "token" then do
      let (v, rest) ← readField name s readText cs
      return (some v, rest)
    else skipField s cs
  finish := fun s => required "token" s
  items := some fun _ cs => readNthItem 0 "struct CsrfTokenResponse with 1 element" none readText cs

/-- Reads the token from a document. -/
def readToken : Reader String := tokenRecord.read maxDepth

end LearningClient
