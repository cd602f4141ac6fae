import LearningClient.Failure
import LearningClient.Json.Reader
import LearningClient.Text.Blank

/-!
# Responses

What the backend answered: a status and a body. A body may begin with a
prefix that keeps a browser from running it as a script; one such prefix is
taken off before the body is read.

A status from 200 to 299 is a success, and its body is read as what the
caller expects. Any other status is a failure whose text the backend
chooses: the member `error` of an object, or a text, or else the body as it
is. An answer that says nothing gets a text from its status.
-/

namespace LearningClient.Http

open LearningClient.Text LearningClient.Json

/-- What the backend answered. -/
structure Response where
  status : Nat
  body : String
deriving DecidableEq, Repr

/-- The answer whose body is the compact text of a value. -/
def Response.ofValue (status : Nat) (v : Value) : Response := ⟨status, v.compact⟩

/-- Whether the status is a success. -/
def Response.isSuccess (r : Response) : Bool := 200 ≤ r.status && r.status < 300

/-- The prefix in front of a body that must not run as a script. -/
def guardPrefix : List Char := [')', ']', '\x7d', '\'']

/-- A body without the prefix, taken off once at most. -/
def stripGuard (cs : List Char) : List Char :=
  if guardPrefix.isPrefixOf cs then cs.drop guardPrefix.length else cs

/-- The text of a failure that the backend put into a value. -/
def errorText? : Value → Option String
  | .str s => some s
  | v => (v.member? "error").bind Value.text?

/-- The failure that an answer is. -/
def Response.failure (r : Response) : Failure :=
  let text := trim (stripGuard r.body.toList)
  let message :=
    match Value.ofText (String.ofList text) with
    | .ok v => (errorText? v).getD (String.ofList text)
    | .error _ => String.ofList text
  if message.isEmpty then
    .backend ("Request failed with status " ++ String.ofList (natText r.status)) r.status
  else .backend message r.status

/-- What an answer is read as by a caller that expects a thing. -/
def Response.result {α : Type} (r : Response) (read : Reader α) : Outcome α :=
  if r.isSuccess then
    match decode read (String.ofList (stripGuard r.body.toList)) with
    | .ok v => .ok v
    | .error fault => .error (.invalidData fault.message)
  else .error r.failure

end LearningClient.Http
