/-!
# How a call can fail

Every call of the client answers with a result or with a `Failure`. Its
constructor is the kind of failure, and it carries the text that a person is
shown. Two kinds are introduced by a phrase of their own; the other texts
are shown as they are.
-/

namespace LearningClient

/-- The failure of a call. -/
inductive Failure
  /-- A parameter breaks a rule. Nothing has been sent. -/
  | validation (text : String)
  /-- The backend answered with a status that is no success. -/
  | backend (text : String) (status : Nat)
  /-- The request or its answer did not get through. -/
  | transport (text : String)
  /-- The answer is a success that cannot be read. -/
  | invalidData (text : String)
  /-- The configuration cannot be read. -/
  | config (text : String)
  /-- Anything else. -/
  | other (text : String)
deriving DecidableEq, Repr

/-- What a person is shown. -/
def Failure.message : Failure → String
  | .validation text => text
  | .backend text _ => text
  | .transport text => text
  | .invalidData text => "Invalid response data: " ++ text
  | .config text => "Invalid config: " ++ text
  | .other text => text

/-- The status of the backend's answer, if that is what failed. -/
def Failure.status? : Failure → Option Nat
  | .backend _ status => some status
  | _ => none

/-- A result, or why there is none. -/
abbrev Outcome (α : Type) := Except Failure α

end LearningClient
