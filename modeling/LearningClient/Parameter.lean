import LearningClient.Failure
import LearningClient.Text.Blank
import LearningClient.Text.Digits

/-!
# Rules for parameters

What a caller passes is checked before anything is sent. Each rule looks at
one value and either lets it through or names the breach; the wording, which
names the parameter too, is in one place. A service checks its rules in a
fixed order and reports the first breach.
-/

namespace LearningClient

open LearningClient.Text

/-- What a parameter can have wrong. -/
inductive Breach
  | missing
  | relativePath
  | notNumberList
  | notNumber
  | notPositive
deriving DecidableEq, Repr

/-- The wording of a breach by a parameter. -/
def Breach.message (parameter : String) : Breach → String
  | .missing => parameter ++ " value is expected but is missing"
  | .relativePath => parameter ++ " should not be a relative path"
  | .notNumberList => parameter ++ " should be comma separated numbers"
  | .notNumber => parameter ++ " has to be a number"
  | .notPositive => parameter ++ " has to be positive"

namespace Parameter

/-- A value with at least one character. Blanks are characters. -/
def present (value : String) : Except Breach String :=
  if value.isEmpty then .error .missing else .ok value

/-- A value that names a place of its own in a path. -/
def pathSegment (value : String) : Except Breach Unit :=
  if value = "." || value = ".." then .error .relativePath else .ok ()

/-- Runs of digits with single commas between them. -/
def isNumberList (cs : List Char) : Bool :=
  (cs.splitOn ',').all fun item => !item.isEmpty && item.all Char.isDigit

/-- A value of runs of digits with single commas between them. -/
def numberList (value : String) : Except Breach Unit :=
  if isNumberList value.toList then .ok () else .error .notNumberList

/-- A whole number of 64 bits, with blanks around it. -/
def number (value : String) : Except Breach Int :=
  match readInt64? (trim value.toList) with
  | some n => .ok n
  | none => .error .notNumber

/-- A number above zero. -/
def positive (n : Int) : Except Breach Nat :=
  if n ≤ 0 then .error .notPositive else .ok n.toNat

/-- What a rule says about a parameter, in the words a caller sees. -/
def check {α : Type} (parameter : String) (r : Except Breach α) : Outcome α :=
  r.mapError fun b => .validation (b.message parameter)

end Parameter

end LearningClient
