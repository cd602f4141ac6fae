import LearningClient.Json.Printer
import LearningClient.Text.Quoted
import LearningClient.Text.Utf8

/-!
# What can be wrong with a document, and where

A reader that cannot go on says why (`Cause`) and where: it hands out the
part of the document it had not read, and how many octets of that part it
looked at. From these and the whole document follows the position, a line
and a column. Lines count from one. The column is the number of octets of
the line that lie before the place, so it is zero at the start of a line.

`Cause.message` holds the wording of every complaint.
-/

namespace LearningClient.Json

open LearningClient.Text LearningClient.Decimal

/-- A value of the wrong kind, as far as a message shows it. -/
inductive Found
  | null
  | bool (b : Bool)
  | int (n : Int)
  | float (x : Binary64)
  | str (s : List Char)
  | sequence
  | map
deriving DecidableEq, Repr

/-- Why a document cannot be read. -/
inductive Cause
  | endInValue
  | endInString
  | endInList
  | endInObject
  | expectedValue
  | expectedIdentifier
  | expectedColon
  | expectedCommaOrBracket
  | expectedCommaOrBrace
  | keyNotString
  | trailingComma
  | trailingCharacters
  | invalidNumber
  | numberOutOfRange
  | invalidEscape
  | loneSurrogate
  | unfinishedSurrogatePair
  | controlCharacter
  | tooDeep
  | wrongType (found : Found) (expected : String)
  | wrongInteger (n : Int) (expected : String)
  | wrongLength (length : Nat) (expected : String)
  | missingField (name : String)
  | duplicateField (name : String)
deriving DecidableEq, Repr

/-- A name or number between backquotes. -/
def backquoted (cs : List Char) : List Char := '\x60' :: (cs ++ ['\x60'])

/-- A value of the wrong kind in words. -/
def Found.words : Found → List Char
  | .null => "null".toList
  | .bool b => "boolean ".toList ++ backquoted (if b then "true" else "false").toList
  | .int n => "integer ".toList ++ backquoted (intText n)
  | .float x => "floating point ".toList ++ backquoted (floatText x)
  | .str s => "string ".toList ++ quoted s
  | .sequence => "sequence".toList
  | .map => "map".toList

/-- The wording of a cause. -/
def Cause.message : Cause → List Char
  | .endInValue => "EOF while parsing a value".toList
  | .endInString => "EOF while parsing a string".toList
  | .endInList => "EOF while parsing a list".toList
  | .endInObject => "EOF while parsing an object".toList
  | .expectedValue => "expected value".toList
  | .expectedIdentifier => "expected ident".toList
  | .expectedColon => "expected ".toList ++ backquoted [':']
  | .expectedCommaOrBracket =>
    "expected ".toList ++ backquoted [','] ++ " or ".toList ++ backquoted [']']
  | .expectedCommaOrBrace =>
    "expected ".toList ++ backquoted [','] ++ " or ".toList ++ backquoted ['\x7d']
  | .keyNotString => "key must be a string".toList
  | .trailingComma => "trailing comma".toList
  | .trailingCharacters => "trailing characters".toList
  | .invalidNumber => "invalid number".toList
  | .numberOutOfRange => "number out of range".toList
  | .invalidEscape => "invalid escape".toList
  | .loneSurrogate => "lone leading surrogate in hex escape".toList
  | .unfinishedSurrogatePair => "unexpected end of hex escape".toList
  | .controlCharacter =>
    "control character (\\u0000-\\u001F) found while parsing a string".toList
  | .tooDeep => "recursion limit exceeded".toList
  | .wrongType found expected =>
    "invalid type: ".toList ++ found.words ++ ", expected ".toList ++ expected.toList
  | .wrongInteger n expected =>
    "invalid value: integer ".toList ++ backquoted (intText n) ++ ", expected ".toList ++
      expected.toList
  | .wrongLength length expected =>
    "invalid length ".toList ++ natText length ++ ", expected ".toList ++ expected.toList
  | .missingField name => "missing field ".toList ++ backquoted name.toList
  | .duplicateField name => "duplicate field ".toList ++ backquoted name.toList

/-- A place in a document: a line, and the octets of it that lie before the
place. -/
structure Position where
  line : Nat
  column : Nat
deriving DecidableEq, Repr

/-- The place after some octets. -/
def Position.after (octets : List UInt8) : Position where
  line := 1 + octets.count 0x0a
  column := (octets.reverse.takeWhile (· ≠ 0x0a)).length

/-- Where a reader could not go on: what it had not read, and how many
octets of that it had looked at. -/
structure Stop where
  cause : Cause
  rest : List Char
  ahead : Nat
deriving DecidableEq, Repr

/-- A stop after all that has been read. -/
def Stop.here (cause : Cause) (rest : List Char) : Stop := ⟨cause, rest, 0⟩

/-- A stop that counts the next octet, if there is one. -/
def Stop.next (cause : Cause) (rest : List Char) : Stop := ⟨cause, rest, 1⟩

/-- How many octets of a document lie before a stop. -/
def Stop.offset (s : Stop) (document : List Char) : Nat :=
  min (octetCount document) (octetCount document - octetCount s.rest + s.ahead)

/-- A cause with its position in the document. -/
structure Fault where
  cause : Cause
  position : Position
deriving DecidableEq, Repr

/-- What a stop means in a document. -/
def Stop.fault (s : Stop) (document : List Char) : Fault where
  cause := s.cause
  position := .after ((encode document).take (s.offset document))

/-- The wording of a fault. -/
def Fault.message (f : Fault) : String :=
  String.ofList (f.cause.message ++ " at line ".toList ++ natText f.position.line ++
    " column ".toList ++ natText f.position.column)

end LearningClient.Json
