import LearningClient.Text.Digits
import LearningClient.Text.Utf8

/-!
# Form encoding

How names and values travel in the query of an address. Octets that are
letters, digits or one of `*`, `-`, `.`, `_` stand for themselves; any other
octet is a percent sign and two hexadecimal digits in upper case. What
becomes of a space and of a comma depends on the place: in a query a space
is a plus sign and a comma is left alone; in a path segment both are
escaped.

The reader of each writer stands beside it.
-/

namespace LearningClient.Form

open LearningClient.Text

/-- Whether an octet stands for itself. -/
def isLiteral (b : UInt8) : Bool :=
  let c := Char.ofNat b.toNat
  c.isAlphanum || c = '*' || c = '-' || c = '.' || c = '_'

/-- An octet as a percent sign and two digits. -/
def percentOctet (b : UInt8) : List Char :=
  ['%', upperHexDigit (b.toNat / 16), upperHexDigit (b.toNat % 16)]

/-- An octet of a name or value in a query. -/
def queryOctet (b : UInt8) : List Char :=
  if isLiteral b then [Char.ofNat b.toNat]
  else if b = 0x20 then ['+']
  else if b = 0x2c then [',']
  else percentOctet b

/-- An octet of a path segment. -/
def segmentOctet (b : UInt8) : List Char :=
  if isLiteral b then [Char.ofNat b.toNat] else percentOctet b

/-- A name or value of a query. -/
def encodePart (s : String) : List Char := (encode s.toList).flatMap queryOctet

/-- A text that stays one segment of a path: neither a slash nor anything
else that would end it is left in it. -/
def encodeSegment (s : String) : List Char := (encode s.toList).flatMap segmentOctet

/-- A name and its value. -/
def encodePair (p : String × String) : List Char :=
  encodePart p.1 ++ '=' :: encodePart p.2

/-- Names and their values in order, or `none` if there are none. -/
def encodePairs : List (String × String) → Option (List Char)
  | [] => none
  | p :: ps => some (encodePair p ++ ps.flatMap fun q => '&' :: encodePair q)

/-! ## Reading it back -/

/-- The octets of a text in which a percent sign with two hexadecimal
digits stands for the octet they spell, and all else for itself. -/
def percentDecode : List Char → List UInt8
  | [] => []
  | '%' :: a :: b :: rest =>
    match hexValue? a, hexValue? b with
    | some x, some y => UInt8.ofNat (16 * x + y) :: percentDecode rest
    | _, _ => encodeChar '%' ++ percentDecode (a :: b :: rest)
  | c :: rest => encodeChar c ++ percentDecode rest

/-- The text of a name or value of a query. -/
def decodePart (cs : List Char) : String :=
  String.ofList (decodeLossy (percentDecode (cs.map fun c => if c = '+' then ' ' else c)))

/-- Cuts a text at each occurrence of a character. -/
def cut (at_ : Char) (cs : List Char) : List (List Char) := cs.splitOn at_

/-- The name and value of one part of a query: all before and all after the
first equals sign. -/
def decodePair (cs : List Char) : String × String :=
  let name := cs.takeWhile (· ≠ '=')
  (decodePart name, decodePart (cs.drop (name.length + 1)))

/-- The names and values of a query. Parts without any character are
passed over. -/
def decodePairs (cs : List Char) : List (String × String) :=
  ((cut '&' cs).filter (!·.isEmpty)).map decodePair

end LearningClient.Form
