/-!
# Numbers in text

Whole numbers as runs of the ten ASCII digits, with a sign where one is
allowed. Reading takes any number of leading zeros; writing never produces
one. A range, where there is one, is checked after the value is known, so
the length of the run of digits never matters.
-/

namespace LearningClient.Text

/-- The largest unsigned 64-bit number. -/
def uint64Max : Nat := 0xffffffffffffffff

/-- The largest signed 64-bit number. -/
def int64Max : Int := 0x7fffffffffffffff

/-- The smallest signed 64-bit number. -/
def int64Min : Int := -0x8000000000000000

/-- What one digit stands for. -/
def digitValue (c : Char) : Nat := c.toNat - '0'.toNat

/-- The number a run of digits stands for, most significant first. -/
def ofDigits (cs : List Char) : Nat :=
  cs.foldl (fun n c => 10 * n + digitValue c) 0

/-- The decimal digits of a number, without leading zeros. -/
def natText (n : Nat) : List Char := Nat.toDigits 10 n

/-- The decimal digits of a number, after a minus sign if it is negative. -/
def intText : Int → List Char
  | .ofNat n => natText n
  | .negSucc n => '-' :: natText (n + 1)

/-- One or more digits and nothing else. -/
def readDigits? (cs : List Char) : Option Nat :=
  if cs.isEmpty || !cs.all Char.isDigit then none else some (ofDigits cs)

/-- An optional plus sign, then one or more digits. -/
def readUnsigned? : List Char → Option Nat
  | '+' :: ds => readDigits? ds
  | ds => readDigits? ds

/-- An optional sign, then one or more digits. -/
def readSigned? : List Char → Option Int
  | '-' :: ds => (readDigits? ds).map fun n => -(n : Int)
  | cs => (readUnsigned? cs).map fun n => (n : Int)

/-- An unsigned number of at most 64 bits. -/
def readUInt64? (cs : List Char) : Option Nat :=
  (readUnsigned? cs).filter (· ≤ uint64Max)

/-- Whether a number is a signed number of 64 bits. -/
def isInt64 (n : Int) : Bool := int64Min ≤ n && n ≤ int64Max

/-- A signed number of 64 bits. -/
def readInt64? (cs : List Char) : Option Int := (readSigned? cs).filter isInt64

/-- What one hexadecimal digit, in either case, stands for. -/
def hexValue? (c : Char) : Option Nat :=
  if c.isDigit then some (c.toNat - '0'.toNat)
  else if 'a' ≤ c && c ≤ 'f' then some (c.toNat - 'a'.toNat + 10)
  else if 'A' ≤ c && c ≤ 'F' then some (c.toNat - 'A'.toNat + 10)
  else none

/-- The hexadecimal digit, in lower case, of a number below sixteen. -/
def hexDigit (n : Nat) : Char := Nat.digitChar n

/-- The hexadecimal digit, in upper case, of a number below sixteen. -/
def upperHexDigit (n : Nat) : Char := (Nat.digitChar n).toUpper

/-- The hexadecimal digits of a number in lower case, without leading
zeros. -/
def hexText (n : Nat) : List Char := Nat.toDigits 16 n

end LearningClient.Text
