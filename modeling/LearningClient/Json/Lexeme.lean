import LearningClient.Decimal.Binary64
import LearningClient.Json.Fault

/-!
# The tokens of JSON

Readers for what stands between brackets: blanks, the three words, texts
and numbers. A reader takes the unread part of the document and answers with
a result and what is left, or stops.

A number that is whole and fits 64 bits, signed or unsigned, is exact. Any
other number is gathered digit by digit into 64 bits. Once a digit would
overflow them, further digits before the point only raise the exponent, and
further digits behind it are dropped. The gathered digits are rounded to
binary and multiplied or divided by a rounded power of ten, which rounds
again. This is not always the nearest binary number to the decimal written;
it is what the numbers of this format mean here.
-/

namespace LearningClient.Json

open LearningClient.Text LearningClient.Decimal

/-- A reader of one thing at the front of a document. -/
abbrev Reader (α : Type) := List Char → Except Stop (α × List Char)

/-- The four blanks of JSON. -/
def isBlank (c : Char) : Bool := c = ' ' || c = '\n' || c = '\t' || c = '\r'

/-- A document without the blanks at its front. -/
def skipBlanks (cs : List Char) : List Char := cs.dropWhile isBlank

/-- Reads the rest of a word, letter by letter. -/
def readWord : List Char → List Char → Except Stop (List Char)
  | [], cs => .ok cs
  | _ :: _, [] => .error (.here .endInValue [])
  | w :: ws, c :: cs =>
    if c = w then readWord ws cs else .error (.next .expectedIdentifier (c :: cs))

/-! ## Texts -/

/-- The number that four hexadecimal digits spell. -/
def hex4? (a b c d : Char) : Option Nat := do
  let a ← hexValue? a
  let b ← hexValue? b
  let c ← hexValue? c
  let d ← hexValue? d
  return 4096 * a + 256 * b + 16 * c + d

/-- The first half of a surrogate pair. -/
def isHighSurrogate (n : Nat) : Bool := 0xd800 ≤ n && n ≤ 0xdbff

/-- The second half of a surrogate pair. -/
def isLowSurrogate (n : Nat) : Bool := 0xdc00 ≤ n && n ≤ 0xdfff

/-- The character that a surrogate pair spells. -/
def ofSurrogates (high low : Nat) : Char :=
  Char.ofNat (0x10000 + 0x400 * (high - 0xd800) + (low - 0xdc00))

/-- The character that a letter after a backslash stands for. -/
def escapeLetter? : Char → Option Char
  | '"' => some '"'
  | '\\' => some '\\'
  | '/' => some '/'
  | 'b' => some '\x08'
  | 'f' => some '\x0c'
  | 'n' => some '\n'
  | 'r' => some '\r'
  | 't' => some '\t'
  | _ => none

/-- The stop where four hexadecimal digits should be and are not: four
octets are taken, whatever they are. -/
def hexStop (cs : List Char) : Stop :=
  if octetCount cs < 4 then .here .endInString [] else ⟨.invalidEscape, cs, 4⟩

/-- The stop after the first half of a surrogate pair whose second half is
not there. -/
def pairStop : List Char → Stop
  | [] => .here .endInString []
  | ['\\'] => .here .endInString []
  | '\\' :: 'u' :: cs => hexStop cs
  | '\\' :: cs => .next .unfinishedSurrogatePair cs
  | cs => .next .unfinishedSurrogatePair cs

/-- Reads a text after its opening quote. `done` holds what has been read,
last character first. -/
def readString (done : List Char) : Reader (List Char)
  | [] => .error (.here .endInString [])
  | '"' :: rest => .ok (done.reverse, rest)
  | ['\\'] => .error (.here .endInString [])
  | '\\' :: 'u' :: a :: b :: c :: d :: rest =>
    match hex4? a b c d with
    | none => .error (hexStop (a :: b :: c :: d :: rest))
    | some n =>
      if isLowSurrogate n then .error (.here .loneSurrogate rest)
      else if isHighSurrogate n then
        match rest with
        | '\\' :: 'u' :: e :: f :: g :: h :: rest' =>
          match hex4? e f g h with
          | none => .error (pairStop rest)
          | some m =>
            if isLowSurrogate m then readString (ofSurrogates n m :: done) rest'
            else .error (.here .loneSurrogate rest')
        | _ => .error (pairStop rest)
      else readString (Char.ofNat n :: done) rest
  | '\\' :: 'u' :: rest => .error (hexStop rest)
  | '\\' :: c :: rest =>
    match escapeLetter? c with
    | some x => readString (x :: done) rest
    | none => .error (.next .invalidEscape (c :: rest))
  | c :: rest =>
    if c.toNat < 0x20 then .error (.next .controlCharacter (c :: rest))
    else readString (c :: done) rest

/-! ## Numbers -/

/-- A number as it is read. -/
inductive Number
  | int (n : Int)
  | float (x : Binary64)
deriving DecidableEq, Repr

/-- The value of a number. -/
def Number.toValue : Number → Value
  | .int n => .int n
  | .float x => .float x

/-- Adds digits to a number as long as it fits 64 bits: the number, how
many digits were added, and what is left. -/
def gather (n : Nat) (count : Nat) : List Char → Nat × Nat × List Char
  | [] => (n, count, [])
  | c :: cs =>
    if c.isDigit && 10 * n + digitValue c ≤ uint64Max then
      gather (10 * n + digitValue c) (count + 1) cs
    else (n, count, c :: cs)

/-- Whether a document goes on with a digit. -/
def startsWithDigit : List Char → Bool
  | c :: _ => c.isDigit
  | [] => false

/-- The rounded power of ten. -/
def powerOfTen (k : Nat) : Option Binary64 := Binary64.ofNat (Nat.pow 10 k)

/-- A number times a power of ten. Powers up to 10^308 are applied at once;
a number is divided by more than that in steps, of which there are at most
`steps`, until nothing is left of it. -/
def scale : Nat → Binary64 → Int → Option Binary64
  | steps, x, e =>
    if e.natAbs ≤ 308 then do
      let p ← powerOfTen e.natAbs
      if 0 ≤ e then x.mul p else x.div p
    else if x.isZero then some x
    else if 0 ≤ e then none
    else match steps with
      | 0 => none
      | steps + 1 => do
        let p ← powerOfTen 308
        let y ← x.div p
        scale steps y (e + 308)

/-- The floating-point number of a sign, gathered digits and an exponent.
One that is too large is refused. -/
def ofParts (negative : Bool) (digits : Nat) (e : Int) : Reader Number := fun rest =>
  match (Binary64.ofNat digits).bind fun x => scale (e.natAbs / 308) x e with
  | some x => .ok (.float (x.withSign negative), rest)
  | none => .error (.here .numberOutOfRange rest)

/-- The largest exponent that is told from a larger one. -/
def maxWrittenExponent : Nat := 0x7fffffff

/-- Reads the digits of an exponent. `none` stands for one that is too
long; then what is left begins behind the digit that made it so. -/
def readExponentDigits (n : Nat) : List Char → Option Nat × List Char
  | [] => (some n, [])
  | c :: cs =>
    if c.isDigit then
      if maxWrittenExponent < 10 * n + digitValue c then (none, cs)
      else readExponentDigits (10 * n + digitValue c) cs
    else (some n, c :: cs)

/-- Reads an exponent after its letter and finishes the number. -/
def readExponent (negative : Bool) (digits : Nat) (e : Int) : Reader Number := fun cs =>
  let (down, cs) := match cs with
    | '+' :: r => (false, r)
    | '-' :: r => (true, r)
    | r => (false, r)
  match cs with
  | [] => .error (.here .endInValue [])
  | c :: _ =>
    if !c.isDigit then .error (.next .invalidNumber cs)
    else match readExponentDigits 0 cs with
      | (some k, rest) => ofParts negative digits (if down then e - k else e + k) rest
      | (none, rest) =>
        if digits ≠ 0 && !down then .error (.here .numberOutOfRange rest)
        else .ok (.float (.zero negative), rest.dropWhile Char.isDigit)

/-- Finishes a number that has no fraction left to read. -/
def readAfterFraction (negative : Bool) (digits : Nat) (e : Int) : Reader Number
  | 'e' :: rest => readExponent negative digits e rest
  | 'E' :: rest => readExponent negative digits e rest
  | rest => ofParts negative digits e rest

/-- Reads the digits after the point and finishes the number. -/
def readFraction (negative : Bool) (digits : Nat) (e : Int) : Reader Number := fun cs =>
  let (digits, count, rest) := gather digits 0 cs
  if startsWithDigit rest then
    readAfterFraction negative digits (e - count) (rest.dropWhile Char.isDigit)
  else if count = 0 then
    .error (match rest with
      | [] => .here .endInValue []
      | _ => .next .invalidNumber rest)
  else readAfterFraction negative digits (e - count) rest

/-- The number of a sign and digits alone. There is no whole negative zero,
so that one is a floating-point number. -/
def wholeNumber (negative : Bool) (digits : Nat) : Reader Number := fun rest =>
  if !negative then .ok (.int digits, rest)
  else if digits = 0 || int64Min > -(digits : Int) then ofParts true digits 0 rest
  else .ok (.int (-(digits : Int)), rest)

/-- Reads a number after its sign. -/
def readNumber (negative : Bool) : Reader Number
  | [] => .error (.here .endInValue [])
  | c :: cs =>
    if !c.isDigit then .error (.next .invalidNumber (c :: cs))
    else if c = '0' && startsWithDigit cs then .error (.next .invalidNumber cs)
    else
      let (digits, _, rest) := gather 0 0 (c :: cs)
      let long := startsWithDigit rest
      let dropped := (rest.takeWhile Char.isDigit).length
      match rest.dropWhile Char.isDigit with
      | '.' :: rest => readFraction negative digits dropped rest
      | 'e' :: rest => readExponent negative digits dropped rest
      | 'E' :: rest => readExponent negative digits dropped rest
      | rest =>
        if long then ofParts negative digits dropped rest
        else wholeNumber negative digits rest

end LearningClient.Json
