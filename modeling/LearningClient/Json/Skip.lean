import LearningClient.Json.Reader

/-!
# Skipping values

A member that nobody asked for is passed over without being built. Skipping
checks the brackets and the tokens, and nothing that only a built value
would need: it has no limit of depth, takes escapes of four hexadecimal
digits one by one whatever they stand for, and a number of any size.

The open brackets are a list, the innermost first, so that the nesting of a
document does not nest the computation.
-/

namespace LearningClient.Json

open LearningClient.Text

/-- An open bracket. -/
inductive Bracket
  | list
  | object
deriving DecidableEq, Repr

/-- The character that closes a bracket. -/
def Bracket.close : Bracket → Char
  | .list => ']'
  | .object => '\x7d'

/-- What a document lacks that ends inside a bracket. -/
def Bracket.ended : Bracket → Cause
  | .list => .endInList
  | .object => .endInObject

/-- What is missing after an item or member inside a bracket. -/
def Bracket.expected : Bracket → Cause
  | .list => .expectedCommaOrBracket
  | .object => .expectedCommaOrBrace

/-- Passes over a text after its opening quote. -/
def skipString : List Char → Except Stop (List Char)
  | [] => .error (.here .endInString [])
  | '"' :: rest => .ok rest
  | ['\\'] => .error (.here .endInString [])
  | '\\' :: 'u' :: a :: b :: c :: d :: rest =>
    match hex4? a b c d with
    | some _ => skipString rest
    | none => .error (hexStop (a :: b :: c :: d :: rest))
  | '\\' :: 'u' :: rest => .error (hexStop rest)
  | '\\' :: c :: rest =>
    match escapeLetter? c with
    | some _ => skipString rest
    | none => .error (.next .invalidEscape (c :: rest))
  | c :: rest =>
    if c.toNat < 0x20 then .error (.here .controlCharacter (c :: rest)) else skipString rest

/-- Passes over an exponent after its letter. -/
def skipExponent (cs : List Char) : Except Stop (List Char) :=
  let cs := match cs with
    | '+' :: r => r
    | '-' :: r => r
    | r => r
  if startsWithDigit cs then .ok (cs.dropWhile Char.isDigit)
  else .error (.next .invalidNumber cs)

/-- Passes over the digits after a point and what follows them. -/
def skipFraction (cs : List Char) : Except Stop (List Char) :=
  if !startsWithDigit cs then .error (.next .invalidNumber cs)
  else match cs.dropWhile Char.isDigit with
    | 'e' :: rest => skipExponent rest
    | 'E' :: rest => skipExponent rest
    | rest => .ok rest

/-- Passes over a number after its sign. -/
def skipNumber : List Char → Except Stop (List Char)
  | [] => .error (.here .invalidNumber [])
  | c :: cs =>
    if !c.isDigit then .error (.next .invalidNumber (c :: cs))
    else if c = '0' && startsWithDigit cs then .error (.next .invalidNumber cs)
    else match (c :: cs).dropWhile Char.isDigit with
      | '.' :: rest => skipFraction rest
      | 'e' :: rest => skipExponent rest
      | 'E' :: rest => skipExponent rest
      | rest => .ok rest

/-- Passes over the name of a member and its colon. -/
def skipName (cs : List Char) : Except Stop (List Char) :=
  match skipBlanks cs with
  | [] => .error (.next .endInObject [])
  | '"' :: rest => do readColon (← skipString rest)
  | rest => .error (.next .keyNotString rest)

/-- What stands at the front of a value: a whole one, with what is left
after it, or an opening bracket. -/
inductive Front
  | whole (rest : List Char)
  | opens (b : Bracket) (rest : List Char)

/-- Passes over a value without brackets or over an opening bracket. -/
def skipFront (cs : List Char) : Except Stop Front :=
  match skipBlanks cs with
  | [] => .error (.next .endInValue [])
  | 'n' :: rest => .whole <$> readWord ['u', 'l', 'l'] rest
  | 't' :: rest => .whole <$> readWord ['r', 'u', 'e'] rest
  | 'f' :: rest => .whole <$> readWord ['a', 'l', 's', 'e'] rest
  | '"' :: rest => .whole <$> skipString rest
  | '[' :: rest => .ok (.opens .list rest)
  | '\x7b' :: rest => .ok (.opens .object rest)
  | '-' :: rest => .whole <$> skipNumber rest
  | c :: rest =>
    if c.isDigit then .whole <$> skipNumber (c :: rest)
    else .error (.next .expectedValue (c :: rest))

/-- Where the passing over of a value stands. -/
inductive Skipping
  /-- Before a value. -/
  | value
  /-- After an opening bracket. -/
  | opened
  /-- After a value. -/
  | done

/-- Goes on inside a bracket with the next item or member. -/
def skipInto (b : Bracket) (cs : List Char) : Except Stop (List Char) :=
  match b with
  | .list => .ok cs
  | .object => skipName cs

/-- Passes over the rest of a value inside open brackets, the innermost
first. A bracket is opened or closed, a comma or a value is taken in every
second round at least, so twice as many rounds as there are characters are
enough. -/
def skipLoop : Nat → List Bracket → Skipping → List Char → Except Stop (List Char)
  | 0, _, _, cs => .error (.here .endInValue cs)
  | rounds + 1, open_, .value, cs => do
    match ← skipFront cs with
    | .whole rest => skipLoop rounds open_ .done rest
    | .opens b rest => skipLoop rounds (b :: open_) .opened rest
  | _ + 1, [], _, cs => .ok cs
  | rounds + 1, b :: outer, .opened, cs =>
    match skipBlanks cs with
    | [] => .error (.next b.ended [])
    | c :: rest =>
      if c = b.close then skipLoop rounds outer .done rest
      else do skipLoop rounds (b :: outer) .value (← skipInto b (c :: rest))
  | rounds + 1, b :: outer, .done, cs =>
    match skipBlanks cs with
    | [] => .error (.next b.ended [])
    | c :: rest =>
      if c = b.close then skipLoop rounds outer .done rest
      else if c = ',' then do skipLoop rounds (b :: outer) .value (← skipInto b rest)
      else .error (.next b.expected (c :: rest))

/-- Passes over a value. -/
def skipValue (cs : List Char) : Except Stop (List Char) :=
  skipLoop (2 * cs.length + 2) [] .value cs

end LearningClient.Json
