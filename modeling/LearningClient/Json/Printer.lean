import LearningClient.Decimal.Layout
import LearningClient.Json.Value
import LearningClient.Text.Digits

/-!
# Writing JSON

Two styles: compact, with nothing between the tokens, and pretty, with one
item or member a line, two spaces for each open bracket, and a space after
each colon. Both write an empty array or object as its two brackets.

Inside a text only the double quote, the backslash and the control
characters below U+0020 are escaped, five of them by a letter and the rest
by four hexadecimal digits.
-/

namespace LearningClient.Json

open LearningClient.Text LearningClient.Decimal

/-- The two ways of laying out a value. -/
inductive Style
  | compact
  | pretty
deriving DecidableEq, Repr

/-- What stands before an item or a closing bracket at a depth. -/
def Style.newline : Style → Nat → List Char
  | .compact, _ => []
  | .pretty, depth => '\n' :: List.replicate (2 * depth) ' '

/-- What stands between the name of a member and its value. -/
def Style.colon : Style → List Char
  | .compact => [':']
  | .pretty => [':', ' ']

/-- Numbers that are not whole 64-bit numbers are written out from five
zeros after the point up to sixteen digits before it, always with a point or
an exponent, and the exponent has a sign. -/
def floatLayout : Layout where
  fewestBefore := -4
  mostBefore := 16
  whole := ['.', '0']
  upward := ['e', '+']
  downward := ['e', '-']

/-- The text of a floating-point number. -/
def floatText (x : Binary64) : List Char := floatLayout.writeBinary x

/-- One character of a text. -/
def escapeChar (c : Char) : List Char :=
  if c = '"' then ['\\', '"']
  else if c = '\\' then ['\\', '\\']
  else if c = '\x08' then ['\\', 'b']
  else if c = '\x0c' then ['\\', 'f']
  else if c = '\n' then ['\\', 'n']
  else if c = '\r' then ['\\', 'r']
  else if c = '\t' then ['\\', 't']
  else if c.toNat < 0x20 then
    ['\\', 'u', '0', '0', hexDigit (c.toNat / 16), hexDigit (c.toNat % 16)]
  else [c]

/-- A text between its quotes. -/
def stringText (s : String) : List Char :=
  '"' :: (s.toList.flatMap escapeChar ++ ['"'])

mutual

/-- A value in a style, inside as many open brackets as `depth` says. -/
def Value.write (st : Style) (depth : Nat) : Value → List Char
  | .null => ['n', 'u', 'l', 'l']
  | .bool true => ['t', 'r', 'u', 'e']
  | .bool false => ['f', 'a', 'l', 's', 'e']
  | .int n => intText n
  | .float x => floatText x
  | .str s => stringText s
  | .arr [] => ['[', ']']
  | .arr (v :: vs) =>
    '[' :: (st.newline (depth + 1) ++ v.write st (depth + 1) ++
      writeItems st (depth + 1) vs ++ st.newline depth ++ [']'])
  | .obj [] => ['\x7b', '\x7d']
  | .obj ((n, v) :: ms) =>
    '\x7b' :: (st.newline (depth + 1) ++ stringText n ++ st.colon ++
      v.write st (depth + 1) ++ writeMembers st (depth + 1) ms ++
      st.newline depth ++ ['\x7d'])

/-- The items of an array after the first. -/
def writeItems (st : Style) (depth : Nat) : List Value → List Char
  | [] => []
  | v :: vs =>
    ',' :: (st.newline depth ++ v.write st depth ++ writeItems st depth vs)

/-- The members of an object after the first. -/
def writeMembers (st : Style) (depth : Nat) : List (String × Value) → List Char
  | [] => []
  | (n, v) :: ms =>
    ',' :: (st.newline depth ++ stringText n ++ st.colon ++
      v.write st depth ++ writeMembers st depth ms)

end

/-- The text of a value in a style. -/
def Value.render (st : Style) (v : Value) : String := String.ofList (v.write st 0)

/-- The compact text of a value. -/
def Value.compact (v : Value) : String := v.render .compact

/-- The pretty text of a value. -/
def Value.pretty (v : Value) : String := v.render .pretty

end LearningClient.Json
