import LearningClient.Text.Digits
import LearningClient.Text.Printable

/-!
# Quoted text

How a message shows a text that it found: between double quotes, with a
backslash before a double quote or a backslash, the usual letters for NUL,
tab, line feed and carriage return, and the code point in hexadecimal
between braces for everything else that does not print by itself.
-/

namespace LearningClient.Text

/-- One character inside quotes. -/
def quotedChar (c : Char) : List Char :=
  if c = '"' then ['\\', '"']
  else if c = '\\' then ['\\', '\\']
  else if c = '\x00' then ['\\', '0']
  else if c = '\t' then ['\\', 't']
  else if c = '\n' then ['\\', 'n']
  else if c = '\r' then ['\\', 'r']
  else if isPrintable c then [c]
  else '\\' :: 'u' :: '\x7b' :: (hexText c.toNat ++ ['\x7d'])

/-- A text as a message shows it. -/
def quoted (cs : List Char) : List Char := '"' :: (cs.flatMap quotedChar ++ ['"'])

end LearningClient.Text
