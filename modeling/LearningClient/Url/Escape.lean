import LearningClient.Text.Digits
import LearningClient.Text.Utf8

/-!
# What is escaped in an address

Each part of an address has a set of characters that cannot stand in it.
Control characters and everything beyond ASCII are in all the sets; beyond
those, each set is the one before it and some characters more. A character
of the set is written as its octets, each a percent sign and two hexadecimal
digits in upper case. A percent sign is in none of the sets, so what has
been escaped stays as it is.
-/

namespace LearningClient.Url

open LearningClient.Text

/-- A set of characters that are escaped. -/
abbrev EscapeSet := Char → Bool

/-- Control characters, and all beyond ASCII. -/
def controls : EscapeSet := fun c => c.toNat < 0x20 || 0x7f ≤ c.toNat

/-- What cannot stand in a fragment. -/
def inFragment : EscapeSet := fun c => controls c || [' ', '"', '<', '>', '\x60'].contains c

/-- What cannot stand in a query. -/
def inQuery : EscapeSet := fun c => controls c || [' ', '"', '#', '<', '>'].contains c

/-- What cannot stand in a query of one of the well-known schemes. -/
def inSpecialQuery : EscapeSet := fun c => inQuery c || c = '\''

/-- What cannot stand in a path. -/
def inPath : EscapeSet := fun c => inFragment c || ['#', '?', '\x7b', '\x7d'].contains c

/-- What cannot stand in the name or password of a user. -/
def inUserInfo : EscapeSet := fun c =>
  inPath c || ['/', ':', ';', '=', '@', '[', '\\', ']', '^', '|'].contains c

/-- An octet as a percent sign and two digits. -/
def escapeOctet (b : UInt8) : List Char :=
  ['%', upperHexDigit (b.toNat / 16), upperHexDigit (b.toNat % 16)]

/-- A character, escaped if it is in a set. -/
def escapeChar (set : EscapeSet) (c : Char) : List Char :=
  if set c then (encodeChar c).flatMap escapeOctet else [c]

/-- A text with the characters of a set escaped. -/
def escape (set : EscapeSet) (cs : List Char) : List Char := cs.flatMap (escapeChar set)

/-- A text without characters of a set is not changed. -/
theorem escape_eq_self {set : EscapeSet} {cs : List Char} (h : ∀ c ∈ cs, set c = false) :
    escape set cs = cs := by
  induction cs with
  | nil => rfl
  | cons c r ih =>
    have hc : set c = false := h c (by simp)
    have hr := ih fun x hx => h x (by simp [hx])
    simp only [escape] at hr ⊢
    simp [escapeChar, hc, hr]

end LearningClient.Url
