/-!
# UTF-8

Characters as octets and back. Writing is a `flatMap` of what one character
is written as. Reading goes through the octets once and cuts them into
`pieces`: each piece is a character, or a part that cannot begin or go on
any character. Such a part is as long as possible: it ends where the next
octet could not have followed. So reading is one function with two uses.
`decode?` refuses a text with an ill-formed part, and `decodeLossy` puts
U+FFFD in the place of each.
-/

namespace LearningClient.Text

/-- The octets of one character. -/
def encodeChar (c : Char) : List UInt8 := String.utf8EncodeChar c

/-- The octets of a text. -/
def encode (cs : List Char) : List UInt8 := cs.flatMap encodeChar

/-- How many octets a text takes. -/
def octetCount : List Char → Nat
  | [] => 0
  | c :: cs => c.utf8Size + octetCount cs

/-- A character of which the first octets have been read: how many are
still to come, what the bits so far stand for, and between which bounds the
next octet has to lie. The bounds are narrower than a continuation octet's
own where a wider choice would spell a shorter character, a surrogate, or a
number above U+10FFFF. -/
structure Partial where
  missing : Nat
  bits : Nat
  low : UInt8
  high : UInt8

/-- What an octet is at the beginning of a character. -/
inductive Lead
  | char (c : Char)
  | opens (p : Partial)
  | illFormed

/-- The role of an octet at the beginning of a character. -/
def Lead.ofOctet (b : UInt8) : Lead :=
  let n := b.toNat
  if n < 0x80 then .char (Char.ofNat n)
  else if n < 0xc2 then .illFormed
  else if n < 0xe0 then .opens ⟨1, n - 0xc0, 0x80, 0xbf⟩
  else if n = 0xe0 then .opens ⟨2, 0, 0xa0, 0xbf⟩
  else if n = 0xed then .opens ⟨2, 0xd, 0x80, 0x9f⟩
  else if n < 0xf0 then .opens ⟨2, n - 0xe0, 0x80, 0xbf⟩
  else if n = 0xf0 then .opens ⟨3, 0, 0x90, 0xbf⟩
  else if n < 0xf4 then .opens ⟨3, n - 0xf0, 0x80, 0xbf⟩
  else if n = 0xf4 then .opens ⟨3, 4, 0x80, 0x8f⟩
  else .illFormed

/-- The characters of a text of octets, with `none` for each ill-formed
part. The first argument is the character that has been begun, if any. -/
def pieces : Option Partial → List UInt8 → List (Option Char)
  | none, [] => []
  | some _, [] => [none]
  | none, b :: bs =>
    match Lead.ofOctet b with
    | .char c => some c :: pieces none bs
    | .opens p => pieces (some p) bs
    | .illFormed => none :: pieces none bs
  | some p, b :: bs =>
    if p.low ≤ b && b ≤ p.high then
      let bits := 64 * p.bits + (b.toNat - 0x80)
      if p.missing ≤ 1 then some (Char.ofNat bits) :: pieces none bs
      else pieces (some ⟨p.missing - 1, bits, 0x80, 0xbf⟩) bs
    else
      none :: match Lead.ofOctet b with
        | .char c => some c :: pieces none bs
        | .opens q => pieces (some q) bs
        | .illFormed => none :: pieces none bs

/-- The text that octets spell, if they are well formed throughout. -/
def decode? (bs : List UInt8) : Option (List Char) := (pieces none bs).mapM id

/-- The text that octets spell, with U+FFFD for each ill-formed part. -/
def decodeLossy (bs : List UInt8) : List Char :=
  (pieces none bs).map (·.getD '\ufffd')

/-- Octets of ASCII are read one by one. -/
theorem pieces_ascii {b : UInt8} (h : b.toNat < 0x80) (bs : List UInt8) :
    pieces none (b :: bs) = some (Char.ofNat b.toNat) :: pieces none bs := by
  simp [pieces, Lead.ofOctet, h]

end LearningClient.Text
