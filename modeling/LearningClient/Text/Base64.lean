/-!
# Base 64

Octets in groups of three, each group as four characters of a 64-letter
alphabet; a group that is not full is filled up with `=`.
-/

namespace LearningClient.Text

/-- The letter for six bits. -/
def base64Letter (n : Nat) : Char :=
  if n < 26 then Char.ofNat ('A'.toNat + n)
  else if n < 52 then Char.ofNat ('a'.toNat + (n - 26))
  else if n < 62 then Char.ofNat ('0'.toNat + (n - 52))
  else if n = 62 then '+'
  else '/'

/-- Octets written in base 64, with padding. -/
def base64 : List UInt8 → List Char
  | [] => []
  | [a] =>
    [base64Letter (a.toNat / 4), base64Letter (a.toNat % 4 * 16), '=', '=']
  | [a, b] =>
    [base64Letter (a.toNat / 4),
      base64Letter (a.toNat % 4 * 16 + b.toNat / 16),
      base64Letter (b.toNat % 16 * 4), '=']
  | a :: b :: c :: rest =>
    base64Letter (a.toNat / 4) ::
      base64Letter (a.toNat % 4 * 16 + b.toNat / 16) ::
      base64Letter (b.toNat % 16 * 4 + c.toNat / 64) ::
      base64Letter (c.toNat % 64) :: base64 rest

end LearningClient.Text
