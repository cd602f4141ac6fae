/-!
# Blank characters and trimming

A character is blank when it has the Unicode property `White_Space`. There
are twenty-five of them, all in the Basic Multilingual Plane, and the table
below is the whole property. `trim` takes blanks off both ends of a text and
leaves those inside alone.

Trimming is stated on lists of characters, because every rule of this
library that trims goes on to read the characters one by one.
-/

namespace LearningClient.Text

/-- The code points with the property `White_Space`. -/
def blankCodePoints : List Nat :=
  [0x09, 0x0a, 0x0b, 0x0c, 0x0d, 0x20, 0x85, 0xa0, 0x1680,
   0x2000, 0x2001, 0x2002, 0x2003, 0x2004, 0x2005, 0x2006, 0x2007, 0x2008,
   0x2009, 0x200a, 0x2028, 0x2029, 0x202f, 0x205f, 0x3000]

/-- Whether a character is white space in the sense of Unicode. -/
def isBlank (c : Char) : Bool := blankCodePoints.contains c.toNat

/-- The text without the blanks it starts with. -/
def trimStart (cs : List Char) : List Char := cs.dropWhile isBlank

/-- The text without the blanks it ends with. -/
def trimEnd (cs : List Char) : List Char := (cs.reverse.dropWhile isBlank).reverse

/-- The text without blanks at either end. -/
def trim (cs : List Char) : List Char := trimEnd (trimStart cs)

/-- A text between its first and last characters that are not blank. -/
def trimmed (s : String) : String := String.ofList (trim s.toList)

end LearningClient.Text
