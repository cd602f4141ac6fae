/-!
# Syllables of Hangul

A syllable stands for an opening consonant, a vowel, and a closing consonant
or none. The block of syllables holds every such combination in order, so
the place of a syllable follows from the places of its letters and no table
is needed.

A syllable is composed in two steps. An opening consonant and a vowel make
an open syllable; an open syllable and a closing consonant make a closed
one.
-/

namespace LearningClient.Text.Hangul

/-- How many opening consonants there are. -/
def openings : Nat := 19

/-- How many vowels there are. -/
def vowels : Nat := 21

/-- How many ways there are to end a syllable, one of them open. -/
def endings : Nat := 28

/-- The first opening consonant. -/
def firstOpening : Nat := 0x1100

/-- The first vowel. -/
def firstVowel : Nat := 0x1161

/-- The code point that would stand for the open ending. The closing
consonants come after it. -/
def openEnding : Nat := 0x11a7

/-- The first syllable. -/
def firstSyllable : Nat := 0xac00

/-- Whether a code point is a syllable. -/
def isSyllable (n : Nat) : Bool :=
  firstSyllable ≤ n && n < firstSyllable + openings * vowels * endings

/-- The syllable of an opening consonant and a vowel, or of an open syllable
and a closing consonant. -/
def compose? (a b : Nat) : Option Nat :=
  if firstOpening ≤ a ∧ a < firstOpening + openings ∧ firstVowel ≤ b ∧
      b < firstVowel + vowels then
    some (firstSyllable + ((a - firstOpening) * vowels + (b - firstVowel)) * endings)
  else if isSyllable a ∧ (a - firstSyllable) % endings = 0 ∧ openEnding < b ∧
      b < openEnding + endings then
    some (a + (b - openEnding))
  else none

/-- The two parts of a syllable. -/
def parts (n : Nat) : Nat × Nat :=
  let place := n - firstSyllable
  if place % endings = 0 then
    (firstOpening + place / endings / vowels, firstVowel + place / endings % vowels)
  else (n - place % endings, openEnding + place % endings)

end LearningClient.Text.Hangul
