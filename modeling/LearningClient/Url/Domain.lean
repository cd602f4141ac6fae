import LearningClient.Text.Composed
import LearningClient.Text.Direction
import LearningClient.Text.Joining
import LearningClient.Text.Punycode
import LearningClient.Url.Mapped
import LearningClient.Url.Permitted

/-!
# International names

The name of a host is labels with dots between them, and it is kept in ASCII
and in lower case (`asciiName?`). If it holds other characters, those that
stand for others are replaced, what comes out is composed, and each label that
is still not in ASCII is written in punycode, with `xn--` in front of it.

A label that begins with `xn--` stands for one with characters beyond ASCII.
It has to stand for something, and for something that could have been written
in no other way: in composed text, of characters that can stand in a name,
with no mark at its beginning and with joiners only where they make a
difference to the eye. A label that has just been written is looked at in the
same way (`isDomain`).

One label that is read from right to left makes the whole name such a name,
and then every label has to keep to one direction, so that the order in
which the characters are shown gives away the order in which they stand.

Which ASCII characters can stand in a name is not looked at here.
-/

namespace LearningClient.Url

open LearningClient.Text

/-! ## Names in ASCII -/

/-- Whether a character is in ASCII. -/
def isAscii (c : Char) : Bool := c.toNat < 0x80

/-- What a label in punycode begins with. -/
def punycodeMark : List Char := "xn--".toList

/-- The characters that a character is replaced with, if it can be written in a
name. -/
def standIns? (c : Char) : Option (List Nat) :=
  if isAscii c then some [c.toLower.toNat]
  else if isPermitted c then some [c.toNat]
  else standsFor? c.toNat

/-- A label in ASCII. Only one that is in ASCII already can begin as if it
were in punycode. -/
def asciiLabel? (cs : List Char) : Option (List Char) :=
  if cs.all isAscii then some cs
  else if punycodeMark.isPrefixOf cs then none
  else some (punycodeMark ++ Punycode.encode cs)

/-- A name in ASCII and in lower case, if there is one. Whether its labels can
stand as they are is not asked yet. -/
def asciiName? (name : List Char) : Option (List Char) :=
  if name.all isAscii then some (name.map Char.toLower)
  else do
    let replaced ← name.mapM standIns?
    let labels ← (((composed replaced.flatten).map Char.ofNat).splitOn '.').mapM asciiLabel?
    return ['.'].intercalate labels

/-! ## Joiners -/

/-- The character that keeps its neighbours from joining. -/
def nonJoiner : Char := Char.ofNat 0x200c

/-- The character that makes its neighbours join. -/
def joiner : Char := Char.ofNat 0x200d

/-- How the nearest character joins that is not transparent. -/
def nearestJoining (cs : List Char) : Joining :=
  ((cs.map joining).find? (· ≠ .transparent)).getD .neither

/-- Whether a joiner can stand between others, of which those before it are
given last first. Either can stand behind a virama, and a non-joiner between
letters that would join without it. -/
def joinerFits (before : List Char) (c : Char) (after : List Char) : Bool :=
  match before with
  | [] => false
  | last :: _ =>
    combiningClass last.toNat = viramaClass ||
      c = nonJoiner && [.left, .both].contains (nearestJoining before)
        && [.right, .both].contains (nearestJoining after)

/-- Whether all joiners can stand where they do, behind others that are given
last first. -/
def joinersFit (before : List Char) : List Char → Bool
  | [] => true
  | c :: cs =>
    ((c ≠ nonJoiner && c ≠ joiner) || joinerFits before c cs) && joinersFit (c :: before) cs

/-! ## Labels -/

/-- The longest punycode that is read. -/
def maxPunycodeLength : Nat := 2000

/-- The longest label that punycode may stand for. -/
def maxLabelLength : Nat := 1000

/-- Whether punycode may stand for a label. -/
def isLabel (cs : List Char) : Bool :=
  cs.length ≤ maxLabelLength && cs.all (fun c => isAscii c || isPermitted c)
    && !cs.head?.any isMark && isComposed cs && joinersFit [] cs

/-- The label that is written. A hyphen at its end would leave nothing that
needs punycode. -/
def readLabel? (cs : List Char) : Option (List Char) :=
  match cs with
  | 'x' :: 'n' :: '-' :: '-' :: code =>
    if maxPunycodeLength < code.length || code.getLast?.all (· = '-') then none
    else (Punycode.decode? code).filter isLabel
  | _ => some cs

/-! ## Directions -/

/-- Whether a character makes a name one that is read from right to left. -/
def turnsName (c : Char) : Bool := [.right, .arabicNumber].contains (direction c)

/-- Whether a label keeps to one direction: that of its first character,
which is a letter. Its last character, marks apart, is a letter of that
direction or a digit, and there is no letter of the other direction in it.
Only a label that is read from right to left holds digits of the kind that
goes with it, and none of the other kind beside them. -/
def keepsDirection (cs : List Char) : Bool :=
  match cs.map direction with
  | [] => true
  | first :: others =>
    let others := others.reverse.dropWhile (· = .mark)
    match first with
    | .left =>
      others.head?.all [.left, .europeanNumber].contains
        && others.all fun d => d ≠ .right && d ≠ .arabicNumber
    | .right =>
      others.head?.all [.right, .europeanNumber, .arabicNumber].contains
        && !others.contains .left
        && !(others.contains .europeanNumber && others.contains .arabicNumber)
    | _ => false

/-! ## Names -/

/-- Whether the labels of a name can stand as they are. -/
def isDomain (name : List Char) : Bool :=
  match (name.splitOn '.').mapM readLabel? with
  | none => false
  | some labels => !labels.any (·.any turnsName) || labels.all keepsDirection

end LearningClient.Url
