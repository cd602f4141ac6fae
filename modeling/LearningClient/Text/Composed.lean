import LearningClient.Text.CombiningClass
import LearningClient.Text.Composite

/-!
# Composed text

The same text can be written with a composite character or with the pair it
stands for, and marks of different combining classes can be written in any
order. Composed text (normalization form C) is the one way of writing it in
which every pair that can be one character is one. `composed` finds it in
three steps: it opens all characters, puts the marks on each base in the
order of their classes, and joins what can be joined.
-/

namespace LearningClient.Text

/-- Puts a character behind others that are given last first. A mark goes in
front of the marks of a higher class that stand right before it. -/
def placeMark (before : List Nat) (n : Nat) : List Nat :=
  let higher := fun m => combiningClass n < combiningClass m
  if combiningClass n = 0 then n :: before
  else before.takeWhile higher ++ n :: before.dropWhile higher

/-- Characters with the marks on each base in the order of their classes,
those of one class in the order in which they stand. -/
def arrangeMarks (ns : List Nat) : List Nat := (ns.foldl placeMark []).reverse

/-- Joins to a base what can be joined to it. The second list holds the marks
behind the base that stay, and a character beyond them is joined only if its
class is above that of the last, since otherwise they stand in its way. What
is of class 0 and stays is the next base. -/
def joinMarks (base : Nat) (marks : List Nat) : List Nat → List Nat
  | [] => base :: marks
  | n :: ns =>
    let reachable := marks.getLast?.all (combiningClass · < combiningClass n)
    match if reachable then composite? base n else none with
    | some c => joinMarks c marks ns
    | none =>
      if combiningClass n = 0 then base :: marks ++ joinMarks n [] ns
      else joinMarks base (marks ++ [n]) ns

/-- Joins what can be joined. Marks before the first base stay. -/
def joinAll : List Nat → List Nat
  | [] => []
  | n :: ns => if combiningClass n = 0 then joinMarks n [] ns else n :: joinAll ns

/-- The composed form of a text. -/
def composed (ns : List Nat) : List Nat := joinAll (arrangeMarks (ns.flatMap opened))

/-- Whether a text is in composed form. -/
def isComposed (cs : List Char) : Bool :=
  let ns := cs.map Char.toNat
  composed ns = ns

end LearningClient.Text
