import LearningClient.Decimal.Shortest
import LearningClient.Text.Digits

/-!
# Writing a decimal

Where the point stands, when an exponent is written and how it looks are
decisions of a format, not of the number. They are gathered in one record,
`Layout`, and `Layout.write` carries them out.
-/

namespace LearningClient.Decimal

open LearningClient.Text

/-- The decisions of a number format.

A number whose point stands after `first` of its digits (`first` is zero or
negative if zeros come first) is written out if `first` lies between
`fewestBefore` and `mostBefore`; otherwise it gets an exponent. -/
structure Layout where
  /-- The least place of the point that is written out. -/
  fewestBefore : Int
  /-- The greatest place of the point that is written out. -/
  mostBefore : Int
  /-- What stands after a number that would have no point. -/
  whole : List Char
  /-- What comes before an exponent that is not negative. -/
  upward : List Char
  /-- What comes before an exponent that is negative. -/
  downward : List Char

/-- Digits with the point where a layout has it. The digits are those of a
number without zeros at its end, or the one digit zero. -/
def Layout.write (l : Layout) (negative : Bool) (d : Scientific) : List Char :=
  let ds := natText d.digits
  let first := (ds.length : Int) + d.exponent
  let body :=
    if l.fewestBefore ≤ first ∧ first ≤ l.mostBefore then
      if (ds.length : Int) ≤ first then
        ds ++ List.replicate (first - ds.length).toNat '0' ++ l.whole
      else if 0 < first then
        ds.take first.toNat ++ '.' :: ds.drop first.toNat
      else
        '0' :: '.' :: (List.replicate (-first).toNat '0' ++ ds)
    else
      let mantissa := match ds with
        | c :: (r@(_ :: _)) => c :: '.' :: r
        | _ => ds
      let e := first - 1
      mantissa ++ (if 0 ≤ e then l.upward else l.downward) ++ natText e.natAbs
  if negative then '-' :: body else body

/-- A binary number in a layout, with as few digits as it takes. -/
def Layout.writeBinary (l : Layout) (x : Binary64) : List Char :=
  l.write x.negative x.shortest

end LearningClient.Decimal
