import LearningClient.Decimal.Binary64

/-!
# The shortest decimal of a binary number

Many decimals read back as one and the same binary number: all those in the
interval half-way to its two neighbours. `shortest` picks the one with the
fewest digits, and of those the nearest to the number itself, a tie going to
the even last digit.

The search looks at one grid of decimals after the other, from one digit to
seventeen. If any point of a grid lies in the interval, one of the two grid
points around the number does, so only these are looked at.
-/

namespace LearningClient.Decimal

/-- A decimal number without sign: digits times ten to the exponent. -/
structure Scientific where
  digits : Nat
  exponent : Int
deriving DecidableEq, Repr

/-- The decimals that round to a number: in units of a quarter step, the
number itself and the ends of the interval around it, and whether the ends
belong to it. -/
structure Interval where
  low : Nat
  mid : Nat
  high : Nat
  closed : Bool
  exponent : Int

/-- The interval of a number. Below a power of two the steps are half as
wide, unless they have the least width already; the ends round to the number
if its mantissa is even. -/
def Binary64.interval (x : Binary64) : Interval :=
  let m := x.mantissa
  let narrow := m = Nat.pow 2 52 ∧ minExponent < x.exponent
  { low := if narrow then 4 * m - 1 else 4 * m - 2
    mid := 4 * m
    high := 4 * m + 2
    closed := m % 2 = 0
    exponent := x.exponent - 2 }

/-- How many units of a grid a quarter step is, as a ratio: two to the one
exponent over ten to the other. -/
def gridRatio (binary decimal : Int) : Ratio :=
  let a := Ratio.ofScaled 1 binary
  match decimal with
  | .ofNat k => ⟨a.num, a.den * Nat.pow 10 k⟩
  | .negSucc k => ⟨a.num * Nat.pow 10 (k + 1), a.den⟩

/-- The exponent of the first digit of a ratio that is not zero. -/
def leadingExponent (r : Ratio) : Int :=
  if r.den ≤ r.num then (Nat.toDigits 10 (r.num / r.den)).length - 1
  else -((Nat.toDigits 10 ((r.den - 1) / r.num)).length : Int)

/-- The best point of the grid with a given exponent, if one lies in the
interval. -/
def Interval.onGrid (i : Interval) (exponent : Int) : Option Scientific :=
  let u := gridRatio i.exponent exponent
  let inside := fun (d : Nat) =>
    let p := d * u.den
    let lo := i.low * u.num
    let hi := i.high * u.num
    if i.closed then lo ≤ p && p ≤ hi else lo < p && p < hi
  let mid := i.mid * u.num
  let below := mid / u.den
  let above := below + 1
  let toBelow := mid - below * u.den
  let toAbove := above * u.den - mid
  let preferBelow :=
    toBelow < toAbove || (toBelow = toAbove && below % 2 = 0)
  match inside below, inside above with
  | true, true => some ⟨if preferBelow then below else above, exponent⟩
  | true, false => some ⟨below, exponent⟩
  | false, true => some ⟨above, exponent⟩
  | false, false => none

/-- The same number without zeros at its end. At most `fuel` of them are
taken away. -/
def Scientific.normalize : Nat → Scientific → Scientific
  | 0, d => d
  | fuel + 1, d =>
    if d.digits ≠ 0 ∧ d.digits % 10 = 0 then
      normalize fuel ⟨d.digits / 10, d.exponent + 1⟩
    else d

/-- The decimal with the fewest digits that reads back as the magnitude of
a number. Zero is the digit zero. Seventeen digits always suffice, so the
last line is for the grid of seventeen digits. -/
def Binary64.shortest (x : Binary64) : Scientific :=
  if x.mantissa = 0 then ⟨0, 0⟩
  else
    let i := x.interval
    let first := leadingExponent x.magnitude
    let found := (List.range 17).findSome? fun (n : Nat) => i.onGrid (first - n)
    (found.getD ⟨i.mid, 0⟩).normalize 17

/-- One tenth, rounded to binary, is still written with one digit. -/
example : (Binary64.ofRatio false ⟨1, 10⟩).map (·.shortest) = some ⟨1, -1⟩ := by
  decide +kernel

/-- The smallest number of the format. -/
example : (Binary64.mk false 1 minExponent).shortest = ⟨5, -324⟩ := by decide +kernel

/-- The largest number of the format takes seventeen digits. -/
example : (Binary64.mk false (2 ^ 53 - 1) maxExponent).shortest =
    ⟨17976931348623157, 292⟩ := by decide +kernel

end LearningClient.Decimal
