/-!
# Binary floating-point numbers of 64 bits

A finite number of the format is a sign, a mantissa below 2^53 and a power
of two no smaller than 2^-1074. Arithmetic is exact on ratios of natural
numbers and rounds once, to the nearest number of the format, with ties to
the even mantissa. Nothing here is a machine float, so every value is an
ordinary term: it can be compared, printed digit by digit, and reasoned
about.

Overflow is an answer of its own (`none`), never an infinity.
-/

namespace LearningClient.Decimal

/-- The exponent of the smallest step of the format. -/
def minExponent : Int := -1074

/-- The exponent of the step below the largest numbers of the format. -/
def maxExponent : Int := 971

/-- A finite number of the format: mantissa times two to the exponent, with
a sign. Zero keeps its sign. Every number has one spelling: the mantissa
has 53 bits unless the exponent is the least one. -/
structure Binary64 where
  negative : Bool
  mantissa : Nat
  exponent : Int
deriving DecidableEq, Repr

/-- A magnitude as a ratio of natural numbers. -/
structure Ratio where
  num : Nat
  den : Nat

/-- A natural number times a power of two. -/
def Ratio.ofScaled (m : Nat) (e : Int) : Ratio :=
  match e with
  | .ofNat k => ⟨m * Nat.pow 2 k, 1⟩
  | .negSucc k => ⟨m, Nat.pow 2 (k + 1)⟩

/-- The quotient of two natural numbers, rounded to the nearest one, ties
to even. -/
def roundDiv (num den : Nat) : Nat :=
  let q := num / den
  let twice := 2 * (num % den)
  if twice < den then q
  else if den < twice then q + 1
  else if q % 2 = 0 then q
  else q + 1

/-- The exponent of the step of the format around a ratio that is not
zero: the one that leaves 53 bits before the point, if the format has it. -/
def stepExponent (r : Ratio) : Int :=
  let guess := (r.num.log2 : Int) - r.den.log2 - 52
  let steps := Ratio.ofScaled r.num (-guess)
  let guess := if steps.num < Nat.pow 2 52 * (steps.den * r.den) then guess - 1 else guess
  max guess minExponent

/-- The number of the format nearest to a ratio, or `none` if it is beyond
the largest. -/
def Binary64.ofRatio (negative : Bool) (r : Ratio) : Option Binary64 :=
  if r.num = 0 then some ⟨negative, 0, minExponent⟩
  else
    let e := stepExponent r
    let steps := Ratio.ofScaled r.num (-e)
    let m := roundDiv steps.num (steps.den * r.den)
    let (m, e) := if m = Nat.pow 2 53 then (Nat.pow 2 52, e + 1) else (m, e)
    if maxExponent < e then none else some ⟨negative, m, e⟩

/-- The magnitude of a number. -/
def Binary64.magnitude (x : Binary64) : Ratio := Ratio.ofScaled x.mantissa x.exponent

/-- The number of the format nearest to a natural number. -/
def Binary64.ofNat (n : Nat) : Option Binary64 := ofRatio false ⟨n, 1⟩

/-- The product, rounded; `none` if it is beyond the largest number. -/
def Binary64.mul (x y : Binary64) : Option Binary64 :=
  let a := x.magnitude
  let b := y.magnitude
  ofRatio (x.negative != y.negative) ⟨a.num * b.num, a.den * b.den⟩

/-- The quotient by a number that is not zero, rounded; `none` if it is
beyond the largest number. -/
def Binary64.div (x y : Binary64) : Option Binary64 :=
  let a := x.magnitude
  let b := y.magnitude
  ofRatio (x.negative != y.negative) ⟨a.num * b.den, a.den * b.num⟩

/-- Zero with a sign. -/
def Binary64.zero (negative : Bool) : Binary64 := ⟨negative, 0, minExponent⟩

/-- Whether a number is one of the two zeros. -/
def Binary64.isZero (x : Binary64) : Bool := x.mantissa = 0

/-- The same magnitude with a given sign. -/
def Binary64.withSign (negative : Bool) (x : Binary64) : Binary64 := { x with negative }

/-- One half is a power of two, and so is exact. -/
example : Binary64.ofRatio false ⟨1, 2⟩ = some ⟨false, 2 ^ 52, -53⟩ := by decide +kernel

/-- Half of the smallest step is a tie and goes to zero. -/
example : Binary64.ofRatio false ⟨1, 2 ^ 1075⟩ = some (.zero false) := by decide +kernel

/-- The first power of two beyond the format. -/
example : Binary64.ofNat (2 ^ 1024) = none := by decide +kernel

end LearningClient.Decimal
