/-!
# Punycode

A text with characters beyond ASCII, written in letters, digits and hyphens.
Its ASCII characters come first, with a hyphen behind them if there are any.
Then each other character is a number that says how far it lies from the one
before, when one counts through the code points and, for each, through the
places where it could be put in. The numbers are in a notation of base 36 in
which every digit knows whether it is the last: it is, if it is below a
threshold for its place. The thresholds follow the size of the numbers that
have been read (`adapt`).

Numbers go up to 32 bits. A text with a larger one is refused, and so is one
that leads to something that is no character. `encode` writes a text that
`decode?` reads.
-/

namespace LearningClient.Text.Punycode

/-- The base of the notation. -/
def base : Nat := 36

/-- The lowest threshold of a digit. -/
def leastThreshold : Nat := 1

/-- The highest threshold of a digit. -/
def mostThreshold : Nat := 26

/-- The first code point that is counted. -/
def firstPoint : Nat := 128

/-- The bias of the thresholds before any number has been read. -/
def firstBias : Nat := 72

/-- Numbers and weights stay below this bound. -/
def bound : Nat := 0x100000000

/-- The value of a digit: first the letters, then the digits. -/
def digitValue? (c : Char) : Option Nat :=
  if 'a' ≤ c ∧ c ≤ 'z' then some (c.toNat - 'a'.toNat)
  else if '0' ≤ c ∧ c ≤ '9' then some (26 + (c.toNat - '0'.toNat))
  else none

/-- The digit of a value. -/
def digit (v : Nat) : Char :=
  if v < 26 then Char.ofNat ('a'.toNat + v) else Char.ofNat ('0'.toNat + (v - 26))

/-- The threshold for the digit at a place, where each place counts for
`base`. -/
def threshold (bias place : Nat) : Nat :=
  if place ≤ bias then leastThreshold
  else if bias + mostThreshold ≤ place then mostThreshold
  else place - bias

theorem threshold_pos (bias place : Nat) : 0 < threshold bias place := by
  unfold threshold leastThreshold mostThreshold
  split
  · decide
  · split <;> omega

/-- Takes a large number down to the range where it makes a bias: what is
left of it and how much the bias grows. -/
def scaleDown (delta bias : Nat) : Nat × Nat :=
  if (base - leastThreshold) * mostThreshold / 2 < delta then
    scaleDown (delta / (base - leastThreshold)) (bias + base)
  else (delta, bias)
termination_by delta
decreasing_by exact Nat.div_lt_self (by omega) (by decide)

/-- The bias after a number has been read, where `count` is how many
characters there are by then. A number that was counted from zero tells less
about those to come. -/
def adapt (delta count : Nat) (fromZero : Bool) : Nat :=
  let delta := if fromZero then delta / 700 else delta / 2
  let (delta, bias) := scaleDown (delta + delta / count) 0
  bias + base * delta / (delta + 38)

/-! ## Reading -/

/-- Reads the digits of a number and adds it to another; what is left behind
it. -/
def readNumber? (bias : Nat) : Nat → Nat → Nat → List Char → Option (Nat × List Char)
  | _, _, _, [] => none
  | place, weight, total, c :: cs =>
    match digitValue? c with
    | none => none
    | some d =>
      let total := total + d * weight
      let t := threshold bias place
      if bound ≤ total then none
      else if d < t then some (total, cs)
      else if bound ≤ weight * (base - t) then none
      else readNumber? bias (place + base) (weight * (base - t)) total cs

/-- A number has at least one digit. -/
theorem readNumber?_length {bias place weight total n : Nat} {cs rest : List Char}
    (h : readNumber? bias place weight total cs = some (n, rest)) : rest.length < cs.length := by
  induction cs generalizing place weight total with
  | nil => simp [readNumber?] at h
  | cons c cs ih =>
    simp only [readNumber?] at h
    split at h
    · simp at h
    · split at h
      · simp at h
      · split at h
        · simp_all
        · split at h
          · simp at h
          · exact Nat.lt_succ_of_lt (ih h)

/-- Reads the characters beyond ASCII and puts each in its place. `point` is
the code point that the count is at, and `place` where the next character
would go if its number were zero. -/
def insertAll? (text : List Char) (point bias place : Nat) (cs : List Char) :
    Option (List Char) :=
  if cs.isEmpty then some text
  else
    match _h : readNumber? bias base 1 place cs with
    | none => none
    | some (n, rest) =>
      let count := text.length + 1
      let point := point + n / count
      if point.isValidChar then
        insertAll? (text.insertIdx (n % count) (Char.ofNat point)) point
          (adapt (n - place) count (place = 0)) (n % count + 1) rest
      else none
termination_by cs.length
decreasing_by exact readNumber?_length _h

/-- The text that is written. -/
def decode? (cs : List Char) : Option (List Char) :=
  let numbers := (cs.reverse.takeWhile (· ≠ '-')).reverse
  match cs.reverse.dropWhile (· ≠ '-') with
  | [] => insertAll? [] firstPoint firstBias 0 numbers
  | ['-'] => none
  | _ :: letters => insertAll? letters.reverse firstPoint firstBias 0 numbers

/-! ## Writing -/

/-- The digits of a number. -/
def writeNumber (bias place n : Nat) : List Char :=
  let t := threshold bias place
  if n < t then [digit n]
  else digit (t + (n - t) % (base - t)) :: writeNumber bias (place + base) ((n - t) / (base - t))
termination_by n
decreasing_by
  have positive := threshold_pos bias place
  calc (n - threshold bias place) / (base - threshold bias place)
      ≤ n - threshold bias place := Nat.div_le_self _ _
    _ < n := by omega

/-- The code points beyond ASCII in ascending order, those that are equal in
the order in which they stand. With each goes the place where it is put in:
as many of the characters before it are there by then. -/
def insertions (cs : List Char) : List (Nat × Nat) :=
  let ns := cs.map Char.toNat
  let placed := ns.zipIdx.map fun (n, i) => (n, (ns.take i).countP (· ≤ n))
  (placed.filter fun (n, _) => firstPoint ≤ n).mergeSort fun a b => a.1 ≤ b.1

/-- Writes code points with their places. `count` is how many characters there
are with the next one. -/
def writeAll (point bias place count : Nat) : List (Nat × Nat) → List Char
  | [] => []
  | (p, i) :: rest =>
    let n := (p - point) * count + i - place
    writeNumber bias base n ++ writeAll p (adapt n count (place = 0)) (i + 1) (count + 1) rest

/-- How a text is written. -/
def encode (cs : List Char) : List Char :=
  let letters := cs.filter (·.toNat < firstPoint)
  let front := if letters.isEmpty then [] else letters ++ ['-']
  front ++ writeAll firstPoint firstBias 0 (letters.length + 1) (insertions cs)

end LearningClient.Text.Punycode
