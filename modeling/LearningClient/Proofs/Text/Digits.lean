import LearningClient.Text.Digits
import Mathlib.Data.Nat.Digits.Defs

/-!
# Numbers in decimal

A number that is written in decimal is a run of digits, the first of which is
zero for the number zero only, and the run stands for the number again.
-/

namespace LearningClient.Text

theorem isDigit_of_mem_natText {n : Nat} {c : Char} (mem : c ∈ natText n) : c.isDigit = true :=
  Nat.isDigit_of_mem_toDigits (by decide) (by decide) mem

theorem natText_ne_nil (n : Nat) : natText n ≠ [] := Nat.toDigits_ne_nil

theorem natText_front (n : Nat) : ∃ c cs, natText n = c :: cs ∧ c.isDigit = true := by
  cases digits : natText n with
  | nil => exact absurd digits (natText_ne_nil n)
  | cons c cs =>
    have first : c ∈ natText n := by
      rw [digits]
      exact List.mem_cons_self
    exact ⟨c, cs, rfl, isDigit_of_mem_natText first⟩

/-- A number in decimal is read back. -/
theorem ofDigits_natText (n : Nat) : ofDigits (natText n) = n :=
  Nat.ofDigitChars_toDigits (by decide) (by decide)

theorem natText_injective {m n : Nat} (h : natText m = natText n) : m = n := by
  rw [← ofDigits_natText m, h, ofDigits_natText]

/-- Only the number zero begins with a zero. -/
theorem natText_leadingZero {n : Nat} {cs : List Char} (h : natText n = '0' :: cs) : cs = [] := by
  induction n using Nat.strongRecOn generalizing cs with
  | ind n ih =>
    rw [natText] at h
    by_cases small : n < 10
    · rw [Nat.toDigits_of_lt_base small] at h
      exact (List.cons.inj h).2.symm
    · have large : 10 ≤ n := Nat.le_of_not_lt small
      rw [Nat.toDigits_of_base_le (by decide) large] at h
      cases front : natText (n / 10) with
      | nil => exact absurd front (natText_ne_nil _)
      | cons d ds =>
        rw [natText] at front
        rw [front, List.cons_append] at h
        obtain ⟨rfl, -⟩ := List.cons.inj h
        have alone := ih (n / 10) (by omega) front
        -- then the number without its last digit is zero
        have zero : n / 10 = 0 := by
          rw [← ofDigits_natText (n / 10), natText, front, alone]
          rfl
        omega

end LearningClient.Text
