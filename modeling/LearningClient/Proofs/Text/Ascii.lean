import LearningClient.Text.Utf8
import Mathlib.Data.List.Basic

/-!
# Characters of ASCII

There are few enough of them to be looked at one by one (`forall_ascii`). In
UTF-8 each is one octet, and all octets of other characters are beyond ASCII
(`toNat_of_mem_encodeChar`). So a text and its octets hold the same marks of
ASCII, and whoever looks at octets sees no mark that is not there.
-/

namespace LearningClient.Text

/-- Characters of ASCII are few enough to be looked at one by one. -/
theorem forall_ascii {P : Char → Prop} (h : ∀ n : Fin 128, P (Char.ofNat n)) {c : Char}
    (ascii : c.toNat < 0x80) : P c := by
  have char := h ⟨c.toNat, ascii⟩
  rwa [Char.ofNat_toNat] at char

theorem toNat_lt_of_isAlphanum {c : Char} (h : c.isAlphanum = true) : c.toNat < 0x80 := by
  have below : ∀ {d : Char}, c.val ≤ d.val → d.toNat < 0x80 → c.toNat < 0x80 := fun le small =>
    Nat.lt_of_le_of_lt (UInt32.le_iff_toNat_le.mp le) small
  obtain letter | digit := Bool.or_eq_true_iff.mp h
  · obtain upper | lower := Bool.or_eq_true_iff.mp letter
    · exact below (d := 'Z') (of_decide_eq_true upper).2 (by decide)
    · exact below (d := 'z') (of_decide_eq_true (Bool.and_eq_true_iff.mp lower).2) (by decide)
  · exact below (d := '9') (of_decide_eq_true (Bool.and_eq_true_iff.mp digit).2) (by decide)

/-- Only capital letters have another form in lower case. -/
theorem toLower_eq_self {c : Char} (h : c.isUpper = false) : c.toLower = c :=
  dif_neg (of_decide_eq_false h)

/-! ## Octets -/

/-- The octets of a character beyond ASCII are beyond ASCII. -/
theorem le_of_mem_encodeChar {c : Char} (long : 0x80 ≤ c.toNat) {b : UInt8}
    (mem : b ∈ encodeChar c) : 0x80 ≤ b.toNat := by
  have v : c.val.toNat = c.toNat := rfl
  have high : ∀ n, 0x80 ≤ n → n < 0x100 → 0x80 ≤ (UInt8.ofNat n).toNat := by
    intro n low bound
    rw [UInt8.toNat_ofNat']
    omega
  rw [encodeChar, String.utf8EncodeChar] at mem
  simp only [v] at mem
  rw [if_neg (by omega)] at mem
  split at mem
  · simp only [List.mem_cons, List.not_mem_nil, or_false] at mem
    rcases mem with rfl | rfl <;> exact high _ (by omega) (by omega)
  split at mem
  · simp only [List.mem_cons, List.not_mem_nil, or_false] at mem
    rcases mem with rfl | rfl | rfl <;> exact high _ (by omega) (by omega)
  · simp only [List.mem_cons, List.not_mem_nil, or_false] at mem
    rcases mem with rfl | rfl | rfl | rfl <;> exact high _ (by omega) (by omega)

/-- A character of ASCII is one octet. -/
theorem encodeChar_eq_of_lt {c : Char} (short : c.toNat < 0x80) :
    encodeChar c = [UInt8.ofNat c.toNat] := by
  have v : c.val.toNat = c.toNat := rfl
  rw [encodeChar, String.utf8EncodeChar]
  simp only [v]
  rw [if_pos (by omega)]

/-- An octet of ASCII is the whole of its character. -/
theorem toNat_of_mem_encodeChar {c : Char} {b : UInt8} (ascii : b.toNat < 0x80)
    (mem : b ∈ encodeChar c) : c.toNat = b.toNat := by
  by_cases short : c.toNat < 0x80
  · rw [encodeChar_eq_of_lt short] at mem
    rw [List.mem_singleton.mp mem, UInt8.toNat_ofNat']
    omega
  · have := le_of_mem_encodeChar (Nat.not_lt.mp short) mem
    omega

end LearningClient.Text
