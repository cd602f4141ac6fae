import LearningClient.Text.Utf8
import Mathlib.Data.List.Basic

/-!
# Reading back what is written in UTF-8

The octets of a character are read as that character, whatever comes after
them (`pieces_encodeChar`), so both readers give back every text that is
written (`decode?_encode`, `decodeLossy_encode`). The four cases are the four
lengths of a character. In each, the lead octet opens a character of which
the rest of the bits are still to come, and each further octet brings six.
-/

namespace LearningClient.Text

/-- An octet that goes on a character brings six bits of it. -/
theorem pieces_tail {p : Partial} {d : Nat} (low : p.low.toNat ≤ d + 128)
    (high : d + 128 ≤ p.high.toNat) (bs : List UInt8) :
    pieces (some p) (UInt8.ofNat (d + 128) :: bs) =
      if p.missing ≤ 1 then some (Char.ofNat (64 * p.bits + d)) :: pieces none bs
      else pieces (some ⟨p.missing - 1, 64 * p.bits + d, 0x80, 0xbf⟩) bs := by
  have bound := p.high.toNat_lt
  have octet : (UInt8.ofNat (d + 128)).toNat = d + 128 := by
    rw [UInt8.toNat_ofNat']
    omega
  have within : (p.low ≤ UInt8.ofNat (d + 128) && UInt8.ofNat (d + 128) ≤ p.high) = true := by
    rw [Bool.and_eq_true, decide_eq_true_iff, decide_eq_true_iff, UInt8.le_iff_toNat_le,
      UInt8.le_iff_toNat_le, octet]
    exact ⟨low, high⟩
  rw [pieces, if_pos within, octet, Nat.add_sub_cancel]

theorem pieces_opens {b : UInt8} {p : Partial} (h : Lead.ofOctet b = .opens p) (bs : List UInt8) :
    pieces none (b :: bs) = pieces (some p) bs := by
  rw [pieces, h]

/-! ## Lead octets -/

theorem ofOctet_two {v : Nat} (low : 0x80 ≤ v) (high : v < 0x800) :
    Lead.ofOctet (UInt8.ofNat (v / 64 % 32 + 192)) = .opens ⟨1, v / 64, 0x80, 0xbf⟩ := by
  have octet : (UInt8.ofNat (v / 64 % 32 + 192)).toNat = v / 64 + 192 := by
    rw [UInt8.toNat_ofNat']
    omega
  simp only [Lead.ofOctet, octet]
  rw [if_neg (by omega), if_neg (by omega), if_pos (by omega), Nat.add_sub_cancel]

/-- The bounds after the lead octet of three leave out what two could spell,
and the surrogates. -/
theorem ofOctet_three {v : Nat} (low : 0x800 ≤ v) (high : v < 0x10000)
    (valid : v < 0xd800 ∨ 0xdfff < v) :
    ∃ p, Lead.ofOctet (UInt8.ofNat (v / 4096 % 16 + 224)) = .opens p ∧ p.missing = 2 ∧
      p.bits = v / 4096 ∧ p.low.toNat ≤ v / 64 % 64 + 128 ∧ v / 64 % 64 + 128 ≤ p.high.toNat := by
  have octet : (UInt8.ofNat (v / 4096 % 16 + 224)).toNat = v / 4096 + 224 := by
    rw [UInt8.toNat_ofNat']
    omega
  simp only [Lead.ofOctet, octet]
  rw [if_neg (by omega), if_neg (by omega), if_neg (by omega)]
  split
  · exact ⟨_, rfl, rfl, by dsimp only; omega, by simp; omega, by simp; omega⟩
  split
  · exact ⟨_, rfl, rfl, by dsimp only; omega, by simp, by simp; omega⟩
  rw [if_pos (by omega)]
  exact ⟨_, rfl, rfl, by dsimp only; omega, by simp, by simp; omega⟩

/-- The bounds after the lead octet of four leave out what three could spell,
and what no character is. -/
theorem ofOctet_four {v : Nat} (low : 0x10000 ≤ v) (high : v < 0x110000) :
    ∃ p, Lead.ofOctet (UInt8.ofNat (v / 262144 % 8 + 240)) = .opens p ∧ p.missing = 3 ∧
      p.bits = v / 262144 ∧ p.low.toNat ≤ v / 4096 % 64 + 128 ∧
      v / 4096 % 64 + 128 ≤ p.high.toNat := by
  have octet : (UInt8.ofNat (v / 262144 % 8 + 240)).toNat = v / 262144 + 240 := by
    rw [UInt8.toNat_ofNat']
    omega
  simp only [Lead.ofOctet, octet]
  rw [if_neg (by omega), if_neg (by omega), if_neg (by omega), if_neg (by omega),
    if_neg (by omega), if_neg (by omega)]
  split
  · exact ⟨_, rfl, rfl, by dsimp only; omega, by simp; omega, by simp; omega⟩
  split
  · exact ⟨_, rfl, rfl, by dsimp only; omega, by simp, by simp; omega⟩
  rw [if_pos (by omega)]
  exact ⟨_, rfl, rfl, by dsimp only; omega, by simp, by simp; omega⟩

/-! ## Characters and texts -/

theorem pieces_encodeChar (c : Char) (bs : List UInt8) :
    pieces none (encodeChar c ++ bs) = some c :: pieces none bs := by
  have valid : c.toNat < 0xd800 ∨ 0xdfff < c.toNat ∧ c.toNat < 0x110000 := c.valid
  have char : ∀ n, n = c.toNat → Char.ofNat n = c := by
    rintro n rfl
    exact Char.ofNat_toNat c
  have v : c.val.toNat = c.toNat := rfl
  rw [encodeChar, String.utf8EncodeChar]
  simp only [v]
  split
  · rename_i one
    have octet : (UInt8.ofNat c.toNat).toNat = c.toNat := by
      rw [UInt8.toNat_ofNat']
      omega
    rw [List.singleton_append, pieces_ascii (by omega), char _ octet]
  split
  · rename_i ge two
    simp only [List.cons_append, List.nil_append]
    rw [pieces_opens (ofOctet_two (by omega) (by omega)), pieces_tail (by simp) (by simp; omega),
      if_pos (by simp), char _ (by simp; omega)]
  split
  · rename_i ge two three
    obtain ⟨p, lead, missing, bits, low, high⟩ :=
      ofOctet_three (v := c.toNat) (by omega) (by omega) (by omega)
    simp only [List.cons_append, List.nil_append]
    rw [pieces_opens lead, pieces_tail low high, if_neg (by omega), pieces_tail (by simp)
      (by simp; omega), if_pos (by simp [missing]), char _ (by simp [bits]; omega)]
  · rename_i ge two three
    obtain ⟨p, lead, missing, bits, low, high⟩ :=
      ofOctet_four (v := c.toNat) (by omega) (by omega)
    simp only [List.cons_append, List.nil_append]
    rw [pieces_opens lead, pieces_tail low high, if_neg (by omega), pieces_tail (by simp)
      (by simp; omega), if_neg (by simp [missing]), pieces_tail (by simp) (by simp; omega),
      if_pos (by simp [missing]), char _ (by simp [bits]; omega)]

theorem pieces_encode (cs : List Char) : pieces none (encode cs) = cs.map some := by
  induction cs with
  | nil => rfl
  | cons c cs ih =>
    have split : encode (c :: cs) = encodeChar c ++ encode cs := List.flatMap_cons
    rw [split, pieces_encodeChar, ih, List.map_cons]

/-- Octets that spell a text are well formed. -/
theorem decode?_encode (cs : List Char) : decode? (encode cs) = some cs := by
  rw [decode?, pieces_encode, List.mapM_map]
  induction cs with
  | nil => rfl
  | cons c cs ih => simp_all

theorem decodeLossy_encode (cs : List Char) : decodeLossy (encode cs) = cs := by
  rw [decodeLossy, pieces_encode, List.map_map]
  exact List.map_id cs

end LearningClient.Text
