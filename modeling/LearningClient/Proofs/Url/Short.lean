import LearningClient.Proofs.Text.Digits
import LearningClient.Url.Host
import Mathlib.Data.List.Induction

/-!
# Reading a number of 32 bits back

A name that ends in a number is one as a whole. What is read is that up to three
parts of eight bits come before the last, which has room for the rest
(`readShort?_eq_some`), so the number fits into 32 bits: each part in front uses
up eight of them (`partsTotal_add_le`). It is written as four parts, each of
which is read back (`readShort?_shortText`).
-/

namespace LearningClient.Url

open LearningClient.Text

/-! ## Four parts -/

/-- The four parts of a number of 32 bits. -/
def octets (n : Nat) : List Nat :=
  [n / 0x1000000 % 256, n / 0x10000 % 256, n / 256 % 256, n % 256]

theorem shortText_eq (n : Nat) : shortText n = ['.'].intercalate ((octets n).map natText) := by
  simp [shortText, octets, List.intercalate_cons_cons]

theorem dot_notMem_natText (n : Nat) : '.' ∉ natText n := by
  intro mem
  exact absurd (isDigit_of_mem_natText mem) (by decide)

theorem splitOn_shortText (n : Nat) : (shortText n).splitOn '.' = (octets n).map natText := by
  rw [shortText_eq]
  refine List.splitOn_intercalate _ (fun l mem => ?_) (by simp [octets])
  obtain ⟨m, _, rfl⟩ := List.mem_map.mp mem
  exact dot_notMem_natText m

theorem dottedParts_shortText (n : Nat) : dottedParts (shortText n) = (octets n).map natText := by
  have last : ((octets n).map natText).getLast? ≠ some [] := by
    simp [octets, natText_ne_nil]
  simp only [dottedParts, splitOn_shortText, if_neg last]

theorem readPart?_natText {n : Nat} (h : n < 256) : readPart? (natText n) = some n := by
  have parts : ∀ n : Fin 256, readPart? (natText n) = some n.val := by decide +kernel
  exact parts ⟨n, h⟩

theorem endsInNumber_shortText (n : Nat) : endsInNumber (shortText n) = true := by
  have last : (dottedParts (shortText n)).getLast? = some (natText (n % 256)) := by
    rw [dottedParts_shortText]
    rfl
  simp only [endsInNumber, last, readPart?_natText (Nat.mod_lt n (by decide)), Option.isSome_some,
    Bool.or_true]

/-! ## What is read -/

theorem length_of_mapM {α β : Type} {f : α → Option β} {xs : List α} {ys : List β}
    (h : xs.mapM f = some ys) : ys.length = xs.length := by
  induction xs generalizing ys with
  | nil =>
    cases h
    rfl
  | cons x xs ih =>
    rw [List.mapM_cons] at h
    obtain ⟨y, _, h⟩ := Option.bind_eq_some_iff.mp h
    obtain ⟨zs, rest, h⟩ := Option.bind_eq_some_iff.mp h
    cases h
    rw [List.length_cons, List.length_cons, ih rest]

/-- What up to four parts stand for together, the last of them apart. -/
def partsTotal (front : List Nat) (last : Nat) : Nat :=
  front.zipIdx.foldl (fun total (n, i) => total + n * Nat.pow 256 (3 - i)) last

theorem partsTotal_concat (front : List Nat) (n last : Nat) :
    partsTotal (front ++ [n]) last =
      partsTotal front last + n * Nat.pow 256 (3 - front.length) := by
  simp [partsTotal, List.zipIdx_append]

/-- Each part in front of the last uses up eight bits. -/
theorem partsTotal_add_le {front : List Nat} (few : front.length ≤ 4)
    (bytes : ∀ n ∈ front, n ≤ 255) (last : Nat) :
    partsTotal front last + Nat.pow 256 (4 - front.length) ≤ last + Nat.pow 256 4 := by
  induction front using List.reverseRecOn with
  | nil => exact Nat.le_refl _
  | append_singleton front n ih =>
    rw [List.length_append, List.length_singleton] at few
    have before := ih (by omega) fun m mem => bytes m (List.mem_append_left _ mem)
    have room : Nat.pow 256 (4 - front.length) = Nat.pow 256 (3 - front.length) * 256 := by
      rw [show 4 - front.length = (3 - front.length) + 1 by omega]
      rfl
    have part := Nat.mul_le_mul_right (Nat.pow 256 (3 - front.length)) (bytes n (by simp))
    rw [partsTotal_concat, List.length_append, List.length_singleton,
      show 4 - (front.length + 1) = 3 - front.length by omega]
    rw [room] at before
    -- the powers are large numbers, and it does not matter which
    generalize Nat.pow 256 (3 - front.length) = k at before part ⊢
    generalize Nat.pow 256 4 = all at before ⊢
    omega

/-- The parts that a number is read from, and their bounds. -/
theorem readShort?_eq_some {cs : List Char} {n : Nat} :
    readShort? cs = some n ↔
      ∃ front last, (dottedParts cs).mapM readPart? = some (front ++ [last]) ∧
        front.length ≤ 3 ∧ last < Nat.pow 256 (4 - front.length) ∧ (∀ n ∈ front, n ≤ 255) ∧
        partsTotal front last = n := by
  have fits : ∀ (front : List Nat) (last : Nat),
      (decide (Nat.pow 256 (4 - front.length) ≤ last) || front.any (255 < ·)) = true ↔
        ¬ (last < Nat.pow 256 (4 - front.length) ∧ ∀ n ∈ front, n ≤ 255) := by
    intro front last
    simp [or_iff_not_imp_left]
  constructor
  · intro h
    unfold readShort? at h
    dsimp only at h
    split at h
    · cases h
    rename_i few
    obtain ⟨ns, read, h⟩ := Option.bind_eq_some_iff.mp h
    obtain ⟨last, ends, h⟩ := Option.bind_eq_some_iff.mp h
    obtain ⟨front, rfl⟩ := List.getLast?_eq_some_iff.mp ends
    have length := length_of_mapM read
    rw [List.length_append, List.length_singleton] at length
    rw [List.dropLast_concat] at h
    split at h
    · cases h
    rename_i small
    rw [fits, Decidable.not_not] at small
    exact ⟨front, last, read, by omega, small.1, small.2, Option.some.inj h⟩
  · intro ⟨front, last, read, few, high, bytes, total⟩
    have length := length_of_mapM read
    rw [List.length_append, List.length_singleton] at length
    unfold readShort?
    dsimp only
    rw [if_neg (by omega), read]
    have small := mt (fits front last).mp (not_not_intro ⟨high, bytes⟩)
    simp only [Option.bind_eq_bind, Option.bind_some, List.getLast?_concat, List.dropLast_concat]
    rw [if_neg small]
    exact congrArg some total

/-- What a name that is a number stands for fits into 32 bits. -/
theorem lt_of_readShort? {cs : List Char} {n : Nat} (h : readShort? cs = some n) :
    n < 0x100000000 := by
  obtain ⟨front, last, _, few, fits, bytes, rfl⟩ := readShort?_eq_some.mp h
  have total := partsTotal_add_le (by omega) bytes last
  have all : Nat.pow 256 4 = 0x100000000 := rfl
  rw [← all]
  generalize Nat.pow 256 4 = all at total ⊢
  omega

/-- A number of 32 bits is read back. -/
theorem readShort?_shortText {n : Nat} (h : n < 0x100000000) :
    readShort? (shortText n) = some n := by
  have read : ((octets n).map natText).mapM readPart? = some (octets n) := by
    simp only [octets, List.map_cons, List.map_nil, List.mapM_cons, List.mapM_nil,
      readPart?_natText (Nat.mod_lt _ (by decide : 0 < 256))]
    rfl
  rw [readShort?_eq_some, dottedParts_shortText, read]
  refine ⟨[n / 0x1000000 % 256, n / 0x10000 % 256, n / 256 % 256], n % 256, rfl, by simp, ?_, ?_,
    ?_⟩
  · exact Nat.mod_lt n (by decide)
  · intro m mem
    simp only [List.mem_cons, List.not_mem_nil, or_false] at mem
    omega
  · have total : partsTotal [n / 0x1000000 % 256, n / 0x10000 % 256, n / 256 % 256] (n % 256) =
        n % 256 + (n / 0x1000000 % 256) * 0x1000000 + (n / 0x10000 % 256) * 0x10000 +
          (n / 256 % 256) * 256 := rfl
    rw [total]
    omega

end LearningClient.Url
