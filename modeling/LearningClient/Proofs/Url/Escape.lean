import LearningClient.Proofs.Form
import LearningClient.Proofs.Text.Ascii
import LearningClient.Url.Escape

/-!
# What is left when a part has been escaped

Escaping writes percent signs and hexadecimal digits, and these are in none of
the sets. So nothing is left of the set a part has been escaped by
(`escape_outside`), and escaping the part again changes nothing. Nor does
escaping bring in a mark that could end a part: such a mark has been there
before (`mem_escape`).
-/

namespace LearningClient.Url

open LearningClient.Text

/-- A set has nothing in it of what escaping writes. -/
def EscapeSet.Settles (set : EscapeSet) : Prop := ∀ b, ∀ c ∈ escapeOctet b, set c = false

/-- What escaping writes is percent signs and digits. -/
theorem EscapeSet.settles {set : EscapeSet} (percent : set '%' = false)
    (digits : ∀ n : Fin 16, set (upperHexDigit n) = false) : set.Settles := by
  intro b c mem
  have bound := b.toNat_lt
  simp only [escapeOctet, List.mem_cons, List.not_mem_nil, or_false] at mem
  rcases mem with rfl | rfl | rfl
  · exact percent
  · exact digits ⟨b.toNat / 16, by omega⟩
  · exact digits ⟨b.toNat % 16, by omega⟩

theorem settles_inUserInfo : EscapeSet.Settles inUserInfo :=
  EscapeSet.settles (by decide) (by decide +kernel)

theorem settles_inPath : EscapeSet.Settles inPath := fun b c mem =>
  (Bool.or_eq_false_iff.mp (settles_inUserInfo b c mem)).1

theorem settles_inFragment : EscapeSet.Settles inFragment := fun b c mem =>
  (Bool.or_eq_false_iff.mp (settles_inPath b c mem)).1

theorem settles_inSpecialQuery : EscapeSet.Settles inSpecialQuery :=
  EscapeSet.settles (by decide) (by decide +kernel)

/-- A character of an escaped text has been there before, or an octet has been
written with it. -/
theorem mem_escape {set : EscapeSet} {cs : List Char} {c : Char} (mem : c ∈ escape set cs) :
    (c ∈ cs ∧ set c = false) ∨ ∃ b, c ∈ escapeOctet b := by
  obtain ⟨d, there, mem⟩ := List.mem_flatMap.mp mem
  rw [escapeChar] at mem
  split at mem
  · obtain ⟨b, _, mem⟩ := List.mem_flatMap.mp mem
    exact .inr ⟨b, mem⟩
  · rename_i outside
    obtain rfl := List.mem_singleton.mp mem
    exact .inl ⟨there, Bool.eq_false_iff.mpr outside⟩

/-- Nothing of the set is left. -/
theorem escape_outside {set : EscapeSet} (settles : set.Settles) (cs : List Char) :
    ∀ c ∈ escape set cs, set c = false := by
  intro c mem
  obtain ⟨_, outside⟩ | ⟨b, octet⟩ := mem_escape mem
  · exact outside
  · exact settles b c octet

/-- What is outside a set is none of its characters. -/
theorem ne_of_outside {set : EscapeSet} {c d : Char} (outside : set c = false)
    (inside : set d = true) : c ≠ d := by
  rintro rfl
  rw [outside] at inside
  cases inside

/-- All characters that are neither control characters nor spaces are visible. -/
theorem visible_of_controls {c : Char} (control : controls c = false) (space : c ≠ ' ') :
    0x20 < c.toNat := by
  rw [controls, Bool.or_eq_false_iff, decide_eq_false_iff_not] at control
  have other : c.toNat ≠ 0x20 := fun same => space (by rw [← Char.ofNat_toNat c, same])
  omega

theorem visible_of_inFragment {c : Char} (h : inFragment c = false) : 0x20 < c.toNat := by
  have control := (Bool.or_eq_false_iff.mp h).1
  exact visible_of_controls control (ne_of_outside h (by decide))

theorem visible_of_inSpecialQuery {c : Char} (h : inSpecialQuery c = false) : 0x20 < c.toNat := by
  have control := (Bool.or_eq_false_iff.mp (Bool.or_eq_false_iff.mp h).1).1
  exact visible_of_controls control (ne_of_outside h (by decide))

end LearningClient.Url
