import LearningClient.Proofs.Text.Ascii
import LearningClient.Proofs.Text.Digits
import LearningClient.Proofs.Text.Trimming

/-!
# How numbers are spelled

What the readers of numbers accept, said without them. A number without a
minus sign is a run of digits, perhaps behind a plus sign (`SpellsUnsigned`); a
signed one may have either sign in front (`Spells`). Each reader finds the
number that is spelled and no other (`readUnsigned?_eq_some`,
`readSigned?_eq_some`). A parameter that is a number may have blanks around it,
and the number has to fit into 64 bits (`IsNumber`).
-/

namespace LearningClient.Text

/-- One or more digits, and nothing else. -/
structure IsRun (cs : List Char) : Prop where
  full : cs ≠ []
  digits : ∀ c ∈ cs, c.isDigit = true

/-- A text spells a number that is not below zero: a run of digits, with or
without a plus sign in front. -/
inductive SpellsUnsigned : List Char → Nat → Prop
  | bare {ds : List Char} (run : IsRun ds) : SpellsUnsigned ds (ofDigits ds)
  | plus {ds : List Char} (run : IsRun ds) : SpellsUnsigned ('+' :: ds) (ofDigits ds)

/-- A text spells a whole number: a run of digits, with or without a sign in
front. -/
inductive Spells : List Char → Int → Prop
  | bare {ds : List Char} (run : IsRun ds) : Spells ds (ofDigits ds)
  | plus {ds : List Char} (run : IsRun ds) : Spells ('+' :: ds) (ofDigits ds)
  | minus {ds : List Char} (run : IsRun ds) : Spells ('-' :: ds) (-(ofDigits ds : Int))

/-- A text between blanks that spells a number of 64 bits. -/
structure IsNumber (text : String) (n : Int) : Prop where
  spells : Spells (trim text.toList) n
  low : int64Min ≤ n
  high : n ≤ int64Max

theorem readDigits?_eq_some {cs : List Char} {n : Nat} :
    readDigits? cs = some n ↔ IsRun cs ∧ n = ofDigits cs := by
  unfold readDigits?
  split
  · rename_i other
    refine ⟨nofun, fun ⟨run, _⟩ => ?_⟩
    rw [Bool.or_eq_true, List.isEmpty_iff, Bool.not_eq_true', List.all_eq_false] at other
    rcases other with empty | ⟨c, mem, odd⟩
    · exact absurd empty run.full
    · exact absurd (run.digits c mem) odd
  · rename_i only
    rw [Bool.or_eq_true, List.isEmpty_iff, Bool.not_eq_true', not_or, Bool.not_eq_false,
      List.all_eq_true] at only
    exact ⟨fun h => ⟨⟨only.1, only.2⟩, (Option.some.inj h).symm⟩, fun ⟨_, h⟩ => by rw [h]⟩

/-- What is written in decimal is a run of digits. -/
theorem isRun_natText (n : Nat) : IsRun (natText n) where
  full := natText_ne_nil n
  digits _ mem := isDigit_of_mem_natText mem

theorem not_isBlank_of_isDigit {c : Char} (digit : c.isDigit = true) : isBlank c = false := by
  have ascii : c.toNat < 0x80 := toNat_lt_of_isAlphanum (Bool.or_eq_true_iff.mpr (.inr digit))
  exact forall_ascii (P := fun c => c.isDigit = true → isBlank c = false) (by decide +kernel)
    ascii digit

/-- There are no blanks in a run of digits. -/
theorem IsRun.trim_eq_self {ds : List Char} (run : IsRun ds) : trim ds = ds :=
  dropWhile_ends_eq_self fun c mem => not_isBlank_of_isDigit (run.digits c mem)

/-- A sign is no digit. -/
theorem IsRun.head {c : Char} {ds : List Char} (run : IsRun (c :: ds)) : c ≠ '-' ∧ c ≠ '+' := by
  have digit := run.digits c List.mem_cons_self
  constructor
  · rintro rfl
    exact absurd digit (by decide)
  · rintro rfl
    exact absurd digit (by decide)

/-- The reader finds the number that is spelled. -/
theorem readUnsigned?_eq_some {cs : List Char} {n : Nat} :
    readUnsigned? cs = some n ↔ SpellsUnsigned cs n := by
  constructor
  · intro read
    unfold readUnsigned? at read
    split at read
    · obtain ⟨run, rfl⟩ := readDigits?_eq_some.mp read
      exact .plus run
    · obtain ⟨run, rfl⟩ := readDigits?_eq_some.mp read
      exact .bare run
  · intro h
    cases h with
    | plus run => exact readDigits?_eq_some.mpr ⟨run, rfl⟩
    | bare run =>
      have read := readDigits?_eq_some.mpr ⟨run, rfl⟩
      unfold readUnsigned?
      split
      · exact absurd rfl run.head.2
      · exact read

/-- A text spells one number only. -/
theorem SpellsUnsigned.unique {cs : List Char} {m n : Nat} (h : SpellsUnsigned cs m)
    (h' : SpellsUnsigned cs n) : m = n :=
  Option.some.inj ((readUnsigned?_eq_some.mpr h).symm.trans (readUnsigned?_eq_some.mpr h'))

/-- What spells a whole number spells it without a sign, or has a minus sign
in front. -/
theorem spells_iff {cs : List Char} {k : Int} :
    Spells cs k ↔
      (∃ n, SpellsUnsigned cs n ∧ k = (n : Int)) ∨
        ∃ ds, cs = '-' :: ds ∧ IsRun ds ∧ k = -(ofDigits ds : Int) := by
  constructor
  · intro h
    cases h with
    | bare run => exact .inl ⟨_, .bare run, rfl⟩
    | plus run => exact .inl ⟨_, .plus run, rfl⟩
    | minus run => exact .inr ⟨_, rfl, run, rfl⟩
  · rintro (⟨n, spells, rfl⟩ | ⟨ds, rfl, run, rfl⟩)
    · cases spells with
      | bare run => exact .bare run
      | plus run => exact .plus run
    · exact .minus run

/-- A minus sign is not part of an unsigned number. -/
theorem not_spellsUnsigned_minus {ds : List Char} {n : Nat} : ¬ SpellsUnsigned ('-' :: ds) n := by
  rintro ⟨run⟩
  exact absurd rfl run.head.1

/-- A number without a sign, read as a whole number. -/
theorem bind_cast_eq_some {o : Option Nat} {n : Int} :
    (do let m ← o; pure (m : Int)) = some n ↔ ∃ m, o = some m ∧ (m : Int) = n := by
  cases o <;> simp [bind, pure]

/-- The reader of signed numbers finds the number that is spelled, too. -/
theorem readSigned?_eq_some {cs : List Char} {n : Int} :
    readSigned? cs = some n ↔ Spells cs n := by
  rw [spells_iff]
  unfold readSigned?
  split
  · rename_i ds
    constructor
    · intro read
      obtain ⟨_, cast, rfl⟩ := Option.map_eq_some_iff.mp read
      obtain ⟨m, digits, rfl⟩ := bind_cast_eq_some.mp cast
      obtain ⟨run, rfl⟩ := readDigits?_eq_some.mp digits
      exact .inr ⟨ds, rfl, run, rfl⟩
    · rintro (⟨m, spells, _⟩ | ⟨_, same, run, rfl⟩)
      · exact absurd spells not_spellsUnsigned_minus
      · obtain rfl := (List.cons.inj same).2
        have digits := readDigits?_eq_some.mpr ⟨run, rfl⟩
        exact Option.map_eq_some_iff.mpr ⟨_, bind_cast_eq_some.mpr ⟨_, digits, rfl⟩, rfl⟩
  · rename_i signless
    constructor
    · intro read
      obtain ⟨_, cast, rfl⟩ := Option.map_eq_some_iff.mp read
      obtain ⟨m, unsigned, rfl⟩ := bind_cast_eq_some.mp cast
      exact .inl ⟨m, readUnsigned?_eq_some.mp unsigned, rfl⟩
    · rintro (⟨m, spells, rfl⟩ | ⟨ds, minus, _⟩)
      · have unsigned := readUnsigned?_eq_some.mpr spells
        exact Option.map_eq_some_iff.mpr ⟨_, bind_cast_eq_some.mpr ⟨m, unsigned, rfl⟩, rfl⟩
      · exact absurd minus (signless ds)

/-- A parameter that is a number is read as that number. -/
theorem readInt64?_eq_some {text : String} {n : Int} :
    readInt64? (trim text.toList) = some n ↔ IsNumber text n := by
  rw [readInt64?, Option.filter_eq_some_iff, readSigned?_eq_some, isInt64, Bool.and_eq_true,
    decide_eq_true_eq, decide_eq_true_eq]
  exact ⟨fun ⟨spells, low, high⟩ => ⟨spells, low, high⟩, fun h => ⟨h.spells, h.low, h.high⟩⟩

/-- A text spells one number only. -/
theorem Spells.unique {cs : List Char} {k l : Int} (h : Spells cs k) (h' : Spells cs l) : k = l :=
  Option.some.inj ((readSigned?_eq_some.mpr h).symm.trans (readSigned?_eq_some.mpr h'))

theorem IsNumber.ne_empty {text : String} {n : Int} (h : IsNumber text n) : text ≠ "" := by
  rintro rfl
  have none : readInt64? (trim "".toList) = none := by decide +kernel
  cases none.symm.trans (readInt64?_eq_some.mpr h)

end LearningClient.Text
