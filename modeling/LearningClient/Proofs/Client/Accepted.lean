import LearningClient.Proofs.Client.Rules

/-!
# Which pages can be asked for

The texts that name a page are a list of skills and a count, and this module says
which they are, without a reader. A list of skills is `IsNumberList`. A count is
digits, perhaps behind a plus sign, for a number from one up to the largest of 64
bits (`IsCount`); blanks around it and zeros in front of it do not matter.

The rules look at a count as a number with either sign, so three kinds of texts
are told apart (`isNumber_iff`): counts, numbers that are too low for one (`IsLow`),
and all others, which are no numbers to the rules. Among these are the numbers of
more than 64 bits (`IsBeyond`). What a page is asked for by is a name of the page
again (`QuestionQuery.accepted_exactly`).
-/

namespace LearningClient

open LearningClient.Text

/-! ## Counts, and what is not a count -/

/-- A count as it may be written. -/
structure IsCount (text : String) (n : Nat) : Prop where
  spells : SpellsUnsigned (trim text.toList) n
  positive : 0 < n
  fits : n ≤ 0x7fffffffffffffff

/-- A number that is too low for a count: zero, or what has a minus sign in front
and fits into 64 bits. -/
inductive IsLow (text : String) : Prop
  | zero (spells : SpellsUnsigned (trim text.toList) 0)
  | minus {ds : List Char} (written : trim text.toList = '-' :: ds) (run : IsRun ds)
      (fits : ofDigits ds ≤ 0x8000000000000000)

/-- A number that does not fit into 64 bits. -/
inductive IsBeyond (text : String) : Prop
  | above {n : Nat} (spells : SpellsUnsigned (trim text.toList) n)
      (beyond : 0x7fffffffffffffff < n)
  | below {ds : List Char} (written : trim text.toList = '-' :: ds) (run : IsRun ds)
      (beyond : 0x8000000000000000 < ofDigits ds)

section
variable {text : String}

/-- Counts are the numbers above zero. -/
theorem isCount_iff {n : Nat} : IsCount text n ↔ 0 < n ∧ IsNumber text n := by
  constructor
  · intro h
    have fits := h.fits
    refine ⟨h.positive, spells_iff.mpr (.inl ⟨n, h.spells, rfl⟩), ?_, ?_⟩
    · rw [int64Min]
      omega
    · rw [int64Max]
      omega
  · rintro ⟨positive, spells, low, high⟩
    rcases spells_iff.mp spells with ⟨m, unsigned, same⟩ | ⟨ds, _, _, same⟩
    · obtain rfl := Int.ofNat.inj same
      refine ⟨unsigned, positive, ?_⟩
      rw [int64Max] at high
      omega
    · omega

/-- Numbers that are too low for a count are those that are not above zero. -/
theorem isLow_iff : IsLow text ↔ ∃ k ≤ 0, IsNumber text k := by
  constructor
  · rintro (spells | ⟨written, run, fits⟩)
    · exact ⟨0, Int.le_refl 0, spells_iff.mpr (.inl ⟨0, spells, rfl⟩), by decide, by decide⟩
    · refine ⟨-(ofDigits _ : Int), by omega, spells_iff.mpr (.inr ⟨_, written, run, rfl⟩), ?_, ?_⟩
      · rw [int64Min]
        omega
      · rw [int64Max]
        omega
  · rintro ⟨k, low, spells, least, _⟩
    rcases spells_iff.mp spells with ⟨n, unsigned, rfl⟩ | ⟨ds, written, run, rfl⟩
    · obtain rfl : n = 0 := by omega
      exact .zero unsigned
    · rw [int64Min] at least
      exact .minus written run (by omega)

/-- A number of 64 bits is a count, or too low for one. -/
theorem isNumber_iff : (∃ k, IsNumber text k) ↔ IsLow text ∨ ∃ n, IsCount text n := by
  constructor
  · rintro ⟨k, number⟩
    by_cases low : k ≤ 0
    · exact .inl (isLow_iff.mpr ⟨k, low, number⟩)
    · obtain ⟨n, rfl⟩ := Int.eq_ofNat_of_zero_le (Int.le_of_lt (Int.not_le.mp low))
      exact .inr ⟨n, isCount_iff.mpr ⟨Int.natCast_pos.mp (Int.not_le.mp low), number⟩⟩
  · rintro (low | ⟨n, count⟩)
    · obtain ⟨k, _, number⟩ := isLow_iff.mp low
      exact ⟨k, number⟩
    · exact ⟨n, (isCount_iff.mp count).2⟩

/-- What does not fit into 64 bits is no number of 64 bits, however it is read. -/
theorem IsBeyond.not_isNumber (h : IsBeyond text) : ¬ ∃ k, IsNumber text k := by
  rintro ⟨k, spells, low, high⟩
  rw [int64Min] at low
  rw [int64Max] at high
  rcases h with ⟨unsigned, beyond⟩ | ⟨written, run, beyond⟩
  · obtain rfl := spells.unique (spells_iff.mpr (.inl ⟨_, unsigned, rfl⟩))
    omega
  · obtain rfl := spells.unique (spells_iff.mpr (.inr ⟨_, written, run, rfl⟩))
    omega

/-- A count in decimal is a count. -/
theorem isCount_natText {n : Nat} (positive : 0 < n) (fits : n ≤ 0x7fffffffffffffff) :
    IsCount (String.ofList (natText n)) n where
  spells := by
    rw [String.toList_ofList, (isRun_natText n).trim_eq_self]
    have spells := SpellsUnsigned.bare (isRun_natText n)
    rwa [ofDigits_natText] at spells
  positive := positive
  fits := fits

end

/-! ## Pages -/

namespace QuestionQuery

variable {s n : String}

theorem ofTexts_eq_ok_iff {q : QuestionQuery} :
    ofTexts s n = .ok q ↔
      IsNumberList s ∧ IsCount n q.count ∧ q.skillIds = s ∧ q.startCursor = "" := by
  constructor
  · intro accepted
    obtain ⟨list, positive, number⟩ := spelled_of_ofTexts accepted
    obtain ⟨skills, start, _⟩ := ofTexts_eq_ok accepted
    exact ⟨list, isCount_iff.mpr ⟨positive, number⟩, skills, start⟩
  · obtain ⟨t, m, c⟩ := q
    rintro ⟨list, count, rfl, rfl⟩
    obtain ⟨positive, number⟩ := isCount_iff.mp count
    exact ofTexts_of_spelled list number (Int.natCast_pos.mpr positive)

theorem ofTexts_eq_error_iff {e : Failure} :
    ofTexts s n = .error e ↔
      ∃ text, FirstBroken (pageRules s n) text ∧ e = .validation text := by
  constructor
  · intro refused
    by_cases broken : ∃ text, FirstBroken (pageRules s n) text
    · obtain ⟨text, first⟩ := broken
      have told := ofTexts_of_firstBroken first
      rw [refused] at told
      exact ⟨text, first, Except.error.inj told⟩
    · -- parameters that break no rule are accepted
      have obeyed := obeyed_of_not_firstBroken _ (not_exists.mp broken)
      simp only [pageRules, List.forall_mem_cons, not_not] at obeyed
      obtain ⟨_, list, _, ⟨k, number⟩, positive, _⟩ := obeyed
      have pos : 0 < k := Int.not_le.mp fun low => positive ⟨k, low, number⟩
      cases refused.symm.trans (ofTexts_of_spelled list number pos)
  · rintro ⟨text, first, rfl⟩
    exact ofTexts_of_firstBroken first

/-- What is said of a count, once there is one and the list of skills is a list. -/
theorem firstBroken_of_list (list : IsNumberList s) (given : n ≠ "") {text : String} :
    FirstBroken (pageRules s n) text ↔
      (¬ ∃ k, IsNumber n k) ∧ text = "Question count has to be a number" ∨
        IsLow n ∧ text = "Question count has to be positive" := by
  have numeric : IsLow n → ∃ k, IsNumber n k := fun low => isNumber_iff.mpr (.inl low)
  simp only [pageRules, firstBroken_cons, not_firstBroken_nil, and_false, or_false, list.ne_empty,
    list, given, not_true_eq_false, not_false_eq_true, false_and, true_and, false_or, not_not,
    ← isLow_iff]
  refine or_congr_right ⟨And.right, fun h => ⟨numeric h.1, h⟩⟩

/-- Which texts name a page, and what is said of all others. For any text of skills
and any text of a count:

- they name a page exactly if the skills are a list of numbers and the count is
  spelled as one, and the page is the first one for these skills, as they are
  written, and for that count;
- they are refused exactly with what the first broken rule says, in the order of
  the rules;
- where there is a count and the skills are a list, a number that is too low is
  refused as not positive, and everything that is neither a count nor such a number
  as no number, what does not fit into 64 bits included;
- a page that they name is named by its own skills and its own count in decimal. -/
theorem accepted_exactly (s n : String) :
    (∀ q, ofTexts s n = .ok q ↔
      IsNumberList s ∧ IsCount n q.count ∧ q.skillIds = s ∧ q.startCursor = "") ∧
    (∀ e, ofTexts s n = .error e ↔
      ∃ text, FirstBroken (pageRules s n) text ∧ e = .validation text) ∧
    (IsNumberList s → n ≠ "" →
      (ofTexts s n = .error (.validation "Question count has to be positive") ↔ IsLow n) ∧
      (ofTexts s n = .error (.validation "Question count has to be a number") ↔
        ¬ IsLow n ∧ ∀ k, ¬ IsCount n k) ∧
      (IsBeyond n →
        ofTexts s n = .error (.validation "Question count has to be a number"))) ∧
    (∀ q, ofTexts s n = .ok q → ofTexts q.skillIds q.countText = .ok q) := by
  refine ⟨fun q => ofTexts_eq_ok_iff, fun e => ofTexts_eq_error_iff, ?_, ?_⟩
  · intro list given
    have positive :
        ofTexts s n = .error (.validation "Question count has to be positive") ↔ IsLow n := by
      simp [ofTexts_eq_error_iff, firstBroken_of_list list given]
    have number : ofTexts s n = .error (.validation "Question count has to be a number") ↔
        ¬ ∃ k, IsNumber n k := by
      simp [ofTexts_eq_error_iff, firstBroken_of_list list given]
    refine ⟨positive, ?_, fun beyond => number.mpr beyond.not_isNumber⟩
    rw [number, isNumber_iff, not_or, not_exists]
  · intro q accepted
    obtain ⟨list, count, rfl, start⟩ := ofTexts_eq_ok_iff.mp accepted
    exact ofTexts_eq_ok_iff.mpr ⟨list, isCount_natText count.positive count.fits, rfl, start⟩

/-- The largest count, behind blanks, a sign and zeros, and again as it is written
in decimal; the least number of 64 bits; and the number after the largest. -/
theorem accepted_exactly_at_limits :
    IsCount "\u3000+009223372036854775807 " 9223372036854775807 ∧
    ofTexts "1,22" "\u3000+009223372036854775807 " = .ok ⟨"1,22", 9223372036854775807, ""⟩ ∧
    ofTexts "1,22" "9223372036854775807" = .ok ⟨"1,22", 9223372036854775807, ""⟩ ∧
    ofTexts "1,22" "-9223372036854775808" =
      .error (.validation "Question count has to be positive") ∧
    ofTexts "1,22" "9223372036854775808" =
      .error (.validation "Question count has to be a number") := by
  have list : IsNumberList "1,22" := Parameter.isNumberList_iff.mp (by decide +kernel)
  have count : IsCount "\u3000+009223372036854775807 " 9223372036854775807 :=
    ⟨readUnsigned?_eq_some.mp (by decide +kernel), by omega, by omega⟩
  have low : IsLow "-9223372036854775808" :=
    isLow_iff.mpr ⟨-9223372036854775808, by omega, readInt64?_eq_some.mp (by decide +kernel)⟩
  have beyond : IsBeyond "9223372036854775808" :=
    .above (n := 9223372036854775808) (readUnsigned?_eq_some.mp (by decide +kernel)) (by omega)
  obtain ⟨accepted, _, _, again⟩ :=
    accepted_exactly "1,22" "\u3000+009223372036854775807 "
  obtain ⟨_, _, refusedLow, _⟩ := accepted_exactly "1,22" "-9223372036854775808"
  obtain ⟨_, _, refusedBeyond, _⟩ := accepted_exactly "1,22" "9223372036854775808"
  have largest := (accepted ⟨"1,22", 9223372036854775807, ""⟩).mpr ⟨list, count, rfl, rfl⟩
  exact ⟨count, largest, again _ largest, (refusedLow list (by decide)).1.mpr low,
    (refusedBeyond list (by decide)).2.2 beyond⟩

end QuestionQuery

end LearningClient
