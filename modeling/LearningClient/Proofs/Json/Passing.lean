import LearningClient.Json.Skip
import LearningClient.Proofs.Json.AsWritten

/-!
# Passing over a value

Whatever can be read can be passed over, and the same is left of the document
(`skipValue_of_readAsWritten`). Passing over asks for less: so it is first shown
of the tokens, texts and numbers, and then of brackets.

The one reader calls itself for what is inside a bracket, and the other keeps a
list of the brackets that are open and counts its rounds. They are compared
from one value to the next: wherever the loop stands before a value that can be
read, it comes to stand behind it, with the same brackets open and with rounds
enough for what is left (`Passed`).
-/

namespace LearningClient.Json

open LearningClient.Text

/-! ## Tokens -/

theorem skipBlanks_length (cs : List Char) : (skipBlanks cs).length ≤ cs.length :=
  (List.dropWhile_sublist _).length_le

theorem skipBlanks_skipBlanks (cs : List Char) : skipBlanks (skipBlanks cs) = skipBlanks cs := by
  unfold skipBlanks
  induction cs with
  | nil => rfl
  | cons c cs ih =>
    rw [List.dropWhile_cons]
    split
    · exact ih
    · rename_i notBlank
      rw [List.dropWhile_cons, if_neg notBlank]

theorem readWord_length {word cs rest : List Char} (h : readWord word cs = .ok rest) :
    rest.length + word.length = cs.length := by
  fun_induction readWord word cs with
  | case1 cs => cases h; rfl
  | case3 w ws cs ih => rw [List.length_cons, List.length_cons, ← ih h, Nat.add_assoc]
  | _ => cases h

theorem skipString_number {a b c d : Char} {n : Nat} (digits : hex4? a b c d = some n)
    (cs : List Char) : skipString ('\\' :: 'u' :: a :: b :: c :: d :: cs) = skipString cs := by
  rw [skipString, digits]

/-- A text that can be read can be passed over. -/
theorem skipString_of_readString {done cs s rest : List Char}
    (h : readString done cs = .ok (s, rest)) : skipString cs = .ok rest := by
  fun_induction readString done cs with
  | case2 => cases h; rfl
  | case7 _ _ _ _ _ _ digits _ _ _ _ _ _ _ _ digits' _ ih =>
    rw [skipString_number digits, skipString_number digits', ih h]
  | case10 _ _ _ _ _ _ _ digits _ _ ih => rw [skipString_number digits, ih h]
  | case12 _ _ _ more notNumber _ letter ih =>
    rw [skipString, letter]
    · exact ih h
    · exact more
    · exact notNumber
  | case15 _ _ _ notQuote alone number number' letter notControl ih =>
    rw [skipString, if_neg notControl]
    · exact ih h
    · exact notQuote
    · exact alone
    · exact number
    · exact number'
    · exact letter
  | _ => cases h

theorem skipString_length {cs rest : List Char} (h : skipString cs = .ok rest) :
    rest.length < cs.length := by
  fun_induction skipString cs with
  | case2 => cases h; exact Nat.lt_succ_self _
  | case4 _ _ _ _ _ _ _ ih =>
    have shorter := ih h
    simp only [List.length_cons]
    omega
  | case7 _ _ _ _ _ _ ih =>
    have shorter := ih h
    simp only [List.length_cons]
    omega
  | case10 _ _ _ _ _ _ _ _ ih => exact Nat.lt_succ_of_lt (ih h)
  | _ => cases h

/-! ## Numbers -/

/-- What is gathered are digits at the front. -/
theorem gather_eq (n count : Nat) (cs : List Char) :
    ∃ ds, cs = ds ++ (gather n count cs).2.2 ∧ (∀ d ∈ ds, d.isDigit = true) ∧
      (gather n count cs).2.1 = count + ds.length := by
  fun_induction gather n count cs with
  | case1 => exact ⟨[], rfl, by simp, rfl⟩
  | case2 n count c cs fits ih =>
    obtain ⟨ds, whole, digits, total⟩ := ih
    rw [Bool.and_eq_true] at fits
    refine ⟨c :: ds, by rw [List.cons_append, ← whole], ?_, ?_⟩
    · intro d mem
      rcases List.mem_cons.mp mem with rfl | mem
      · exact fits.1
      · exact digits d mem
    · rw [total, List.length_cons]
      omega
  | case3 => exact ⟨[], rfl, by simp, rfl⟩

theorem dropWhile_gather (n count : Nat) (cs : List Char) :
    (gather n count cs).2.2.dropWhile Char.isDigit = cs.dropWhile Char.isDigit := by
  obtain ⟨ds, whole, digits, _⟩ := gather_eq n count cs
  conv_rhs => rw [whole, List.dropWhile_append_of_pos digits]

theorem ofParts_rest {negative : Bool} {digits : Nat} {e : Int} {cs rest : List Char} {n : Number}
    (h : ofParts negative digits e cs = .ok (n, rest)) : rest = cs := by
  rw [ofParts] at h
  split at h
  · cases h; rfl
  · cases h

theorem readExponentDigits_some {n k : Nat} {cs rest : List Char}
    (h : readExponentDigits n cs = (some k, rest)) : rest = cs.dropWhile Char.isDigit := by
  fun_induction readExponentDigits n cs with
  | case1 => cases h; rfl
  | case2 => cases h
  | case3 n c cs digit _ ih => rw [List.dropWhile_cons_of_pos digit, ih h]
  | case4 n c cs notDigit => cases h; rw [List.dropWhile_cons_of_neg notDigit]

/-- An exponent that is too long ends behind the digit that made it so. -/
theorem readExponentDigits_none {n : Nat} {cs rest : List Char}
    (h : readExponentDigits n cs = (none, rest)) :
    rest.dropWhile Char.isDigit = cs.dropWhile Char.isDigit := by
  fun_induction readExponentDigits n cs with
  | case1 => cases h
  | case2 n c cs digit => cases h; rw [List.dropWhile_cons_of_pos digit]
  | case3 n c cs digit _ ih => rw [List.dropWhile_cons_of_pos digit, ih h]
  | case4 => cases h

/-- A document without a sign at its front. -/
def withoutSign : List Char → List Char
  | '+' :: cs => cs
  | '-' :: cs => cs
  | cs => cs

theorem withoutSign_eq_self {cs : List Char} (plus : ∀ r, cs ≠ '+' :: r)
    (minus : ∀ r, cs ≠ '-' :: r) : withoutSign cs = cs := by
  fun_cases withoutSign cs with
  | case1 r => exact absurd rfl (plus r)
  | case2 r => exact absurd rfl (minus r)
  | case3 => rfl

theorem skipExponent_eq (cs : List Char) :
    skipExponent cs =
      if startsWithDigit (withoutSign cs) then .ok ((withoutSign cs).dropWhile Char.isDigit)
      else .error (.next .invalidNumber (withoutSign cs)) := rfl

theorem skipExponent_of_readExponent {negative : Bool} {digits : Nat} {e : Int}
    {cs rest : List Char} {n : Number} (h : readExponent negative digits e cs = .ok (n, rest)) :
    skipExponent cs = .ok rest := by
  unfold readExponent at h
  split at h
  rename_i down ds signed
  have unsigned : withoutSign cs = ds := by
    split at signed
    · cases signed; rfl
    · cases signed; rfl
    · rename_i plus minus
      cases signed
      exact withoutSign_eq_self plus minus
  rw [skipExponent_eq, unsigned]
  cases ds with
  | nil => cases h
  | cons c ds =>
    simp only at h
    split at h
    · cases h
    rename_i digit
    have starts : startsWithDigit (c :: ds) = true := by
      rw [Bool.not_eq_true, Bool.not_eq_false'] at digit
      exact digit
    rw [if_pos starts]
    split at h
    · rename_i read
      rw [ofParts_rest h, readExponentDigits_some read]
    · rename_i read
      split at h
      · cases h
      · cases h
        rw [readExponentDigits_none read]

theorem dropWhile_isDigit_length {cs : List Char} (h : startsWithDigit cs = true) :
    (cs.dropWhile Char.isDigit).length < cs.length := by
  cases cs with
  | nil => cases h
  | cons c cs =>
    have digit : c.isDigit = true := h
    rw [List.dropWhile_cons_of_pos digit]
    exact Nat.lt_succ_of_le (List.dropWhile_sublist _).length_le

theorem skipExponent_length {cs rest : List Char} (h : skipExponent cs = .ok rest) :
    rest.length < cs.length := by
  rw [skipExponent_eq] at h
  have unsigned : (withoutSign cs).length ≤ cs.length := by
    fun_cases withoutSign cs with
    | case1 => exact Nat.le_succ _
    | case2 => exact Nat.le_succ _
    | case3 => exact Nat.le_refl _
  split at h
  · rename_i starts
    cases h
    exact Nat.lt_of_lt_of_le (dropWhile_isDigit_length starts) unsigned
  · cases h

theorem dropWhile_eq_self {cs : List Char} (h : startsWithDigit cs = false) :
    cs.dropWhile Char.isDigit = cs := by
  cases cs with
  | nil => rfl
  | cons c cs =>
    apply List.dropWhile_cons_of_neg
    rw [Bool.not_eq_true]
    exact h

theorem wholeNumber_rest {negative : Bool} {digits : Nat} {cs rest : List Char} {n : Number}
    (h : wholeNumber negative digits cs = .ok (n, rest)) : rest = cs := by
  rw [wholeNumber] at h
  split at h
  · cases h; rfl
  split at h
  · exact ofParts_rest h
  · cases h; rfl

theorem skipFraction_of_readFraction {negative : Bool} {digits : Nat} {e : Int}
    {cs rest : List Char} {n : Number} (h : readFraction negative digits e cs = .ok (n, rest)) :
    skipFraction cs = .ok rest := by
  obtain ⟨ds, whole, areDigits, count⟩ := gather_eq digits 0 cs
  have left := dropWhile_gather digits 0 cs
  unfold readFraction at h
  generalize gather digits 0 cs = gathered at h whole count left
  obtain ⟨digits', count', left'⟩ := gathered
  simp only at h whole count left
  -- all digits are taken, whether they are gathered or not
  obtain ⟨starts, after⟩ : startsWithDigit cs = true ∧
      readAfterFraction negative digits' (e - count') (cs.dropWhile Char.isDigit) =
        .ok (n, rest) := by
    split at h
    · rename_i long
      rw [left] at h
      refine ⟨?_, h⟩
      cases ds with
      | nil => rwa [whole]
      | cons d ds => rw [whole]; exact areDigits d List.mem_cons_self
    · rename_i short
      split at h
      · cases h
      · rename_i some
        rw [Bool.not_eq_true] at short
        rw [dropWhile_eq_self short] at left
        refine ⟨?_, by rwa [← left]⟩
        cases ds with
        | nil => exact absurd count some
        | cons d ds => rw [whole]; exact areDigits d List.mem_cons_self
  rw [skipFraction, starts]
  simp only [Bool.not_true, Bool.false_eq_true, if_false]
  generalize cs.dropWhile Char.isDigit = tail at after ⊢
  split
  · exact skipExponent_of_readExponent after
  · exact skipExponent_of_readExponent after
  · rename_i lower upper
    rw [readAfterFraction] at after
    · rw [ofParts_rest after]
    · exact lower
    · exact upper

/-- A number that can be read can be passed over. -/
theorem skipNumber_of_readNumber {negative : Bool} {cs rest : List Char} {n : Number}
    (h : readNumber negative cs = .ok (n, rest)) : skipNumber cs = .ok rest := by
  cases cs with
  | nil => cases h
  | cons c cs =>
    have left := dropWhile_gather 0 0 (c :: cs)
    rw [readNumber] at h
    rw [skipNumber]
    split at h
    · cases h
    split at h
    · cases h
    rename_i digit lead
    rw [if_neg digit, if_neg lead]
    generalize gather 0 0 (c :: cs) = gathered at h left
    obtain ⟨digits', count', left'⟩ := gathered
    simp only at h left
    rw [left] at h
    generalize (c :: cs).dropWhile Char.isDigit = tail at h ⊢
    split
    · exact skipFraction_of_readFraction h
    · exact skipExponent_of_readExponent h
    · exact skipExponent_of_readExponent h
    · rename_i point lower upper
      split at h
      · exact absurd rfl (point _)
      · exact absurd rfl (lower _)
      · exact absurd rfl (upper _)
      · split at h
        · rw [ofParts_rest h]
        · rw [wholeNumber_rest h]

theorem skipFraction_length {cs rest : List Char} (h : skipFraction cs = .ok rest) :
    rest.length < cs.length := by
  rw [skipFraction] at h
  split at h
  · cases h
  rename_i starts
  have shorter := dropWhile_isDigit_length (by simpa using starts)
  split at h
  · rename_i tail
    have exponent := skipExponent_length h
    rw [tail, List.length_cons] at shorter
    omega
  · rename_i tail
    have exponent := skipExponent_length h
    rw [tail, List.length_cons] at shorter
    omega
  · cases h
    exact shorter

theorem skipNumber_length {cs rest : List Char} (h : skipNumber cs = .ok rest) :
    rest.length < cs.length := by
  cases cs with
  | nil => cases h
  | cons c cs =>
    rw [skipNumber] at h
    split at h
    · cases h
    rename_i starts
    split at h
    · cases h
    have shorter : ((c :: cs).dropWhile Char.isDigit).length < (c :: cs).length :=
      dropWhile_isDigit_length (by simpa [startsWithDigit] using starts)
    split at h
    · rename_i tail
      have fraction := skipFraction_length h
      rw [tail, List.length_cons] at shorter
      omega
    · rename_i tail
      have exponent := skipExponent_length h
      rw [tail, List.length_cons] at shorter
      omega
    · rename_i tail
      have exponent := skipExponent_length h
      rw [tail, List.length_cons] at shorter
      omega
    · cases h
      exact shorter

/-! ## Brackets -/

/-- Where the loop stands inside a bracket: behind the bracket, or behind an
item or member. -/
def reached (first : Bool) : Skipping := if first then .opened else .done

section
variable {first : Bool} {outer : List Bracket} {cs r cs₂ cs₃ name : List Char}

theorem skipFront_skipBlanks (cs : List Char) : skipFront (skipBlanks cs) = skipFront cs := by
  rw [skipFront, skipBlanks_skipBlanks]
  rfl

theorem skipLoop_skipBlanks (rounds : Nat) (outer : List Bracket) (cs : List Char) :
    skipLoop (rounds + 1) outer .value (skipBlanks cs) = skipLoop (rounds + 1) outer .value cs := by
  rw [skipLoop, skipLoop, skipFront_skipBlanks]

theorem skipLoop_item (next : nextItem first cs = .ok (.more r)) (rounds : Nat) :
    skipLoop (rounds + 2) (.list :: outer) (reached first) cs =
      skipLoop (rounds + 1) (.list :: outer) .value r := by
  obtain ⟨c, t, rfl, more, ⟨rfl, front⟩ | ⟨rfl, u, front, item⟩⟩ := nextItem_eq_more next
  · show skipLoop (rounds + 2) _ .opened cs = _
    conv_lhs => rw [skipLoop, front]
    have goesOn : ¬ c = Bracket.list.close := more
    exact if_neg goesOn
  · rw [← item, skipLoop_skipBlanks]
    show skipLoop (rounds + 2) _ .done cs = _
    conv_lhs => rw [skipLoop, front]
    rfl

theorem skipLoop_lastItem (next : nextItem first cs = .ok (.close r)) (rounds : Nat) :
    skipLoop (rounds + 1) (.list :: outer) (reached first) cs =
      skipLoop rounds outer .done r.tail := by
  obtain ⟨t, front, rfl⟩ := nextItem_eq_close next
  cases first with
  | true =>
    show skipLoop (rounds + 1) _ .opened cs = _
    rw [skipLoop, front]
    rfl
  | false =>
    show skipLoop (rounds + 1) _ .done cs = _
    rw [skipLoop, front]
    rfl

theorem skipName_of_readString {t : List Char} (quote : skipBlanks cs = '"' :: t)
    (named : readString [] t = .ok (name, cs₂)) (colon : readColon cs₂ = .ok cs₃) :
    skipName cs = .ok cs₃ := by
  rw [skipName, quote]
  show skipString t >>= readColon = _
  rw [skipString_of_readString named]
  exact colon

theorem skipLoop_member (next : nextMember first cs = .ok (.more r))
    (named : readString [] r.tail = .ok (name, cs₂)) (colon : readColon cs₂ = .ok cs₃)
    (rounds : Nat) :
    skipLoop (rounds + 1) (.object :: outer) (reached first) cs =
      skipLoop rounds (.object :: outer) .value cs₃ := by
  obtain ⟨t, rfl, ⟨rfl, front⟩ | ⟨rfl, u, front, quote⟩⟩ := nextMember_eq_more next
  · have name : skipName ('"' :: t) = .ok cs₃ := skipName_of_readString rfl named colon
    show skipLoop (rounds + 1) _ .opened cs = _
    rw [skipLoop, front]
    show skipName ('"' :: t) >>= _ = _
    rw [name]
    rfl
  · have name : skipName u = .ok cs₃ := skipName_of_readString quote named colon
    show skipLoop (rounds + 1) _ .done cs = _
    rw [skipLoop, front]
    show skipName u >>= _ = _
    rw [name]
    rfl

theorem skipLoop_lastMember (next : nextMember first cs = .ok (.close r)) (rounds : Nat) :
    skipLoop (rounds + 1) (.object :: outer) (reached first) cs =
      skipLoop rounds outer .done r.tail := by
  obtain ⟨t, front, rfl⟩ := nextMember_eq_close next
  cases first with
  | true =>
    show skipLoop (rounds + 1) _ .opened cs = _
    rw [skipLoop, front]
    rfl
  | false =>
    show skipLoop (rounds + 1) _ .done cs = _
    rw [skipLoop, front]
    rfl

/-! ## How much is left -/

theorem length_of_skipBlanks {c : Char} {t : List Char} (front : skipBlanks cs = c :: t) :
    t.length < cs.length := by
  have shorter := skipBlanks_length cs
  rw [front, List.length_cons] at shorter
  exact shorter

theorem readColon_length (h : readColon cs = .ok r) : r.length < cs.length := by
  rw [readColon] at h
  split at h
  · cases h
  · rename_i t front
    cases h
    exact length_of_skipBlanks front
  · cases h

theorem closing_length {c : Char} {t : List Char} (front : skipBlanks cs = c :: t ∧ r = c :: t) :
    r.tail.length < cs.length := by
  rw [front.2]
  exact length_of_skipBlanks front.1

/-- Nothing is taken in front of a first item or member, and a comma in front of
any other. -/
theorem opening_length
    (front : first = true ∧ skipBlanks cs = r ∨
      first = false ∧ ∃ u, skipBlanks cs = ',' :: u ∧ skipBlanks u = r) :
    r.length + 1 ≤ cs.length + first.toNat := by
  obtain ⟨rfl, rfl⟩ | ⟨rfl, u, comma, rfl⟩ := front
  · exact Nat.succ_le_succ (skipBlanks_length cs)
  · exact Nat.succ_le_of_lt (Nat.lt_of_le_of_lt (skipBlanks_length u) (length_of_skipBlanks comma))

end

/-! ## From one value to the next -/

/-- The loop gets from where it stands to behind a value, with the brackets
`outer` open. There it has two rounds for each character that is left, and one
more. -/
def Passed (rounds : Nat) (inside : List Bracket) (stands : Skipping) (cs : List Char)
    (outer : List Bracket) (rest : List Char) : Prop :=
  ∃ rounds', 2 * rest.length + 1 ≤ rounds' ∧
    skipLoop rounds inside stands cs = skipLoop rounds' outer .done rest

/-- A value can be passed over with that many rounds for what is left in front
of it. -/
def Passable (cs rest : List Char) : Prop :=
  rest.length ≤ cs.length ∧ ∀ outer rounds, 2 * cs.length + 1 ≤ rounds →
    Passed rounds outer .value cs outer rest

/-- A reader whose values can be passed over. -/
def Passes (one : Reader Value) : Prop :=
  ∀ {cs v rest}, one cs = .ok (v, rest) → Passable cs rest

section
variable {one : Reader Value} {first : Bool} {cs rest : List Char}

/-- An open array can be passed over up to its end. -/
theorem passed_items {vs : List Value} (passes : Passes one) (h : Items one first cs vs rest)
    (outer : List Bracket) {rounds : Nat}
    (enough : 2 * cs.length + 1 + first.toNat ≤ rounds) :
    rest.length ≤ cs.length ∧
      Passed rounds (.list :: outer) (reached first) cs outer rest := by
  induction h generalizing rounds with
  | close next =>
    obtain ⟨t, front⟩ := nextItem_eq_close next
    have shorter := closing_length front
    obtain ⟨rounds, rfl⟩ : ∃ k, rounds = k + 1 := ⟨rounds - 1, by omega⟩
    exact ⟨by omega, rounds, by omega, skipLoop_lastItem next rounds⟩
  | @more first _ _ _ _ _ _ next item others ih =>
    obtain ⟨c, t, -, -, front⟩ := nextItem_eq_more next
    have shorter := opening_length front
    have atMostOne := Bool.toNat_le first
    obtain ⟨shorter₂, value⟩ := passes item
    obtain ⟨rounds, rfl⟩ : ∃ k, rounds = k + 2 := ⟨rounds - 2, by omega⟩
    obtain ⟨rounds₂, enough₂, loop₂⟩ :=
      value (.list :: outer) (rounds + 1) (by omega)
    obtain ⟨shorter₃, rounds₃, enough₃, loop₃⟩ := ih enough₂
    exact ⟨by omega, rounds₃, enough₃, ((skipLoop_item next rounds).trans loop₂).trans loop₃⟩

/-- So can an open object. -/
theorem passed_members {ms : Members} (passes : Passes one) (h : MembersOf one first cs ms rest)
    (outer : List Bracket) {rounds : Nat} (enough : 2 * cs.length + 1 ≤ rounds) :
    rest.tail.length ≤ cs.length ∧
      Passed rounds (.object :: outer) (reached first) cs outer rest.tail := by
  induction h generalizing rounds with
  | close next =>
    obtain ⟨t, front⟩ := nextMember_eq_close next
    have shorter := closing_length front
    obtain ⟨rounds, rfl⟩ : ∃ k, rounds = k + 1 := ⟨rounds - 1, by omega⟩
    exact ⟨by omega, rounds, by omega, skipLoop_lastMember next rounds⟩
  | @more first _ _ _ _ _ _ _ _ _ next named colon value others ih =>
    obtain ⟨t, rfl, front⟩ := nextMember_eq_more next
    have shorter := opening_length front
    have atMostOne := Bool.toNat_le first
    have shorter₂ := skipString_length (skipString_of_readString named)
    have shorter₃ := readColon_length colon
    simp only [List.length_cons, List.tail_cons] at shorter shorter₂
    obtain ⟨shorter₄, value⟩ := passes value
    obtain ⟨rounds, rfl⟩ : ∃ k, rounds = k + 1 := ⟨rounds - 1, by omega⟩
    obtain ⟨rounds₄, enough₄, loop₄⟩ := value (.object :: outer) rounds (by omega)
    obtain ⟨shorter₅, rounds₅, enough₅, loop₅⟩ := ih enough₄
    exact ⟨by omega, rounds₅, enough₅,
      ((skipLoop_member next named colon rounds).trans loop₄).trans loop₅⟩

end

section
variable {cs rest : List Char} {b : Bracket}

theorem skipLoop_whole (h : skipFront cs = .ok (.whole rest)) (rounds : Nat)
    (outer : List Bracket) :
    skipLoop (rounds + 1) outer .value cs = skipLoop rounds outer .done rest := by
  rw [skipLoop, h]
  rfl

theorem skipLoop_opens (h : skipFront cs = .ok (.opens b rest)) (rounds : Nat)
    (outer : List Bracket) :
    skipLoop (rounds + 1) outer .value cs = skipLoop rounds (b :: outer) .opened rest := by
  rw [skipLoop, h]
  rfl

/-- A value without brackets is passed over in one round. -/
theorem passed_token (shorter : rest.length < (skipBlanks cs).length)
    (whole : skipFront (skipBlanks cs) = .ok (.whole rest)) :
    Passable cs rest := by
  have blanks := skipBlanks_length cs
  refine ⟨by omega, fun outer rounds enough => ?_⟩
  obtain ⟨rounds, rfl⟩ : ∃ k, rounds = k + 1 := ⟨rounds - 1, by omega⟩
  rw [skipFront_skipBlanks] at whole
  exact ⟨rounds, by omega, skipLoop_whole whole rounds outer⟩

/-- One with brackets is passed over if what is inside them is. -/
theorem passed_bracket {t : List Char} (front : skipBlanks cs = t)
    (opens : ∃ c inside, t = c :: inside ∧ skipFront t = .ok (.opens b inside) ∧
      ∀ outer rounds, 2 * inside.length + 2 ≤ rounds → rest.length ≤ inside.length ∧
        Passed rounds (b :: outer) .opened inside outer rest) :
    Passable cs rest := by
  obtain ⟨c, inside, rfl, bracket, passed⟩ := opens
  have shorter := length_of_skipBlanks front
  rw [← front, skipFront_skipBlanks] at bracket
  have shorter₂ := (passed [] _ (Nat.le_refl _)).1
  refine ⟨by omega, fun outer rounds enough => ?_⟩
  obtain ⟨rounds, rfl⟩ : ∃ k, rounds = k + 1 := ⟨rounds - 1, by omega⟩
  obtain ⟨-, rounds₂, enough₂, loop₂⟩ := passed outer rounds (by omega)
  exact ⟨rounds₂, enough₂, (skipLoop_opens bracket rounds outer).trans loop₂⟩

end

/-- Whatever can be read can be passed over, wherever it stands. -/
theorem passes_readAsWritten (depth : Nat) : Passes (readAsWritten depth) := by
  induction depth using Nat.strongRecOn with
  | ind depth ih =>
    intro cs v rest h
    have stands := stands_of_readAsWritten h
    generalize front : skipBlanks cs = t at stands
    have blanks : skipBlanks t = t := by rw [← front, skipBlanks_skipBlanks]
    -- what a word or a number leaves is shorter than what it stands in front of
    have word : ∀ {c : Char} {word t' : List Char}, t = c :: t' → readWord word t' = .ok rest →
        skipFront t = .whole <$> readWord word t' →
        Passable cs rest := by
      intro c word t' whole read same
      subst whole
      have shorter := readWord_length read
      rw [read] at same
      exact passed_token (by rw [front, List.length_cons]; omega) (by rw [front]; exact same)
    have number : ∀ {t'}, t'.length ≤ t.length → skipNumber t' = .ok rest →
        skipFront t = .whole <$> skipNumber t' →
        Passable cs rest := by
      intro t' part read same
      have shorter := skipNumber_length read
      rw [read] at same
      exact passed_token (by rw [front]; omega) (by rw [front]; exact same)
    cases stands with
    | null read => exact word rfl read rfl
    | yes read => exact word rfl read rfl
    | no read => exact word rfl read rfl
    | str text =>
      have read := skipString_of_readString text
      have shorter := skipString_length read
      apply passed_token
      · rw [front, List.length_cons]
        omega
      · rw [front]
        show Front.whole <$> skipString _ = _
        rw [read]
        rfl
    | arr short inside =>
      exact passed_bracket front ⟨_, _, rfl, rfl, fun outer _ enough =>
        passed_items (ih _ (Nat.lt_succ_self _)) inside outer enough⟩
    | obj short inside =>
      exact passed_bracket front ⟨_, _, rfl, rfl, fun outer _ enough =>
        passed_members (ih _ (Nat.lt_succ_self _)) inside outer (by omega)⟩
    | negative read =>
      exact number (Nat.le_succ _) (skipNumber_of_readNumber read) rfl
    | number digit read =>
      apply number (Nat.le_refl _) (skipNumber_of_readNumber read)
      rw [skipFront, blanks]
      split <;> rename_i whole <;> cases whole
      case h_9.refl => exact if_pos digit
      -- nothing else that a value begins with is a digit
      all_goals exact absurd digit (by decide)

theorem skipValue_of_readAsWritten {depth : Nat} {cs rest : List Char} {v : Value}
    (h : readAsWritten depth cs = .ok (v, rest)) : skipValue cs = .ok rest := by
  obtain ⟨-, passes⟩ := passes_readAsWritten depth h
  obtain ⟨rounds, enough, loop⟩ := passes [] (2 * cs.length + 2) (Nat.le_succ _)
  obtain ⟨rounds, rfl⟩ : ∃ k, rounds = k + 1 := ⟨rounds - 1, by omega⟩
  rw [skipValue, loop, skipLoop]
  exact nofun

end LearningClient.Json
