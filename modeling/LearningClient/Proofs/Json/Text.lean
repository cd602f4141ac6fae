import LearningClient.Json.Typed

/-!
# Reading back what is written as a text

A text between its quotes is read as that text, whatever characters it has
and whatever comes after it (`readString_flatMap_escapeChar`). Each character
is read back on its own (`readString_escapeChar`), in one of three ways: it is
written as itself, as a backslash and a letter, or by its number. The names of members are texts too, so a member that is written is
read by its own reader after its name (`membersLoop_first`, `membersLoop_next`).
-/

namespace LearningClient.Json

open LearningClient.Text

theorem readString_quote (done cs : List Char) :
    readString done ('"' :: cs) = .ok (done.reverse, cs) := by
  rw [readString]

theorem readString_literal {c : Char} (quote : c ≠ '"') (backslash : c ≠ '\\')
    (high : ¬ c.toNat < 0x20) (done cs : List Char) :
    readString done (c :: cs) = readString (c :: done) cs := by
  rw [readString]
  · rw [if_neg high]
  · exact quote
  · exact fun h => absurd h backslash
  · exact fun _ _ _ _ _ h => absurd h backslash
  · exact fun _ h => absurd h backslash
  · exact fun _ _ h => absurd h backslash

theorem readString_letter {c x : Char} (letter : escapeLetter? c = some x) (done cs : List Char) :
    readString done ('\\' :: c :: cs) = readString (x :: done) cs := by
  have number : c ≠ 'u' := by
    rintro rfl
    cases letter
  rw [readString]
  · rw [letter]
  · exact fun _ _ _ _ _ h => absurd h number
  · exact number

theorem readString_number {a b c d : Char} {n : Nat} (digits : hex4? a b c d = some n)
    (low : n < 0xd800) (done cs : List Char) :
    readString done ('\\' :: 'u' :: a :: b :: c :: d :: cs) =
      readString (Char.ofNat n :: done) cs := by
  have notLow : isLowSurrogate n = false := by simp [isLowSurrogate]; omega
  have notHigh : isHighSurrogate n = false := by simp [isHighSurrogate]; omega
  rw [readString, digits]
  simp only [notLow, notHigh, Bool.false_eq_true, if_false]

theorem hex4?_control {n : Nat} (h : n < 0x20) :
    hex4? '0' '0' (hexDigit (n / 16)) (hexDigit (n % 16)) = some n := by
  have digits : ∀ n : Fin 32,
      hex4? '0' '0' (hexDigit (n.val / 16)) (hexDigit (n.val % 16)) = some n.val := by decide
  exact digits ⟨n, h⟩

/-- Each character is read back on its own. -/
theorem readString_escapeChar (c : Char) (done cs : List Char) :
    readString done (escapeChar c ++ cs) = readString (c :: done) cs := by
  unfold escapeChar
  split
  · subst c
    exact readString_letter rfl ..
  rename_i quote
  split
  · subst c
    exact readString_letter rfl ..
  rename_i backslash
  split
  · subst c
    exact readString_letter rfl ..
  split
  · subst c
    exact readString_letter rfl ..
  split
  · subst c
    exact readString_letter rfl ..
  split
  · subst c
    exact readString_letter rfl ..
  split
  · subst c
    exact readString_letter rfl ..
  split
  · rename_i control
    have number := readString_number (hex4?_control control) (by omega) done cs
    rwa [Char.ofNat_toNat] at number
  · rename_i high
    exact readString_literal quote backslash high done cs

theorem readString_flatMap_escapeChar (s done cs : List Char) :
    readString done (s.flatMap escapeChar ++ '"' :: cs) = .ok (done.reverse ++ s, cs) := by
  induction s generalizing done with
  | nil => rw [List.append_nil]; exact readString_quote done cs
  | cons c s ih =>
    rw [List.flatMap_cons, List.append_assoc, readString_escapeChar, ih, List.reverse_cons,
      List.append_assoc, List.singleton_append]

/-- A text between its quotes is read as that text. -/
theorem readString_stringText (s : String) (cs : List Char) :
    ∃ rest, stringText s ++ cs = '"' :: rest ∧ readString [] rest = .ok (s.toList, cs) := by
  refine ⟨s.toList.flatMap escapeChar ++ '"' :: cs, ?_, readString_flatMap_escapeChar ..⟩
  simp [stringText]

theorem readText_stringText (s : String) (cs : List Char) :
    readText (stringText s ++ cs) = .ok (s, cs) := by
  obtain ⟨rest, text, read⟩ := readString_stringText s cs
  have blanks : skipBlanks ('"' :: rest) = '"' :: rest := rfl
  simp only [text, readText, blanks, read, bind, Except.bind, pure, Except.pure,
    String.ofList_toList]

theorem readTextOrNull_stringText (s : String) (cs : List Char) :
    readTextOrNull (stringText s ++ cs) = .ok (some s, cs) := by
  have text := readText_stringText s cs
  obtain ⟨rest, whole, _⟩ := readString_stringText s cs
  rw [whole] at text ⊢
  show (readText ('"' :: rest)).bind (fun p => .ok (some p.1, p.2)) = _
  rw [text]
  rfl

/-! ## Members -/

section
variable {σ : Type} {step : σ → String → Reader σ}

theorem membersLoop_first (rounds : Nat) (s : σ) (name : String) (cs : List Char) :
    membersLoop step (rounds + 1) true s (stringText name ++ cs) = (do
      let (s, rest) ← step s name cs
      membersLoop step rounds false s rest) := by
  obtain ⟨rest, text, read⟩ := readString_stringText name cs
  have more : nextMember true (stringText name ++ cs) = .ok (.more ('"' :: rest)) := by
    rw [text]
    rfl
  simp only [membersLoop, more, bind, Except.bind, List.tail_cons, read, String.ofList_toList]

theorem membersLoop_next (rounds : Nat) (s : σ) (name : String) (cs : List Char) :
    membersLoop step (rounds + 1) false s (',' :: (stringText name ++ cs)) = (do
      let (s, rest) ← step s name cs
      membersLoop step rounds false s rest) := by
  obtain ⟨rest, text, read⟩ := readString_stringText name cs
  have more : nextMember false (',' :: (stringText name ++ cs)) = .ok (.more ('"' :: rest)) := by
    rw [text]
    rfl
  simp only [membersLoop, more, bind, Except.bind, List.tail_cons, read, String.ofList_toList]

theorem membersLoop_close (rounds : Nat) (first : Bool) (s : σ) (cs : List Char) :
    membersLoop step (rounds + 1) first s ('\x7d' :: cs) = .ok (s, '\x7d' :: cs) := by
  have close : nextMember first ('\x7d' :: cs) = .ok (.close ('\x7d' :: cs)) := rfl
  simp only [membersLoop, close, bind, Except.bind]
  rfl

end

end LearningClient.Json
