import LearningClient.Proofs.Json.Passing
import LearningClient.Proofs.Json.Text
import LearningClient.Proofs.Text.Digits

/-!
# Reading back what is written

A value whose numbers are whole is read back as it was written, in either of the
two styles (`readAsWritten_write`). What comes behind it must not go on with a
number (`Delimited`): a comma, a closing bracket or the end of a document does
not.

The proof is by what a value is made of. Numbers are read digit by digit, and
their digits must all fit at once. Of an array and of an object it is first said
what the reader finds inside the brackets (`items_written`, `members_written`),
and then that the loops read that and stop (`readArray_of_items`,
`readObject_of_members`).
-/

namespace LearningClient.Json

open LearningClient.Text

/-! ## Numbers -/

/-- What does not go on with a number. -/
def Delimited (cs : List Char) : Prop :=
  ∀ c t, cs = c :: t → c.isDigit = false ∧ c ≠ '.' ∧ c ≠ 'e' ∧ c ≠ 'E'

theorem delimited_nil : Delimited [] := nofun

theorem delimited_cons {c : Char} (digit : c.isDigit = false) (others : c ∉ ['.', 'e', 'E'])
    (cs : List Char) : Delimited (c :: cs) := by
  intro c' t same
  obtain ⟨rfl, rfl⟩ := List.cons.inj same
  simp only [List.mem_cons, List.not_mem_nil, or_false, not_or] at others
  exact ⟨digit, others⟩

theorem Delimited.startsWithDigit {cs : List Char} (h : Delimited cs) :
    startsWithDigit cs = false := by
  cases cs with
  | nil => rfl
  | cons c t => exact (h c t rfl).1

theorem le_foldl_digits (ds : List Char) (n : Nat) :
    n ≤ ds.foldl (fun n c => 10 * n + digitValue c) n := by
  induction ds generalizing n with
  | nil => exact Nat.le_refl n
  | cons d ds ih => exact Nat.le_trans (show n ≤ 10 * n + digitValue d by omega) (ih _)

/-- Digits that fit together are gathered, all of them. -/
theorem gather_digits {ds rest : List Char} (digits : ∀ c ∈ ds, c.isDigit = true)
    (ends : startsWithDigit rest = false) (n count : Nat)
    (fits : ds.foldl (fun n c => 10 * n + digitValue c) n ≤ uint64Max) :
    gather n count (ds ++ rest) =
      (ds.foldl (fun n c => 10 * n + digitValue c) n, count + ds.length, rest) := by
  induction ds generalizing n count with
  | nil =>
    cases rest with
    | nil => rfl
    | cons c t =>
      have notDigit : c.isDigit = false := ends
      rw [List.nil_append, gather, notDigit]
      rfl
  | cons d ds ih =>
    have digit := digits d List.mem_cons_self
    have fits' : 10 * n + digitValue d ≤ uint64Max := Nat.le_trans (le_foldl_digits ds _) fits
    rw [List.cons_append, gather, digit, Bool.true_and, if_pos (decide_eq_true fits'),
      ih (fun c mem => digits c (List.mem_cons_of_mem _ mem)) _ _ fits, List.foldl_cons,
      List.length_cons, Nat.add_assoc, Nat.add_comm 1]

theorem readNumber_natText (negative : Bool) {n : Nat} (fits : n ≤ uint64Max) {rest : List Char}
    (ends : Delimited rest) :
    readNumber negative (natText n ++ rest) = wholeNumber negative n rest := by
  have value : (natText n).foldl (fun n c => 10 * n + digitValue c) 0 = n := ofDigits_natText n
  have gathered := gather_digits (fun c => isDigit_of_mem_natText) ends.startsWithDigit 0 0
    (value.symm ▸ fits)
  have tail : rest.dropWhile Char.isDigit = rest := dropWhile_eq_self ends.startsWithDigit
  rw [value] at gathered
  obtain ⟨c, cs, digits, digit⟩ := natText_front n
  have zero : (decide (c = '0') && startsWithDigit (cs ++ rest)) = false := by
    by_cases same : c = '0'
    · rw [same] at digits
      rw [natText_leadingZero digits, List.nil_append, ends.startsWithDigit, Bool.and_false]
    · rw [decide_eq_false same, Bool.false_and]
  rw [digits, List.cons_append] at gathered
  rw [digits, List.cons_append, readNumber, digit, zero, gathered]
  simp only [Bool.not_true, Bool.false_eq_true, if_false, tail, ends.startsWithDigit]
  split
  · exact absurd rfl (ends _ _ rfl).2.1
  · exact absurd rfl (ends _ _ rfl).2.2.1
  · exact absurd rfl (ends _ _ rfl).2.2.2
  · rfl

theorem readAsWritten_skipBlanks (depth : Nat) (cs : List Char) :
    readAsWritten depth (skipBlanks cs) = readAsWritten depth cs := by
  cases depth <;> rw [readAsWritten, readWith, readWith, skipBlanks_skipBlanks]

theorem isBlank_of_isDigit {c : Char} (digit : c.isDigit = true) : isBlank c = false := by
  cases blank : isBlank c with
  | false => rfl
  | true =>
    simp only [isBlank, Bool.or_eq_true, decide_eq_true_eq] at blank
    rcases blank with ((rfl | rfl) | rfl) | rfl <;> exact absurd digit (by decide)

theorem skipBlanks_cons {c : Char} (notBlank : isBlank c = false) (cs : List Char) :
    skipBlanks (c :: cs) = c :: cs := by
  rw [skipBlanks, List.dropWhile_cons, notBlank]
  rfl

theorem readWith_digit (list object : Reader Value) {c : Char} (digit : c.isDigit = true)
    (cs : List Char) :
    readWith list object (c :: cs) =
      readNumber false (c :: cs) >>= fun p => .ok (p.1.toValue, p.2) := by
  rw [readWith, skipBlanks_cons (isBlank_of_isDigit digit)]
  split <;> rename_i whole <;> cases whole
  case h_9.refl => exact if_pos digit
  -- nothing else that a value begins with is a digit
  all_goals exact absurd digit (by decide)

/-- A whole number of 64 bits, with or without a sign, is read back. -/
theorem readAsWritten_int (depth : Nat) {n : Int} (fits : (Value.int n).whole) {rest : List Char}
    (ends : Delimited rest) : readAsWritten depth (intText n ++ rest) = .ok (.int n, rest) := by
  obtain ⟨list, object, reader⟩ : ∃ list object, readAsWritten depth = readWith list object := by
    cases depth <;> exact ⟨_, _, rfl⟩
  obtain ⟨low, high⟩ := fits
  rw [reader]
  cases n with
  | ofNat n =>
    have read := readNumber_natText false (Int.ofNat_le.mp high) ends
    show readWith list object (natText n ++ rest) = _
    obtain ⟨c, cs, digits, digit⟩ := natText_front n
    rw [digits] at read ⊢
    rw [List.cons_append, readWith_digit _ _ digit, ← List.cons_append, read]
    rfl
  | negSucc n =>
    have bounds : n + 1 ≤ 0x8000000000000000 := by
      rw [int64Min] at low
      omega
    have fits : n + 1 ≤ uint64Max := by
      rw [uint64Max]
      omega
    have small : ¬int64Min > -((n + 1 : Nat) : Int) := by
      rw [int64Min]
      omega
    show (readNumber true (natText (n + 1) ++ rest) >>= _) = _
    rw [readNumber_natText true fits ends, wholeNumber]
    simp only [Bool.not_true, Bool.false_eq_true, if_false, Nat.add_one_ne_zero, small]
    rfl

/-! ## Brackets -/

section
variable {one : Reader Value} {first : Bool} {cs rest : List Char}

theorem itemsLoop_of_items {vs : List Value} (h : Items one first cs vs rest) {rounds : Nat}
    (enough : vs.length < rounds) (done : List Value) :
    itemsLoop one rounds first done cs = .ok (done.reverse ++ vs, rest) := by
  induction h generalizing rounds done with
  | close next =>
    obtain ⟨rounds, rfl⟩ : ∃ k, rounds = k + 1 := ⟨rounds - 1, by omega⟩
    rw [itemsLoop_close next, List.append_nil]
  | @more _ _ _ _ _ v vs next item others ih =>
    obtain ⟨rounds, rfl⟩ : ∃ k, rounds = k + 1 := ⟨rounds - 1, by omega⟩
    rw [itemsLoop_more next, item]
    show itemsLoop one rounds false (v :: done) _ = _
    rw [ih (Nat.lt_of_succ_lt_succ enough), List.reverse_cons, List.append_assoc,
      List.singleton_append]

theorem appendMember_eq {cs₁ cs₂ cs₃ : List Char} {v : Value} (colon : readColon cs₁ = .ok cs₂)
    (value : one cs₂ = .ok (v, cs₃)) (ms : Members) (name : String) :
    appendMember one ms name cs₁ = .ok (ms ++ [(name, v)], cs₃) := by
  rw [appendMember, colon]
  show (one cs₂ >>= _) = _
  rw [value]
  rfl

theorem membersLoop_of_membersOf {ms : Members} (h : MembersOf one first cs ms rest)
    {rounds : Nat} (enough : ms.length < rounds) (done : Members) :
    membersLoop (appendMember one) rounds first done cs = .ok (done ++ ms, rest) := by
  induction h generalizing rounds done with
  | close next =>
    obtain ⟨rounds, rfl⟩ : ∃ k, rounds = k + 1 := ⟨rounds - 1, by omega⟩
    rw [membersLoop_end next, List.append_nil]
  | @more _ _ _ _ _ _ _ name v ms next named colon value others ih =>
    obtain ⟨rounds, rfl⟩ : ∃ k, rounds = k + 1 := ⟨rounds - 1, by omega⟩
    rw [membersLoop_more next, named]
    show (appendMember one done (String.ofList name) _ >>= _) = _
    rw [appendMember_eq colon value]
    show membersLoop (appendMember one) rounds false (done ++ [_]) _ = _
    rw [ih (Nat.lt_of_succ_lt_succ enough), List.append_assoc, List.singleton_append]

/-- Each item takes a character, or the comma in front of it. -/
theorem Items.length_lt {vs : List Value} (passes : Passes one) (h : Items one first cs vs rest) :
    vs.length + 1 ≤ cs.length + first.toNat := by
  induction h with
  | close next =>
    obtain ⟨t, front⟩ := nextItem_eq_close next
    have shorter := closing_length front
    rw [List.length_nil]
    omega
  | more next item others ih =>
    obtain ⟨c, t, -, -, front⟩ := nextItem_eq_more next
    have shorter := opening_length front
    have shorter₂ := (passes item).1
    rw [List.length_cons]
    rw [Bool.toNat_false] at ih
    omega

theorem MembersOf.length_lt {ms : Members} (passes : Passes one)
    (h : MembersOf one first cs ms rest) : ms.length + 1 ≤ cs.length + first.toNat := by
  induction h with
  | close next =>
    obtain ⟨t, front⟩ := nextMember_eq_close next
    have shorter := closing_length front
    rw [List.length_nil]
    omega
  | more next named colon value others ih =>
    obtain ⟨t, rfl, front⟩ := nextMember_eq_more next
    have shorter := opening_length front
    have shorter₂ := skipString_length (skipString_of_readString named)
    have shorter₃ := readColon_length colon
    have shorter₄ := (passes value).1
    simp only [List.length_cons, List.tail_cons] at shorter shorter₂
    rw [List.length_cons]
    rw [Bool.toNat_false] at ih
    omega

theorem readArray_of_items {vs : List Value} (passes : Passes one)
    (h : Items one true cs vs rest) : readArray one cs = .ok (.arr vs, rest) := by
  have enough := h.length_lt passes
  rw [Bool.toNat_true] at enough
  rw [readArray, manyItems, itemsLoop_of_items h (by omega)]
  rfl

theorem readObject_of_members {ms : Members} (passes : Passes one)
    (h : MembersOf one true cs ms rest) :
    readObject (appendMember one) cs = .ok (.obj ms, rest.tail) := by
  have enough := h.length_lt passes
  rw [Bool.toNat_true] at enough
  rw [readObject, manyMembers, membersLoop_of_membersOf h (by omega)]
  rfl

end

/-! ## What is written inside brackets -/

theorem skipBlanks_append {blanks : List Char} (h : ∀ c ∈ blanks, isBlank c = true)
    (cs : List Char) : skipBlanks (blanks ++ cs) = skipBlanks cs :=
  List.dropWhile_append_of_pos h

theorem isBlank_of_mem_newline {st : Style} {k : Nat} {c : Char} (mem : c ∈ st.newline k) :
    isBlank c = true := by
  cases st with
  | compact => cases mem
  | pretty =>
    rcases List.mem_cons.mp mem with rfl | mem
    · rfl
    · rw [List.eq_of_mem_replicate mem]
      rfl

theorem Delimited.newline {cs : List Char} (h : Delimited cs) (st : Style) (k : Nat) :
    Delimited (st.newline k ++ cs) := by
  cases st with
  | compact => exact h
  | pretty => exact delimited_cons rfl (by decide) _

/-- What is written of a value begins with no blank and with no bracket that
closes anything. -/
theorem write_front {v : Value} (whole : v.whole) (st : Style) (k : Nat) :
    ∃ c t, v.write st k = c :: t ∧ isBlank c = false ∧ c ≠ ']' ∧ c ≠ ')' := by
  cases v with
  | null => exact ⟨_, _, rfl, rfl, by decide, by decide⟩
  | bool b => cases b <;> exact ⟨_, _, rfl, rfl, by decide, by decide⟩
  | int n =>
    cases n with
    | ofNat n =>
      obtain ⟨c, cs, digits, digit⟩ := natText_front n
      refine ⟨c, cs, digits, isBlank_of_isDigit digit, ?_, ?_⟩
      · rintro rfl
        exact absurd digit (by decide)
      · rintro rfl
        exact absurd digit (by decide)
    | negSucc n => exact ⟨_, _, rfl, rfl, by decide, by decide⟩
  | float x => exact absurd whole id
  | str s => exact ⟨_, _, rfl, rfl, by decide, by decide⟩
  | arr vs => cases vs <;> exact ⟨_, _, rfl, rfl, by decide, by decide⟩
  | obj ms => cases ms <;> exact ⟨_, _, rfl, rfl, by decide, by decide⟩

section
variable {one : Reader Value} {st : Style} {k : Nat}

/-- A reader reads a value back, with or without blanks in front of it. -/
def ReadsBack (one : Reader Value) (st : Style) (k : Nat) (v : Value) : Prop :=
  ∀ blanks rest, (∀ c ∈ blanks, isBlank c = true) → Delimited rest →
    one (blanks ++ (v.write st k ++ rest)) = .ok (v, rest)

theorem nextItem_first {c : Char} {cs t : List Char} (front : skipBlanks cs = c :: t)
    (more : c ≠ ']') : nextItem true cs = .ok (.more (c :: t)) := by
  rw [nextItem, front]
  show (if c = ']' then _ else _ : Except Stop Next) = _
  rw [if_neg more]
  rfl

theorem nextItem_comma {c : Char} {cs t : List Char} (front : skipBlanks cs = c :: t)
    (more : c ≠ ']') : nextItem false (',' :: cs) = .ok (.more (c :: t)) := by
  rw [nextItem, skipBlanks_cons (by decide)]
  dsimp only
  rw [front]
  exact if_neg more

/-- Behind a line break and a value that is written, the value is in front. -/
theorem skipBlanks_write {v : Value} (whole : v.whole) (st : Style) (k k' : Nat)
    (rest : List Char) : ∃ c t, v.write st k ++ rest = c :: t ∧ c ≠ ']' ∧
      skipBlanks (st.newline k' ++ (v.write st k ++ rest)) = c :: t := by
  obtain ⟨c, t, front, notBlank, notClose, -⟩ := write_front whole st k
  refine ⟨c, t ++ rest, by rw [front, List.cons_append], notClose, ?_⟩
  rw [skipBlanks_append (fun c => isBlank_of_mem_newline), front, List.cons_append,
    skipBlanks_cons notBlank]

theorem nextItem_newline (first : Bool) (st : Style) (k : Nat) (rest : List Char) :
    nextItem first (st.newline k ++ ']' :: rest) = .ok (.close (']' :: rest)) := by
  rw [nextItem, skipBlanks_append (fun c => isBlank_of_mem_newline)]
  rfl

theorem delimited_items (st : Style) (k k' : Nat) (vs : List Value) (rest : List Char) :
    Delimited (writeItems st k vs ++ (st.newline k' ++ ']' :: rest)) := by
  cases vs with
  | nil => exact (delimited_cons rfl (by decide) rest).newline st k'
  | cons v vs => exact delimited_cons rfl (by decide) _

/-- The reader finds the items after the first. -/
theorem items_after (vs : List Value) (k' : Nat) (rest : List Char)
    (whole : ∀ v ∈ vs, v.whole) (reads : ∀ v ∈ vs, ReadsBack one st k v) :
    Items one false (writeItems st k vs ++ (st.newline k' ++ ']' :: rest)) vs rest := by
  induction vs with
  | nil => exact .close (nextItem_newline false st k' rest)
  | cons v vs ih =>
    obtain ⟨wholeFirst, wholeRest⟩ := List.forall_mem_cons.mp whole
    obtain ⟨readsFirst, readsRest⟩ := List.forall_mem_cons.mp reads
    have later := ih wholeRest readsRest
    have item := readsFirst [] _ nofun (delimited_items st k k' vs rest)
    obtain ⟨c, t, text, more, front⟩ := skipBlanks_write wholeFirst st k k
      (writeItems st k vs ++ (st.newline k' ++ ']' :: rest))
    have next := nextItem_comma front more
    rw [← text] at next
    rw [writeItems]
    simp only [List.cons_append, List.append_assoc]
    exact .more next item later

/-- The reader finds the items of an array behind its bracket. -/
theorem items_written (vs : List Value) (rest : List Char) (whole : ∀ v ∈ vs, v.whole)
    (reads : ∀ v ∈ vs, ReadsBack one st (k + 1) v) :
    ∃ cs, (Value.arr vs).write st k ++ rest = '[' :: cs ∧ Items one true cs vs rest := by
  cases vs with
  | nil => exact ⟨_, by rw [Value.write]; rfl, .close (nextItem_newline true .compact 0 rest)⟩
  | cons v vs =>
    obtain ⟨wholeFirst, wholeRest⟩ := List.forall_mem_cons.mp whole
    obtain ⟨readsFirst, readsRest⟩ := List.forall_mem_cons.mp reads
    have later := items_after vs k rest wholeRest readsRest
    have item := readsFirst [] _ nofun (delimited_items st (k + 1) k vs rest)
    obtain ⟨c, t, text, more, front⟩ := skipBlanks_write wholeFirst st (k + 1) (k + 1)
      (writeItems st (k + 1) vs ++ (st.newline k ++ ']' :: rest))
    have next := nextItem_first front more
    rw [← text] at next
    refine ⟨_, ?_, .more next item later⟩
    rw [Value.write]
    simp only [List.cons_append, List.append_assoc, List.nil_append]

theorem nextMember_first {cs t : List Char} (front : skipBlanks cs = '"' :: t) :
    nextMember true cs = .ok (.more ('"' :: t)) := by
  rw [nextMember, front]
  rfl

theorem nextMember_comma {cs t : List Char} (front : skipBlanks cs = '"' :: t) :
    nextMember false (',' :: cs) = .ok (.more ('"' :: t)) := by
  rw [nextMember, skipBlanks_cons (by decide)]
  dsimp only
  rw [front]
  rfl

theorem nextMember_newline (first : Bool) (st : Style) (k : Nat) (rest : List Char) :
    nextMember first (st.newline k ++ '\x7d' :: rest) = .ok (.close ('\x7d' :: rest)) := by
  rw [nextMember, skipBlanks_append (fun c => isBlank_of_mem_newline)]
  rfl

/-- The blank behind a colon, if there is one. -/
def Style.gap : Style → List Char
  | .compact => []
  | .pretty => [' ']

theorem readColon_colon (st : Style) (cs : List Char) :
    readColon (st.colon ++ cs) = .ok (st.gap ++ cs) := by
  cases st <;> rfl

theorem isBlank_of_mem_gap {c : Char} (mem : c ∈ st.gap) : isBlank c = true := by
  cases st with
  | compact => cases mem
  | pretty =>
    rw [List.mem_singleton.mp mem]
    rfl

theorem delimited_members (st : Style) (k k' : Nat) (ms : Members) (rest : List Char) :
    Delimited (writeMembers st k ms ++ (st.newline k' ++ '\x7d' :: rest)) := by
  cases ms with
  | nil => exact (delimited_cons rfl (by decide) rest).newline st k'
  | cons m ms => exact delimited_cons rfl (by decide) _

/-- A member that is written is read, and then those after it. -/
theorem member_written {first : Bool} {cs after rest : List Char} {name : String} {v : Value}
    {ms : Members} (next : ∀ t, skipBlanks (st.newline k ++ '"' :: t) = '"' :: t →
      stringText name ++ (st.colon ++ (v.write st k ++ after)) = '"' :: t →
        nextMember first cs = .ok (.more ('"' :: t)))
    (reads : ReadsBack one st k v) (ends : Delimited after)
    (others : MembersOf one false after ms rest) :
    MembersOf one first cs ((name, v) :: ms) rest := by
  obtain ⟨t, text, named⟩ :=
    readString_stringText name (st.colon ++ (v.write st k ++ after))
  have blanks : skipBlanks (st.newline k ++ '"' :: t) = '"' :: t := by
    rw [skipBlanks_append (fun c => isBlank_of_mem_newline)]
    rfl
  have value := reads st.gap after (fun c => isBlank_of_mem_gap) ends
  have member := MembersOf.more (next t blanks text) named (readColon_colon st _) value others
  rwa [String.ofList_toList] at member

/-- The reader finds the members after the first. -/
theorem members_after (ms : Members) (k' : Nat) (rest : List Char)
    (reads : ∀ m ∈ ms, ReadsBack one st k m.2) :
    MembersOf one false (writeMembers st k ms ++ (st.newline k' ++ '\x7d' :: rest)) ms
      ('\x7d' :: rest) := by
  induction ms with
  | nil => exact .close (nextMember_newline false st k' rest)
  | cons m ms ih =>
    obtain ⟨name, v⟩ := m
    obtain ⟨readsFirst, readsRest⟩ := List.forall_mem_cons.mp reads
    have later := ih readsRest
    rw [writeMembers]
    simp only [List.cons_append, List.append_assoc]
    refine member_written (fun t blanks text => ?_) readsFirst
      (delimited_members st k k' ms rest) later
    rw [text]
    exact nextMember_comma blanks

/-- The reader finds the members of an object behind its bracket. -/
theorem members_written (ms : Members) (rest : List Char)
    (reads : ∀ m ∈ ms, ReadsBack one st (k + 1) m.2) :
    ∃ cs, (Value.obj ms).write st k ++ rest = '\x7b' :: cs ∧
      MembersOf one true cs ms ('\x7d' :: rest) := by
  cases ms with
  | nil => exact ⟨_, by rw [Value.write]; rfl, .close (nextMember_newline true .compact 0 rest)⟩
  | cons m ms =>
    obtain ⟨name, v⟩ := m
    obtain ⟨readsFirst, readsRest⟩ := List.forall_mem_cons.mp reads
    have later := members_after ms k rest readsRest
    refine ⟨st.newline (k + 1) ++ (stringText name ++ (st.colon ++ (v.write st (k + 1) ++
        (writeMembers st (k + 1) ms ++ (st.newline k ++ '\x7d' :: rest))))), ?_,
      member_written (fun t blanks text => ?_) readsFirst
        (delimited_members st (k + 1) k ms rest) later⟩
    · rw [Value.write]
      simp only [List.cons_append, List.append_assoc, List.nil_append]
    · rw [text]
      exact nextMember_first blanks

end

/-! ## Values -/

theorem readAsWritten_append (depth : Nat) {blanks : List Char}
    (h : ∀ c ∈ blanks, isBlank c = true) (cs : List Char) :
    readAsWritten depth (blanks ++ cs) = readAsWritten depth cs := by
  rw [← readAsWritten_skipBlanks, skipBlanks_append h, readAsWritten_skipBlanks]

/-- A value that is written is read back as it is. -/
theorem readsBack_readAsWritten {v : Value} (whole : v.Throughout Value.whole) (st : Style)
    (k : Nat) {depth : Nat} (fits : v.depth ≤ depth) : ReadsBack (readAsWritten depth) st k v := by
  induction v using Value.nested generalizing k depth with
  | null =>
    intro blanks rest blank ends
    rw [readAsWritten_append depth blank]
    cases depth <;> rfl
  | bool b =>
    intro blanks rest blank ends
    rw [readAsWritten_append depth blank]
    cases depth <;> cases b <;> rfl
  | int n =>
    intro blanks rest blank ends
    rw [readAsWritten_append depth blank, Value.write]
    exact readAsWritten_int depth whole.self ends
  | float x => exact absurd whole.self id
  | str s =>
    intro blanks rest blank ends
    obtain ⟨t, text, read⟩ := readString_stringText s rest
    rw [readAsWritten_append depth blank, Value.write, text]
    have front : ∀ list object, readWith list object ('"' :: t) = .ok (.str s, rest) := by
      intro list object
      show (readString [] t >>= _) = _
      rw [read]
      show Except.ok (Value.str (String.ofList s.toList), rest) = _
      rw [String.ofList_toList]
    cases depth <;> exact front ..
  | arr items ih =>
    intro blanks rest blank ends
    obtain ⟨depth, rfl⟩ : ∃ d, depth = d + 1 := by
      rw [Value.depth] at fits
      exact ⟨depth - 1, by omega⟩
    obtain ⟨cs, text, inside⟩ := items_written (k := k) items rest
      (fun v mem => (whole.item mem).self) fun v mem =>
        ih v mem (whole.item mem) (k + 1)
          (Nat.le_of_lt_succ (Nat.lt_of_lt_of_le (depth_lt_of_mem_arr mem) fits))
    rw [readAsWritten_append _ blank, text]
    exact readArray_of_items (passes_readAsWritten depth) inside
  | obj ms ih =>
    intro blanks rest blank ends
    obtain ⟨depth, rfl⟩ : ∃ d, depth = d + 1 := by
      rw [Value.depth] at fits
      exact ⟨depth - 1, by omega⟩
    obtain ⟨cs, text, inside⟩ := members_written (k := k) ms rest fun m mem =>
      ih m mem (whole.member mem) (k + 1)
        (Nat.le_of_lt_succ (Nat.lt_of_lt_of_le (depth_lt_of_mem_obj mem) fits))
    rw [readAsWritten_append _ blank, text]
    exact readObject_of_members (passes_readAsWritten depth) inside

end LearningClient.Json
