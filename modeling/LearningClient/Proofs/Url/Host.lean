import LearningClient.Proofs.Form
import LearningClient.Proofs.Text.Ascii
import LearningClient.Proofs.Url.Escape
import LearningClient.Proofs.Url.Long
import LearningClient.Proofs.Url.Short
import LearningClient.Url.Parser

/-!
# Reading a host back

The host that is read under a well-known scheme is a name in lower case that
passes all checks, or a number within its bounds (`Host.Settled`). Its text
is read as the same host (`readHost_text`): a name goes through the same checks
with the same outcome, and a number is put together from its parts.

No mark is in the text of a host that ends a host, but for the colons between
brackets. So the text is also found again in front of a port or a path
(`splitHost_text`).
-/

namespace LearningClient.Url

open LearningClient.Text

/-- A host as it is in an address of a well-known scheme. -/
inductive Host.Settled : Host → Prop
  | name {cs : List Char} (full : cs ≠ []) (allowed : ∀ c ∈ cs, forbiddenInDomain c = false)
      (domain : isDomain cs = true) (wordy : endsInNumber cs = false) : Settled (.name cs)
  | short {n : Nat} (small : n < 0x100000000) : Settled (.short n)
  | long {ns : List Nat} (eight : ns.length = 8) (small : ∀ n ∈ ns, n < 0x10000) :
      Settled (.long ns)

theorem settled_of_readBracketed {cs : List Char} {h : Host} (read : readBracketed cs = .ok h) :
    h.Settled := by
  unfold readBracketed at read
  split at read
  · split at read
    · rename_i ns parts
      cases read
      obtain ⟨eight, small⟩ := areParts_of_readLong? parts
      exact .long eight small
    · cases read
  · cases read

/-- Every host that is read is such a host. -/
theorem settled_of_readHost {cs : List Char} {h : Host} (read : readHost cs = .ok h) :
    h.Settled := by
  unfold readHost at read
  split at read
  · exact settled_of_readBracketed read
  split at read
  · cases read
  split at read
  · cases read
  rename_i passed
  split at read
  · cases read
  rename_i full
  split at read
  · split at read
    · rename_i n number
      cases read
      exact .short (lt_of_readShort? number)
    · cases read
  · rename_i wordy
    cases read
    rw [Bool.or_eq_true, not_or, Bool.not_eq_true, List.any_eq_false, Bool.not_eq_true',
      Bool.not_eq_false] at passed
    refine .name ?_ ?_ passed.2 (Bool.eq_false_iff.mpr wordy)
    · simpa using full
    · exact fun c mem => Bool.eq_false_iff.mpr (passed.1 c mem)

/-! ## Reading back -/

/-- A text without percent signs stands for itself. -/
theorem percentDecode_eq_encode {cs : List Char} (plain : '%' ∉ cs) :
    Form.percentDecode cs = encode cs := by
  induction cs with
  | nil => rfl
  | cons c cs ih =>
    rw [List.mem_cons, not_or] at plain
    have split : encode (c :: cs) = encodeChar c ++ encode cs := List.flatMap_cons
    rw [Form.percentDecode_cons_of_ne (Ne.symm plain.1), ih plain.2, split]

/-- Nothing in a name has to be replaced if nothing in it is forbidden. -/
theorem asciiName?_of_allowed {cs : List Char} (allowed : ∀ c ∈ cs, forbiddenInDomain c = false) :
    asciiName? cs = some cs := by
  have plain : ∀ c ∈ cs, isAscii c = true ∧ c.toLower = c := by
    intro c mem
    have allowed := allowed c mem
    simp only [forbiddenInDomain, Bool.or_eq_false_iff, decide_eq_false_iff_not] at allowed
    obtain ⟨⟨⟨⟨_, ascii⟩, capital⟩, _⟩, _⟩ := allowed
    exact ⟨decide_eq_true (by omega), toLower_eq_self capital⟩
  have lower : cs.map Char.toLower = cs :=
    (List.map_congr_left fun c mem => (plain c mem).2).trans (List.map_id' _)
  rw [asciiName?, if_pos (List.all_eq_true.mpr fun c mem => (plain c mem).1), lower]

/-- A name with nothing in it that is forbidden is looked at as it is
written. -/
theorem readHost_of_allowed {cs : List Char} (full : cs ≠ [])
    (allowed : ∀ c ∈ cs, forbiddenInDomain c = false) (domain : isDomain cs = true) :
    (endsInNumber cs = false → readHost cs = .ok (.name cs)) ∧
    ∀ n, endsInNumber cs = true → readShort? cs = some n → readHost cs = .ok (.short n) := by
  have percent : '%' ∉ cs := fun mem => absurd (allowed _ mem) (by decide)
  have spelled : (decode? (Form.percentDecode cs)).bind asciiName? = some cs := by
    rw [percentDecode_eq_encode percent, decode?_encode, Option.bind_some,
      asciiName?_of_allowed allowed]
  have passed : (cs.any forbiddenInDomain || !isDomain cs) = false := by
    rw [domain, Bool.not_true, Bool.or_false, List.any_eq_false]
    exact fun c mem => Bool.eq_false_iff.mp (allowed c mem)
  unfold readHost
  split
  · exact absurd (allowed '[' (by simp)) (by decide)
  · constructor
    · intro wordy
      simp [spelled, passed, full, wordy]
    · intro n number read
      simp [spelled, passed, full, number, read]

theorem forbiddenInDomain_of_isDigit {c : Char} (digit : c.isDigit = true) :
    forbiddenInDomain c = false ∧ turnsName c = false := by
  have alone : c.isAlphanum = true := Bool.or_eq_true_iff.mpr (.inr digit)
  revert digit
  exact forall_ascii (P := fun c => c.isDigit = true →
    forbiddenInDomain c = false ∧ turnsName c = false)
    (by decide +kernel) (toNat_lt_of_isAlphanum alone)

/-- A number of 32 bits is written with digits and dots. -/
theorem mem_shortText {n : Nat} {c : Char} (mem : c ∈ shortText n) :
    c = '.' ∨ c.isDigit = true := by
  simp only [shortText, List.append_assoc, List.cons_append, List.mem_append, List.mem_cons] at mem
  rcases mem with mem | dot | mem | dot | mem | dot | mem
  · exact .inr (isDigit_of_mem_natText mem)
  · exact .inl dot
  · exact .inr (isDigit_of_mem_natText mem)
  · exact .inl dot
  · exact .inr (isDigit_of_mem_natText mem)
  · exact .inl dot
  · exact .inr (isDigit_of_mem_natText mem)

theorem allowed_shortText {n : Nat} {c : Char} (mem : c ∈ shortText n) :
    forbiddenInDomain c = false := by
  rcases mem_shortText mem with rfl | digit
  · decide
  · exact (forbiddenInDomain_of_isDigit digit).1

/-- Four parts in decimal are four labels that need no reading. -/
theorem isDomain_shortText (n : Nat) : isDomain (shortText n) = true := by
  have label : ∀ m, readLabel? (natText m) = some (natText m) := by
    intro m
    unfold readLabel?
    split
    · rename_i code text
      exact absurd (isDigit_of_mem_natText (n := m) (text ▸ List.mem_cons_self)) (by decide)
    · rfl
  have labels : ((octets n).map natText).mapM readLabel? = some ((octets n).map natText) := by
    simp [octets, label]
  have level : ((octets n).map natText).any (·.any turnsName) = false := by
    rw [List.any_eq_false]
    intro l mem
    obtain ⟨m, _, rfl⟩ := List.mem_map.mp mem
    simp only [List.any_eq_true, not_exists, not_and]
    intro c mem
    simp [(forbiddenInDomain_of_isDigit (isDigit_of_mem_natText mem)).2]
  simp only [isDomain, splitOn_shortText, labels, level, Bool.not_false, Bool.true_or]

theorem readBracketed_longText {ns : List Nat} (eight : ns.length = 8)
    (small : ∀ n ∈ ns, n < 0x10000) : readBracketed (longText ns ++ [']']) = .ok (.long ns) := by
  simp [readBracketed, readLong?_longText eight small]

/-- The text of a host is read as the same host. -/
theorem readHost_text {h : Host} (settled : h.Settled) : readHost h.text = .ok h := by
  cases settled with
  | @name cs full allowed domain wordy =>
    exact (readHost_of_allowed full allowed domain).1 wordy
  | @short n small =>
    have full : shortText n ≠ [] := by simp [shortText]
    obtain ⟨_, number⟩ := readHost_of_allowed full (fun c mem => allowed_shortText mem)
      (isDomain_shortText n)
    exact number n (endsInNumber_shortText n) (readShort?_shortText small)
  | @long ns eight small => exact readBracketed_longText eight small

/-! ## Where a host ends -/

/-- Whether a text begins with what ends a host: a colon, or the end of the
part with user and host. -/
def EndsHost (rest : List Char) : Prop :=
  ∀ c ∈ rest.head?, endsAuthority true c = true ∨ c = ':'

theorem splitHost_nil {rest : List Char} (ends : EndsHost rest) :
    splitHost true false rest = ([], rest) := by
  cases rest with
  | nil => rfl
  | cons c rest =>
    have stop := ends c rfl
    simp [splitHost, stop]

/-- A host is taken up to where it ends. -/
theorem splitHost_append {cs rest : List Char}
    (allowed : ∀ c ∈ cs, endsAuthority true c = false ∧ c ≠ ':' ∧ c ≠ '[' ∧ c ≠ ']')
    (ends : EndsHost rest) : splitHost true false (cs ++ rest) = (cs, rest) := by
  induction cs with
  | nil => exact splitHost_nil ends
  | cons c cs ih =>
    obtain ⟨goes, colon, opening, closing⟩ := allowed c List.mem_cons_self
    rw [List.cons_append, splitHost]
    simp [goes, colon, opening, closing, ih fun d mem => allowed d (List.mem_cons_of_mem _ mem)]

/-- Between brackets a colon does not end it. -/
theorem splitHost_inside {cs rest : List Char}
    (allowed : ∀ c ∈ cs, endsAuthority true c = false ∧ c ≠ '[' ∧ c ≠ ']')
    (ends : EndsHost rest) :
    splitHost true true (cs ++ ']' :: rest) = (cs ++ [']'], rest) := by
  induction cs with
  | nil => simp [splitHost, endsAuthority, isSlash, splitHost_nil ends]
  | cons c cs ih =>
    obtain ⟨goes, opening, closing⟩ := allowed c List.mem_cons_self
    rw [List.cons_append, splitHost]
    simp [goes, opening, closing, ih fun d mem => allowed d (List.mem_cons_of_mem _ mem)]

/-- What can stand in a name is visible, and none of the marks that end a host or
stand in front of it. -/
theorem apart_of_allowed {c : Char} (allowed : forbiddenInDomain c = false) :
    0x20 < c.toNat ∧ c ≠ '@' ∧
      endsAuthority true c = false ∧ c ≠ ':' ∧ c ≠ '[' ∧ c ≠ ']' := by
  have other : ∀ d, forbiddenInDomain d = true → c ≠ d := fun _ => ne_of_outside allowed
  have visible : 0x20 < c.toNat := by
    simp only [forbiddenInDomain, Bool.or_eq_false_iff, decide_eq_false_iff_not] at allowed
    omega
  refine ⟨visible, other _ (by decide), ?_, other _ (by decide), other _ (by decide),
    other _ (by decide)⟩
  simp [endsAuthority, isSlash, other '/' (by decide), other '\\' (by decide),
    other '?' (by decide), other '#' (by decide)]

/-- The marks of a number of 128 bits but for its brackets. -/
theorem apart_of_mem_longText {ns : List Nat} {c : Char} (mem : c ∈ longText ns) :
    0x20 < c.toNat ∧ c ≠ '@' ∧ endsAuthority true c = false ∧ c ≠ '[' ∧ c ≠ ']' := by
  have digits : ∀ d : Fin 16, 0x20 < (hexDigit d).toNat ∧ hexDigit d ≠ '@' ∧
      endsAuthority true (hexDigit d) = false ∧ hexDigit d ≠ '[' ∧ hexDigit d ≠ ']' := by decide
  rcases mem_longText mem with rfl | ⟨d, rfl⟩
  · decide
  · exact digits d

/-- The text of a host is made of what can stand in a name, or has brackets. -/
theorem allowed_text {h : Host} (settled : h.Settled) :
    (∀ c ∈ h.text, forbiddenInDomain c = false) ∨ ∃ ns, h = .long ns := by
  cases settled with
  | name _ allowed => exact .inl allowed
  | short => exact .inl fun c mem => allowed_shortText mem
  | long => exact .inr ⟨_, rfl⟩

/-- In front of a port or a path the text of a host is found again. -/
theorem splitHost_text {h : Host} (settled : h.Settled) {rest : List Char} (ends : EndsHost rest) :
    splitHost true false (h.text ++ rest) = (h.text, rest) := by
  obtain allowed | ⟨ns, rfl⟩ := allowed_text settled
  · refine splitHost_append (fun c mem => ?_) ends
    obtain ⟨_, _, apart⟩ := apart_of_allowed (allowed c mem)
    exact apart
  · have inside : splitHost true true (longText ns ++ ']' :: rest) =
        (longText ns ++ [']'], rest) := by
      refine splitHost_inside (fun c mem => ?_) ends
      obtain ⟨_, _, apart⟩ := apart_of_mem_longText mem
      exact apart
    have text : Host.text (.long ns) ++ rest = '[' :: (longText ns ++ ']' :: rest) := by
      simp [Host.text]
    rw [text, splitHost]
    simp [endsAuthority, isSlash, inside, Host.text]

/-- Nothing in the text of a host ends the part with user and host. -/
theorem goes_of_mem_text {h : Host} (settled : h.Settled) {c : Char} (mem : c ∈ h.text) :
    0x20 < c.toNat ∧ c ≠ '@' ∧ endsAuthority true c = false := by
  obtain allowed | ⟨ns, rfl⟩ := allowed_text settled
  · obtain ⟨visible, sign, goes, _⟩ := apart_of_allowed (allowed c mem)
    exact ⟨visible, sign, goes⟩
  · rw [Host.text, List.mem_cons, List.mem_append, List.mem_singleton] at mem
    rcases mem with rfl | mem | rfl
    · decide
    · obtain ⟨visible, sign, goes, _⟩ := apart_of_mem_longText mem
      exact ⟨visible, sign, goes⟩
    · decide

theorem isSlash_of_goes {c : Char} (goes : endsAuthority true c = false) :
    isSlash true c = false := by
  rw [endsAuthority, Bool.or_eq_false_iff, Bool.or_eq_false_iff] at goes
  exact goes.1.1

theorem text_ne_nil {h : Host} (settled : h.Settled) : h.text ≠ [] := by
  cases settled with
  | name full => exact full
  | short => simp [Host.text, shortText]
  | long => simp [Host.text]

end LearningClient.Url
