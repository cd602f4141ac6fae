import LearningClient.Http.Request
import LearningClient.Proofs.Text.Utf8

/-!
# Reading a query back

Form encoding loses nothing. Each octet that is written is read back on its
own (`percentDecode_queryOctet`), so a name or a value is read back as it was
(`decodePart_encodePart`). No written octet holds an ampersand or an equals
sign, so the marks between names, values and pairs are the only ones, and
cutting at them gives the pairs back in their order (`decodePairs_encodePairs`).

A segment of a path is read back in the same way, so two texts never become one
segment (`encodeSegment_injective`), and of what a segment is made is said by
`Escaped`.
-/

namespace LearningClient.Form

open LearningClient.Text

/-- What reading does before it looks at percent signs. -/
def spaced (cs : List Char) : List Char := cs.map fun c => if c = '+' then ' ' else c

theorem decodePart_eq (cs : List Char) :
    decodePart cs = String.ofList (decodeLossy (percentDecode (spaced cs))) := rfl

theorem spaced_append (cs ds : List Char) : spaced (cs ++ ds) = spaced cs ++ spaced ds :=
  List.map_append

/-! ## Octets -/

/-- Octets are few enough to be looked at one by one. -/
theorem forall_octet {P : UInt8 → Prop} (h : ∀ n : Fin 256, P (UInt8.ofNat n)) (b : UInt8) :
    P b := by
  have octet := h ⟨b.toNat, b.toNat_lt⟩
  rwa [UInt8.ofNat_toNat] at octet

/-- An octet that stands for itself is ASCII, and none of the marks. -/
theorem isLiteral_eq_true {b : UInt8} (h : isLiteral b = true) :
    b.toNat < 0x80 ∧ Char.ofNat b.toNat ≠ '+' ∧ Char.ofNat b.toNat ≠ '%' := by
  revert h
  exact forall_octet (P := fun b => isLiteral b = true →
    b.toNat < 0x80 ∧ Char.ofNat b.toNat ≠ '+' ∧ Char.ofNat b.toNat ≠ '%') (by decide +kernel) b

/-- No written octet holds a mark that separates. -/
theorem marks_notMem_queryOctet (b : UInt8) : '&' ∉ queryOctet b ∧ '=' ∉ queryOctet b :=
  forall_octet (P := fun b => '&' ∉ queryOctet b ∧ '=' ∉ queryOctet b) (by decide +kernel) b

theorem hexValue?_upperHexDigit {n : Nat} (h : n < 16) :
    hexValue? (upperHexDigit n) = some n ∧ upperHexDigit n ≠ '+' := by
  have digits : ∀ n : Fin 16, hexValue? (upperHexDigit n) = some n.val ∧
      upperHexDigit n ≠ '+' := by decide
  exact digits ⟨n, h⟩

/-- An octet of ASCII is the one octet of its character. -/
theorem encodeChar_of_ascii {b : UInt8} (h : b.toNat < 0x80) :
    encodeChar (Char.ofNat b.toNat) = [b] := by
  revert h
  exact forall_octet (P := fun b => b.toNat < 0x80 → encodeChar (Char.ofNat b.toNat) = [b])
    (by decide +kernel) b

theorem percentDecode_cons_of_ne {c : Char} (h : c ≠ '%') (cs : List Char) :
    percentDecode (c :: cs) = encodeChar c ++ percentDecode cs := by
  rw [percentDecode]
  exact fun a b rest e => absurd e h

theorem percentDecode_percentOctet (b : UInt8) (cs : List Char) :
    percentDecode (percentOctet b ++ cs) = b :: percentDecode cs := by
  have bound := b.toNat_lt
  have high := (hexValue?_upperHexDigit (n := b.toNat / 16) (by omega)).1
  have low := (hexValue?_upperHexDigit (n := b.toNat % 16) (by omega)).1
  have value : 16 * (b.toNat / 16) + b.toNat % 16 = b.toNat := Nat.div_add_mod ..
  simp only [percentOctet, List.cons_append, List.nil_append, percentDecode, high, low, value,
    UInt8.ofNat_toNat]

/-- Each octet is read back on its own. -/
theorem percentDecode_queryOctet (b : UInt8) (cs : List Char) :
    percentDecode (spaced (queryOctet b ++ cs)) = b :: percentDecode (spaced cs) := by
  rw [spaced_append, queryOctet]
  split
  · rename_i literal
    obtain ⟨ascii, plus, percent⟩ := isLiteral_eq_true literal
    have same : spaced [Char.ofNat b.toNat] = [Char.ofNat b.toNat] := by simp [spaced, plus]
    rw [same, List.singleton_append, percentDecode_cons_of_ne percent, encodeChar_of_ascii ascii,
      List.singleton_append]
  split
  · rename_i space
    subst space
    exact percentDecode_cons_of_ne (by decide) _
  split
  · rename_i comma
    subst comma
    exact percentDecode_cons_of_ne (by decide) _
  · have bound := b.toNat_lt
    have high := (hexValue?_upperHexDigit (n := b.toNat / 16) (by omega)).2
    have low := (hexValue?_upperHexDigit (n := b.toNat % 16) (by omega)).2
    have same : spaced (percentOctet b) = percentOctet b := by
      simp [spaced, percentOctet, high, low]
    rw [same, percentDecode_percentOctet]

/-- An octet of a segment is read back on its own too. -/
theorem percentDecode_segmentOctet (b : UInt8) (cs : List Char) :
    percentDecode (segmentOctet b ++ cs) = b :: percentDecode cs := by
  rw [segmentOctet]
  split
  · rename_i literal
    obtain ⟨ascii, _, percent⟩ := isLiteral_eq_true literal
    rw [List.singleton_append, percentDecode_cons_of_ne percent, encodeChar_of_ascii ascii,
      List.singleton_append]
  · exact percentDecode_percentOctet b cs

/-! ## Names and values -/

theorem percentDecode_octets (bs : List UInt8) :
    percentDecode (spaced (bs.flatMap queryOctet)) = bs := by
  induction bs with
  | nil => rfl
  | cons b bs ih => rw [List.flatMap_cons, percentDecode_queryOctet, ih]

theorem decodePart_encodePart (s : String) : decodePart (encodePart s) = s := by
  rw [decodePart_eq, encodePart, percentDecode_octets, decodeLossy_encode, String.ofList_toList]

theorem marks_notMem_encodePart (s : String) : '&' ∉ encodePart s ∧ '=' ∉ encodePart s := by
  constructor
  · intro mem
    obtain ⟨b, _, mem⟩ := List.mem_flatMap.mp mem
    exact (marks_notMem_queryOctet b).1 mem
  · intro mem
    obtain ⟨b, _, mem⟩ := List.mem_flatMap.mp mem
    exact (marks_notMem_queryOctet b).2 mem

/-- A digit is one octet, which stands for itself. -/
theorem flatMap_queryOctet_digit {c : Char} (h : c.isDigit = true) :
    (encodeChar c).flatMap queryOctet = [c] := by
  have digits : ∀ n : Fin 10, (encodeChar (Char.ofNat (48 + n))).flatMap queryOctet =
      [Char.ofNat (48 + n)] := by decide +kernel
  simp only [Char.isDigit, Bool.and_eq_true, decide_eq_true_eq, UInt32.le_iff_toNat_le] at h
  have low : 48 ≤ c.toNat := h.1
  have high : c.toNat ≤ 57 := h.2
  have digit := digits ⟨c.toNat - 48, by omega⟩
  rwa [show 48 + (c.toNat - 48) = c.toNat by omega, Char.ofNat_toNat] at digit

/-- Digits and commas go out as they are. -/
theorem encodePart_eq_self {s : String} (h : ∀ c ∈ s.toList, c = ',' ∨ c.isDigit = true) :
    encodePart s = s.toList := by
  rw [encodePart]
  generalize s.toList = cs at h
  induction cs with
  | nil => rfl
  | cons c cs ih =>
    have split : encode (c :: cs) = encodeChar c ++ encode cs := List.flatMap_cons
    have first : (encodeChar c).flatMap queryOctet = [c] := by
      rcases h c List.mem_cons_self with rfl | digit
      · decide +kernel
      · exact flatMap_queryOctet_digit digit
    rw [split, List.flatMap_append, first, ih fun d mem => h d (List.mem_cons_of_mem _ mem)]
    rfl

/-! ## Segments -/

/-- A hexadecimal digit, in upper case if it is a letter. -/
def IsUpperHex (c : Char) : Prop := c.isDigit = true ∨ 'A' ≤ c ∧ c ≤ 'F'

/-- A text of letters, digits, `*`, `-`, `.` and `_`, and of percent signs with
two hexadecimal digits each. -/
inductive Escaped : List Char → Prop
  | nil : Escaped []
  | literal {c : Char} {cs : List Char}
      (plain : c.isAlphanum = true ∨ c = '*' ∨ c = '-' ∨ c = '.' ∨ c = '_')
      (rest : Escaped cs) : Escaped (c :: cs)
  | octet {a b : Char} {cs : List Char} (high : IsUpperHex a) (low : IsUpperHex b)
      (rest : Escaped cs) : Escaped ('%' :: a :: b :: cs)

theorem isUpperHex_upperHexDigit {n : Nat} (h : n < 16) : IsUpperHex (upperHexDigit n) := by
  have digits : ∀ n : Fin 16, (upperHexDigit n).isDigit = true ∨
      'A' ≤ upperHexDigit n ∧ upperHexDigit n ≤ 'F' := by decide
  exact digits ⟨n, h⟩

theorem escaped_segmentOctet (b : UInt8) {cs : List Char} (h : Escaped cs) :
    Escaped (segmentOctet b ++ cs) := by
  have bound := b.toNat_lt
  rw [segmentOctet]
  split
  · rename_i literal
    refine .literal ?_ h
    simpa [isLiteral, or_assoc] using literal
  · exact .octet (isUpperHex_upperHexDigit (by omega)) (isUpperHex_upperHexDigit (by omega)) h

theorem escaped_encodeSegment (s : String) : Escaped (encodeSegment s) := by
  rw [encodeSegment]
  induction encode s.toList with
  | nil => exact .nil
  | cons b bs ih => exact escaped_segmentOctet b ih

theorem percentDecode_encodeSegment (s : String) :
    percentDecode (encodeSegment s) = encode s.toList := by
  rw [encodeSegment]
  induction encode s.toList with
  | nil => rfl
  | cons b bs ih => rw [List.flatMap_cons, percentDecode_segmentOctet, ih]

/-- Two texts never become one segment. -/
theorem encodeSegment_injective {s t : String} (h : encodeSegment s = encodeSegment t) :
    s = t := by
  have octets := congrArg percentDecode h
  rw [percentDecode_encodeSegment, percentDecode_encodeSegment] at octets
  have letters := congrArg decodeLossy octets
  rw [decodeLossy_encode, decodeLossy_encode] at letters
  exact String.toList_injective letters

/-! ## Pairs -/

theorem ampersand_notMem_encodePair (p : String × String) : '&' ∉ encodePair p := by
  simp [encodePair, (marks_notMem_encodePart _).1]

theorem decodePair_encodePair (p : String × String) : decodePair (encodePair p) = p := by
  obtain ⟨name, value⟩ := p
  have whole : (encodePair (name, value)).takeWhile (· ≠ '=') = encodePart name := by
    rw [encodePair, List.takeWhile_append_of_pos]
    · simp
    · intro c hc
      have ne : c ≠ '=' := fun e => (marks_notMem_encodePart name).2 (e ▸ hc)
      simpa using ne
  have rest : (encodePair (name, value)).drop ((encodePart name).length + 1) =
      encodePart value := by
    rw [encodePair, List.drop_append]
    simp
  simp only [decodePair, whole, rest, decodePart_encodePart]

/-- Pairs are written one after the other with an ampersand between them. -/
theorem encodePairs_cons (p : String × String) (ps : List (String × String)) :
    encodePairs (p :: ps) = some (['&'].intercalate ((p :: ps).map encodePair)) := by
  have rest : ∀ l, encodePair l ++ ps.flatMap (fun q => '&' :: encodePair q) =
      ['&'].intercalate ((l :: ps).map encodePair) := by
    induction ps with
    | nil => intro l; simp [List.intercalate_singleton]
    | cons q ps ih =>
      intro l
      rw [List.flatMap_cons, List.cons_append, ih q]
      simp [List.intercalate_cons_cons]
  rw [encodePairs, rest]

/-- What is written of pairs is read back as the same pairs. -/
theorem decodePairs_encodePairs {ps : List (String × String)} {cs : List Char}
    (h : encodePairs ps = some cs) : decodePairs cs = ps := by
  cases ps with
  | nil => cases h
  | cons p ps =>
    rw [encodePairs_cons] at h
    cases h
    have parts : cut '&' (['&'].intercalate ((p :: ps).map encodePair)) =
        (p :: ps).map encodePair := by
      refine List.splitOn_intercalate _ (fun l hl => ?_) (by simp)
      obtain ⟨q, _, rfl⟩ := List.mem_map.mp hl
      exact ampersand_notMem_encodePair q
    have full : ((p :: ps).map encodePair).filter (!·.isEmpty) = (p :: ps).map encodePair := by
      refine List.filter_eq_self.mpr fun l hl => ?_
      obtain ⟨q, _, rfl⟩ := List.mem_map.mp hl
      simp [encodePair]
    rw [decodePairs, parts, full, List.map_map]
    exact (List.map_congr_left fun q _ => decodePair_encodePair q).trans (List.map_id _)

end LearningClient.Form

namespace LearningClient.Http

/-- The names and values that are read off the query of a request as it is
sent. -/
def Request.parameters (r : Request) : List (String × String) :=
  match r.encodedQuery with
  | some query => Form.decodePairs query.toList
  | none => []

/-- They are those that were put into it. -/
theorem Request.parameters_eq_query (r : Request) : r.parameters = r.query := by
  rw [parameters, encodedQuery]
  cases written : Form.encodePairs r.query with
  | none =>
    cases query : r.query with
    | nil => rfl
    | cons p ps =>
      rw [query] at written
      cases written
  | some cs =>
    rw [Option.map_some]
    simp only [String.toList_ofList]
    exact Form.decodePairs_encodePairs written

end LearningClient.Http
