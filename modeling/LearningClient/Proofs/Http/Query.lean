import LearningClient.Http.Exchange
import LearningClient.Proofs.Form
import LearningClient.Proofs.Text.Ascii
import Mathlib.Data.List.Infix

/-!
# What a query looks like

The names and values of a request come out of an encoder that leaves letters,
digits, a few marks and percent signs with two hexadecimal digits
(`Form.Queried`). A comma is a mark of its own, and no octet is written as an
escaped comma: a percent sign that was there before is itself escaped, so the
text `%2C` is written `%252C`.

None of these characters is escaped in the query of an address, under any
scheme (`escape_of_queried`), so a query that has been encoded goes into an
address as it is. With the reader of `Form` this is the law of
`Request.query_kept`.
-/

namespace LearningClient.Form

open LearningClient.Text LearningClient.Url

/-! ## The characters of a query -/

/-- A text of letters, digits, `*`, `-`, `.`, `_`, `+`, `,`, `&` and `=`, and of
percent signs with two hexadecimal digits each. -/
inductive Queried : List Char → Prop
  | nil : Queried []
  | plain {c : Char} {cs : List Char}
      (plain : c.isAlphanum = true ∨ c ∈ ['*', '-', '.', '_', '+', ',', '&', '='])
      (rest : Queried cs) : Queried (c :: cs)
  | octet {a b : Char} {cs : List Char} (high : IsUpperHex a) (low : IsUpperHex b)
      (rest : Queried cs) : Queried ('%' :: a :: b :: cs)

theorem Queried.append {cs ds : List Char} (h : Queried cs) (rest : Queried ds) :
    Queried (cs ++ ds) := by
  induction h with
  | nil => exact rest
  | plain plain _ ih => exact .plain plain ih
  | octet high low _ ih => exact .octet high low ih

theorem queried_queryOctet (b : UInt8) : Queried (queryOctet b) := by
  have bound := b.toNat_lt
  rw [queryOctet]
  split
  · rename_i literal
    refine .plain ?_ .nil
    simp only [isLiteral, Bool.or_eq_true, decide_eq_true_eq, or_assoc] at literal
    rcases literal with letter | mark
    · exact .inl letter
    · simp only [List.mem_cons]
      tauto
  split
  · exact .plain (.inr (by decide)) .nil
  split
  · exact .plain (.inr (by decide)) .nil
  · exact .octet (isUpperHex_upperHexDigit (by omega)) (isUpperHex_upperHexDigit (by omega)) .nil

theorem queried_encodePart (s : String) : Queried (encodePart s) := by
  rw [encodePart]
  induction encode s.toList with
  | nil => exact .nil
  | cons b bs ih => exact (queried_queryOctet b).append ih

theorem queried_encodePair (p : String × String) : Queried (encodePair p) :=
  (queried_encodePart p.1).append (.plain (.inr (by decide)) (queried_encodePart p.2))

theorem queried_encodePairs {ps : List (String × String)} {cs : List Char}
    (h : encodePairs ps = some cs) : Queried cs := by
  cases ps with
  | nil => cases h
  | cons p ps =>
    cases h
    refine (queried_encodePair p).append ?_
    induction ps with
    | nil => exact .nil
    | cons q ps ih =>
      have pair : Queried ('&' :: encodePair q) :=
        .plain (.inr (by decide)) (queried_encodePair q)
      exact pair.append ih

/-! ## In an address -/

theorem inSpecialQuery_plain {c : Char}
    (h : c.isAlphanum = true ∨ c ∈ ['*', '-', '.', '_', '+', ',', '&', '=']) :
    inSpecialQuery c = false := by
  have ascii : c.toNat < 0x80 := by
    rcases h with letter | mark
    · exact toNat_lt_of_isAlphanum letter
    · have marks : ['*', '-', '.', '_', '+', ',', '&', '='].all (·.toNat < 0x80) = true := by
        decide
      exact of_decide_eq_true (List.all_eq_true.mp marks c mark)
  revert h
  exact forall_ascii (P := fun c => c.isAlphanum = true ∨
    c ∈ ['*', '-', '.', '_', '+', ',', '&', '='] → inSpecialQuery c = false) (by decide +kernel)
    ascii

theorem IsUpperHex.isAlphanum {c : Char} (h : IsUpperHex c) : c.isAlphanum = true := by
  rcases h with digit | ⟨low, high⟩
  · exact Bool.or_eq_true_iff.mpr (.inr digit)
  · have upper : c.isUpper = true :=
      decide_eq_true ⟨low, UInt32.le_trans high (by decide : 'F'.val ≤ 'Z'.val)⟩
    exact Bool.or_eq_true_iff.mpr (.inl (Bool.or_eq_true_iff.mpr (.inl upper)))

/-- Nothing that a query is written with is escaped in an address. -/
theorem inSpecialQuery_of_queried {cs : List Char} (h : Queried cs) :
    ∀ c ∈ cs, inSpecialQuery c = false := by
  induction h with
  | nil => exact fun c mem => absurd mem List.not_mem_nil
  | plain plain _ ih =>
    intro c mem
    rcases List.mem_cons.mp mem with rfl | mem
    · exact inSpecialQuery_plain plain
    · exact ih c mem
  | octet high low _ ih =>
    simp only [List.forall_mem_cons]
    exact ⟨by decide, inSpecialQuery_plain (.inl high.isAlphanum),
      inSpecialQuery_plain (.inl low.isAlphanum), ih⟩

section
variable {cs : List Char}

/-! ## Commas -/

/-- A comma of a name or a value, if it were escaped. -/
def escapedComma : List Char := ['%', '2', 'C']

theorem escapedComma_notInfix_cons {c : Char} (other : c ≠ '%') (h : ¬ escapedComma <:+: cs) :
    ¬ escapedComma <:+: c :: cs := by
  rw [List.infix_cons_iff, not_or]
  refine ⟨fun front => ?_, h⟩
  exact other (List.cons_prefix_cons.mp front).1.symm

theorem escapedComma_notInfix_queryOctet (b : UInt8) (h : ¬ escapedComma <:+: cs) :
    ¬ escapedComma <:+: queryOctet b ++ cs := by
  rw [queryOctet]
  split
  · rename_i literal
    exact escapedComma_notInfix_cons (isLiteral_eq_true literal).2.2 h
  split
  · exact escapedComma_notInfix_cons (by decide) h
  split
  · exact escapedComma_notInfix_cons (by decide) h
  · rename_i comma
    have digit : ∀ n : Fin 16, upperHexDigit n ≠ '%' := by decide
    have bound := b.toNat_lt
    have spelled : b ≠ 0x2c → percentOctet b ≠ escapedComma :=
      forall_octet (P := fun b => b ≠ 0x2c → percentOctet b ≠ escapedComma) (by decide +kernel) b
    have rest := escapedComma_notInfix_cons (digit ⟨b.toNat % 16, by omega⟩) h
    have rest := escapedComma_notInfix_cons (digit ⟨b.toNat / 16, by omega⟩) rest
    rw [percentOctet, List.cons_append, List.infix_cons_iff, not_or]
    refine ⟨fun front => spelled comma ?_, rest⟩
    simp only [escapedComma, List.cons_append, List.nil_append, List.cons_prefix_cons] at front
    obtain ⟨_, high, low, _⟩ := front
    rw [percentOctet, ← high, ← low, escapedComma]

/-- No octet of a name or a value is written as an escaped comma. -/
theorem escapedComma_notInfix_encodePart (s : String) (h : ¬ escapedComma <:+: cs) :
    ¬ escapedComma <:+: encodePart s ++ cs := by
  rw [encodePart]
  induction encode s.toList with
  | nil => exact h
  | cons b bs ih =>
    rw [List.flatMap_cons, List.append_assoc]
    exact escapedComma_notInfix_queryOctet b ih

theorem escapedComma_notInfix_encodePair (p : String × String) (h : ¬ escapedComma <:+: cs) :
    ¬ escapedComma <:+: encodePair p ++ cs := by
  rw [encodePair, List.append_assoc, List.cons_append]
  refine escapedComma_notInfix_encodePart p.1 ?_
  exact escapedComma_notInfix_cons (by decide) (escapedComma_notInfix_encodePart p.2 h)

theorem escapedComma_notInfix_encodePairs {ps : List (String × String)}
    (h : encodePairs ps = some cs) : ¬ escapedComma <:+: cs := by
  cases ps with
  | nil => cases h
  | cons p ps =>
    cases h
    refine escapedComma_notInfix_encodePair p ?_
    induction ps with
    | nil => simp [escapedComma]
    | cons q ps ih =>
      rw [List.flatMap_cons, List.cons_append]
      exact escapedComma_notInfix_cons (by decide) (escapedComma_notInfix_encodePair q ih)

theorem count_comma_octets (bs : List UInt8) :
    (bs.flatMap queryOctet).count ',' = bs.count 0x2c := by
  have octet : ∀ b, (queryOctet b).count ',' = if b == 0x2c then 1 else 0 :=
    forall_octet (P := fun b => (queryOctet b).count ',' = if b == 0x2c then 1 else 0)
      (by decide +kernel)
  induction bs with
  | nil => rfl
  | cons b bs ih =>
    rw [List.flatMap_cons, List.count_append, octet, ih, List.count_cons, Nat.add_comm]

/-- A comma is one octet, which is in no other character. -/
theorem count_comma_encode (cs : List Char) : (encode cs).count 0x2c = cs.count ',' := by
  have char : ∀ c, (encodeChar c).count 0x2c = if c == ',' then 1 else 0 := by
    intro c
    split
    · rename_i comma
      obtain rfl := eq_of_beq comma
      decide
    · rename_i other
      refine List.count_eq_zero.mpr fun mem => other ?_
      have same : c.toNat = ','.toNat := toNat_of_mem_encodeChar (by decide) mem
      rw [← Char.ofNat_toNat c, same]
      rfl
  induction cs with
  | nil => rfl
  | cons c cs ih =>
    have split : encode (c :: cs) = encodeChar c ++ encode cs := List.flatMap_cons
    rw [split, List.count_append, char, ih, List.count_cons, Nat.add_comm]

theorem count_comma_encodePart (s : String) : (encodePart s).count ',' = s.toList.count ',' := by
  rw [encodePart, count_comma_octets, count_comma_encode]

/-- The names and values of pairs, one after the other. -/
def joined (ps : List (String × String)) : List Char :=
  ps.flatMap fun p => p.1.toList ++ p.2.toList

theorem joined_cons (p : String × String) (ps : List (String × String)) :
    joined (p :: ps) = (p.1.toList ++ p.2.toList) ++ joined ps := List.flatMap_cons

theorem count_comma_encodePair (p : String × String) :
    (encodePair p).count ',' = p.1.toList.count ',' + p.2.toList.count ',' := by
  rw [encodePair, List.count_append, List.count_cons_of_ne (by decide), count_comma_encodePart,
    count_comma_encodePart]

/-- There are as many commas as names and values have. -/
theorem count_comma_encodePairs {ps : List (String × String)} (h : encodePairs ps = some cs) :
    cs.count ',' = (joined ps).count ',' := by
  cases ps with
  | nil => cases h
  | cons p ps =>
    cases h
    have rest : (ps.flatMap fun q => '&' :: encodePair q).count ',' = (joined ps).count ',' := by
      induction ps with
      | nil => rfl
      | cons q ps ih =>
        rw [List.flatMap_cons, List.cons_append, List.count_cons_of_ne (by decide),
          List.count_append, count_comma_encodePair, ih, joined_cons, List.count_append,
          List.count_append]
    rw [List.count_append, count_comma_encodePair, rest, joined_cons, List.count_append,
      List.count_append]

end

end LearningClient.Form

namespace LearningClient.Http

open LearningClient.Url

/-- A query that is written goes into an address unchanged, whatever the
scheme. -/
theorem escape_of_queried {cs : List Char} (h : Form.Queried cs) (scheme : List Char) :
    escape (querySet scheme) cs = cs := by
  refine escape_eq_self fun c mem => ?_
  have special := Form.inSpecialQuery_of_queried h c mem
  rw [querySet]
  split
  · exact special
  · rw [inSpecialQuery, Bool.or_eq_false_iff] at special
    exact special.1

theorem Request.query_of_address {r : Request} {base a : Address} {text : String}
    (encoded : r.encodedQuery = some text) (address : r.address base = .ok a) :
    a.query = some (escape (querySet a.scheme) text.toList) := by
  rw [Request.address] at address
  split at address
  · cases address
  · rw [encoded] at address
    cases address
    rfl

/-- A query loses nothing on its way into an address. Whatever names and values
have been added to a request, in whatever number:

- there is no query exactly if none have been added;
- otherwise the same names and values are read off the query, in their order;
- it has only letters, digits, a few marks, and percent signs with two
  hexadecimal digits each; all commas are left, and none is escaped;
- it is the query of the address of the request, if there is one, character by
  character, whatever the address of the backend. -/
theorem Request.query_kept (r : Request) :
    (r.encodedQuery = none ↔ r.query = []) ∧
    ∀ text, r.encodedQuery = some text →
      Form.decodePairs text.toList = r.query ∧
      Form.Queried text.toList ∧
      text.toList.count ',' = (Form.joined r.query).count ',' ∧
      ¬ Form.escapedComma <:+: text.toList ∧
      ∀ base a, r.address base = .ok a → a.query = some text.toList := by
  constructor
  · rw [encodedQuery, Option.map_eq_none_iff]
    cases r.query <;> simp [Form.encodePairs]
  · intro text encoded
    obtain ⟨cs, written, rfl⟩ := Option.map_eq_some_iff.mp encoded
    have queried := Form.queried_encodePairs written
    rw [String.toList_ofList]
    refine ⟨Form.decodePairs_encodePairs written, queried, Form.count_comma_encodePairs written,
      Form.escapedComma_notInfix_encodePairs written, fun base a address => ?_⟩
    rw [query_of_address encoded address, String.toList_ofList, escape_of_queried queried]

/-- Names and values with commas, an escaped comma, a plus sign and a letter
beyond ASCII, and a pair of which both are empty. -/
def awkward : Request :=
  (((Request.get "/h").withQuery "a,b" "%2C").withQuery "" "").withQuery "x y" "é+"

theorem Request.query_kept_awkward :
    awkward.encodedQuery = some "a,b=%252C&=&x+y=%C3%A9%2B" ∧
    Form.decodePairs "a,b=%252C&=&x+y=%C3%A9%2B".toList =
      [("a,b", "%2C"), ("", ""), ("x y", "é+")] ∧
    ∀ base a, awkward.address base = .ok a → a.query = some "a,b=%252C&=&x+y=%C3%A9%2B".toList := by
  have encoded : awkward.encodedQuery = some "a,b=%252C&=&x+y=%C3%A9%2B" := by decide +kernel
  obtain ⟨pairs, _, _, _, address⟩ := awkward.query_kept.2 _ encoded
  exact ⟨encoded, pairs, address⟩

end LearningClient.Http
