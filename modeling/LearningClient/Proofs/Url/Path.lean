import LearningClient.Proofs.Url.Escape
import LearningClient.Url.Path

/-!
# Reading a path back

A segment that has been read is no dot and no two dots, in no spelling, and
has nothing in it that would be escaped or would end it (`IsSegment`). All
segments that are read are such segments (`isSegment_of_mem_readSegments`), and
a path of such segments is read back as it is written (`readSegments_text`).

That a segment is no dot survives escaping has to be shown: a dot has three
spellings, and two of them have a percent sign. Each percent sign in them is
followed by the number of the dot, and a dot is not among the characters that
are escaped (`plain_of_dots`).
-/

namespace LearningClient.Url

open LearningClient.Text

/-- A segment as it is in the path of an address. -/
structure IsSegment (s : List Char) : Prop where
  plain : ∀ c ∈ s, inPath c = false
  whole : ∀ c ∈ s, isSlash true c = false
  single : isSingleDot s = false
  double : isDoubleDot s = false

theorem isSegment_nil : IsSegment [] := ⟨by simp, by simp, rfl, rfl⟩

/-! ## Dots -/

/-- The spellings of one dot and of two in lower case. -/
def dots : List (List Char) :=
  [['.'], ['%', '2', 'e'], ['.', '.'], ['.', '%', '2', 'e'], ['%', '2', 'e', '.'],
    ['%', '2', 'e', '%', '2', 'e']]

theorem mem_dots {s : List Char} (h : isSingleDot s = true ∨ isDoubleDot s = true) :
    s.map Char.toLower ∈ dots := by
  rw [isSingleDot, isDoubleDot, List.contains_iff_mem, List.contains_iff_mem] at h
  simpa [dots, or_assoc] using h

/-- After a percent sign comes the number of the dot. -/
theorem dot_of_percent {l r : List Char} {x y : Char} (h : l ++ '%' :: x :: y :: r ∈ dots) :
    x = '2' ∧ y = 'e' := by
  have places : ∀ s ∈ dots, ∀ i < s.length, s[i]? = some '%' →
      s[i + 1]? = some '2' ∧ s[i + 2]? = some 'e' := by decide
  obtain ⟨two, e⟩ := places _ h l.length (by simp) (by simp)
  rw [List.getElem?_append_right (by omega)] at two e
  constructor
  · simpa using two
  · simpa using e

/-- The octet that is written as the dot's number is the dot. -/
theorem eq_dot_of_upperHexDigit {b : UInt8} (high : (upperHexDigit (b.toNat / 16)).toLower = '2')
    (low : (upperHexDigit (b.toNat % 16)).toLower = 'e') : b.toNat = 0x2e := by
  revert high low
  exact Form.forall_octet (P := fun b => (upperHexDigit (b.toNat / 16)).toLower = '2' →
    (upperHexDigit (b.toNat % 16)).toLower = 'e' → b.toNat = 0x2e) (by decide +kernel) b

/-- Dots hold nothing that has been escaped. -/
theorem plain_of_dots {s : List Char} (h : (escape inPath s).map Char.toLower ∈ dots) :
    ∀ c ∈ s, inPath c = false := by
  intro c mem
  by_contra inside
  rw [Bool.not_eq_false] at inside
  obtain ⟨before, after, rfl⟩ := List.append_of_mem mem
  obtain ⟨b, bs, octets⟩ : ∃ b bs, encodeChar c = b :: bs :=
    List.exists_cons_of_ne_nil (by simp [encodeChar])
  have written : escape inPath (before ++ c :: after) = escape inPath before ++
      (escapeOctet b ++ (bs.flatMap escapeOctet ++ escape inPath after)) := by
    simp [escape, escapeChar, inside, octets]
  rw [written, List.map_append, List.map_append] at h
  obtain ⟨high, low⟩ := dot_of_percent h
  have octet := eq_dot_of_upperHexDigit high low
  have dot : c.toNat = b.toNat :=
    toNat_of_mem_encodeChar (by rw [octet]; decide) (octets ▸ List.mem_cons_self)
  rw [← Char.ofNat_toNat c, dot, octet] at inside
  exact absurd inside (by decide)

/-- Escaping makes no dots. -/
theorem dots_of_escape {s : List Char}
    (h : isSingleDot (escape inPath s) = true ∨ isDoubleDot (escape inPath s) = true) :
    isSingleDot s = true ∨ isDoubleDot s = true := by
  rwa [escape_eq_self (plain_of_dots (mem_dots h))] at h

/-! ## Segments that are read -/

/-- A slash is not written by escaping. -/
theorem isSlash_of_mem_escape {set : EscapeSet} {s : List Char}
    (whole : ∀ c ∈ s, isSlash true c = false) : ∀ c ∈ escape set s, isSlash true c = false := by
  intro c mem
  obtain ⟨there, _⟩ | ⟨b, octet⟩ := mem_escape mem
  · exact whole c there
  · have outside := settles_inUserInfo b c octet
    by_contra slash
    rw [Bool.not_eq_false, isSlash, Bool.or_eq_true, decide_eq_true_eq, Bool.true_and,
      decide_eq_true_eq] at slash
    rcases slash with rfl | rfl <;> exact absurd outside (by decide)

theorem isSegment_escape {s : List Char} (whole : ∀ c ∈ s, isSlash true c = false)
    (single : isSingleDot s = false) (double : isDoubleDot s = false) :
    IsSegment (escape inPath s) := by
  have apart : ¬ (isSingleDot (escape inPath s) = true ∨ isDoubleDot (escape inPath s) = true) := by
    intro h
    have := dots_of_escape h
    simp [single, double] at this
  rw [not_or, Bool.not_eq_true, Bool.not_eq_true] at apart
  exact ⟨escape_outside settles_inPath s, isSlash_of_mem_escape whole, apart.1, apart.2⟩

theorem mem_shorten {ss : List (List Char)} {s : List Char} (mem : s ∈ shorten ss) : s ∈ ss := by
  rw [shorten] at mem
  split at mem
  · exact mem
  · exact List.dropLast_subset ss mem

/-- What a segment adds, with the last in its three cases. -/
theorem pushSegment_eq (last : Bool) (ss : List (List Char)) (s : List Char) :
    pushSegment last ss s =
      if isDoubleDot s then if last then shorten ss ++ [[]] else shorten ss
      else if isSingleDot s then if last then ss ++ [[]] else ss
      else ss ++ [escape inPath s] := by
  cases last <;> rfl

/-- Adding a segment keeps all segments such as they are in an address. -/
theorem isSegment_of_mem_pushSegment {last : Bool} {ss : List (List Char)} {s t : List Char}
    (whole : ∀ c ∈ s, isSlash true c = false) (before : ∀ t ∈ ss, IsSegment t)
    (mem : t ∈ pushSegment last ss s) : IsSegment t := by
  have opened : ∀ ts : List (List Char), (∀ t ∈ ts, t ∈ ss) →
      t ∈ (if last then ts ++ [[]] else ts) → IsSegment t := by
    intro ts kept mem
    split at mem
    · rcases List.mem_append.mp mem with mem | mem
      · exact before t (kept t mem)
      · exact List.mem_singleton.mp mem ▸ isSegment_nil
    · exact before t (kept t mem)
  rw [pushSegment_eq] at mem
  split at mem
  · exact opened _ (fun _ => mem_shorten) mem
  split at mem
  · exact opened _ (fun _ => id) mem
  · rename_i double single
    rcases List.mem_append.mp mem with mem | mem
    · exact before t mem
    · exact List.mem_singleton.mp mem ▸
        isSegment_escape whole (Bool.eq_false_iff.mpr single) (Bool.eq_false_iff.mpr double)

/-- The last segment leaves at least one. -/
theorem pushSegment_ne_nil (ss : List (List Char)) (s : List Char) :
    pushSegment true ss s ≠ [] := by
  rw [pushSegment_eq]
  split
  · simp
  split
  · simp
  · simp

theorem isSegment_of_mem_pushSegments {parts ss : List (List Char)} {t : List Char}
    (whole : ∀ s ∈ parts, ∀ c ∈ s, isSlash true c = false) (before : ∀ t ∈ ss, IsSegment t)
    (mem : t ∈ pushSegments pushSegment ss parts) : IsSegment t := by
  fun_induction pushSegments pushSegment ss parts with
  | case1 ss => exact before t mem
  | case2 ss s => exact isSegment_of_mem_pushSegment (whole s (by simp)) before mem
  | case3 ss s rest more ih =>
    exact ih (fun s mem => whole s (List.mem_cons_of_mem _ mem))
      (fun t mem => isSegment_of_mem_pushSegment (whole s (by simp)) before mem) mem

theorem pushSegments_ne_nil {parts : List (List Char)} (some : parts ≠ [])
    (ss : List (List Char)) : pushSegments pushSegment ss parts ≠ [] := by
  fun_induction pushSegments pushSegment ss parts with
  | case1 ss => exact absurd rfl some
  | case2 ss s => exact pushSegment_ne_nil ss s
  | case3 ss s rest more ih => exact ih more

/-- What is cut off at slashes has none. -/
theorem isSlash_of_mem_splitSegments {cs s : List Char} (mem : s ∈ splitSegments true cs) :
    ∀ c ∈ s, isSlash true c = false := by
  unfold splitSegments at mem
  induction cs generalizing s with
  | nil =>
    rw [List.splitOnP_nil] at mem
    obtain rfl := List.mem_singleton.mp mem
    exact nofun
  | cons d cs ih =>
    rw [List.splitOnP_cons_eq_if_modifyHead] at mem
    split at mem
    · rcases List.mem_cons.mp mem with rfl | mem
      · exact nofun
      · exact ih mem
    · rename_i other
      cases parts : cs.splitOnP (isSlash true) with
      | nil => exact absurd parts (List.splitOnP_ne_nil _ _)
      | cons p ps =>
        rw [parts, List.modifyHead_cons] at mem
        rcases List.mem_cons.mp mem with rfl | mem
        · intro c mem
          rcases List.mem_cons.mp mem with rfl | mem
          · exact Bool.eq_false_iff.mpr other
          · exact ih (parts ▸ List.mem_cons_self) c mem
        · exact ih (parts ▸ List.mem_cons_of_mem _ mem)

/-- All segments that are read are such as they are in an address. -/
theorem isSegment_of_mem_readSegments {cs s : List Char} (mem : s ∈ readSegments true cs) :
    IsSegment s :=
  isSegment_of_mem_pushSegments (fun _ => isSlash_of_mem_splitSegments) (by simp) mem

theorem readSegments_ne_nil (cs : List Char) : readSegments true cs ≠ [] :=
  pushSegments_ne_nil (List.splitOnP_ne_nil _ _) []

/-! ## Reading back -/

theorem pushSegment_of_isSegment {s : List Char} (h : IsSegment s) (last : Bool)
    (ss : List (List Char)) : pushSegment last ss s = ss ++ [s] := by
  simp [pushSegment, h.single, h.double, escape_eq_self h.plain]

theorem pushSegments_of_isSegment {parts : List (List Char)} (h : ∀ s ∈ parts, IsSegment s)
    (ss : List (List Char)) : pushSegments pushSegment ss parts = ss ++ parts := by
  fun_induction pushSegments pushSegment ss parts with
  | case1 ss => exact (List.append_nil ss).symm
  | case2 ss s => exact pushSegment_of_isSegment (h s (by simp)) true ss
  | case3 ss s rest more ih =>
    rw [ih fun s mem => h s (List.mem_cons_of_mem _ mem),
      pushSegment_of_isSegment (h s (by simp)), List.append_assoc]
    rfl

theorem Path.text_cons (s : List Char) (ss : List (List Char)) :
    Path.text (.segments (s :: ss)) = '/' :: (s ++ Path.text (.segments ss)) := rfl

theorem splitSegments_text {s : List Char} {ss : List (List Char)}
    (h : ∀ t ∈ s :: ss, ∀ c ∈ t, isSlash true c = false) :
    splitSegments true (s ++ Path.text (.segments ss)) = s :: ss := by
  unfold splitSegments
  induction ss generalizing s with
  | nil =>
    have none : Path.text (.segments []) = [] := rfl
    rw [none, List.append_nil, List.splitOnP_eq_singleton (h s (by simp))]
  | cons t ss ih =>
    rw [Path.text_cons, List.splitOnP_append_cons_of_forall_mem (h s (by simp)) '/' (by decide),
      ih fun t mem => h t (List.mem_cons_of_mem _ mem)]

/-- A path is read back as it is written. -/
theorem readSegments_text {ss : List (List Char)} (h : ∀ s ∈ ss, IsSegment s) (some : ss ≠ []) :
    readSegments true (Path.text (.segments ss)) = ss := by
  cases ss with
  | nil => exact absurd rfl some
  | cons s ss =>
    have front : dropSlash true (Path.text (.segments (s :: ss))) =
        s ++ Path.text (.segments ss) := rfl
    rw [readSegments, front, splitSegments_text fun t mem => (h t mem).whole]
    simp only [Bool.not_true, Bool.false_and, Bool.false_eq_true, if_false]
    exact pushSegments_of_isSegment h []

end LearningClient.Url
