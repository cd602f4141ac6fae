import LearningClient.Http.Exchange
import LearningClient.Proofs.Http.Query
import LearningClient.Proofs.Url.Address

/-!
# The address of a request

The address of a request is read from a text: that of the backend without the
slashes at its end, and then the path of the request. What becomes of it depends
on what the address of the backend ends with:

- its path, and the two paths become one (`address_of_plain`);
- a fragment or a query, and the path of the request becomes more of that
  (`address_of_marked`, `address_of_queried`).

In each case the text is that of an address whose parts have the form in which
they are written, so it is read as that address (`SamePlace.address`). The path of
a request is made of names, each encoded (`Request.Routed`), and encoding leaves
nothing of a name that could end its segment, nor makes dots of any name but dots
(`isSegment_encodeSegment`).
-/

namespace LearningClient.Http

open LearningClient.Text LearningClient.Url

/-! ## Names in a path -/

/-- Octets that spell dots all stand for themselves. -/
theorem isLiteral_of_dots {bs : List UInt8}
    (h : (bs.flatMap Form.segmentOctet).map Char.toLower ∈ dots) :
    ∀ b ∈ bs, Form.isLiteral b = true := by
  intro b mem
  by_contra other
  obtain ⟨before, after, rfl⟩ := List.append_of_mem mem
  have written : Form.segmentOctet b = Form.percentOctet b := if_neg other
  rw [List.flatMap_append, List.flatMap_cons, written, List.map_append, List.map_append] at h
  obtain ⟨high, low⟩ := dot_of_percent h
  have dot : b = 0x2e := UInt8.toNat_inj.mp (eq_dot_of_upperHexDigit high low)
  exact other (by rw [dot]; decide)

/-- Only a name of dots is written as dots. -/
theorem dots_of_encodeSegment {n : String}
    (h : (Form.encodeSegment n).map Char.toLower ∈ dots) : n = "." ∨ n = ".." := by
  have spelled := decode?_encode n.toList
  rw [Form.encodeSegment] at h
  generalize encode n.toList = bs at h spelled
  have literal := isLiteral_of_dots h
  have text : (bs.flatMap Form.segmentOctet).map Char.toLower =
      bs.map fun b => (Char.ofNat b.toNat).toLower := by
    rw [List.map_flatMap, List.map_eq_flatMap]
    exact List.flatMap_congr fun b mem => by rw [Form.segmentOctet, if_pos (literal b mem)]; rfl
  rw [text] at h
  have octet : ∀ b, Form.isLiteral b = true → (Char.ofNat b.toNat).toLower ≠ '%' ∧
      ((Char.ofNat b.toNat).toLower = '.' → b = 0x2e) := Form.forall_octet (by decide +kernel)
  have percent : '%' ∉ bs.map fun b => (Char.ofNat b.toNat).toLower := by
    intro mem
    obtain ⟨b, mem, same⟩ := List.mem_map.mp mem
    exact (octet b (literal b mem)).1 same
  have unescaped : ∀ s ∈ dots, '%' ∉ s → s.all (· = '.') ∧ (s.length = 1 ∨ s.length = 2) := by
    decide
  obtain ⟨points, length⟩ := unescaped _ h percent
  rw [List.length_map] at length
  rw [List.all_map, List.all_eq_true] at points
  have all : ∀ b ∈ bs, b = 0x2e := fun b mem =>
    (octet b (literal b mem)).2 (of_decide_eq_true (points b mem))
  rcases length with one | two
  · rw [List.eq_replicate_iff.mpr ⟨one, all⟩] at spelled
    exact .inl (String.toList_injective (Option.some.inj spelled).symm)
  · rw [List.eq_replicate_iff.mpr ⟨two, all⟩] at spelled
    exact .inr (String.toList_injective (Option.some.inj spelled).symm)

/-- What is in an encoded text can stand in every part of an address. -/
theorem outside_of_mem_encodeSegment {n : String} {c : Char} (mem : c ∈ Form.encodeSegment n) :
    inUserInfo c = false ∧ inSpecialQuery c = false := by
  obtain ⟨b, _, mem⟩ := List.mem_flatMap.mp mem
  have octets : ∀ b, (Form.segmentOctet b).all (fun c => !inUserInfo c && !inSpecialQuery c) :=
    Form.forall_octet (by decide +kernel)
  simpa using List.all_eq_true.mp (octets b) c mem

theorem isSegment_encodeSegment {n : String} (apart : n ≠ "." ∧ n ≠ "..") :
    IsSegment (Form.encodeSegment n) := by
  have plain : ¬ (Form.encodeSegment n).map Char.toLower ∈ dots := fun h =>
    (dots_of_encodeSegment h).elim apart.1 apart.2
  refine ⟨fun c mem => ?_, fun c mem => ?_, ?_, ?_⟩
  · exact (Bool.or_eq_false_iff.mp (outside_of_mem_encodeSegment mem).1).1
  · obtain ⟨_, _, _, goes⟩ := apart_of_inUserInfo (outside_of_mem_encodeSegment mem).1
    exact isSlash_of_goes goes
  · exact Bool.eq_false_iff.mpr fun single => plain (mem_dots (.inl single))
  · exact Bool.eq_false_iff.mpr fun double => plain (mem_dots (.inr double))

/-- The path of a request is made of names, none of which is dots. -/
structure Request.Routed (r : Request) (names : List String) : Prop where
  path : r.path.toList = Path.text (.segments (names.map Form.encodeSegment))
  some : names ≠ []
  apart : ∀ n ∈ names, n ≠ "." ∧ n ≠ ".."

section
variable {r : Request} {names : List String}

theorem Request.Routed.isSegment (routed : r.Routed names) :
    ∀ s ∈ names.map Form.encodeSegment, IsSegment s := by
  intro s mem
  obtain ⟨n, named, rfl⟩ := List.mem_map.mp mem
  exact isSegment_encodeSegment (routed.apart n named)

/-- The path of a request can stand in a query and in a fragment as it is. -/
theorem Request.Routed.outside (routed : r.Routed names) :
    ∀ c ∈ r.path.toList, inSpecialQuery c = false ∧ inFragment c = false := by
  intro c mem
  rw [routed.path] at mem
  obtain ⟨s, there, mem⟩ := List.mem_flatMap.mp mem
  obtain ⟨n, _, rfl⟩ := List.mem_map.mp there
  rcases List.mem_cons.mp mem with rfl | mem
  · decide
  · obtain ⟨user, query⟩ := outside_of_mem_encodeSegment mem
    exact ⟨query, (Bool.or_eq_false_iff.mp (Bool.or_eq_false_iff.mp user).1).1⟩

end

/-! ## Slashes at the end -/

theorem mem_dropSlashes {cs : List Char} {c : Char} (mem : c ∈ dropSlashes cs) : c ∈ cs :=
  List.mem_reverse.mp ((List.dropWhile_sublist _).subset (List.mem_reverse.mp mem))

/-- Slashes are dropped down to a character that is none. -/
theorem dropSlashes_append {c : Char} (other : c ≠ '/') (cs ds : List Char) :
    dropSlashes (cs ++ c :: ds) = cs ++ c :: dropSlashes ds := by
  have reversed : (cs ++ c :: ds).reverse = ds.reverse ++ c :: cs.reverse := by simp
  have front : (c :: cs.reverse).dropWhile (· = '/') = c :: cs.reverse :=
    List.dropWhile_cons_of_neg (by simpa using other)
  rw [dropSlashes, dropSlashes, reversed, List.dropWhile_append, front]
  split
  · rename_i none
    rw [List.isEmpty_iff.mp none]
    simp
  · simp

theorem dropSlashes_concat_slash (cs : List Char) : dropSlashes (cs ++ ['/']) = dropSlashes cs := by
  simp [dropSlashes]

/-- The segments of a path without the empty ones at its end. -/
def dropEmptyEnd (ss : List (List Char)) : List (List Char) :=
  (ss.reverse.dropWhile (·.isEmpty)).reverse

theorem mem_dropEmptyEnd {ss : List (List Char)} {s : List Char} (mem : s ∈ dropEmptyEnd ss) :
    s ∈ ss :=
  List.mem_reverse.mp ((List.dropWhile_sublist _).subset (List.mem_reverse.mp mem))

theorem pathText_append (ss ts : List (List Char)) :
    Path.text (.segments (ss ++ ts)) = Path.text (.segments ss) ++ Path.text (.segments ts) :=
  List.flatMap_append

/-- A path without the slashes at its end is a path again. -/
theorem dropSlashes_pathText {ss : List (List Char)} (segments : ∀ s ∈ ss, IsSegment s) :
    dropSlashes (Path.text (.segments ss)) = Path.text (.segments (dropEmptyEnd ss)) := by
  induction ss using List.reverseRecOn with
  | nil => rfl
  | append_singleton ss s ih =>
    have one : Path.text (.segments [s]) = '/' :: s := List.append_nil _
    rw [pathText_append, one]
    cases s using List.reverseRecOn with
    | nil =>
      have dropped : dropEmptyEnd (ss ++ [[]]) = dropEmptyEnd ss := by simp [dropEmptyEnd]
      rw [dropSlashes_concat_slash, dropped]
      exact ih fun t mem => segments t (List.mem_append_left _ mem)
    | append_singleton s c =>
      have whole := (segments (s ++ [c]) (by simp)).whole c (by simp)
      have other : c ≠ '/' := by
        rintro rfl
        cases whole
      have kept : dropEmptyEnd (ss ++ [s ++ [c]]) = ss ++ [s ++ [c]] := by simp [dropEmptyEnd]
      rw [kept, ← List.cons_append, ← List.append_assoc, dropSlashes_append other, pathText_append,
        one, ← List.cons_append, ← List.append_assoc]
      rfl

/-! ## Addresses -/

section
variable {base : Address} {r : Request} {names : List String}

/-- Two addresses that differ in path, query and fragment at most. -/
structure SamePlace (a base : Address) : Prop where
  scheme : a.scheme = base.scheme
  username : a.username = base.username
  password : a.password = base.password
  host : a.host = base.host
  port : a.port = base.port

/-- The text of an address of the web up to its path does not end in a slash. -/
theorem SamePlace.text {a : Address} (place : SamePlace a base) (settled : base.Settled)
    {rest : List Char} (tail : a.tail = dropSlashes base.tail ++ rest) :
    a.text = dropSlashes base.text ++ rest := by
  obtain ⟨h, named, host⟩ := settled.host
  have user : a.userInfoText = base.userInfoText := by
    rw [Address.userInfoText, place.username, place.password, Address.userInfoText]
  have full : h.text ++ portText base.port ≠ [] := by simp [text_ne_nil host]
  obtain ⟨front, c, last⟩ : ∃ front c, h.text ++ portText base.port = front ++ [c] :=
    ⟨_, _, (List.dropLast_append_getLast full).symm⟩
  have other : c ≠ '/' := by
    rintro rfl
    have slash : '/' ∈ h.text ++ portText base.port := by simp [last]
    exact absurd (mem_hostPort host slash).2.2 (by decide)
  have whole : base.text =
      (base.scheme ++ ':' :: '/' :: '/' :: (base.userInfoText ++ front)) ++ c :: base.tail := by
    rw [text_eq named, last]
    simp
  rw [whole, dropSlashes_append other, text_eq (place.host.trans named), place.scheme, user,
    place.port, last, tail]
  simp

/-- An address whose last part goes on with the path of a request is the address
of the request, but for the query if the request has one. -/
theorem SamePlace.address {a : Address} (place : SamePlace a base) (settled : base.Settled)
    (form : a.Settled) (tail : a.tail = dropSlashes base.tail ++ r.path.toList) :
    ∃ b, r.address base = .ok b ∧ SamePlace b base ∧ b.path = a.path ∧ b.fragment = a.fragment ∧
      b.query = (r.encodedQuery.map String.toList).or a.query := by
  rw [Request.address, ← place.text settled tail, parse_text form]
  dsimp only
  cases encoded : r.encodedQuery with
  | none => exact ⟨a, rfl, place, rfl, rfl, rfl⟩
  | some q =>
    obtain ⟨cs, written, same⟩ := Option.map_eq_some_iff.mp encoded
    have kept : escape (querySet a.scheme) q.toList = q.toList := by
      rw [← same, String.toList_ofList]
      exact escape_of_queried (Form.queried_encodePairs written) a.scheme
    obtain ⟨scheme, username, password, host, port⟩ := place
    exact ⟨a.withQuery q.toList, rfl, ⟨scheme, username, password, host, port⟩, rfl, rfl,
      congrArg some kept⟩

/-- With neither query nor fragment in the way, two paths become one. -/
theorem address_of_plain (settled : base.Settled) (routed : r.Routed names)
    (query : base.query = none) (fragment : base.fragment = none) :
    ∃ a ss, r.address base = .ok a ∧ SamePlace a base ∧
      Path.text (.segments ss) = dropSlashes base.path.text ∧
      a.path = .segments (ss ++ names.map Form.encodeSegment) ∧
      a.query = r.encodedQuery.map String.toList ∧ a.fragment = none := by
  obtain ⟨ss, path, _, segments⟩ := settled.path
  have dropped : dropSlashes base.path.text = Path.text (.segments (dropEmptyEnd ss)) := by
    rw [path, dropSlashes_pathText segments]
  let whole : Address :=
    { base with path := .segments (dropEmptyEnd ss ++ names.map Form.encodeSegment) }
  have place : SamePlace whole base := ⟨rfl, rfl, rfl, rfl, rfl⟩
  have form : whole.Settled := by
    refine ⟨settled.web, settled.username, settled.password, settled.host, settled.port,
      ⟨_, rfl, by simp [routed.some], fun s mem => ?_⟩, settled.query, settled.fragment⟩
    rcases List.mem_append.mp mem with mem | mem
    · exact segments s (mem_dropEmptyEnd mem)
    · exact routed.isSegment s mem
  have tail : whole.tail = dropSlashes base.tail ++ r.path.toList := by
    simp only [Address.tail, whole, query, fragment, Url.optional, List.append_nil, dropped,
      pathText_append, routed.path]
  obtain ⟨a, address, place, joined, marked, queried⟩ :=
    place.address settled form tail
  refine ⟨a, dropEmptyEnd ss, address, place, dropped.symm, joined, ?_, marked.trans fragment⟩
  rw [queried, show whole.query = none from query, Option.or_none]

/-- Behind a fragment, the path of a request is more of the fragment. -/
theorem address_of_marked (settled : base.Settled) (routed : r.Routed names) {f : List Char}
    (fragment : base.fragment = some f) :
    ∃ a, r.address base = .ok a ∧ SamePlace a base ∧ a.path = base.path ∧
      a.fragment = some (dropSlashes f ++ r.path.toList) := by
  let whole : Address := { base with fragment := some (dropSlashes f ++ r.path.toList) }
  have place : SamePlace whole base := ⟨rfl, rfl, rfl, rfl, rfl⟩
  have form : whole.Settled := by
    refine ⟨settled.web, settled.username, settled.password, settled.host, settled.port,
      settled.path, settled.query, fun g mem c there => ?_⟩
    cases mem
    rcases List.mem_append.mp there with there | there
    · exact settled.fragment f fragment c (mem_dropSlashes there)
    · exact (routed.outside c there).2
  have tail : whole.tail = dropSlashes base.tail ++ r.path.toList := by
    simp only [Address.tail, whole, fragment, Url.optional]
    rw [dropSlashes_append (by decide)]
    simp only [List.append_assoc, List.cons_append]
  obtain ⟨a, address, place, path, marked, _⟩ :=
    place.address settled form tail
  exact ⟨a, address, place, path, marked⟩

/-- Behind a query, the path of a request is more of the query, which the query
of the request takes the place of if it has one. -/
theorem address_of_queried (settled : base.Settled) (routed : r.Routed names) {q : List Char}
    (query : base.query = some q) (fragment : base.fragment = none) :
    ∃ a, r.address base = .ok a ∧ SamePlace a base ∧ a.path = base.path ∧
      a.query = (r.encodedQuery.map String.toList).or (some (dropSlashes q ++ r.path.toList)) := by
  let whole : Address := { base with query := some (dropSlashes q ++ r.path.toList) }
  have place : SamePlace whole base := ⟨rfl, rfl, rfl, rfl, rfl⟩
  have form : whole.Settled := by
    refine ⟨settled.web, settled.username, settled.password, settled.host, settled.port,
      settled.path, fun p mem c there => ?_, settled.fragment⟩
    cases mem
    rcases List.mem_append.mp there with there | there
    · exact settled.query q query c (mem_dropSlashes there)
    · exact (routed.outside c there).1
  have tail : whole.tail = dropSlashes base.tail ++ r.path.toList := by
    simp only [Address.tail, whole, query, fragment, Url.optional, List.append_nil]
    rw [dropSlashes_append (by decide)]
    simp only [List.append_assoc, List.cons_append]
  obtain ⟨a, address, place, path, _, queried⟩ :=
    place.address settled form tail
  exact ⟨a, address, place, path, queried⟩

end

end LearningClient.Http
