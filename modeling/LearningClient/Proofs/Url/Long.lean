import LearningClient.Url.Host
import Mathlib.Data.List.Basic

/-!
# Reading a number of 128 bits back

Eight parts are written in hexadecimal, with colons between them and the longest
run of zeros left out. Parts are read one after the other
(`readParts?_joinParts`); where a run has been left out, one part of it is read
as zero (`readParts?_gap`), and the other zeros are filled in at the end
(`fillParts?_gap`). That a run is left out says that there have been zeros in its
place (`eq_of_longestZeroRun`), and this is all that has to be known of the way it
is found. So every number is read back (`readLong?_longText`), and every number
that is read has eight parts of 16 bits (`areParts_of_readLong?`).
-/

namespace LearningClient.Url

open LearningClient.Text

/-! ## Digits -/

theorem hexValue?_hexDigit (d : Fin 16) : hexValue? (hexDigit d) = some d.val := by
  revert d
  decide

/-- A number in hexadecimal is the digits that it has. -/
theorem hexText_eq (n : Nat) : ∃ ds : List (Fin 16),
    hexText n = ds.map (hexDigit ·.val) ∧ ds.foldl (fun n d => 16 * n + d.val) 0 = n := by
  induction n using Nat.strongRecOn with
  | ind n ih =>
    rw [hexText, Nat.toDigits_eq_if (by decide)]
    split
    · rename_i one
      exact ⟨[⟨n, one⟩], rfl, by simp⟩
    · rename_i more
      obtain ⟨ds, text, total⟩ := ih (n / 16) (by omega)
      refine ⟨ds ++ [⟨n % 16, by omega⟩], ?_, ?_⟩
      · rw [List.map_append, ← text]
        rfl
      · rw [List.foldl_append, total]
        exact Nat.div_add_mod n 16

theorem mem_hexText {n : Nat} {c : Char} (mem : c ∈ hexText n) : ∃ d : Fin 16, hexDigit d = c := by
  obtain ⟨ds, text, _⟩ := hexText_eq n
  rw [text] at mem
  obtain ⟨d, _, same⟩ := List.mem_map.mp mem
  exact ⟨d, same⟩

/-- Digits are taken together to one number. -/
theorem takeHex_append {ds : List (Fin 16)} {rest : List Char} {k : Nat} (n : Nat)
    (fits : ds.length ≤ k) (ends : ∀ c ∈ rest.head?, hexValue? c = none) :
    takeHex k n (ds.map (hexDigit ·.val) ++ rest) =
      (ds.foldl (fun n d => 16 * n + d.val) n, rest) := by
  induction ds generalizing k n with
  | nil =>
    cases k with
    | zero => rfl
    | succ k =>
      cases rest with
      | nil => rfl
      | cons c rest => simp [takeHex, ends c rfl]
  | cons d ds ih =>
    cases k with
    | zero => cases fits
    | succ k =>
      rw [List.map_cons, List.cons_append, takeHex, hexValue?_hexDigit]
      exact ih (16 * n + d) (Nat.le_of_succ_le_succ fits)

/-- A part is read up to where no digit follows. -/
theorem takeHex_hexText {n : Nat} (small : n < 0x10000) (rest : List Char)
    (ends : ∀ c ∈ rest.head?, hexValue? c = none) :
    takeHex 4 0 (hexText n ++ rest) = (n, rest) := by
  have fits : (hexText n).length ≤ 4 :=
    (Nat.length_toDigits_le_iff (by decide) (by decide)).mpr small
  obtain ⟨ds, text, total⟩ := hexText_eq n
  rw [text, List.length_map] at fits
  rw [text, takeHex_append 0 fits ends, total]

/-- A number in hexadecimal does not begin with a colon. -/
theorem hexText_eq_cons (n : Nat) : ∃ c cs, hexText n = c :: cs ∧ c ≠ ':' := by
  obtain ⟨c, cs, text⟩ := List.exists_cons_of_ne_nil (l := hexText n) Nat.toDigits_ne_nil
  have other : ∀ d : Fin 16, hexDigit d ≠ ':' := by decide
  obtain ⟨d, rfl⟩ := mem_hexText (text ▸ List.mem_cons_self)
  exact ⟨_, cs, text, other d⟩

/-! ## Parts -/

theorem readParts?_last {n : Nat} (small : n < 0x10000) {parts : List Nat} {gap : Option Nat}
    (few : parts.length < 8) (rounds : Nat) :
    readParts? (rounds + 1) parts gap (hexText n) = some (parts ++ [n], gap) := by
  obtain ⟨c, cs, text, colon⟩ := hexText_eq_cons n
  have part := takeHex_hexText small [] (by simp)
  rw [List.append_nil, text] at part
  rw [text, readParts?, if_neg (by omega), if_neg colon, part]

theorem readParts?_colon {n : Nat} (small : n < 0x10000) {parts : List Nat} {gap : Option Nat}
    (few : parts.length < 8) (rounds : Nat) {rest : List Char} (more : rest ≠ []) :
    readParts? (rounds + 1) parts gap (hexText n ++ ':' :: rest) =
      readParts? rounds (parts ++ [n]) gap rest := by
  obtain ⟨c, cs, text, colon⟩ := hexText_eq_cons n
  have part := takeHex_hexText small (':' :: rest) (by simp [hexValue?])
  rw [text, List.cons_append] at part
  rw [text, List.cons_append, readParts?, if_neg (by omega), if_neg colon, part]
  simp [more]

theorem joinParts_ne_nil {ns : List Nat} (some : ns ≠ []) : joinParts ns ≠ [] := by
  fun_cases joinParts ns with
  | case1 => exact absurd rfl some
  | case2 n => exact Nat.toDigits_ne_nil
  | case3 n ns more => simp

/-- Parts with colons between them are read one after the other. -/
theorem readParts?_joinParts {ns : List Nat} (parts : List Nat) (gap : Option Nat) {rounds : Nat}
    (small : ∀ n ∈ ns, n < 0x10000) (few : parts.length + ns.length ≤ 8)
    (enough : (joinParts ns).length ≤ rounds) :
    readParts? rounds parts gap (joinParts ns) = some (parts ++ ns, gap) := by
  fun_induction joinParts ns generalizing parts rounds with
  | case1 => simp [readParts?]
  | case2 n =>
    have one : 0 < (hexText n).length := Nat.length_toDigits_pos
    obtain ⟨rounds, rfl⟩ := Nat.exists_eq_succ_of_ne_zero (by omega : rounds ≠ 0)
    exact readParts?_last (small n (by simp)) (Nat.lt_of_succ_le few) rounds
  | case3 n ns more ih =>
    rw [List.length_append, List.length_cons] at enough
    obtain ⟨rounds, rfl⟩ := Nat.exists_eq_succ_of_ne_zero (by omega : rounds ≠ 0)
    rw [List.length_cons] at few
    rw [readParts?_colon (small n (by simp)) (by omega) rounds (joinParts_ne_nil more),
      ih _ (fun m mem => small m (List.mem_cons_of_mem _ mem)) (by simp; omega) (by omega),
      List.append_assoc]
    rfl

/-- Where two colons stand between parts, one part is zero, and that is kept
in mind. -/
theorem readParts?_gap {ns ms : List Nat} (parts : List Nat) {rounds : Nat} (some : ns ≠ [])
    (small : ∀ n ∈ ns ++ ms, n < 0x10000) (few : parts.length + ns.length + ms.length < 8)
    (enough : (joinParts ns ++ ':' :: ':' :: joinParts ms).length ≤ rounds) :
    readParts? rounds parts none (joinParts ns ++ ':' :: ':' :: joinParts ms) =
      .some (parts ++ ns ++ [0] ++ ms, .some (parts.length + ns.length + 1)) := by
  fun_induction joinParts ns generalizing parts rounds with
  | case1 => exact absurd rfl some
  | case2 n =>
    simp only [List.length_append, List.length_cons, List.length_nil] at enough few
    obtain ⟨rounds, rfl⟩ := Nat.exists_eq_add_of_le' (by omega : 2 ≤ rounds)
    rw [readParts?_colon (small n (by simp)) (by omega) (rounds + 1) (by simp), readParts?,
      if_neg (by simp; omega), if_pos rfl, if_neg (by simp)]
    rw [readParts?_joinParts _ _ (fun m mem => small m (List.mem_append_right _ mem))
      (by simp; omega) (by omega)]
    simp
  | case3 n ns more ih =>
    simp only [List.append_assoc, List.cons_append, List.length_append, List.length_cons]
      at enough few ih ⊢
    obtain ⟨rounds, rfl⟩ := Nat.exists_eq_succ_of_ne_zero (by omega : rounds ≠ 0)
    rw [readParts?_colon (small n (by simp)) (by omega) rounds (by simp),
      ih _ more (fun m mem => small m (List.mem_cons_of_mem _ mem)) (by simp; omega) (by omega)]
    simp
    omega

/-! ## What is read -/

/-- Parts as they are read: at most eight, each of 16 bits. -/
structure AreParts (ns : List Nat) : Prop where
  few : ns.length ≤ 8
  small : ∀ n ∈ ns, n < 0x10000

theorem AreParts.append {ns ms : List Nat} (h : AreParts ns) (few : ns.length + ms.length ≤ 8)
    (small : ∀ m ∈ ms, m < 0x10000) : AreParts (ns ++ ms) := by
  refine ⟨by rwa [List.length_append], fun n mem => ?_⟩
  rcases List.mem_append.mp mem with mem | mem
  · exact h.small n mem
  · exact small n mem

theorem hexValue?_lt {c : Char} {v : Nat} (h : hexValue? c = some v) : v < 16 := by
  have marks : '0'.toNat = 48 ∧ '9'.toNat = 57 ∧ 'a'.toNat = 97 ∧ 'f'.toNat = 102 ∧
      'A'.toNat = 65 ∧ 'F'.toNat = 70 := by decide
  have values : ∀ d : Char, d.val.toNat = d.toNat := fun _ => rfl
  simp only [hexValue?, Char.isDigit, ge_iff_le, Char.le_def, UInt32.le_iff_toNat_le, values,
    Bool.and_eq_true, decide_eq_true_eq, marks] at h
  split at h
  · cases h
    omega
  split at h
  · cases h
    omega
  split at h
  · cases h
    omega
  · cases h

/-- Four digits are 16 bits. -/
theorem takeHex_lt (k n : Nat) (cs : List Char) :
    (takeHex k n cs).1 < Nat.pow 16 k * (n + 1) := by
  fun_induction takeHex k n cs with
  | case1 n cs => simp
  | case2 k n c cs v value ih =>
    have digit := hexValue?_lt value
    refine Nat.lt_of_lt_of_le ih ?_
    rw [show Nat.pow 16 (k + 1) = Nat.pow 16 k * 16 from rfl, Nat.mul_assoc]
    exact Nat.mul_le_mul_left _ (by omega)
  | case3 k n c cs none => exact Nat.le_mul_of_pos_left _ (Nat.pow_pos (by decide))
  | case4 k n => exact Nat.le_mul_of_pos_left _ (Nat.pow_pos (by decide))

theorem readByte?_le {cs : List Char} {n : Nat} (h : readByte? cs = some n) : n ≤ 255 := by
  unfold readByte? at h
  split at h
  · cases h
  · simpa using (Option.filter_eq_some_iff.mp h).2

theorem readTail?_eq_some {cs : List Char} {ms : List Nat} (h : readTail? cs = some ms) :
    ms.length = 2 ∧ ∀ m ∈ ms, m < 0x10000 := by
  unfold readTail? at h
  split at h
  · obtain ⟨a, first, h⟩ := Option.bind_eq_some_iff.mp h
    obtain ⟨b, second, h⟩ := Option.bind_eq_some_iff.mp h
    obtain ⟨c, third, h⟩ := Option.bind_eq_some_iff.mp h
    obtain ⟨d, fourth, h⟩ := Option.bind_eq_some_iff.mp h
    cases h
    have := readByte?_le first
    have := readByte?_le second
    have := readByte?_le third
    have := readByte?_le fourth
    refine ⟨rfl, fun m mem => ?_⟩
    simp only [List.mem_cons, List.not_mem_nil, or_false] at mem
    omega
  · cases h

theorem AreParts.concat {ns : List Nat} (h : AreParts ns) (few : ns.length ≠ 8) {n : Nat}
    (small : n < 0x10000) : AreParts (ns ++ [n]) := by
  have room := h.few
  refine h.append (by simp; omega) fun m mem => ?_
  rwa [List.mem_singleton.mp mem]

/-- What is read are parts: nothing is read after the eighth. -/
theorem areParts_of_readParts? {rounds : Nat} {parts ns : List Nat} {gap place : Option Nat}
    {cs : List Char} (before : AreParts parts)
    (h : readParts? rounds parts gap cs = some (ns, place)) : AreParts ns := by
  have part : ∀ {cs rest : List Char} {n : Nat}, takeHex 4 0 cs = (n, rest) → n < 0x10000 := by
    intro cs rest n taken
    have bound := takeHex_lt 4 0 cs
    rwa [taken] at bound
  fun_induction readParts? rounds parts gap cs with
  | case1 =>
    cases h
    exact before
  | case2 => cases h
  | case3 => cases h
  | case4 => cases h
  | case5 rounds parts gap cs few none ih => exact ih (before.concat few (by decide)) h
  | case6 rounds parts gap c cs few other n taken =>
    cases h
    exact before.concat few (part taken)
  | case7 => cases h
  | case8 rounds parts gap c cs few other n tail room taken =>
    obtain ⟨ms, read, h⟩ := Option.map_eq_some_iff.mp h
    cases h
    obtain ⟨two, small⟩ := readTail?_eq_some read
    exact before.append (by omega) small
  | case9 => cases h
  | case10 rounds parts gap c cs few other n rest some taken ih =>
    exact ih (before.concat few (part taken)) h
  | case11 => cases h

theorem areParts_of_fillParts? {parts ns : List Nat} {gap : Option Nat} (read : AreParts parts)
    (h : fillParts? (parts, gap) = some ns) : ns.length = 8 ∧ ∀ n ∈ ns, n < 0x10000 := by
  have few := read.few
  unfold fillParts? at h
  split at h
  · rename_i ps gap same
    cases same
    cases h
    refine ⟨by simp; omega, fun n mem => ?_⟩
    simp only [List.mem_append, List.mem_replicate] at mem
    rcases mem with (mem | ⟨_, rfl⟩) | mem
    · exact read.small n (List.mem_of_mem_take mem)
    · decide
    · exact read.small n (List.mem_of_mem_drop mem)
  · rename_i ps same
    cases same
    split at h
    · rename_i eight
      cases h
      exact ⟨eight, read.small⟩
    · cases h

/-- What stands between brackets is read as eight parts of 16 bits. -/
theorem areParts_of_readLong? {cs : List Char} {ns : List Nat} (h : readLong? cs = some ns) :
    ns.length = 8 ∧ ∀ n ∈ ns, n < 0x10000 := by
  unfold readLong? at h
  split at h
  · obtain ⟨⟨parts, gap⟩, read, h⟩ := Option.bind_eq_some_iff.mp h
    exact areParts_of_fillParts? (areParts_of_readParts? ⟨by simp, by simp⟩ read) h
  · cases h
  · obtain ⟨⟨parts, gap⟩, read, h⟩ := Option.bind_eq_some_iff.mp h
    exact areParts_of_fillParts? (areParts_of_readParts? ⟨by simp, by simp⟩ read) h
  · cases h

/-! ## Runs of zeros -/

theorem eq_replicate_append_drop (ns : List Nat) :
    ns = List.replicate (zeroRun ns) 0 ++ ns.drop (zeroRun ns) := by
  induction ns with
  | nil => rfl
  | cons n ns ih =>
    by_cases zero : n = 0
    · have one : zeroRun (n :: ns) = zeroRun ns + 1 := by simp [zeroRun, zero]
      rw [one, List.replicate_succ, List.drop_succ_cons, List.cons_append, ← ih, zero]
    · have none : zeroRun (n :: ns) = 0 := by simp [zeroRun, zero]
      rw [none]
      rfl

/-- The run that is left out is one of more than one zero. -/
theorem longestZeroRun_eq_some {ns : List Nat} {start length : Nat}
    (h : longestZeroRun ns = some (start, length)) :
    1 < length ∧ zeroRun (ns.drop start) = length := by
  have kept : ∀ p ∈ longestZeroRun ns, 1 < p.2 ∧ zeroRun (ns.drop p.1) = p.2 := by
    unfold longestZeroRun
    -- the run that has been found so far is one, and any longer one takes its place
    refine List.foldlRecOn (motive := fun best : Option (Nat × Nat) =>
      ∀ p ∈ best, 1 < p.2 ∧ zeroRun (ns.drop p.1) = p.2) _ _ (by simp) fun best kept i _ p mem => ?_
    dsimp only at mem
    split at mem
    · rename_i s m
      split at mem
      · cases mem
        exact ⟨Nat.lt_trans (kept _ rfl).1 ‹_›, rfl⟩
      · exact kept p mem
    · split at mem
      · cases mem
        exact ⟨‹_›, rfl⟩
      · cases mem
  exact kept _ h

/-- Parts are those before the run, the zeros, and those after it. -/
theorem eq_of_longestZeroRun {ns : List Nat} {start length : Nat}
    (h : longestZeroRun ns = some (start, length)) :
    1 < length ∧
      ns = ns.take start ++ List.replicate length 0 ++ ns.drop (start + length) := by
  obtain ⟨more, run⟩ := longestZeroRun_eq_some h
  refine ⟨more, ?_⟩
  have parts := eq_replicate_append_drop (ns.drop start)
  rw [run, List.drop_drop] at parts
  rw [List.append_assoc, ← parts, List.take_append_drop]

/-- A text that does not begin with a colon is read from its first part on. -/
theorem readLong?_hexText (n : Nat) {rest : List Char} (more : rest ≠ []) :
    readLong? (hexText n ++ rest) =
      (readParts? ((hexText n ++ rest).length + 1) [] none
        (hexText n ++ rest)).bind fillParts? := by
  obtain ⟨c, cs, text, colon⟩ := hexText_eq_cons n
  obtain ⟨d, ds, other⟩ := List.exists_cons_of_ne_nil (l := cs ++ rest) (by simp [more])
  rw [text, List.cons_append, other]
  unfold readLong?
  split
  · rename_i same
    exact absurd (List.cons.inj same).1 colon
  · rename_i same
    exact absurd (List.cons.inj same).1 colon
  · rfl
  · rename_i none
    exact absurd rfl (none c d ds)

/-- Parts that are left out are filled in with as many zeros. -/
theorem fillParts?_gap {front back : List Nat} {length : Nat} (zero : 0 < length)
    (eight : front.length + length + back.length = 8) :
    fillParts? (front ++ [0] ++ back, some (front.length + 1)) =
      some (front ++ List.replicate length 0 ++ back) := by
  have filled : 8 - (front ++ [0] ++ back).length = length - 1 := by
    simp
    omega
  have zeros : List.replicate length 0 = 0 :: List.replicate (length - 1) 0 := by
    rw [← List.replicate_succ, Nat.sub_add_cancel zero]
  have cut : front.length + 1 = (front ++ [0]).length := by simp
  rw [fillParts?, filled, cut, List.take_left, List.drop_left, zeros]
  simp

/-! ## Reading back -/

theorem mem_joinParts {ns : List Nat} {c : Char} (mem : c ∈ joinParts ns) :
    c = ':' ∨ ∃ d : Fin 16, hexDigit d = c := by
  fun_induction joinParts ns with
  | case1 => cases mem
  | case2 n => exact .inr (mem_hexText mem)
  | case3 n ns more ih =>
    rcases List.mem_append.mp mem with mem | mem
    · exact .inr (mem_hexText mem)
    · rcases List.mem_cons.mp mem with colon | mem
      · exact .inl colon
      · exact ih mem

/-- A number of 128 bits is written with digits and colons. -/
theorem mem_longText {ns : List Nat} {c : Char} (mem : c ∈ longText ns) :
    c = ':' ∨ ∃ d : Fin 16, hexDigit d = c := by
  unfold longText at mem
  split at mem
  · exact mem_joinParts mem
  · simp only [List.mem_append, List.mem_cons] at mem
    rcases mem with mem | colon | colon | mem
    · exact mem_joinParts mem
    · exact .inl colon
    · exact .inl colon
    · exact mem_joinParts mem

/-- A number of 128 bits is read back. -/
theorem readLong?_longText {ns : List Nat} (eight : ns.length = 8)
    (small : ∀ n ∈ ns, n < 0x10000) : readLong? (longText ns) = some ns := by
  unfold longText
  cases run : longestZeroRun ns with
  | none =>
    match ns, eight with
    | a :: b :: ns, eight =>
      have parts := readParts?_joinParts [] none small
        (by rw [List.length_nil, Nat.zero_add]; exact Nat.le_of_eq eight)
        (Nat.le_succ (joinParts (a :: b :: ns)).length)
      have text : joinParts (a :: b :: ns) = hexText a ++ ':' :: joinParts (b :: ns) := rfl
      rw [text] at parts
      rw [text, readLong?_hexText a (by simp), parts]
      simp [fillParts?, eight]
  | some place =>
    obtain ⟨start, length⟩ := place
    obtain ⟨more, split⟩ := eq_of_longestZeroRun run
    dsimp only
    generalize ns.take start = front at split ⊢
    generalize ns.drop (start + length) = back at split ⊢
    subst split
    have kept : ∀ n ∈ front ++ back, n < 0x10000 := by
      intro n mem
      refine small n ?_
      rcases List.mem_append.mp mem with mem | mem
      · exact List.mem_append_left _ (List.mem_append_left _ mem)
      · exact List.mem_append_right _ mem
    simp only [List.length_append, List.length_replicate] at eight
    have filled := fillParts?_gap (by omega) eight
    cases front with
    | nil =>
      have parts := readParts?_joinParts [0] (some 1) kept
        (by simp at eight ⊢; omega) (Nat.le_succ (joinParts back).length)
      rw [joinParts, List.nil_append, readLong?]
      exact (congrArg (·.bind fillParts?) parts).trans filled
    | cons a front =>
      have parts := readParts?_gap [] (List.cons_ne_nil a front) kept
        (by simp at eight ⊢; omega)
        (Nat.le_succ (joinParts (a :: front) ++ ':' :: ':' :: joinParts back).length)
      obtain ⟨rest, text⟩ : ∃ rest, joinParts (a :: front) ++ ':' :: ':' :: joinParts back =
          hexText a ++ ':' :: rest := by
        cases front with
        | nil => exact ⟨_, rfl⟩
        | cons b front => exact ⟨_, List.append_assoc ..⟩
      rw [text] at parts ⊢
      rw [readLong?_hexText a (by simp), parts]
      simpa using filled

end LearningClient.Url
