import LearningClient.Json.Reader
import LearningClient.Proofs.Json.Nested
import LearningClient.Proofs.Outcome

/-!
# Values as they are written

What is read of an object is in ascending order, and of members of one name
only the last one is left. `readAsWritten` reads the same documents and keeps
all members where they stand; what is read of a document is what it reads,
arranged (`readValue_eq`).

The loops of the reader count their rounds. What they read is also said
without counting, item by item and member by member (`Items`, `MembersOf`), and
what a value begins with says how it goes on (`Stands`). A reader of another
kind that goes over the same document is compared with these.
-/

namespace LearningClient.Json

open LearningClient.Text

/-! ## A reader that keeps all members -/

/-- What is read, with something done to it. -/
def Reader.mapped {α β : Type} (g : α → β) (r : Reader α) : Reader β := fun cs =>
  (r cs).map fun p => (g p.1, p.2)

/-- Reads a value whose brackets, once they are open, are left to other
readers. -/
def readWith (list object : Reader Value) : Reader Value := fun cs =>
  match skipBlanks cs with
  | [] => .error (.next .endInValue [])
  | 'n' :: rest => do return (.null, ← readWord ['u', 'l', 'l'] rest)
  | 't' :: rest => do return (.bool true, ← readWord ['r', 'u', 'e'] rest)
  | 'f' :: rest => do return (.bool false, ← readWord ['a', 'l', 's', 'e'] rest)
  | '"' :: rest => do
    let (s, rest) ← readString [] rest
    return (.str (String.ofList s), rest)
  | '[' :: rest => list rest
  | '\x7b' :: rest => object rest
  | '-' :: rest => do
    let (n, rest) ← readNumber true rest
    return (n.toValue, rest)
  | c :: rest =>
    if c.isDigit then do
      let (n, rest) ← readNumber false (c :: rest)
      return (n.toValue, rest)
    else .error (.next .expectedValue (c :: rest))

/-- A bracket that must not be opened any more. -/
def tooDeep (bracket : Char) : Reader Value := fun cs => .error (.next .tooDeep (bracket :: cs))

/-- Reads an array after its opening bracket. -/
def readArray (one : Reader Value) : Reader Value := fun cs => do
  let (items, rest) ← manyItems one cs
  return (.arr items, rest)

/-- Reads an object after its opening bracket. -/
def readObject (step : Members → String → Reader Members) : Reader Value := fun cs => do
  let (ms, rest) ← manyMembers step [] cs
  return (.obj ms, rest.tail)

/-- Reads the colon and the value of a member, and puts it after the others. -/
def appendMember (value : Reader Value) (ms : Members) (name : String) : Reader Members :=
  fun cs => do
    let rest ← readColon cs
    let (v, rest) ← value rest
    return (ms ++ [(name, v)], rest)

/-- Reads a value that may open `depth` brackets inside each other, and keeps
all members of objects as they stand in the document. -/
def readAsWritten : Nat → Reader Value
  | 0 => readWith (tooDeep '[') (tooDeep '\x7b')
  | depth + 1 =>
    readWith (readArray (readAsWritten depth)) (readObject (appendMember (readAsWritten depth)))

/-! ## What an open bracket goes on with -/

theorem nextItem_eq_close {first : Bool} {cs r : List Char}
    (h : nextItem first cs = .ok (.close r)) : ∃ t, skipBlanks cs = ']' :: t ∧ r = ']' :: t := by
  rw [nextItem] at h
  split at h
  · cases h
  rename_i c t front
  split at h
  · rename_i close
    subst close
    cases h
    exact ⟨t, front, rfl⟩
  split at h
  · cases h
  split at h
  · split at h
    · cases h
    · split at h
      · cases h
      · cases h
  · cases h

/-- One more item stands behind blanks, and behind a comma if it is not the
first. -/
theorem nextItem_eq_more {first : Bool} {cs r : List Char}
    (h : nextItem first cs = .ok (.more r)) :
    ∃ c t, r = c :: t ∧ c ≠ ']' ∧ (first = true ∧ skipBlanks cs = r ∨
      first = false ∧ ∃ u, skipBlanks cs = ',' :: u ∧ skipBlanks u = r) := by
  rw [nextItem] at h
  split at h
  · cases h
  rename_i c t front
  split at h
  · cases h
  rename_i open_
  split at h
  · rename_i start
    cases h
    exact ⟨c, t, rfl, open_, .inl ⟨start, front⟩⟩
  rename_i later
  split at h
  · rename_i comma
    subst comma
    split at h
    · cases h
    rename_i d t' item
    split at h
    · cases h
    · rename_i more
      cases h
      exact ⟨d, t', rfl, more, .inr ⟨by simpa using later, t, front, item⟩⟩
  · cases h

theorem nextMember_eq_close {first : Bool} {cs r : List Char}
    (h : nextMember first cs = .ok (.close r)) :
    ∃ t, skipBlanks cs = '\x7d' :: t ∧ r = '\x7d' :: t := by
  rw [nextMember] at h
  split at h
  · cases h
  rename_i c t front
  split at h
  · rename_i close
    subst close
    cases h
    exact ⟨t, front, rfl⟩
  split at h
  · split at h <;> cases h
  split at h
  · split at h
    · cases h
    · split at h
      · cases h
      · split at h <;> cases h
  · cases h

/-- One more member begins with a quote. -/
theorem nextMember_eq_more {first : Bool} {cs r : List Char}
    (h : nextMember first cs = .ok (.more r)) :
    ∃ t, r = '"' :: t ∧ (first = true ∧ skipBlanks cs = r ∨
      first = false ∧ ∃ u, skipBlanks cs = ',' :: u ∧ skipBlanks u = r) := by
  rw [nextMember] at h
  split at h
  · cases h
  rename_i c t front
  split at h
  · cases h
  split at h
  · rename_i start
    split at h
    · rename_i quote
      subst quote
      cases h
      exact ⟨t, rfl, .inl ⟨start, front⟩⟩
    · cases h
  rename_i later
  split at h
  · rename_i comma
    subst comma
    split at h
    · cases h
    rename_i d t' name
    split at h
    · rename_i quote
      subst quote
      cases h
      exact ⟨t', rfl, .inr ⟨by simpa using later, t, front, name⟩⟩
    · split at h <;> cases h
  · cases h

/-! ## One round of a loop -/

section
variable {α σ : Type} {one : Reader α} {step : σ → String → Reader σ} {first : Bool}
  {cs rest : List Char} {stop : Stop}

theorem itemsLoop_close (next : nextItem first cs = .ok (.close rest)) (rounds : Nat)
    (done : List α) : itemsLoop one (rounds + 1) first done cs = .ok (done.reverse, rest.tail) := by
  rw [itemsLoop, next]
  rfl

theorem itemsLoop_more (next : nextItem first cs = .ok (.more rest)) (rounds : Nat)
    (done : List α) :
    itemsLoop one (rounds + 1) first done cs =
      one rest >>= fun p => itemsLoop one rounds false (p.1 :: done) p.2 := by
  rw [itemsLoop, next]
  rfl

theorem itemsLoop_stop (next : nextItem first cs = .error stop) (rounds : Nat) (done : List α) :
    itemsLoop one (rounds + 1) first done cs = .error stop := by
  rw [itemsLoop, next]
  rfl

theorem membersLoop_end (next : nextMember first cs = .ok (.close rest)) (rounds : Nat) (s : σ) :
    membersLoop step (rounds + 1) first s cs = .ok (s, rest) := by
  rw [membersLoop, next]
  rfl

theorem membersLoop_more (next : nextMember first cs = .ok (.more rest)) (rounds : Nat) (s : σ) :
    membersLoop step (rounds + 1) first s cs =
      readString [] rest.tail >>= fun name =>
        step s (String.ofList name.1) name.2 >>= fun p =>
          membersLoop step rounds false p.1 p.2 := by
  rw [membersLoop, next]
  rfl

theorem membersLoop_stop (next : nextMember first cs = .error stop) (rounds : Nat) (s : σ) :
    membersLoop step (rounds + 1) first s cs = .error stop := by
  rw [membersLoop, next]
  rfl

end

/-! ## Readers in step -/

section
variable {α β σ τ : Type}

theorem mapped_eq_error {g : α → β} {r : Reader α} {cs : List Char} {s : Stop}
    (h : r cs = .error s) : r.mapped g cs = .error s := by
  rw [Reader.mapped, h]
  rfl

theorem mapped_eq_ok {g : α → β} {r : Reader α} {cs rest : List Char} {a : α}
    (h : r cs = .ok (a, rest)) : r.mapped g cs = .ok (g a, rest) := by
  rw [Reader.mapped, h]
  rfl

theorem itemsLoop_mapped (g : α → β) (one : Reader α) (rounds : Nat) (first : Bool)
    (done : List α) (cs : List Char) :
    itemsLoop (one.mapped g) rounds first (done.map g) cs =
      (itemsLoop one rounds first done).mapped (List.map g) cs := by
  induction rounds generalizing first done cs with
  | zero => rfl
  | succ rounds ih =>
    cases next : nextItem first cs with
    | error s => rw [itemsLoop_stop next, mapped_eq_error (itemsLoop_stop next ..)]
    | ok what =>
      cases what with
      | close rest =>
        rw [itemsLoop_close next, mapped_eq_ok (itemsLoop_close next ..), List.map_reverse]
      | more rest =>
        show itemsLoop _ _ _ _ _ = Except.map _ (itemsLoop one (rounds + 1) first done cs)
        rw [itemsLoop_more next, itemsLoop_more next]
        cases read : one rest with
        | error s => rw [mapped_eq_error read]; rfl
        | ok p =>
          rw [mapped_eq_ok read]
          exact ih false (p.1 :: done) p.2

/-- Two loops over members keep in step if each member does. -/
theorem membersLoop_mapped (g : σ → τ) {step : σ → String → Reader σ}
    {step' : τ → String → Reader τ}
    (same : ∀ s name, step' (g s) name = (step s name).mapped g) (rounds : Nat) (first : Bool)
    (s : σ) (cs : List Char) :
    membersLoop step' rounds first (g s) cs = (membersLoop step rounds first s).mapped g cs := by
  induction rounds generalizing first s cs with
  | zero => rfl
  | succ rounds ih =>
    cases next : nextMember first cs with
    | error stop => rw [membersLoop_stop next, mapped_eq_error (membersLoop_stop next ..)]
    | ok what =>
      cases what with
      | close rest => rw [membersLoop_end next, mapped_eq_ok (membersLoop_end next ..)]
      | more rest =>
        show membersLoop _ _ _ _ _ = Except.map _ (membersLoop step (rounds + 1) first s cs)
        rw [membersLoop_more next, membersLoop_more next]
        cases readString [] rest.tail with
        | error stop => rfl
        | ok name =>
          show step' (g s) (String.ofList name.1) name.2 >>= _ = Except.map _ (step s _ _ >>= _)
          rw [same]
          cases read : step s (String.ofList name.1) name.2 with
          | error stop => rw [mapped_eq_error read]; rfl
          | ok p =>
            rw [mapped_eq_ok read]
            exact ih false p.1 p.2

end

/-- A member is put in its place before or after the others are. -/
theorem readMember_mapped (value : Reader Value) (ms : Members) (name : String) :
    readMember (value.mapped Value.arranged) (sortMembers (arrangedMembers ms)) name =
      (appendMember value ms name).mapped fun ms => sortMembers (arrangedMembers ms) := by
  funext cs
  rw [readMember, Reader.mapped, appendMember]
  cases readColon cs with
  | error s => rfl
  | ok rest =>
    show value.mapped Value.arranged rest >>= _ = Except.map _ (value rest >>= _)
    cases read : value rest with
    | error s => rw [mapped_eq_error read]; rfl
    | ok p =>
      rw [mapped_eq_ok read]
      simp [bind, Except.bind, Except.map, pure, Except.pure, sortMembers, arrangedMembers_eq_map,
        List.foldl_append]

theorem arranged_toValue (n : Number) : n.toValue.arranged = n.toValue := by
  cases n <;> rfl

theorem readWith_mapped (list object : Reader Value) :
    readWith (list.mapped Value.arranged) (object.mapped Value.arranged) =
      (readWith list object).mapped Value.arranged := by
  funext cs
  rw [readWith, Reader.mapped, readWith]
  -- both go by the first character
  split
  · rfl
  · cases readWord ['u', 'l', 'l'] _ <;> rfl
  · cases readWord ['r', 'u', 'e'] _ <;> rfl
  · cases readWord ['a', 'l', 's', 'e'] _ <;> rfl
  · cases readString [] _ <;> rfl
  · rfl
  · rfl
  · cases readNumber true _ with
    | error s => rfl
    | ok p => simp [bind, Except.bind, Except.map, pure, Except.pure, arranged_toValue]
  · split
    · cases readNumber false _ with
      | error s => rfl
      | ok p => simp [bind, Except.bind, Except.map, pure, Except.pure, arranged_toValue]
    · rfl

theorem readValue_zero : readValue 0 = readWith (tooDeep '[') (tooDeep '\x7b') := by
  funext cs
  rw [readValue]
  rfl

theorem readValue_succ (depth : Nat) :
    readValue (depth + 1) =
      readWith (readArray (readValue depth)) (readObject (readMember (readValue depth))) := by
  funext cs
  rw [readValue]
  rfl

theorem readArray_mapped (one : Reader Value) :
    readArray (one.mapped Value.arranged) = (readArray one).mapped Value.arranged := by
  funext cs
  have same := itemsLoop_mapped Value.arranged one (cs.length + 1) true [] cs
  rw [List.map_nil] at same
  show itemsLoop _ _ _ _ _ >>= _ = Except.map _ (itemsLoop _ _ _ _ _ >>= _)
  rw [same, Reader.mapped]
  cases itemsLoop one (cs.length + 1) true [] cs with
  | error s => rfl
  | ok p =>
    simp [bind, Except.bind, Except.map, pure, Except.pure, Value.arranged, arrangedItems_eq_map]

theorem readObject_mapped (value : Reader Value) :
    readObject (readMember (value.mapped Value.arranged)) =
      (readObject (appendMember value)).mapped Value.arranged := by
  funext cs
  have same := membersLoop_mapped (fun ms => sortMembers (arrangedMembers ms))
    (readMember_mapped value) (cs.length + 1) true [] cs
  show membersLoop _ _ _ (sortMembers (arrangedMembers [])) cs >>= _ =
    Except.map _ (membersLoop _ _ _ _ _ >>= _)
  rw [same, Reader.mapped]
  cases membersLoop (appendMember value) (cs.length + 1) true [] cs <;> rfl

/-- What is read of a document is what is written in it, arranged. -/
theorem readValue_eq (depth : Nat) :
    readValue depth = (readAsWritten depth).mapped Value.arranged := by
  induction depth with
  | zero => exact readValue_zero.trans (readWith_mapped (tooDeep '[') (tooDeep '\x7b'))
  | succ depth ih =>
    rw [readValue_succ, ih, readArray_mapped, readObject_mapped, readWith_mapped]
    rfl

/-! ## What has been read -/

/-- The items that an array goes on with, up to and with its closing bracket;
`first` if nothing has been read of it. -/
inductive Items (one : Reader Value) : Bool → List Char → List Value → List Char → Prop
  | close {first : Bool} {cs rest : List Char} (next : nextItem first cs = .ok (.close rest)) :
    Items one first cs [] rest.tail
  | more {first : Bool} {cs cs₁ cs₂ rest : List Char} {v : Value} {vs : List Value}
    (next : nextItem first cs = .ok (.more cs₁)) (item : one cs₁ = .ok (v, cs₂))
    (others : Items one false cs₂ vs rest) : Items one first cs (v :: vs) rest

/-- The members that an object goes on with, up to its closing bracket; `first`
if nothing has been read of it. -/
inductive MembersOf (one : Reader Value) : Bool → List Char → Members → List Char → Prop
  | close {first : Bool} {cs rest : List Char} (next : nextMember first cs = .ok (.close rest)) :
    MembersOf one first cs [] rest
  | more {first : Bool} {cs cs₁ cs₂ cs₃ cs₄ rest : List Char} {name : List Char} {v : Value}
    {ms : Members} (next : nextMember first cs = .ok (.more cs₁))
    (named : readString [] cs₁.tail = .ok (name, cs₂)) (colon : readColon cs₂ = .ok cs₃)
    (value : one cs₃ = .ok (v, cs₄)) (others : MembersOf one false cs₄ ms rest) :
    MembersOf one first cs ((String.ofList name, v) :: ms) rest

theorem items_of_itemsLoop {one : Reader Value} {rounds : Nat} {first : Bool}
    {done items : List Value} {cs rest : List Char}
    (h : itemsLoop one rounds first done cs = .ok (items, rest)) :
    ∃ vs, items = done.reverse ++ vs ∧ vs.length < rounds ∧ Items one first cs vs rest := by
  induction rounds generalizing first done cs with
  | zero => cases h
  | succ rounds ih =>
    cases next : nextItem first cs with
    | error stop =>
      rw [itemsLoop_stop next] at h
      cases h
    | ok what =>
      cases what with
      | close cs₁ =>
        rw [itemsLoop_close next] at h
        cases h
        exact ⟨[], by simp, by simp, .close next⟩
      | more cs₁ =>
        rw [itemsLoop_more next] at h
        obtain ⟨⟨v, cs₂⟩, item, h⟩ := bind_eq_ok.mp h
        obtain ⟨vs, rfl, enough, others⟩ := ih h
        exact ⟨v :: vs, by simp, by simpa using enough, .more next item others⟩

theorem membersOf_of_membersLoop {one : Reader Value} {rounds : Nat} {first : Bool}
    {done all : Members} {cs rest : List Char}
    (h : membersLoop (appendMember one) rounds first done cs = .ok (all, rest)) :
    ∃ ms, all = done ++ ms ∧ ms.length < rounds ∧ MembersOf one first cs ms rest := by
  induction rounds generalizing first done cs with
  | zero => cases h
  | succ rounds ih =>
    cases next : nextMember first cs with
    | error stop =>
      rw [membersLoop_stop next] at h
      cases h
    | ok what =>
      cases what with
      | close cs₁ =>
        rw [membersLoop_end next] at h
        cases h
        exact ⟨[], by simp, by simp, .close next⟩
      | more cs₁ =>
        rw [membersLoop_more next] at h
        obtain ⟨⟨name, cs₂⟩, named, h⟩ := bind_eq_ok.mp h
        obtain ⟨⟨done', cs₄⟩, member, h⟩ := bind_eq_ok.mp h
        obtain ⟨cs₃, colon, member⟩ := bind_eq_ok.mp member
        obtain ⟨⟨v, cs₄⟩, value, member⟩ := bind_eq_ok.mp member
        cases member
        obtain ⟨ms, rfl, enough, others⟩ := ih h
        exact ⟨(String.ofList name, v) :: ms, by simp, by simpa using enough,
          .more next named colon value others⟩

/-- What a value begins with, where no blanks are in front of it, and how it
goes on. -/
inductive Stands : Nat → List Char → Value → List Char → Prop
  | null {depth : Nat} {cs rest : List Char} (word : readWord ['u', 'l', 'l'] cs = .ok rest) :
    Stands depth ('n' :: cs) .null rest
  | yes {depth : Nat} {cs rest : List Char} (word : readWord ['r', 'u', 'e'] cs = .ok rest) :
    Stands depth ('t' :: cs) (.bool true) rest
  | no {depth : Nat} {cs rest : List Char} (word : readWord ['a', 'l', 's', 'e'] cs = .ok rest) :
    Stands depth ('f' :: cs) (.bool false) rest
  | str {depth : Nat} {cs rest s : List Char} (text : readString [] cs = .ok (s, rest)) :
    Stands depth ('"' :: cs) (.str (String.ofList s)) rest
  | arr {depth : Nat} {cs rest : List Char} {items : List Value}
    (short : items.length ≤ cs.length) (inside : Items (readAsWritten depth) true cs items rest) :
    Stands (depth + 1) ('[' :: cs) (.arr items) rest
  | obj {depth : Nat} {cs rest : List Char} {ms : Members} (short : ms.length ≤ cs.length)
    (inside : MembersOf (readAsWritten depth) true cs ms rest) :
    Stands (depth + 1) ('\x7b' :: cs) (.obj ms) rest.tail
  | negative {depth : Nat} {cs rest : List Char} {n : Number}
    (number : readNumber true cs = .ok (n, rest)) : Stands depth ('-' :: cs) n.toValue rest
  | number {depth : Nat} {c : Char} {cs rest : List Char} {n : Number} (digit : c.isDigit = true)
    (number : readNumber false (c :: cs) = .ok (n, rest)) : Stands depth (c :: cs) n.toValue rest

theorem stands_of_readArray {depth : Nat} {cs rest : List Char} {v : Value}
    (h : readArray (readAsWritten depth) cs = .ok (v, rest)) :
    Stands (depth + 1) ('[' :: cs) v rest := by
  obtain ⟨⟨items, cs'⟩, many, h⟩ := bind_eq_ok.mp h
  cases h
  obtain ⟨vs, whole, enough, inside⟩ := items_of_itemsLoop many
  rw [List.reverse_nil, List.nil_append] at whole
  subst whole
  exact .arr (Nat.le_of_lt_succ enough) inside

theorem stands_of_readObject {depth : Nat} {cs rest : List Char} {v : Value}
    (h : readObject (appendMember (readAsWritten depth)) cs = .ok (v, rest)) :
    Stands (depth + 1) ('\x7b' :: cs) v rest := by
  obtain ⟨⟨all, cs'⟩, many, h⟩ := bind_eq_ok.mp h
  cases h
  obtain ⟨ms, whole, enough, inside⟩ := membersOf_of_membersLoop many
  rw [List.nil_append] at whole
  subst whole
  exact .obj (Nat.le_of_lt_succ enough) inside

/-- What is read stands at the front, behind blanks. -/
theorem stands_of_readAsWritten {depth : Nat} {cs rest : List Char} {v : Value}
    (h : readAsWritten depth cs = .ok (v, rest)) : Stands depth (skipBlanks cs) v rest := by
  have brackets : ∃ list object, readAsWritten depth = readWith list object ∧
      (∀ cs, list cs = .ok (v, rest) → Stands depth ('[' :: cs) v rest) ∧
      (∀ cs, object cs = .ok (v, rest) → Stands depth ('\x7b' :: cs) v rest) := by
    cases depth with
    | zero => exact ⟨_, _, rfl, nofun, nofun⟩
    | succ depth => exact ⟨_, _, rfl, fun _ => stands_of_readArray, fun _ => stands_of_readObject⟩
  obtain ⟨list, object, whole, arr, obj⟩ := brackets
  rw [whole, readWith] at h
  generalize skipBlanks cs = front at h ⊢
  split at h
  · cases h
  · obtain ⟨_, word, h⟩ := bind_eq_ok.mp h
    cases h
    exact .null word
  · obtain ⟨_, word, h⟩ := bind_eq_ok.mp h
    cases h
    exact .yes word
  · obtain ⟨_, word, h⟩ := bind_eq_ok.mp h
    cases h
    exact .no word
  · obtain ⟨_, text, h⟩ := bind_eq_ok.mp h
    cases h
    exact .str text
  · exact arr _ h
  · exact obj _ h
  · obtain ⟨_, number, h⟩ := bind_eq_ok.mp h
    cases h
    exact .negative number
  · split at h
    · rename_i digit
      obtain ⟨_, number, h⟩ := bind_eq_ok.mp h
      cases h
      exact .number digit number
    · cases h

end LearningClient.Json
