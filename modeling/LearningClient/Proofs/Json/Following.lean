import LearningClient.Json.Typed
import LearningClient.Proofs.Json.Passing

/-!
# Readers of known shapes

A reader of a known shape goes over the characters of a document by itself. It
follows a function of values (`Follows`) if, wherever any value can be read, it
gives what the function makes of that value, and leaves the same. So whether it
gives anything, and what, is a matter of the value alone: neither the blanks of
the document nor the order of members count.

Readers of texts, truth values and numbers follow what a value is as one. A loop
over items or members follows a run over their values, and a reader of a record
follows a function of values if its fields and its end do (`Record.Projects`).
-/

namespace LearningClient.Json

open LearningClient.Text

/-! ## What a value is as -/

/-- The truth value, if the value is one. -/
def Value.bool? : Value → Option Bool
  | .bool b => some b
  | _ => none

/-- The whole number of 64 bits with sign, if the value is one. -/
def Value.int64? : Value → Option Int
  | .int n => if isInt64 n then some n else none
  | _ => none

/-- The text or the absence of one, if the value is a text or `null`. -/
def Value.textOrNull? : Value → Option (Option String)
  | .null => some none
  | .str s => some (some s)
  | _ => none

/-- What each item is as, if the value is an array. -/
def Value.items? {α : Type} (f : Value → Option α) : Value → Option (List α)
  | .arr vs => vs.mapM f
  | _ => none

/-! ## Following a function of values -/

/-- A reader gives what a function makes of the value that can be read, and
leaves the same. The value may open `depth` brackets inside each other, and no
object in it names a member twice. -/
def Follows {α : Type} (depth : Nat) (one : Reader α) (f : Value → Option α) : Prop :=
  ∀ {cs v rest}, readAsWritten depth cs = .ok (v, rest) → v.Throughout Value.namesOnce →
    (one cs).toOption = (f v.arranged).map (·, rest)

theorem follows_readValue (depth : Nat) : Follows depth (readValue depth) some := by
  intro cs v rest read _
  rw [readValue_eq, mapped_eq_ok read]
  rfl

theorem follows_readText (depth : Nat) : Follows depth readText Value.text? := by
  intro cs v rest read _
  have stands := stands_of_readAsWritten read
  rw [readText]
  generalize skipBlanks cs = front at stands ⊢
  cases stands with
  | str text =>
    show ((readString [] _).bind _).toOption = _
    rw [text]
    rfl
  | @number _ _ _ _ n digit =>
    split
    · cases n <;> rfl
    · rename_i whole
      cases whole
      exact absurd digit (by decide)
    · cases n <;> rfl
  | @negative _ _ _ n => cases n <;> rfl
  | _ => rfl

theorem follows_readBool (depth : Nat) : Follows depth readBool Value.bool? := by
  intro cs v rest read _
  have stands := stands_of_readAsWritten read
  rw [readBool]
  generalize skipBlanks cs = front at stands ⊢
  cases stands with
  | yes word =>
    show ((readWord ['r', 'u', 'e'] _).bind _).toOption = _
    rw [word]
    rfl
  | no word =>
    show ((readWord ['a', 'l', 's', 'e'] _).bind _).toOption = _
    rw [word]
    rfl
  | @number _ _ _ _ n digit =>
    split <;> rename_i whole
    case h_4 => cases n <;> rfl
    all_goals cases whole
    all_goals exact absurd digit (by decide)
  | @negative _ _ _ n => cases n <;> rfl
  | _ => rfl

theorem toInt64_follows (n : Number) (rest : List Char) :
    (n.toInt64 rest).toOption = n.toValue.arranged.int64?.map (·, rest) := by
  cases n with
  | float x => rfl
  | int n =>
    show (if isInt64 n then .ok (n, rest) else .error _ : Except Stop _).toOption =
      (if isInt64 n then some n else none).map (·, rest)
    split <;> rfl

theorem follows_readInt64 (depth : Nat) : Follows depth readInt64 Value.int64? := by
  intro cs v rest read _
  have stands := stands_of_readAsWritten read
  rw [readInt64]
  generalize skipBlanks cs = front at stands ⊢
  cases stands with
  | @number _ c t _ n digit number =>
    split <;> rename_i whole <;> cases whole
    · exact absurd digit (by decide)
    · rw [if_pos digit, number]
      exact toInt64_follows n rest
  | @negative _ _ _ n number =>
    show ((readNumber true _).bind _).toOption = _
    rw [number]
    exact toInt64_follows n rest
  | _ => rfl

theorem readText_skipBlanks (cs : List Char) : readText (skipBlanks cs) = readText cs := by
  rw [readText, readText, skipBlanks_skipBlanks]

theorem follows_readTextOrNull (depth : Nat) : Follows depth readTextOrNull Value.textOrNull? := by
  intro cs v rest read once
  have stands := stands_of_readAsWritten read
  have text := follows_readText depth read once
  rw [← readText_skipBlanks] at text
  rw [readTextOrNull]
  generalize skipBlanks cs = front at stands text ⊢
  split
  · cases stands with
    | null word =>
      show ((readWord ['u', 'l', 'l'] _).bind _).toOption = _
      rw [word]
      rfl
    | number digit => exact absurd digit (by decide)
  · rename_i other
    have same : v.arranged.textOrNull? = v.arranged.text?.map some := by
      cases stands with
      | null => exact absurd rfl (other _)
      | @number _ _ _ _ n => cases n <;> rfl
      | @negative _ _ _ n => cases n <;> rfl
      | _ => rfl
    rw [toOption_bind, text, same]
    cases v.arranged.text? <;> rfl

/-! ## Items -/

section
variable {α : Type} {depth : Nat} {one : Reader α} {f : Value → Option α}

theorem itemsLoop_follows (each : Follows depth one f) {first : Bool} {cs rest : List Char}
    {vs : List Value} (h : Items (readAsWritten depth) first cs vs rest)
    (once : ∀ v ∈ vs, v.Throughout Value.namesOnce) {rounds : Nat} (enough : vs.length < rounds)
    (done : List α) :
    (itemsLoop one rounds first done cs).toOption =
      ((arrangedItems vs).mapM f).map fun xs => (done.reverse ++ xs, rest) := by
  induction h generalizing rounds done with
  | close next =>
    obtain ⟨rounds, rfl⟩ : ∃ k, rounds = k + 1 := ⟨rounds - 1, by omega⟩
    rw [itemsLoop_close next]
    simp [arrangedItems, Except.toOption]
  | @more _ _ _ _ _ v vs next item others ih =>
    obtain ⟨rounds, rfl⟩ : ∃ k, rounds = k + 1 := ⟨rounds - 1, by omega⟩
    obtain ⟨onceFirst, onceRest⟩ := List.forall_mem_cons.mp once
    rw [itemsLoop_more next, toOption_bind, each item onceFirst, arrangedItems, List.mapM_cons]
    cases f v.arranged with
    | none => rfl
    | some x =>
      refine (ih onceRest (Nat.lt_of_succ_lt_succ enough) (x :: done)).trans ?_
      cases (arrangedItems vs).mapM f <;> simp

end

theorem follows_readList {α : Type} {one : Nat → Reader α} {f : Value → Option α}
    (each : ∀ depth, Follows depth (one depth) f) (depth : Nat) :
    Follows depth (readList depth one) (Value.items? f) := by
  intro cs v rest read once
  have stands := stands_of_readAsWritten read
  rw [readList]
  generalize skipBlanks cs = front at stands ⊢
  cases stands with
  | arr short inside =>
    have list := itemsLoop_follows (each _) inside (fun v mem => once.item mem)
      (Nat.lt_succ_of_le short) []
    exact list
  | @number _ _ _ _ n digit =>
    split <;> rename_i whole
    case h_3 => cases n <;> rfl
    all_goals cases whole
    exact absurd digit (by decide)
  | @negative _ _ _ n => cases n <;> rfl
  | _ => rfl

/-! ## Members -/

section
variable {α σ : Type} {depth : Nat} {field : σ → String → Reader σ}
  {step : σ → String × Value → Option σ}

/-- A reader of members goes from state to state as a function of their names
and values does. -/
def FieldsFollow (depth : Nat) (field : σ → String → Reader σ)
    (step : σ → String × Value → Option σ) : Prop :=
  ∀ s name {cs cs' v rest}, readColon cs = .ok cs' → readAsWritten depth cs' = .ok (v, rest) →
    v.Throughout Value.namesOnce →
    (field s name cs).toOption = (step s (name, v.arranged)).map (·, rest)

theorem membersLoop_follows (fields : FieldsFollow depth field step) {first : Bool}
    {cs rest : List Char} {ms : Members} (h : MembersOf (readAsWritten depth) first cs ms rest)
    (once : ∀ m ∈ ms, m.2.Throughout Value.namesOnce) {rounds : Nat}
    (enough : ms.length < rounds) (s : σ) :
    (membersLoop field rounds first s cs).toOption =
      ((arrangedMembers ms).foldlM step s).map (·, rest) := by
  induction h generalizing rounds s with
  | close next =>
    obtain ⟨rounds, rfl⟩ : ∃ k, rounds = k + 1 := ⟨rounds - 1, by omega⟩
    rw [membersLoop_end next]
    rfl
  | @more _ _ _ _ _ _ _ name v ms next named colon value others ih =>
    obtain ⟨rounds, rfl⟩ : ∃ k, rounds = k + 1 := ⟨rounds - 1, by omega⟩
    obtain ⟨onceFirst, onceRest⟩ := List.forall_mem_cons.mp once
    have member := fields s (String.ofList name) colon value onceFirst
    rw [membersLoop_more next, named]
    show (field s (String.ofList name) _ >>= _).toOption = _
    rw [toOption_bind, member, arrangedMembers, List.foldlM_cons]
    cases step s (String.ofList name, v.arranged) with
    | none => rfl
    | some s' => exact ih onceRest (Nat.lt_of_succ_lt_succ enough) s'

/-- A field that may be given once is what its value is as. -/
def givenOnce (f : Value → Option α) (seen : Option α) (v : Value) : Option α :=
  match seen with
  | some _ => none
  | none => f v

theorem readField_follows {one : Reader α} {f : Value → Option α} (follows : Follows depth one f)
    (name : String) (seen : Option α) (put : α → σ) {cs cs' rest : List Char} {v : Value}
    (colon : readColon cs = .ok cs') (read : readAsWritten depth cs' = .ok (v, rest))
    (once : v.Throughout Value.namesOnce) :
    (readField name seen one cs >>= fun p => .ok (put p.1, p.2)).toOption =
      ((givenOnce f seen v.arranged).map put).map (·, rest) := by
  cases seen with
  | some a => rfl
  | none =>
    show ((readColon cs >>= one) >>= _).toOption = _
    rw [colon]
    show (one cs' >>= _).toOption = ((f v.arranged).map put).map _
    rw [toOption_bind, follows read once]
    cases f v.arranged <;> rfl

/-- A member that nobody asked for changes nothing. -/
theorem skipField_follows (s : σ) {cs cs' rest : List Char} {v : Value}
    (colon : readColon cs = .ok cs') (read : readAsWritten depth cs' = .ok (v, rest)) :
    (skipField s cs).toOption = some (s, rest) := by
  rw [skipField, colon]
  show (skipValue cs' >>= _).toOption = _
  rw [skipValue_of_readAsWritten read]
  rfl

theorem readMember_follows (ms : Members) (name : String) {cs cs' rest : List Char} {v : Value}
    (colon : readColon cs = .ok cs') (read : readAsWritten depth cs' = .ok (v, rest)) :
    (readMember (readValue depth) ms name cs).toOption =
      some (insertMember name v.arranged ms, rest) := by
  rw [readMember, colon]
  show (readValue depth cs' >>= _).toOption = _
  rw [readValue_eq, mapped_eq_ok read]
  rfl

end

/-! ## Records -/

/-- The closing bracket that has to follow what has been read of an array. -/
def closed {α : Type} (p : α × List Char) : Except Stop (α × List Char) := do
  return (p.1, ← closeItems p.2)

/-- How a record is read, seen as a function of values: what its fields are
gathered to, and what its items are as, if it can be read from an array. -/
structure Record.Projects {σ α : Type} (r : Record σ α) (step : σ → String × Value → Option σ)
    (f : Value → Option α) : Prop where
  fields : ∀ depth, FieldsFollow depth (r.field depth) step
  object : ∀ ms, (names ms).Nodup →
    ((ms.foldlM step r.start).bind fun s => (r.finish s).toOption) = f (.obj (sortMembers ms))
  items : ∀ items, r.items = some items → ∀ depth {cs vs rest},
    Items (readAsWritten depth) true cs vs rest → (∀ v ∈ vs, v.Throughout Value.namesOnce) →
    (items depth cs >>= closed).toOption = (f (.arr (arrangedItems vs))).map (·, rest)
  noItems : r.items = none → ∀ vs, f (.arr vs) = none
  other : ∀ v, (∀ ms, v ≠ .obj ms) → (∀ vs, v ≠ .arr vs) → f v = none

/-- A number is neither an object nor an array. -/
theorem arranged_toValue_ne (n : Number) : (∀ ms, n.toValue.arranged ≠ .obj ms) ∧
    ∀ vs, n.toValue.arranged ≠ .arr vs := by
  constructor <;> (intro inside same; cases n <;> cases same)

theorem Record.Projects.follows {σ α : Type} {r : Record σ α}
    {step : σ → String × Value → Option σ} {f : Value → Option α} (h : r.Projects step f)
    (depth : Nat) : Follows depth (r.read depth) f := by
  intro cs v rest read once
  have stands := stands_of_readAsWritten read
  rw [Record.read]
  generalize skipBlanks cs = front at stands ⊢
  cases stands with
  | @obj depth cs rest ms short inside =>
    have gathered := membersLoop_follows (h.fields depth) inside (fun m mem => once.member mem)
      (Nat.lt_succ_of_le short) r.start
    have nodup : (names (arrangedMembers ms)).Nodup := by
      rw [names_arrangedMembers]
      exact once.self
    have object := h.object (arrangedMembers ms) nodup
    show (membersLoop _ _ _ _ _ >>= _).toOption = _
    rw [toOption_bind, gathered, Value.arranged, ← object]
    cases (arrangedMembers ms).foldlM step r.start with
    | none => rfl
    | some s =>
      rw [Option.map_some, Option.bind_some, Option.bind_some]
      dsimp only
      cases r.finish s <;> rfl
  | @arr depth cs rest vs short inside =>
    cases given : r.items with
    | none =>
      rw [Value.arranged, h.noItems given]
      rfl
    | some items => exact h.items items given depth inside fun v mem => once.item mem
  | @number _ _ _ _ n digit =>
    split <;> rename_i whole
    case h_4 =>
      rw [h.other _ (arranged_toValue_ne n).1 (arranged_toValue_ne n).2]
      rfl
    all_goals cases whole
    all_goals exact absurd digit (by decide)
  | @negative _ _ _ n =>
    rw [h.other _ (arranged_toValue_ne n).1 (arranged_toValue_ne n).2]
    rfl
  | _ =>
    rw [h.other _ (by intro ms same; cases same) (by intro vs same; cases same)]
    rfl

/-! ## Records from arrays -/

section
variable {α : Type} {depth : Nat} {one : Reader α} {f : Value → Option α}
  {cs rest : List Char}

/-- An item that is there is read as it is. -/
theorem readNthItem_more (read : Nat) {v : Value} {vs : List Value} (each : Follows depth one f)
    (h : Items (readAsWritten depth) (read = 0) cs (v :: vs) rest)
    (once : v.Throughout Value.namesOnce) (expected : String) (missing : Option α) :
    ∃ cs', Items (readAsWritten depth) false cs' vs rest ∧
      (readNthItem read expected missing one cs).toOption = (f v.arranged).map (·, cs') := by
  cases h with
  | more next item others =>
    refine ⟨_, others, ?_⟩
    rw [readNthItem, next]
    exact each item once

/-- What stands in for an item that is not there leaves the closing bracket. -/
theorem readNthItem_none (read : Nat) (h : Items (readAsWritten depth) (read = 0) cs [] rest)
    (expected : String) (missing : Option α) :
    (readNthItem read expected missing one cs).toOption = missing.map (·, ']' :: rest) := by
  cases h with
  | close next =>
    obtain ⟨t, front, rfl⟩ := nextItem_eq_close next
    rw [readNthItem, next]
    cases missing <;> rfl

theorem closeItems_nil (h : Items (readAsWritten depth) false cs [] rest) :
    closeItems cs = .ok rest := by
  cases h with
  | close next =>
    obtain ⟨t, front, rfl⟩ := nextItem_eq_close next
    rw [closeItems, front]
    rfl

/-- No more items may stand there than are read. -/
theorem closeItems_cons {v : Value} {vs : List Value}
    (h : Items (readAsWritten depth) false cs (v :: vs) rest) :
    (closeItems cs).toOption = none := by
  cases h with
  | more next =>
    obtain ⟨c, t, -, -, ⟨first, -⟩ | ⟨-, u, front, -⟩⟩ := nextItem_eq_more next
    · cases first
    · rw [closeItems, front]
      split
      case h_2 same => cases same
      case h_3 => split <;> rfl
      all_goals rfl

/-- Something may be made of what has been read before or after the bracket. -/
theorem bind_closed {β : Type} (r : Except Stop (α × List Char)) (make : α → β) :
    ((r >>= fun p => .ok (make p.1, p.2)) >>= closed) =
      (r >>= closed) >>= fun p => .ok (make p.1, p.2) := by
  cases r with
  | error s => rfl
  | ok p =>
    show (closeItems p.2 >>= _) = (closeItems p.2 >>= _) >>= _
    cases closeItems p.2 <;> rfl

/-- What the last item is as, which something may stand in for. -/
def lastItem (missing : Option α) (f : Value → Option α) : List Value → Option α
  | [] => missing
  | [v] => f v
  | _ => none

/-- The last item that is read has to be the last one there is. -/
theorem lastItem_follows (read : Nat) (each : Follows depth one f) {vs : List Value}
    (h : Items (readAsWritten depth) (read = 0) cs vs rest)
    (once : ∀ v ∈ vs, v.Throughout Value.namesOnce) (expected : String) (missing : Option α) :
    (readNthItem read expected missing one cs >>= closed).toOption =
      (lastItem missing f (arrangedItems vs)).map (·, rest) := by
  rw [toOption_bind]
  cases vs with
  | nil =>
    rw [readNthItem_none read h]
    cases missing <;> rfl
  | cons v vs =>
    obtain ⟨cs', others, item⟩ :=
      readNthItem_more read each h (once v List.mem_cons_self) expected missing
    rw [item]
    cases vs with
    | nil =>
      show ((f v.arranged).map _).bind _ = (f v.arranged).map _
      cases f v.arranged with
      | none => rfl
      | some a =>
        show (closeItems cs' >>= _).toOption = _
        rw [closeItems_nil others]
        rfl
    | cons w vs =>
      cases f v.arranged with
      | none => rfl
      | some a =>
        show (closeItems cs' >>= _).toOption = none
        rw [toOption_bind, closeItems_cons others]
        rfl

/-- What an item and the last one after it are as. -/
def twoItems {β γ : Type} (f : Value → Option α) (missing : Option β) (g : Value → Option β)
    (make : α → β → γ) : List Value → Option γ
  | [] => none
  | v :: vs => (f v).bind fun a => (lastItem missing g vs).map (make a)

theorem twoItems_follow {β γ : Type} {second : Reader β} {g : Value → Option β}
    (each : Follows depth one f) (eachSecond : Follows depth second g) {vs : List Value}
    (h : Items (readAsWritten depth) true cs vs rest)
    (once : ∀ v ∈ vs, v.Throughout Value.namesOnce) (expected : String) (missing : Option β)
    (make : α → β → γ) :
    ((readNthItem 0 expected none one cs >>= fun p =>
      readNthItem 1 expected missing second p.2 >>= fun q => .ok (make p.1 q.1, q.2)) >>=
        closed).toOption =
      (twoItems f missing g make (arrangedItems vs)).map (·, rest) := by
  rw [bind_assoc, funext fun p : α × List Char => bind_closed _ (make p.1), toOption_bind]
  cases vs with
  | nil =>
    rw [readNthItem_none 0 h]
    rfl
  | cons v vs =>
    obtain ⟨onceFirst, onceRest⟩ := List.forall_mem_cons.mp once
    obtain ⟨cs', others, item⟩ := readNthItem_more 0 each h onceFirst expected none
    have last := lastItem_follows 1 eachSecond others onceRest expected missing
    rw [item, arrangedItems, twoItems]
    cases f v.arranged with
    | none => rfl
    | some a =>
      show (readNthItem 1 expected missing second cs' >>= closed >>= _).toOption =
        ((lastItem missing g (arrangedItems vs)).map _).map _
      rw [toOption_bind, last]
      cases lastItem missing g (arrangedItems vs) <;> rfl

end

end LearningClient.Json
