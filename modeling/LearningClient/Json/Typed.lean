import LearningClient.Json.Skip

/-!
# Reading values of a known shape

A reader of a known shape takes a text, a truth value, a whole number, an
array of such things, or a record. A value of another kind is named in the
complaint: one without brackets is read first, so a mistake inside it comes
before its being of the wrong kind.

A record is read from an object, or, if it has an order of its own, from an
array of its fields in that order. A complaint about the record as a whole
(a field that is missing or stands twice, too few items) is placed behind
what had been read of the record, blanks and the closing bracket included
where they come next.
-/

namespace LearningClient.Json

open LearningClient.Text

/-- The complaint about a value of the wrong kind. The document has no
blanks at its front. -/
def wrongKind (expected : String) (cs : List Char) : Stop :=
  let named := fun (r : Except Stop (Found × List Char)) =>
    match r with
    | .ok (found, rest) => Stop.here (.wrongType found expected) rest
    | .error s => s
  let number := fun (r : Except Stop (Number × List Char)) =>
    named (r.map fun
      | (.int n, rest) => (.int n, rest)
      | (.float x, rest) => (.float x, rest))
  match cs with
  | 'n' :: rest => named ((readWord ['u', 'l', 'l'] rest).map (.null, ·))
  | 't' :: rest => named ((readWord ['r', 'u', 'e'] rest).map (.bool true, ·))
  | 'f' :: rest => named ((readWord ['a', 'l', 's', 'e'] rest).map (.bool false, ·))
  | '"' :: rest => named ((readString [] rest).map fun (s, rest) => (.str s, rest))
  | '[' :: _ => .here (.wrongType .sequence expected) cs
  | '\x7b' :: _ => .here (.wrongType .map expected) cs
  | '-' :: rest => number (readNumber true rest)
  | c :: _ =>
    if c.isDigit then number (readNumber false cs) else .next .expectedValue cs
  | [] => .next .expectedValue []

/-- Reads a text. -/
def readText : Reader String := fun cs =>
  match skipBlanks cs with
  | [] => .error (.next .endInValue [])
  | '"' :: rest => do
    let (s, rest) ← readString [] rest
    return (String.ofList s, rest)
  | cs => .error (wrongKind "a string" cs)

/-- Reads a text or `null`. -/
def readTextOrNull : Reader (Option String) := fun cs =>
  match skipBlanks cs with
  | 'n' :: rest => do return (none, ← readWord ['u', 'l', 'l'] rest)
  | cs => do
    let (s, rest) ← readText cs
    return (some s, rest)

/-- Reads a truth value. -/
def readBool : Reader Bool := fun cs =>
  match skipBlanks cs with
  | [] => .error (.next .endInValue [])
  | 't' :: rest => do return (true, ← readWord ['r', 'u', 'e'] rest)
  | 'f' :: rest => do return (false, ← readWord ['a', 'l', 's', 'e'] rest)
  | cs => .error (wrongKind "a boolean" cs)

/-- A number that has to be a whole one of 64 bits with sign. -/
def Number.toInt64 (n : Number) (rest : List Char) : Except Stop (Int × List Char) :=
  match n with
  | .int n =>
    if isInt64 n then .ok (n, rest) else .error (.here (.wrongInteger n "i64") rest)
  | .float x => .error (.here (.wrongType (.float x) "i64") rest)

/-- Reads a whole number of 64 bits with sign. -/
def readInt64 : Reader Int := fun cs =>
  match skipBlanks cs with
  | [] => .error (.next .endInValue [])
  | '-' :: rest => do
    let (n, rest) ← readNumber true rest
    n.toInt64 rest
  | c :: rest =>
    if c.isDigit then do
      let (n, rest) ← readNumber false (c :: rest)
      n.toInt64 rest
    else .error (wrongKind "i64" (c :: rest))

/-- Reads an array of things of one shape. -/
def readList {α : Type} (depth : Nat) (one : Nat → Reader α) : Reader (List α) := fun cs =>
  match skipBlanks cs with
  | [] => .error (.next .endInValue [])
  | '[' :: rest =>
    match depth with
    | 0 => .error (.next .tooDeep ('[' :: rest))
    | depth + 1 => manyItems (one depth) rest
  | cs => .error (wrongKind "a sequence" cs)

/-- Where a complaint about an object as a whole is placed. -/
def afterObject (cs : List Char) : List Char :=
  match skipBlanks cs with
  | '\x7d' :: rest => rest
  | rest => rest

/-- Where a complaint about an array as a whole is placed. -/
def afterArray (cs : List Char) : List Char :=
  match skipBlanks cs with
  | ']' :: rest => rest
  | rest => rest

/-- Reads the value of a field that must not stand twice. -/
def readField {α : Type} (name : String) (seen : Option α) (value : Reader α) : Reader α :=
  fun cs =>
    match seen with
    | some _ => .error (.here (.duplicateField name) (afterObject cs))
    | none => do value (← readColon cs)

/-- Passes over a field that nobody asked for. -/
def skipField {σ : Type} (s : σ) : Reader σ := fun cs => do
  return (s, ← skipValue (← readColon cs))

/-- The shape of a record: how its fields are gathered from an object, what
makes them complete, and how it is read from an array, if it can be. -/
structure Record (σ α : Type) where
  /-- What the record is called in complaints. -/
  expected : String
  /-- No field read yet. -/
  start : σ
  /-- Reads one field after its name. The number says how many brackets it
  may open. -/
  field : Nat → σ → String → Reader σ
  /-- The record, if no field is missing. -/
  finish : σ → Except Cause α
  /-- Reads the fields in their order, after the opening bracket of an
  array. -/
  items : Option (Nat → Reader α)

/-- Reads a record. -/
def Record.read {σ α : Type} (r : Record σ α) (depth : Nat) : Reader α := fun cs =>
  match skipBlanks cs with
  | [] => .error (.next .endInValue [])
  | '\x7b' :: rest =>
    match depth with
    | 0 => .error (.next .tooDeep ('\x7b' :: rest))
    | depth + 1 => do
      let (s, rest) ← manyMembers (r.field depth) r.start rest
      match r.finish s with
      | .ok v => return (v, rest.tail)
      | .error cause => throw (.here cause rest.tail)
  | '[' :: rest =>
    match r.items with
    | none => .error (wrongKind r.expected ('[' :: rest))
    | some items =>
      match depth with
      | 0 => .error (.next .tooDeep ('[' :: rest))
      | depth + 1 => do
        let (v, rest) ← items depth rest
        return (v, ← closeItems rest)
  | cs => .error (wrongKind r.expected cs)

/-- Reads the next item of a record written as an array. `read` is how many
items came before it, and `expected` describes the whole. If the array ends
here, `missing` stands in, if there is something to stand in. -/
def readNthItem {α : Type} (read : Nat) (expected : String) (missing : Option α)
    (one : Reader α) : Reader α := fun cs => do
  match ← nextItem (read = 0) cs with
  | .more rest => one rest
  | .close rest =>
    match missing with
    | some v => return (v, rest)
    | none => throw (.here (.wrongLength read expected) (afterArray rest))

end LearningClient.Json
