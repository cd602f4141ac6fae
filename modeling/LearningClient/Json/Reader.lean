import LearningClient.Json.Lexeme

/-!
# Reading documents

The brackets, and the reader of any value. `nextItem` and `nextMember` say
what an open array or object goes on with; `manyItems` and `manyMembers`
repeat a reader until the closing bracket. What is done with an item or a
member is a parameter, so that the same loops serve values of any shape and
values of a known shape.

`readValue` is a recursion on how many brackets may still be opened inside
each other. A document may open 127 of them.
-/

namespace LearningClient.Json

/-- How many brackets a document may open inside each other. -/
def maxDepth : Nat := 127

/-- What an open array or object goes on with. -/
inductive Next
  /-- One more item or member, in front of which nothing is left to skip. -/
  | more (rest : List Char)
  /-- The closing bracket, which is the next character. -/
  | close (rest : List Char)

/-- What an open array goes on with; `first` if nothing has been read of
it. -/
def nextItem (first : Bool) (cs : List Char) : Except Stop Next :=
  match skipBlanks cs with
  | [] => .error (.next .endInList [])
  | c :: rest =>
    if c = ']' then .ok (.close (c :: rest))
    else if first then .ok (.more (c :: rest))
    else if c = ',' then
      match skipBlanks rest with
      | [] => .error (.next .endInValue [])
      | d :: rest =>
        if d = ']' then .error (.next .trailingComma (d :: rest)) else .ok (.more (d :: rest))
    else .error (.next .expectedCommaOrBracket (c :: rest))

/-- What an open object goes on with; `first` if nothing has been read of
it. -/
def nextMember (first : Bool) (cs : List Char) : Except Stop Next :=
  match skipBlanks cs with
  | [] => .error (.next .endInObject [])
  | c :: rest =>
    if c = '\x7d' then .ok (.close (c :: rest))
    else if first then
      if c = '"' then .ok (.more (c :: rest)) else .error (.next .keyNotString (c :: rest))
    else if c = ',' then
      match skipBlanks rest with
      | [] => .error (.next .endInValue [])
      | d :: rest =>
        if d = '"' then .ok (.more (d :: rest))
        else if d = '\x7d' then .error (.next .trailingComma (d :: rest))
        else .error (.next .keyNotString (d :: rest))
    else .error (.next .expectedCommaOrBrace (c :: rest))

/-- Reads the closing bracket of an array of which everything wanted has
been read. -/
def closeItems (cs : List Char) : Except Stop (List Char) :=
  match skipBlanks cs with
  | [] => .error (.next .endInList [])
  | ']' :: rest => .ok rest
  | ',' :: rest =>
    match skipBlanks rest with
    | ']' :: rest => .error (.next .trailingComma (']' :: rest))
    | rest => .error (.next .trailingCharacters rest)
  | rest => .error (.next .trailingCharacters rest)

/-- Reads the colon after the name of a member. -/
def readColon (cs : List Char) : Except Stop (List Char) :=
  match skipBlanks cs with
  | [] => .error (.next .endInObject [])
  | ':' :: rest => .ok rest
  | rest => .error (.next .expectedColon rest)

/-- Reads items up to and with the closing bracket of an array. Each item
takes at least one character, so as many rounds as there are characters are
enough. `done` holds the items, the last one first. -/
def itemsLoop {α : Type} (one : Reader α) :
    Nat → Bool → List α → Reader (List α)
  | 0, _, _, cs => .error (.here .endInList cs)
  | rounds + 1, first, done, cs => do
    match ← nextItem first cs with
    | .close rest => return (done.reverse, rest.tail)
    | .more rest =>
      let (v, rest) ← one rest
      itemsLoop one rounds false (v :: done) rest

/-- Reads an array after its opening bracket. -/
def manyItems {α : Type} (one : Reader α) : Reader (List α) := fun cs =>
  itemsLoop one (cs.length + 1) true [] cs

/-- Reads the name of a member after its opening quote and hands it to
`step`, together with what has been made of the members before it, up to
and with the closing bracket of an object. The state is handed out with what
is left from the closing bracket on. -/
def membersLoop {σ : Type} (step : σ → String → Reader σ) :
    Nat → Bool → σ → Reader σ
  | 0, _, _, cs => .error (.here .endInObject cs)
  | rounds + 1, first, s, cs => do
    match ← nextMember first cs with
    | .close rest => return (s, rest)
    | .more rest =>
      let (name, rest) ← readString [] rest.tail
      let (s, rest) ← step s (String.ofList name) rest
      membersLoop step rounds false s rest

/-- Reads the members of an object after its opening bracket, up to the
closing one. -/
def manyMembers {σ : Type} (step : σ → String → Reader σ) (start : σ) : Reader σ := fun cs =>
  membersLoop step (cs.length + 1) true start cs

/-- Reads the colon and the value of a member, and puts it in its place
among the others. -/
def readMember (value : Reader Value) (ms : Members) (name : String) : Reader Members :=
  fun cs => do
    let rest ← readColon cs
    let (v, rest) ← value rest
    return (insertMember name v ms, rest)

/-- Reads a value that may open `depth` brackets inside each other. -/
def readValue (depth : Nat) : Reader Value := fun cs =>
  match skipBlanks cs with
  | [] => .error (.next .endInValue [])
  | 'n' :: rest => do return (.null, ← readWord ['u', 'l', 'l'] rest)
  | 't' :: rest => do return (.bool true, ← readWord ['r', 'u', 'e'] rest)
  | 'f' :: rest => do return (.bool false, ← readWord ['a', 'l', 's', 'e'] rest)
  | '"' :: rest => do
    let (s, rest) ← readString [] rest
    return (.str (String.ofList s), rest)
  | '[' :: rest =>
    match depth with
    | 0 => .error (.next .tooDeep ('[' :: rest))
    | depth + 1 => do
      let (items, rest) ← manyItems (readValue depth) rest
      return (.arr items, rest)
  | '\x7b' :: rest =>
    match depth with
    | 0 => .error (.next .tooDeep ('\x7b' :: rest))
    | depth + 1 => do
      let (ms, rest) ← manyMembers (readMember (readValue depth)) [] rest
      return (.obj ms, rest.tail)
  | '-' :: rest => do
    let (n, rest) ← readNumber true rest
    return (n.toValue, rest)
  | c :: rest =>
    if c.isDigit then do
      let (n, rest) ← readNumber false (c :: rest)
      return (n.toValue, rest)
    else .error (.next .expectedValue (c :: rest))

/-- Reads one thing and then only blanks. -/
def readWhole {α : Type} (r : Reader α) (document : List Char) : Except Stop α := do
  let (v, rest) ← r document
  match skipBlanks rest with
  | [] => return v
  | rest => throw (.next .trailingCharacters rest)

/-- Reads a whole document. -/
def decode {α : Type} (r : Reader α) (document : String) : Except Fault α :=
  (readWhole r document.toList).mapError (·.fault document.toList)

/-- Reads a document that holds any value. -/
def Value.ofText (document : String) : Except Fault Value := decode (readValue maxDepth) document

end LearningClient.Json
