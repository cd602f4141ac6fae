import LearningClient.Decimal.Binary64

/-!
# JSON values

A value as it is read and written. Whole numbers of 64 bits, signed or
unsigned, are kept exactly and apart from all other numbers, which are
binary floating-point numbers. An object is a list of members; where it was
read from a document without a type, the list is in ascending order of its
names, and each name stands in it once.
-/

namespace LearningClient.Json

open LearningClient.Decimal

/-- A JSON value. -/
inductive Value
  | null
  | bool (b : Bool)
  | int (n : Int)
  | float (x : Binary64)
  | str (s : String)
  | arr (items : List Value)
  | obj (members : List (String × Value))
deriving Repr, Inhabited

/-- The members of an object. -/
abbrev Members := List (String × Value)

/-- Puts a member in its place in ascending order of names. A member of the
same name is replaced. -/
def insertMember (name : String) (v : Value) : Members → Members
  | [] => [(name, v)]
  | (n, w) :: rest =>
    if name = n then (name, v) :: rest
    else if name < n then (name, v) :: (n, w) :: rest
    else (n, w) :: insertMember name v rest

/-- Members in ascending order of names, each name once; of members of the
same name the last one counts. -/
def sortMembers (ms : Members) : Members :=
  ms.foldl (fun acc (n, v) => insertMember n v acc) []

/-- The member of a name, if the value is an object that has one. -/
def Value.member? (v : Value) (name : String) : Option Value :=
  match v with
  | .obj ms => ms.lookup name
  | _ => none

/-- The text, if the value is one. -/
def Value.text? : Value → Option String
  | .str s => some s
  | _ => none

/-- How many arrays and objects are open at once at the deepest place. -/
def Value.depth : Value → Nat
  | .arr items => 1 + items.attach.foldl (fun n ⟨v, _⟩ => max n v.depth) 0
  | .obj members => 1 + members.attach.foldl (fun n ⟨(_, v), _⟩ => max n v.depth) 0
  | _ => 0
decreasing_by
  · have := List.sizeOf_lt_of_mem ‹_›
    simp_wf; omega
  · have := List.sizeOf_lt_of_mem ‹_›
    simp_wf; simp_all; omega

end LearningClient.Json
