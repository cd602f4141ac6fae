import LearningClient.Rehearsal.Course

/-!
# Scripts

A script is what one user of an accessor does, line after line: asks whether
a key is cached, reads, caches or takes out a value, makes a call, gives a
fetch its outcome, drops a call. After each line the tasks that are ready
take their turns until none is. A line may be answered (`Line.reads`). No
line makes reads of the cache report nothing.

Some lines of a script are about a key and some of its calls
(`Line.concerns`), which are the lines that are left when everything else is
left out.
-/

namespace LearningClient.Rehearsal

open LearningClient

/-- A line of a script. -/
inductive Line (V : Type)
  | isCached (key : String)
  | cached (key : String)
  | cacheResource (key : String) (v : V)
  | invalidate (key : String)
  | call (id : String) (purpose : Purpose) (key : String) (outcome : Option (Outcome V))
  | finish (id : String) (r : Outcome V)
  | abort (id : String)
deriving Repr

/-- What a line is answered. -/
inductive Reading (V : Type)
  | nothing
  | flag (b : Bool)
  | value (v : Option V)
deriving Repr

namespace Line

variable {V : Type}

/-- The move that a line is, unless it is a question. -/
def move? : Line V → Option (Move V)
  | .isCached _ => none
  | .cached key => some (.read key)
  | .cacheResource key v => some (.cacheResource key v)
  | .invalidate key => some (.invalidate key)
  | .call id purpose key outcome => some (.call id purpose key outcome)
  | .finish id r => some (.finish id r)
  | .abort id => some (.abort id)

/-- What a line is answered at a bench. -/
def reads (b : Bench V) : Line V → Reading V
  | .isCached key => .flag (b.accessor.isCached key)
  | .cached key => .value (b.accessor.cached key).1
  | .cacheResource .. => .nothing
  | .invalidate _ => .nothing
  | .call .. => .nothing
  | .finish id r => .flag (b.finish id r).1
  | .abort id => .flag (b.abort id).1

/-- The call that a line makes, by its name: what it is for, and its key. -/
def makes? (id : String) : Line V → Option (Purpose × String)
  | .call i purpose key _ => if i = id then some (purpose, key) else none
  | _ => none

/-- Whether a line is about a key, or about one of the calls that are
meant. -/
def concerns (key : String) (mine : String → Bool) : Line V → Bool
  | .isCached k => k = key
  | .cached k => k = key
  | .cacheResource k _ => k = key
  | .invalidate k => k = key
  | .call id .. => mine id
  | .finish id _ => mine id
  | .abort id => mine id

end Line

/-- Whether a name stands in a script for a load of a key. It stands for the
first call that is made under it. -/
def isLoadOf {V : Type} (script : List (Line V)) (key id : String) : Bool :=
  script.findSome? (·.makes? id) = some (.load, key)

namespace Course

variable {V : Type}

/-- A line of a script. -/
def enter (x : Course V) (l : Line V) : Course V :=
  match l.move? with
  | none => x
  | some m => x.move m

/-- A line of a script, and all that comes of it. -/
def obey (x : Course V) (l : Line V) : Course V := (x.enter l).settle

def follow (x : Course V) (script : List (Line V)) : Course V := script.foldl obey x

/-- What the lines of a script are answered. -/
def readings (x : Course V) : List (Line V) → List (Line V × Reading V)
  | [] => []
  | l :: rest => (l, l.reads x.bench) :: (x.obey l).readings rest

end Course

end LearningClient.Rehearsal
