import LearningClient.Url.Basic

/-!
# Paths

How the path of an address is read. It is cut at its slashes; a backslash is
one in a well-known scheme. Segments of one dot or of two, escaped or not,
are resolved while the path is read, so the path of an address has none. A
segment that looks like a drive is never taken away by two dots, whatever
the scheme. A question mark or a hash sign ends the path.
-/

namespace LearningClient.Url

open LearningClient.Text

/-- Whether a character separates segments. -/
def isSlash (special : Bool) (c : Char) : Bool := c = '/' || (special && c = '\\')

/-- Whether a character ends the part with user and host. -/
def endsAuthority (special : Bool) (c : Char) : Bool :=
  isSlash special c || c = '?' || c = '#'

/-! ## Segments -/

/-- Whether a segment is one dot, escaped or not. -/
def isSingleDot (cs : List Char) : Bool :=
  [['.'], ['%', '2', 'e']].contains (cs.map Char.toLower)

/-- Whether a segment is two dots, escaped or not. -/
def isDoubleDot (cs : List Char) : Bool :=
  [['.', '.'], ['.', '%', '2', 'e'], ['%', '2', 'e', '.'],
    ['%', '2', 'e', '%', '2', 'e']].contains (cs.map Char.toLower)

/-- A letter and a colon, or a bar in place of the colon: the name of a
drive, where a file address begins with it. -/
def isDrive : List Char → Bool
  | [c, d] => c.isAlpha && (d = ':' || d = '|')
  | _ => false

/-- Whether a segment begins like the path of a drive. -/
def looksLikeDrive : List Char → Bool
  | c :: d :: '\\' :: _ => isDrive [c, d]
  | s => isDrive s

/-- The segments without the last. One that looks like a drive stays, under
any scheme. -/
def shorten (ss : List (List Char)) : List (List Char) :=
  if ss.getLast?.any looksLikeDrive then ss else ss.dropLast

/-- Adds a segment to those before it; `last` if no slash follows. -/
def pushSegment (last : Bool) (ss : List (List Char)) (s : List Char) : List (List Char) :=
  let open_ := fun (ss : List (List Char)) => if last then ss ++ [[]] else ss
  if isDoubleDot s then open_ (shorten ss)
  else if isSingleDot s then open_ ss
  else ss ++ [escape inPath s]

/-- Adds segments one after the other to what is there; `push` is told of
each whether it is the last. -/
def pushSegments {P : Type} (push : Bool → P → List Char → P) : P → List (List Char) → P
  | p, [] => p
  | p, [s] => push true p s
  | p, s :: rest => pushSegments push (push false p s) rest

/-- Cuts a text at its slashes. -/
def splitSegments (special : Bool) (cs : List Char) : List (List Char) :=
  cs.splitOnP (isSlash special)

/-- A text without a slash at its front. -/
def dropSlash (special : Bool) (cs : List Char) : List Char :=
  match cs with
  | c :: rest => if isSlash special c then rest else c :: rest
  | [] => []

/-- The path that a text before any question mark or hash sign spells. -/
def readSegments (special : Bool) (cs : List Char) : List (List Char) :=
  if !special && cs.isEmpty then []
  else pushSegments pushSegment [] (splitSegments special (dropSlash special cs))

/-! ## What follows a path -/

/-- Cuts a text at its first question mark and hash sign: what comes before
both, the query and the fragment. -/
def splitTail (cs : List Char) : List Char × Option (List Char) × Option (List Char) :=
  let front := cs.takeWhile (· ≠ '#')
  let fragment := match cs.drop front.length with
    | _ :: f => some f
    | [] => none
  let path := front.takeWhile (· ≠ '?')
  let query := match front.drop path.length with
    | _ :: q => some q
    | [] => none
  (path, query, fragment)

/-- The address of a scheme, what comes before the path, and a path with all
that follows it. -/
def assemble (a : Address) (readPath : List Char → Path) (cs : List Char) : Address :=
  let (path, query, fragment) := splitTail cs
  { a with
    path := readPath path
    query := query.map (escape (querySet a.scheme))
    fragment := fragment.map (escape inFragment) }

end LearningClient.Url
