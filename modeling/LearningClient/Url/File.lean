import LearningClient.Url.Path

/-!
# Addresses of files

A file is on this machine or on a host. Its path may begin with a drive, a
letter and a colon, and is then on this machine whatever the host; a bar in
place of the colon becomes a colon. Empty segments in front of a path go.

Tabs and line ends are ignored wherever they stand, with one exception: a
drive at the front of a path may be parted by one of them from what follows
it. What follows is then a segment of its own. It is taken as it is, dots
included, and the host stays. So the readers here take a text that still
has the characters that are ignored.
-/

namespace LearningClient.Url

open LearningClient.Text

/-! ## Ignored characters -/

/-- Whether a character is ignored wherever it stands. -/
def isIgnored (c : Char) : Bool := c = '\t' || c = '\n' || c = '\r'

/-- A text without the characters that are ignored. -/
def withoutIgnored (cs : List Char) : List Char := cs.filter (!isIgnored ·)

/-- A text without as many characters at its front. Those that are ignored
do not count. -/
def dropCounted : Nat → List Char → List Char
  | 0, cs => cs
  | _ + 1, [] => []
  | n + 1, c :: cs => if isIgnored c then dropCounted (n + 1) cs else dropCounted n cs

/-! ## Paths -/

/-- The path of a file as far as it is read. -/
structure DrivePath where
  segments : List (List Char) := []
  /-- Whether the first segment names a drive and is ended by a slash or by
  the path's end. -/
  onDrive : Bool := false
deriving DecidableEq, Repr

/-- The drive that a text begins with, and what follows it, if an ignored
character parts them. -/
def splitDrive? (s : List Char) : Option (List Char × List Char) :=
  match s.dropWhile isIgnored with
  | letter :: s =>
    match s.dropWhile isIgnored with
    | ':' :: gap :: s =>
      if letter.isAlpha && isIgnored gap && !(withoutIgnored s).isEmpty then
        some ([letter, ':'], withoutIgnored s)
      else none
    | _ => none
  | [] => none

/-- Adds a segment to those before it; `last` if no slash follows. -/
def DrivePath.push (last : Bool) (p : DrivePath) (s : List Char) : DrivePath :=
  if !p.segments.isEmpty then
    { p with segments := pushSegment last p.segments (withoutIgnored s) }
  else match splitDrive? s with
    | some (drive, rest) => { p with segments := [drive, escape inPath rest] }
    | none =>
      let name := withoutIgnored s
      if isDrive name then ⟨[name.take 1 ++ [':']], true⟩
      else { p with segments := pushSegment last [] name }

/-- The path that a text before any question mark or hash sign spells. -/
def readFilePath (cs : List Char) : DrivePath :=
  pushSegments DrivePath.push {} (splitSegments true cs)

/-- The segments without those in front that are empty, of which one is left
if there is nothing else. -/
def dropEmptyFront (ss : List (List Char)) : List (List Char) :=
  match ss.dropWhile (·.isEmpty) with
  | [] => [[]]
  | ss => ss

/-- A text without a slash at its front. -/
def dropFileSlash (cs : List Char) : List Char :=
  if (withoutIgnored cs).head?.any (isSlash true) then dropCounted 1 cs else cs

/-! ## Addresses -/

/-- The scheme of files. -/
def fileScheme : List Char := ['f', 'i', 'l', 'e']

/-- The address of a file on a host, with all that follows its path. -/
def fileAddress (host : Host) (p : DrivePath) (cs : List Char) : Address :=
  assemble { scheme := fileScheme, host := some host, path := .flat [] }
    (fun _ => .segments (dropEmptyFront p.segments)) (withoutIgnored cs)

/-- The address of a file on this machine, before whose path a slash goes
without saying. -/
def localFile (cs : List Char) : Address :=
  fileAddress (.name []) (readFilePath (splitTail cs).1) cs

/-- The address of a file on a host. A path that begins with a drive is on
this machine, whatever the host. -/
def hostedFile (host : Host) (cs : List Char) : Address :=
  let p := readFilePath (dropFileSlash (splitTail cs).1)
  fileAddress (if p.onDrive then .name [] else host) p cs

/-- The host of a file, which is empty if it is this machine. -/
def readFileHost (cs : List Char) : Except Fault Host :=
  if cs.isEmpty then .ok (.name [])
  else do
    let host ← readHost cs
    return if host = .name "localhost".toList then .name [] else host

/-- The address of a file. A host comes only after two slashes, and the name
of a drive is not a host. -/
def readFile (cs : List Char) : Except Fault Address :=
  match withoutIgnored cs with
  | a :: b :: rest =>
    if isSlash true a && isSlash true b then
      let text := rest.takeWhile (!endsAuthority true ·)
      if isDrive text then .ok (localFile (dropCounted 2 cs))
      else do
        let host ← readFileHost text
        let path := dropCounted (2 + text.length) cs
        return if host = .name [] then localFile path else hostedFile host path
    else .ok (localFile (dropFileSlash cs))
  | _ => .ok (localFile (dropFileSlash cs))

end LearningClient.Url
