import LearningClient.Url.Host

/-!
# Addresses

An address in its parts, and as text. A part that is not there is told from
one that is empty: an address may end in a bare question mark. All parts are
kept as they are written, with whatever had to be escaped in them.

A path is a list of segments, or, in an address without a host whose path
does not begin with a slash, one text.
-/

namespace LearningClient.Url

open LearningClient.Text

/-- The path of an address. -/
inductive Path
  /-- A text of its own kind. -/
  | flat (cs : List Char)
  /-- Segments, each after a slash. -/
  | segments (ss : List (List Char))
deriving DecidableEq, Repr

/-- An address. -/
structure Address where
  scheme : List Char
  username : List Char := []
  password : List Char := []
  host : Option Host := none
  port : Option Nat := none
  path : Path
  query : Option (List Char) := none
  fragment : Option (List Char) := none
deriving DecidableEq, Repr

/-- The text of a path. -/
def Path.text : Path → List Char
  | .flat cs => cs
  | .segments ss => ss.flatMap ('/' :: ·)

/-- The name of a user, after a colon a password, and an at-sign; nothing
if both are empty. -/
def Address.userInfoText (a : Address) : List Char :=
  if a.username.isEmpty && a.password.isEmpty then []
  else a.username ++ (if a.password.isEmpty then [] else ':' :: a.password) ++ ['@']

/-- All between the colon of the scheme and the path. A path that would be
taken for a host gets a dot in front. -/
def Address.authorityText (a : Address) : List Char :=
  match a.host with
  | some h =>
    ['/', '/'] ++ a.userInfoText ++ h.text ++
      (match a.port with
        | some p => ':' :: natText p
        | none => [])
  | none =>
    match a.path with
    | .segments ([] :: _ :: _) => ['/', '.']
    | _ => []

/-- A part with its sign in front, if the part is there. -/
def optional (sign : Char) : Option (List Char) → List Char
  | some cs => sign :: cs
  | none => []

/-- The text of an address. -/
def Address.text (a : Address) : List Char :=
  a.scheme ++ ':' :: (a.authorityText ++ a.path.text ++ optional '?' a.query ++
    optional '#' a.fragment)

/-- The text of an address as a string. -/
def Address.toString (a : Address) : String := String.ofList a.text

/-- The schemes that have rules of their own, with the ports that go without
saying. -/
def specialSchemes : List (String × Option Nat) :=
  [("http", some 80), ("https", some 443), ("ws", some 80), ("wss", some 443),
   ("ftp", some 21), ("file", none)]

/-- Whether a scheme has rules of its own. -/
def isSpecial (scheme : List Char) : Bool :=
  (specialSchemes.lookup (String.ofList scheme)).isSome

/-- The port that goes without saying. -/
def defaultPort (scheme : List Char) : Option Nat :=
  (specialSchemes.lookup (String.ofList scheme)).join

/-- Whether a scheme is the one of files. -/
def isFile (scheme : List Char) : Bool := scheme = ['f', 'i', 'l', 'e']

/-- What is escaped in the query of a scheme. -/
def querySet (scheme : List Char) : EscapeSet :=
  if isSpecial scheme then inSpecialQuery else inQuery

/-- The address with another query. -/
def Address.withQuery (a : Address) (query : List Char) : Address :=
  { a with query := some (escape (querySet a.scheme) query) }

/-- The address without the name and password of a user. -/
def Address.withoutUserInfo (a : Address) : Address := { a with username := [], password := [] }

/-- The address without its fragment. -/
def Address.withoutFragment (a : Address) : Address := { a with fragment := none }

end LearningClient.Url
