import LearningClient.Url.File

/-!
# Reading addresses

An address is read from left to right: scheme, user, host, port, path,
query, fragment. Control characters and spaces around it, and tabs and line
ends anywhere in it, are ignored. In a well-known scheme any number of
slashes, of either kind, separates the scheme from the host, and a backslash
is a slash. Files have a reader of their own.
-/

namespace LearningClient.Url

open LearningClient.Text

/-- A text without control characters and spaces at its ends. -/
def trimControls (cs : List Char) : List Char :=
  let around : Char → Bool := fun c => c.toNat ≤ 0x20
  ((cs.dropWhile around).reverse.dropWhile around).reverse

/-- Whether a character may stand in a scheme after its first. -/
def isSchemeChar (c : Char) : Bool := c.isAlphanum || c = '+' || c = '-' || c = '.'

/-- The scheme in lower case, and what follows its colon. -/
def splitScheme? (cs : List Char) : Option (List Char × List Char) :=
  if !(cs.head?.any Char.isAlpha) then none
  else match cs.dropWhile isSchemeChar with
    | ':' :: rest => some ((cs.takeWhile isSchemeChar).map Char.toLower, rest)
    | _ => none

/-! ## User, host and port -/

/-- What stands before the last at-sign, if there is one, and what stands
after it. -/
def splitAtSign (cs : List Char) : Option (List Char) × List Char :=
  let after := (cs.reverse.takeWhile (· ≠ '@')).reverse
  if after.length = cs.length then (none, cs)
  else (some (cs.take (cs.length - after.length - 1)), after)

/-- The name and password of a user, and what follows the at-sign. An
at-sign with nothing in front needs a host after it. -/
def readUserInfo (special : Bool) (cs : List Char) :
    Except Fault (List Char × List Char × List Char) :=
  let authority := cs.takeWhile (!endsAuthority special ·)
  let rest := cs.drop authority.length
  match splitAtSign authority with
  | (none, _) => .ok ([], [], cs)
  | (some [], host) =>
    if host.isEmpty && !rest.isEmpty then .error .emptyHost else .ok ([], [], host ++ rest)
  | (some user, host) =>
    let name := user.takeWhile (· ≠ ':')
    let password := user.drop (name.length + 1)
    .ok (escape inUserInfo name, escape inUserInfo password, host ++ rest)

/-- The text of a host, and what follows it. A colon between brackets does
not end it. -/
def splitHost (special : Bool) : Bool → List Char → List Char × List Char
  | _, [] => ([], [])
  | inside, c :: cs =>
    if endsAuthority special c || (c = ':' && !inside) then ([], c :: cs)
    else
      let inside := if c = '[' then true else if c = ']' then false else inside
      let (host, rest) := splitHost special inside cs
      (c :: host, rest)

/-- The number of a port, if it does not go without saying, and what follows
it. -/
def readPort (scheme : List Char) (cs : List Char) : Except Fault (Option Nat × List Char) :=
  let digits := cs.takeWhile Char.isDigit
  let rest := cs.dropWhile Char.isDigit
  let port := ofDigits digits
  if 65535 < port then .error .port
  else match rest with
    | c :: _ =>
      if endsAuthority true c then finish digits port rest else .error .port
    | [] => finish digits port rest
where
  finish (digits : List Char) (port : Nat) (rest : List Char) :
      Except Fault (Option Nat × List Char) :=
    .ok (if digits.isEmpty || defaultPort scheme = some port then none else some port, rest)

/-- The host and port, and what follows them. -/
def readHostAndPort (scheme : List Char) (cs : List Char) :
    Except Fault (Host × Option Nat × List Char) := do
  let special := isSpecial scheme
  let (text, rest) := splitHost special false cs
  if special && text.isEmpty then throw .emptyHost
  let host ← if special then readHost text else readPlainHost text
  match rest with
  | ':' :: rest =>
    if host = .name [] then throw .emptyHost
    let (port, rest) ← readPort scheme rest
    return (host, port, rest)
  | _ => return (host, none, rest)

/-! ## Whole addresses -/

/-- An address with a user, a host and a port. -/
def readAuthority (scheme : List Char) (cs : List Char) : Except Fault Address := do
  let (username, password, rest) ← readUserInfo (isSpecial scheme) cs
  let (host, port, rest) ← readHostAndPort scheme rest
  if host = .name [] && !(username.isEmpty && password.isEmpty) then throw .emptyHost
  return assemble { scheme, username, password, host := some host, port, path := .flat [] }
    (fun path => .segments (readSegments (isSpecial scheme) path)) rest

/-- An address without a host, or of a scheme without rules of its own. -/
def readPlain (scheme : List Char) (cs : List Char) : Except Fault Address :=
  match cs with
  | '/' :: '/' :: rest => readAuthority scheme rest
  | '/' :: _ =>
    .ok (assemble { scheme, path := .flat [] }
      (fun path => .segments (readSegments (isSpecial scheme) path)) cs)
  | _ => .ok (assemble { scheme, path := .flat [] } (fun path => .flat (escape controls path)) cs)

/-- Reads an address. -/
def Address.parse (cs : List Char) : Except Fault Address :=
  let text := trimControls cs
  match splitScheme? (withoutIgnored text) with
  | none => .error .relative
  | some (scheme, rest) =>
    if isFile scheme then readFile (dropCounted (scheme.length + 1) text)
    else if isSpecial scheme then readAuthority scheme (rest.dropWhile (isSlash true))
    else readPlain scheme rest

end LearningClient.Url
