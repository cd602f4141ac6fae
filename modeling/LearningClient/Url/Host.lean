import LearningClient.Form
import LearningClient.Url.Domain
import LearningClient.Url.Escape

/-!
# Hosts

The host of an address is a name or a number. In the well-known schemes a
name is in lower case, and a name that ends in a number is a number as a
whole: four parts of eight bits, of which the last may stand for several,
each in decimal, octal or hexadecimal. A number between brackets has eight
parts of sixteen bits. Under any other scheme a name is kept as it is
written, except for characters that have to be escaped.

In the well-known schemes a name with characters beyond ASCII is turned into
one in ASCII (`asciiName?`), and a label in punycode is refused if it does not
stand for one that can be in a name (`isDomain`).
-/

namespace LearningClient.Url

open LearningClient.Text

/-- Why an address cannot be read. -/
inductive Fault
  | relative
  | emptyHost
  | port
  | shortAddress
  | longAddress
  | domain
  | domainCharacter
deriving DecidableEq, Repr

/-- The wording of a fault. -/
def Fault.message : Fault → String
  | .relative => "relative URL without a base"
  | .emptyHost => "empty host"
  | .port => "invalid port number"
  | .shortAddress => "invalid IPv4 address"
  | .longAddress => "invalid IPv6 address"
  | .domain => "invalid international domain name"
  | .domainCharacter => "invalid domain character"

/-- A host. -/
inductive Host
  /-- A name, which may be empty. -/
  | name (cs : List Char)
  /-- A number of 32 bits. -/
  | short (n : Nat)
  /-- Eight numbers of 16 bits. -/
  | long (parts : List Nat)
deriving DecidableEq, Repr

/-! ## Numbers of 32 bits -/

/-- A part in octal, decimal or hexadecimal, as its first characters say. -/
def readPart? (cs : List Char) : Option Nat :=
  let digits := fun (base : Nat) (ds : List Char) =>
    (ds.mapM hexValue?).bind fun vs =>
      if vs.all (· < base) then some (vs.foldl (fun n v => base * n + v) 0) else none
  match cs with
  | [] => none
  | '0' :: 'x' :: ds => digits 16 ds
  | '0' :: 'X' :: ds => digits 16 ds
  | '0' :: d :: ds => digits 8 (d :: ds)
  | ds => digits 10 ds

/-- The parts of a name between its dots, without an empty one at its
end. -/
def dottedParts (cs : List Char) : List (List Char) :=
  let parts := cs.splitOn '.'
  if parts.getLast? = some [] then parts.dropLast else parts

/-- Whether a name ends in a number. -/
def endsInNumber (cs : List Char) : Bool :=
  match (dottedParts cs).getLast? with
  | none => false
  | some last => (!last.isEmpty && last.all Char.isDigit) || (readPart? last).isSome

/-- The number that up to four parts stand for. All but the last are of
eight bits, and the last is of what remains of 32. -/
def readShort? (cs : List Char) : Option Nat := do
  let parts := dottedParts cs
  if 4 < parts.length then none
  let ns ← parts.mapM readPart?
  let last ← ns.getLast?
  let front := ns.dropLast
  if Nat.pow 256 (4 - front.length) ≤ last || front.any (255 < ·) then none
  return front.zipIdx.foldl (fun total (n, i) => total + n * Nat.pow 256 (3 - i)) last

/-- A number of 32 bits as four parts in decimal. -/
def shortText (n : Nat) : List Char :=
  natText (n / 0x1000000 % 256) ++ '.' :: natText (n / 0x10000 % 256) ++
    '.' :: natText (n / 256 % 256) ++ '.' :: natText (n % 256)

/-! ## Numbers of 128 bits -/

/-- Up to as many hexadecimal digits as the first number says: their value,
added to that of the digits before them, and what is left. -/
def takeHex : Nat → Nat → List Char → Nat × List Char
  | 0, n, cs => (n, cs)
  | k + 1, n, c :: cs =>
    match hexValue? c with
    | some v => takeHex k (16 * n + v) cs
    | none => (n, c :: cs)
  | _ + 1, n, [] => (n, [])

/-- A number up to 255 in decimal without leading zeros. -/
def readByte? (cs : List Char) : Option Nat :=
  if cs.isEmpty || !cs.all Char.isDigit || (cs.head? = some '0' && cs ≠ ['0']) then none
  else some (ofDigits cs) |>.filter (· ≤ 255)

/-- Four decimal numbers with dots between them, as two parts. -/
def readTail? (cs : List Char) : Option (List Nat) :=
  match cs.splitOn '.' with
  | [a, b, c, d] => do
    let a ← readByte? a
    let b ← readByte? b
    let c ← readByte? c
    let d ← readByte? d
    return [256 * a + b, 256 * c + d]
  | _ => none

/-- Reads parts with colons between them: all parts, and how many of them
come before the place where two colons leave parts out, if there is one. At
that place one part is zero in any case. Each round takes a character, so as
many rounds as there are characters are enough. -/
def readParts? : Nat → List Nat → Option Nat → List Char → Option (List Nat × Option Nat)
  | _, parts, gap, [] => some (parts, gap)
  | 0, _, _, _ => none
  | rounds + 1, parts, gap, c :: cs =>
    if parts.length = 8 then none
    else if c = ':' then
      if gap.isSome then none
      else readParts? rounds (parts ++ [0]) (some (parts.length + 1)) cs
    else
      let (n, rest) := takeHex 4 0 (c :: cs)
      match rest with
      | [] => some (parts ++ [n], gap)
      | '.' :: _ =>
        if 6 < parts.length then none
        else (readTail? (c :: cs)).map fun tail => (parts ++ tail, gap)
      | ':' :: rest =>
        if rest.isEmpty then none else readParts? rounds (parts ++ [n]) gap rest
      | _ => none

/-- Eight parts, with zeros put in where parts were left out. -/
def fillParts? : List Nat × Option Nat → Option (List Nat)
  | (parts, some gap) =>
    some (parts.take gap ++ List.replicate (8 - parts.length) 0 ++ parts.drop gap)
  | (parts, none) => if parts.length = 8 then some parts else none

/-- The eight parts that a text stands for. -/
def readLong? (cs : List Char) : Option (List Nat) :=
  match cs with
  | ':' :: ':' :: rest => (readParts? (rest.length + 1) [0] (some 1) rest).bind fillParts?
  | ':' :: _ => none
  | _ :: _ :: _ => (readParts? (cs.length + 1) [] none cs).bind fillParts?
  | _ => none

/-- The length of the run of zeros at the front. -/
def zeroRun (parts : List Nat) : Nat := (parts.takeWhile (· = 0)).length

/-- Where the longest run of zeros begins, the first of several, and how
long it is; a single zero is no run. -/
def longestZeroRun (parts : List Nat) : Option (Nat × Nat) :=
  (List.range parts.length).foldl (fun best i =>
    let n := zeroRun (parts.drop i)
    match best with
    | some (_, m) => if m < n then some (i, n) else best
    | none => if 1 < n then some (i, n) else none) none

/-- Parts in hexadecimal with colons between them. -/
def joinParts : List Nat → List Char
  | [] => []
  | [n] => hexText n
  | n :: ns => hexText n ++ ':' :: joinParts ns

/-- Eight parts, the longest run of zeros left out. -/
def longText (parts : List Nat) : List Char :=
  match longestZeroRun parts with
  | none => joinParts parts
  | some (start, length) =>
    joinParts (parts.take start) ++ ':' :: ':' :: joinParts (parts.drop (start + length))

/-! ## Hosts of any kind -/

/-- The text of a host. -/
def Host.text : Host → List Char
  | .name cs => cs
  | .short n => shortText n
  | .long parts => '[' :: (longText parts ++ [']'])

/-- What cannot stand in a name under any scheme. -/
def forbiddenInHost : Char → Bool := fun c =>
  ['\x00', '\t', '\n', '\r', ' ', '#', '/', ':', '<', '>', '?', '@', '[', '\\', ']', '^',
    '|'].contains c

/-- What cannot stand in a name under a well-known scheme, once it is in ASCII
and in lower case. -/
def forbiddenInDomain : Char → Bool := fun c =>
  c.toNat ≤ 0x20 || 0x7f ≤ c.toNat || c.isUpper || c = '%' || forbiddenInHost c

/-- Reads what stands between brackets. -/
def readBracketed (cs : List Char) : Except Fault Host :=
  match cs.reverse with
  | ']' :: inner =>
    match readLong? inner.reverse with
    | some parts => .ok (.long parts)
    | none => .error .longAddress
  | _ => .error .longAddress

/-- The host of an address with a well-known scheme. Escaped octets are
taken for the characters they spell. -/
def readHost (cs : List Char) : Except Fault Host :=
  match cs with
  | '[' :: rest => readBracketed rest
  | _ =>
    match (decode? (Form.percentDecode cs)).bind asciiName? with
    | none => .error .domain
    | some name =>
      if name.any forbiddenInDomain || !isDomain name then .error .domain
      else if name.isEmpty then .error .emptyHost
      else if endsInNumber name then
        match readShort? name with
        | some n => .ok (.short n)
        | none => .error .shortAddress
      else .ok (.name name)

/-- The host of an address with any other scheme. -/
def readPlainHost (cs : List Char) : Except Fault Host :=
  match cs with
  | '[' :: rest => readBracketed rest
  | _ =>
    if cs.any forbiddenInHost then .error .domainCharacter
    else .ok (.name (escape controls cs))

end LearningClient.Url
