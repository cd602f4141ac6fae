import LearningClient.Http.Exchange

/-!
# Messages as octets

How a message looks on a connection that carries one message and one answer
and is then closed, and how the octets that come back are read. The answer
proper follows any number of answers that only announce it. Its body is as
long as its header says, or comes in chunks that say their length, or ends
with the connection.
-/

namespace LearningClient.Http

open LearningClient.Text LearningClient.Url

/-- A line of a message. -/
def line (cs : List Char) : List Char := cs ++ ['\r', '\n']

/-- The host and port of an address as a header has them. -/
def hostField (a : Address) : List Char :=
  ((a.host.map Host.text).getD []) ++
    match a.port with
    | some p => ':' :: natText p
    | none => []

/-- A header. -/
def headerLine (name value : String) : List Char :=
  line (name.toList ++ ':' :: ' ' :: value.toList)

/-- The octets of a message. -/
def Message.octets (m : Message) : List UInt8 :=
  let body := encode (m.body.getD "").toList
  let length := if m.body.isSome then
    headerLine "content-length" (String.ofList (natText body.length)) else []
  encode (line (m.method.name.toList ++ ' ' :: m.pathAndQuery.toList ++ " HTTP/1.1".toList) ++
    headerLine "host" (String.ofList (hostField m.address)) ++
    headerLine "accept" "*/*" ++ headerLine "connection" "close" ++
    m.headers.flatMap (fun (name, value) => headerLine name value) ++ length ++ line []) ++ body

/-- The octets before the first line end, and those after it. -/
def splitLine : List UInt8 → Option (List UInt8 × List UInt8)
  | [] => none
  | 13 :: 10 :: rest => some ([], rest)
  | b :: rest => (splitLine rest).map fun (l, r) => (b :: l, r)

/-- A header of an answer: its name in lower case, and its value without the
spaces and tabs around it. -/
def readHeader (cs : List Char) : String × String :=
  let name := cs.takeWhile (· ≠ ':')
  let around : Char → Bool := fun c => c = ' ' || c = '\t'
  let value := (cs.drop (name.length + 1)).dropWhile around
  (String.ofList (name.map Char.toLower), String.ofList (value.reverse.dropWhile around).reverse)

/-- Reads headers up to the empty line after them; there are no more of
them than octets. -/
def readHeaders : Nat → Table String → List UInt8 → Option (Table String × List UInt8)
  | 0, _, _ => none
  | rounds + 1, t, bs =>
    match splitLine bs with
    | none => none
    | some ([], rest) => some (t, rest)
    | some (l, rest) =>
      let (name, value) := readHeader (decodeLossy l)
      readHeaders rounds (t.insert name value) rest

/-- The status in the first line of an answer. -/
def readStatus? (cs : List Char) : Option Nat :=
  match cs.splitOn ' ' with
  | _ :: code :: _ => readDigits? code
  | _ => none

/-- Reads a body in chunks; there are no more of them than octets. -/
def readChunks : Nat → List UInt8 → Option (List UInt8)
  | 0, _ => none
  | rounds + 1, bs => do
    let (l, rest) ← splitLine bs
    let digits := (decodeLossy l).takeWhile fun c => (hexValue? c).isSome
    let length := (digits.filterMap hexValue?).foldl (fun n v => 16 * n + v) 0
    if digits.isEmpty || rest.length < length then none
    else if length = 0 then some []
    else return rest.take length ++ (← readChunks rounds (rest.drop (length + 2)))

/-- Reads the body of an answer after its headers. -/
def readBody (status : Nat) (headers : Table String) (rest : List UInt8) : Reception :=
  if headers.get? "transfer-encoding" = some "chunked" then
    match readChunks (rest.length + 1) rest with
    | some body => .answer status body
    | none => .broken status
  else
    match (headers.get? "content-length").bind fun n => readDigits? n.toList with
    | some n => if rest.length < n then .broken status else .answer status (rest.take n)
    | none => .answer status rest

/-- Reads what came back on a connection; there are no more answers in it
than octets. -/
def readReception : Nat → List UInt8 → Reception
  | 0, _ => .nothing
  | rounds + 1, bs =>
    match splitLine bs with
    | none => .nothing
    | some (first, rest) =>
      match readStatus? (decodeLossy first), readHeaders (rest.length + 1) [] rest with
      | some status, some (headers, body) =>
        if isInterim status then readReception rounds body else readBody status headers body
      | _, _ => .nothing

/-- What came back on a connection that is closed. -/
def Reception.ofOctets (bs : List UInt8) : Reception := readReception (bs.length + 1) bs

end LearningClient.Http
