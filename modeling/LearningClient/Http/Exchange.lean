import LearningClient.Http.Request
import LearningClient.Http.Response
import LearningClient.Text.Base64
import LearningClient.Url.Parser

/-!
# Requests on their way

A request gets its address from the address of the backend, whose path it
keeps in front of its own. What goes out is a `Message`. A user named in the
address becomes a header, and the address that is sent, and shown in
failures, is without it.

A message does not go out if its address names no host, if a header has a
name or value that cannot be sent, if the scheme is not one of the web, if
the host cannot be written into a message, or if the address is too long;
the first of these is reported. What comes back is a `Reception`; it becomes
a response or a failure.
-/

namespace LearningClient.Http

open LearningClient.Text LearningClient.Url

/-- A request that goes out. The names of headers are in lower case. -/
structure Message where
  method : Method
  address : Address
  headers : Table String
  body : Option String
deriving Repr

/-- What comes back. -/
inductive Reception
  /-- A status and the octets of a body. -/
  | answer (status : Nat) (octets : List UInt8)
  /-- A status, and fewer octets than were promised. -/
  | broken (status : Nat)
  /-- Nothing: there is no connection, or it ends before an answer. -/
  | nothing
deriving DecidableEq, Repr

/-- A text without the slashes at its end. -/
def dropSlashes (cs : List Char) : List Char := (cs.reverse.dropWhile (· = '/')).reverse

/-- The address of a request to a backend. -/
def Request.address (r : Request) (base : Address) : Outcome Address :=
  match Address.parse (dropSlashes base.text ++ r.path.toList) with
  | .error e => .error (.other ("invalid request path " ++ r.path ++ ": " ++ e.message))
  | .ok a =>
    match r.encodedQuery with
    | some query => .ok (a.withQuery query.toList)
    | none => .ok a

/-! ## Headers -/

/-- Whether a character may stand in the name of a header. -/
def isNameChar (c : Char) : Bool :=
  c.isAlphanum || "!#$%&'*+-.^_\x60|~".toList.contains c

/-- How many characters the name of a header has at most. -/
def maxHeaderNameLength : Nat := 65535

/-- Whether a name can be sent. -/
def isHeaderName (name : String) : Bool :=
  !name.isEmpty && name.length ≤ maxHeaderNameLength && name.toList.all isNameChar

/-- Whether a value can be sent: it has no control characters but tabs. -/
def isHeaderValue (value : String) : Bool :=
  value.toList.all fun c => c = '\t' || (0x20 ≤ c.toNat && c.toNat ≠ 0x7f)

/-- A value without the spaces around it, which are not part of it. Tabs
stay. -/
def bareValue (value : String) : String :=
  String.ofList ((value.toList.dropWhile (· = ' ')).reverse.dropWhile (· = ' ')).reverse

/-- The name and password of the user in an address, if they can be told:
escaped octets have to spell a text. -/
def credentials? (a : Address) : Option (List Char × List Char) :=
  match a.host, decode? (Form.percentDecode a.username) with
  | some _, some name =>
    let password := (decode? (Form.percentDecode a.password)).getD []
    if name.isEmpty && (a.password.isEmpty || password.isEmpty) then none
    else some (name, password)
  | _, _ => none

/-- The value of the header that names a user. -/
def basicAuthorization (name password : List Char) : String :=
  "Basic " ++ String.ofList (base64 (encode (name ++ ':' :: password)))

/-- The headers of a message. -/
def messageHeaders (user : Option (List Char × List Char)) (r : Request) :
    Outcome (Table String) :=
  if r.headers.all fun (name, value) => isHeaderName name && isHeaderValue value then
    let start : Table String := match user with
      | some (name, password) => [("authorization", basicAuthorization name password)]
      | none => []
    let named := r.headers.foldl (fun t (name, value) =>
      t.insert (String.ofList (name.toList.map Char.toLower)) (bareValue value)) start
    .ok (if r.body.isSome && !named.contains "content-type" then
      named.insert "content-type" "application/json" else named)
  else .error (.transport "builder error")

/-! ## Messages -/

/-- A failure that names the address it is about. -/
def failureAt (what : String) (a : Address) : Failure :=
  .transport (what ++ " for url (" ++ a.toString ++ ")")

/-- Whether an address names a host. -/
def namesHost (a : Address) : Bool := a.host.any (· ≠ .name [])

/-- Whether a host can be written into a message. -/
def isSendable (h : Host) : Bool :=
  !h.text.any fun c => ['"', '\x60', '\x7b', '\x7d'].contains c

/-- How many characters an address that a message is sent to has at most. -/
def maxAddressLength : Nat := 65534

/-- Whether a message can be sent to an address. -/
def canReach (a : Address) : Bool :=
  (a.scheme = "http".toList || a.scheme = "https".toList) && a.host.all isSendable &&
    a.text.length ≤ maxAddressLength

/-- The message that a request to a backend is. -/
def Request.message (r : Request) (base : Address) : Outcome Message := do
  let address ← r.address base
  if !namesHost address then throw (failureAt "builder error" address)
  let user := credentials? address
  let address := if user.isSome then address.withoutUserInfo else address
  let headers ← messageHeaders user r
  if canReach address then
    return { method := r.method, address, headers, body := r.body.map (·.compact) }
  else throw (failureAt "builder error" address)

/-- The address as it is sent. -/
def Message.target (m : Message) : String :=
  m.address.withoutUserInfo.withoutFragment.toString

/-- The path and query of the address as it is sent. -/
def Message.pathAndQuery (m : Message) : String :=
  String.ofList (m.address.path.text ++ optional '?' m.address.query)

/-- Whether an answer of a status never has a body. -/
def isBodiless (status : Nat) : Bool := status = 101 || status = 204 || status = 304

/-- Whether a status only announces the answer proper. -/
def isInterim (status : Nat) : Bool := 100 ≤ status && status < 200 && status ≠ 101

/-- Whether an answer of a status is an answer proper: the status has three
digits and does more than announce another answer. -/
def isFinal (status : Nat) : Bool := 100 ≤ status && status ≤ 999 && !isInterim status

/-- The response to a message. Octets that spell no character become
U+FFFD. -/
def Message.response (m : Message) : Reception → Outcome Response
  | .nothing => .error (failureAt "error sending request" m.address)
  | .broken status =>
    if !isFinal status then .error (failureAt "error sending request" m.address)
    else if isBodiless status then .ok ⟨status, ""⟩
    else .error (.transport "error decoding response body")
  | .answer status octets =>
    if !isFinal status then .error (failureAt "error sending request" m.address)
    else if isBodiless status then .ok ⟨status, ""⟩
    else .ok ⟨status, String.ofList (decodeLossy octets)⟩

end LearningClient.Http
