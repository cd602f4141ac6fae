import LearningClient.Form
import LearningClient.Json.Value
import LearningClient.Table

/-!
# Requests

A request as a service puts it together, before it has an address: a
method, a path that begins with a slash, names and values for the query, headers, and a
body. The query is encoded when it is asked for. A name or value may be
empty; it is sent all the same.
-/

namespace LearningClient.Http

/-- The methods in use. -/
inductive Method
  | get
  | post
deriving DecidableEq, Repr

/-- The name of a method. -/
def Method.name : Method → String
  | .get => "GET"
  | .post => "POST"

/-- A request without an address. -/
structure Request where
  method : Method
  path : String
  query : List (String × String) := []
  headers : Table String := []
  body : Option Json.Value := none
deriving Repr

/-- A request for what a path names. -/
def Request.get (path : String) : Request := { method := .get, path }

/-- A request that hands a value to what a path names. -/
def Request.post (path : String) (body : Json.Value) : Request :=
  { method := .post, path, body := some body }

/-- The request with one more name and value at the end of its query. -/
def Request.withQuery (r : Request) (name value : String) : Request :=
  { r with query := r.query ++ [(name, value)] }

/-- The request with a header, in place of one whose name is spelled the
same. -/
def Request.withHeader (r : Request) (name value : String) : Request :=
  { r with headers := r.headers.insert name value }

/-- The header that carries the token of a request that changes something. -/
def tokenHeader : String := "X-CSRFToken"

/-- The request with its token. -/
def Request.withToken (r : Request) (token : String) : Request :=
  r.withHeader tokenHeader token

/-- The query as it is sent, if there is one. -/
def Request.encodedQuery (r : Request) : Option String :=
  (Form.encodePairs r.query).map String.ofList

/-- The path, and after a question mark the query. -/
def Request.pathAndQuery (r : Request) : String :=
  match r.encodedQuery with
  | some query => r.path ++ "?" ++ query
  | none => r.path

end LearningClient.Http
