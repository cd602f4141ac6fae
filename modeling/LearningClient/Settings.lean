import LearningClient.Failure
import LearningClient.Text.Blank
import LearningClient.Text.Digits
import LearningClient.Url.Parser

/-!
# Settings

Where the backend is, how long to wait for it, and the token if one has been
handed out beforehand. Each setting is a variable of its own. A variable
that is missing leaves its default; blanks around a value do not count. The
variables are read in a fixed order, and the first that cannot be read is
reported. How an address is read does not matter to the order
(`Settings.ofLookupWith`).
-/

namespace LearningClient

open LearningClient.Text

/-- The settings of a client. -/
structure Settings where
  baseUrl : Url.Address
  connectTimeoutSecs : Nat
  requestTimeoutSecs : Nat
  token : Option String
deriving DecidableEq, Repr

namespace Settings

/-- The variable of the address of the backend. -/
def baseUrlVar : String := "BACKEND_BASE_URL"

/-- The variable of the time to wait for a connection. -/
def connectTimeoutVar : String := "BACKEND_CONNECT_TIMEOUT_SECS"

/-- The variable of the time to wait for an answer. -/
def requestTimeoutVar : String := "BACKEND_REQUEST_TIMEOUT_SECS"

/-- The variable of the token. -/
def tokenVar : String := "BACKEND_CSRF_TOKEN"

/-- The address of a backend on this machine. -/
def localBackend : Url.Address where
  scheme := "http".toList
  host := some (.name "localhost".toList)
  port := some 8181
  path := .segments [[]]

/-- The settings where no variable says otherwise. -/
def default : Settings where
  baseUrl := localBackend
  connectTimeoutSecs := 10
  requestTimeoutSecs := 30
  token := none

/-- A number of seconds. -/
def readSeconds (variableName value : String) : Outcome Nat :=
  match readUInt64? (trim value.toList) with
  | some n => .ok n
  | none => .error (.config (variableName ++ " must be a whole number of seconds"))

/-- What reads addresses. -/
abbrev AddressReader : Type := List Char → Except Url.Fault Url.Address

/-- The address of a backend. -/
def readBaseUrl (parse : AddressReader) (value : String) : Outcome Url.Address :=
  (parse (trim value.toList)).mapError fun e => .config e.message

/-- What a variable says, or else a default. -/
def orDefault {α : Type} (value : Option String) (read : String → Outcome α) (default : α) :
    Outcome α :=
  match value with
  | some v => read v
  | none => .ok default

/-- Reads the settings with a reader of addresses. -/
def ofLookupWith (parse : AddressReader) (lookup : String → Option String) :
    Outcome Settings := do
  let baseUrl ← orDefault (lookup baseUrlVar) (readBaseUrl parse) default.baseUrl
  let connectTimeoutSecs ←
    orDefault (lookup connectTimeoutVar) (readSeconds connectTimeoutVar)
      default.connectTimeoutSecs
  let requestTimeoutSecs ←
    orDefault (lookup requestTimeoutVar) (readSeconds requestTimeoutVar)
      default.requestTimeoutSecs
  let token := ((lookup tokenVar).map trimmed).filter (!·.isEmpty)
  return { baseUrl, connectTimeoutSecs, requestTimeoutSecs, token }

/-- Reads the settings. -/
def ofLookup (lookup : String → Option String) : Outcome Settings :=
  ofLookupWith Url.Address.parse lookup

end Settings

end LearningClient
