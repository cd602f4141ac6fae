import Std.Async.DNS
import Std.Async.TCP
import Std.Async.Timer
import LearningClient.Command
import LearningClient.Http.Octets

/-!
# The program

The outermost layer: the environment, the arguments, connections, and the
two outputs. All that is decided is decided by `runProgram`; here a message
is carried over a connection of its own and what comes back is collected. A
connection that cannot be made, breaks or takes longer than the settings
allow brings nothing back. No encryption is spoken, so nothing comes back
from an encrypted address either.
-/

namespace LearningClient

open LearningClient.Http Std.Async

/-- What an action brings, if it takes so many seconds at most. -/
def within {α : Type} (seconds : Nat) (action : Async α) : Async (Option α) :=
  Async.race (some <$> action) do
    sleep (.ofNat (1000 * min seconds 1000000))
    return none

/-- The host of an address as the resolver takes it. -/
def hostName (a : Url.Address) : String :=
  String.ofList (((a.host.map Url.Host.text).getD []).filter fun c => c ≠ '[' && c ≠ ']')

/-- The addresses of a host, at a port. -/
def resolve (a : Url.Address) : Async (List Std.Net.SocketAddress) := do
  let port := UInt16.ofNat ((a.port.or (Url.defaultPort a.scheme)).getD 80)
  return (← DNS.getAddrInfo (hostName a) "").toList.map fun
    | .v4 addr => .v4 { addr, port }
    | .v6 addr => .v6 { addr, port }

/-- A connection to the first of some addresses that accepts one. -/
def connectFirst : List Std.Net.SocketAddress → Async TCP.Socket.Client
  | [] => throw (IO.userError "no address accepts a connection")
  | a :: rest => do
    let socket ← TCP.Socket.Client.mk
    try
      socket.connect a
      return socket
    catch _ => connectFirst rest

/-- Collects what comes until the other end closes the connection. -/
partial def collect (socket : TCP.Socket.Client) (soFar : ByteArray) : Async ByteArray := do
  match ← socket.recv? 65536 with
  | some bytes => collect socket (soFar ++ bytes)
  | none => return soFar

/-- Carries a message to its address and brings back what comes. -/
def carry (settings : Settings) (m : Message) : Async Reception := do
  match ← within settings.connectTimeoutSecs do connectFirst (← resolve m.address) with
  | none => return .nothing
  | some socket =>
    socket.send ⟨m.octets.toArray⟩
    return .ofOctets (← collect socket .empty).toList

/-- Carries a message, if its address is not an encrypted one, in the time
that the settings allow. -/
def exchange (settings : Settings) (m : Message) : IO Reception := do
  if m.address.scheme ≠ "http".toList then return .nothing
  try return (← Async.block (within settings.requestTimeoutSecs (carry settings m))).getD .nothing
  catch _ => return .nothing

/-- The variables that the settings are read from, with their values. -/
def readVariables : IO (Table String) :=
  [Settings.baseUrlVar, Settings.connectTimeoutVar, Settings.requestTimeoutVar,
    Settings.tokenVar].foldlM (fun t name => do
      match ← IO.getEnv name with
      | some value => return t.insert name value
      | none => return t) []

end LearningClient

/-- Runs the program with the arguments it is given. -/
def main (args : List String) : IO UInt32 := do
  let named ← LearningClient.readVariables
  let ending ← LearningClient.runProgram named.get? LearningClient.exchange args
  IO.print ending.output
  IO.eprint ending.errors
  return UInt32.ofNat ending.code
