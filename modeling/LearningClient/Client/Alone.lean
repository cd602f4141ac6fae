import LearningClient.Client.Basic
import LearningClient.Http.Exchange
import LearningClient.Settings

/-!
# One call by itself

A call that nobody shares the client with is over after a few turns: it
sends at most two requests, one for the token and one of its own, and has
nobody to wait for. It runs in any monad that can carry a message to the
backend and bring back what comes.
-/

namespace LearningClient

open LearningClient.Http

variable {m : Type → Type} [Monad m]

/-- Sends a request to the backend of some settings. A request that cannot
be made into a message is not sent. -/
def Settings.send (s : Settings) (exchange : Message → m Reception) (r : Request) :
    m (Outcome Response) :=
  match r.message s.baseUrl with
  | .error e => return .error e
  | .ok message => message.response <$> exchange message

/-- Takes the turns of a call one after the other, at most as many as the
first number says after the first. -/
def Client.finish (send : Request → m (Outcome Response)) :
    Nat → Progress × Client → m (Outcome Reply)
  | _, (.done r, _) => return r
  | 0, _ => return .error (.other "the call did not come to an end")
  | turns + 1, (.sends r e, c) => do finish send turns (c.receive e (← send r))
  | turns + 1, (.waits w, c) => finish send turns (c.wake w)

/-- Runs a call by itself. -/
def Client.runAlone (c : Client) (send : Request → m (Outcome Response)) (call : Call) :
    m (Outcome Reply) :=
  Client.finish send 3 (c.start call)

end LearningClient
