import LearningClient.Client.Basic

/-!
# Calls against a scripted backend

A backend that answers from a list, and calls that run side by side against
it. The backend takes the answer to a request from its list when the request
is sent; the call goes on with it at its next turn. Calls run in rounds:
in each round every call that is not over takes one turn, in the order in
which the calls stand. A call that waits may find at its turn that it still
has to.

`settle` repeats rounds as long as they get the calls further. How far the
calls have come is a number (`Session.remaining`) that each useful turn
lowers, so this ends; it ends with all calls over unless one waits for
something that no call will bring about.
-/

namespace LearningClient.Rehearsal

open LearningClient LearningClient.Http

/-- A backend with a list of answers, and the requests it has been sent. -/
structure Backend where
  answers : List (Outcome Response) := []
  sent : List Request := []
deriving Repr

/-- A request is sent: the next answer, if there is one. -/
def Backend.accept (b : Backend) (r : Request) : Outcome Response × Backend :=
  let sent := b.sent ++ [r]
  match b.answers with
  | [] => (.error (.transport "no response queued"), { answers := [], sent })
  | a :: answers => (a, { answers, sent })

/-- Where a call stands. -/
inductive Stage
  | fresh (c : Call)
  | sent (e : Errand) (answer : Outcome Response)
  | waiting (w : Wait)
  | over (r : Outcome Reply)
deriving Repr

/-- How many turns a call has before it at most, turns that change nothing
not counted. -/
def Stage.remaining : Stage → Nat
  | .fresh _ => 5
  | .waiting _ => 4
  | .sent (.token _) _ => 3
  | .sent _ _ => 2
  | .over _ => 0

/-- The result of a call, if it is over. -/
def Stage.result? : Stage → Option (Outcome Reply)
  | .over r => some r
  | _ => none

/-- Calls side by side, the client they share, and the backend. -/
structure Session where
  client : Client
  backend : Backend
  calls : List Stage := []
deriving Repr

/-- Where a call stands after a turn. -/
def Backend.after (b : Backend) : Progress → Stage × Backend
  | .done r => (.over r, b)
  | .waits w => (.waiting w, b)
  | .sends r e =>
    let (answer, b) := b.accept r
    (.sent e answer, b)

/-- One turn of one call. -/
def turn (c : Client) (b : Backend) (s : Stage) : Stage × Client × Backend :=
  let go := fun (p : Progress × Client) =>
    let (s, b) := b.after p.1
    (s, p.2, b)
  match s with
  | .fresh call => go (c.start call)
  | .sent e answer => go (c.receive e answer)
  | .waiting w => go (c.wake w)
  | .over r => (.over r, c, b)

/-- One turn of each call. -/
def turns (c : Client) (b : Backend) : List Stage → List Stage × Client × Backend
  | [] => ([], c, b)
  | s :: rest =>
    let (s, c, b) := turn c b s
    let (rest, c, b) := turns c b rest
    (s :: rest, c, b)

/-- One round. -/
def Session.round (s : Session) : Session :=
  let (calls, client, backend) := turns s.client s.backend s.calls
  { client, backend, calls }

/-- How much is left to do. -/
def Session.remaining (s : Session) : Nat :=
  s.calls.foldr (fun call n => call.remaining + n) 0

/-- Rounds as long as they get further. -/
def Session.settle (s : Session) : Session :=
  let next := s.round
  if next.remaining < s.remaining then next.settle else next
termination_by s.remaining

/-- Runs calls side by side: their results, and the client and backend
they leave. -/
def Session.run (client : Client) (backend : Backend) (calls : List Call) : Session :=
  settle { client, backend, calls := calls.map .fresh }

/-- Runs batches of calls one after the other, the calls of each batch side by
side: the results of all, and the client and backend the last batch leaves. -/
def Session.batches (client : Client) (backend : Backend) : List (List Call) → Session
  | [] => { client, backend }
  | calls :: rest =>
    let first := Session.run client backend calls
    let others := Session.batches first.client first.backend rest
    { others with calls := first.calls ++ others.calls }

end LearningClient.Rehearsal
