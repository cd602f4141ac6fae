import LearningClient.Failure

/-!
# A token that is fetched once

A cell holds the token of requests that change something, once it is known.
Until then one caller at a time fetches it, and the others wait in the order
in which they came. A fetch that succeeds serves all who wait. One that
fails is only the failure of the caller that ran it, and the next in line
fetches in turn.
-/

namespace LearningClient

/-- The token, if it is known, and who is waiting for it. -/
structure TokenCell where
  token : Option String := none
  /-- The ticket of the caller that may fetch. -/
  holder : Option Nat := none
  /-- The tickets of those who wait, the first to be served in front. -/
  queue : List Nat := []
  /-- The ticket of the next caller. -/
  nextTicket : Nat := 0
deriving DecidableEq, Repr

/-- What a caller of the cell does next. -/
inductive TokenTurn
  | known (token : String)
  | fetches
  | waits (ticket : Nat)
deriving DecidableEq, Repr

namespace TokenCell

/-- A cell whose token is known from the start. -/
def seeded (token : String) : TokenCell := { token := some token }

/-- A caller asks for the token. -/
def ask (c : TokenCell) : TokenTurn × TokenCell :=
  match c.token with
  | some t => (.known t, c)
  | none =>
    let ticket := c.nextTicket
    let c := { c with nextTicket := ticket + 1 }
    match c.holder with
    | none => (.fetches, { c with holder := some ticket })
    | some _ => (.waits ticket, { c with queue := c.queue ++ [ticket] })

/-- A caller that waits asks again. -/
def askAgain (c : TokenCell) (ticket : Nat) : TokenTurn :=
  match c.token with
  | some t => .known t
  | none => if c.holder = some ticket then .fetches else .waits ticket

/-- The fetch of the token is over. -/
def settle (c : TokenCell) (r : Outcome String) : TokenCell :=
  match r with
  | .ok t => { c with token := some t, holder := none, queue := [] }
  | .error _ =>
    match c.queue with
    | [] => { c with holder := none }
    | ticket :: queue => { c with holder := some ticket, queue }

/-- The caller that may fetch goes away, and the next in line may. -/
def release (c : TokenCell) : TokenCell :=
  match c.queue with
  | [] => { c with holder := none }
  | ticket :: queue => { c with holder := some ticket, queue }

/-- A caller that waits goes away. It may have become the one that may
fetch, without having asked again. -/
def withdraw (c : TokenCell) (ticket : Nat) : TokenCell :=
  if c.holder = some ticket then c.release else { c with queue := c.queue.erase ticket }

end TokenCell

end LearningClient
