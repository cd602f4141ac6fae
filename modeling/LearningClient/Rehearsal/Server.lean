import LearningClient.Http.Exchange

/-!
# A scripted server

What stands at the other end of a connection when a program is tried out: a
list of what comes back, one after the other, and the messages that arrived.
It knows no encryption, so a message to an encrypted address does not
arrive, and nothing comes back.
-/

namespace LearningClient.Rehearsal

open LearningClient.Http LearningClient.Text

/-- A server with a list of what comes back, and what it has been sent. -/
structure Server where
  receptions : List Reception := []
  arrived : List Message := []
deriving Repr

/-- What comes back when the list is at its end. -/
def Server.exhausted : Reception := .answer 500 (encode "no response queued".toList)

/-- A message is sent. -/
def Server.accept (s : Server) (m : Message) : Reception × Server :=
  if m.address.scheme ≠ "http".toList then (.nothing, s)
  else
    let arrived := s.arrived ++ [m]
    match s.receptions with
    | [] => (Server.exhausted, { receptions := [], arrived })
    | r :: receptions => (r, { receptions, arrived })

end LearningClient.Rehearsal
