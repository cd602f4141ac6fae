import LearningClient.Client.Basic

/-!
# Everything that can happen at a client

`Session.run` lets calls take their turns in rounds, against a backend whose
answers are known beforehand. A caller may rely on neither, so here the steps
at a client come in any order at all: calls are made, requests that are under
way are answered, with anything or with a failure, calls that wait look again
(whether or not there is anything new), and calls that are not over are
dropped. In between, the caches may lose any entry, because they are full or
the entry is too old, and reads of them may report nothing. A call is
suspended only at a request or at a wait, so a turn of it is one step.

`Traffic` is a client with its open calls and a log of what has happened.
Calls are numbered in the order in which they are made.
-/

namespace LearningClient.Rehearsal

open LearningClient LearningClient.Http

/-- What a call that is not over is suspended at. -/
inductive Pause
  /-- Its request is under way. -/
  | request (r : Request) (e : Errand)
  /-- It waits for another call. -/
  | wait (w : Wait)
deriving Repr

/-- A call that is not over. -/
structure OpenCall where
  id : Nat
  call : Call
  pause : Pause
deriving Repr

/-- What can happen at a client. -/
inductive Step
  | call (call : Call)
  /-- The request of a call is answered, or has failed. -/
  | answer (id : Nat) (a : Outcome Response)
  /-- A call that waits looks again. -/
  | wake (id : Nat)
  /-- A call is dropped. -/
  | drop (id : Nat)
  /-- The cache of pages loses an entry. -/
  | losePage (key : String)
  /-- The cache of rights loses an entry. -/
  | loseRights (skillId : String)
  /-- The next reads of the cache of pages are to report nothing, so many of
  them. -/
  | missPages (n : Nat)
  | missRights (n : Nat)
deriving Repr

/-- What has happened. -/
inductive Entry
  | called (id : Nat) (call : Call)
  | sent (id : Nat) (r : Request)
  | answered (id : Nat) (a : Outcome Response)
  | returned (id : Nat) (r : Outcome Reply)
deriving Repr

/-- What a turn leaves a call suspended at, if the call is not over. -/
def pause? : Progress → Option Pause
  | .done _ => none
  | .sends r e => some (.request r e)
  | .waits w => some (.wait w)

/-- What is seen of the end of a turn. -/
def shows (id : Nat) : Progress → List Entry
  | .done r => [.returned id r]
  | .sends r _ => [.sent id r]
  | .waits _ => []

/-- What a call that goes away leaves of a client. A flight that it led is
lost, and the right to fetch the token passes on. -/
def leave (c : Client) : Pause → Client
  | .request _ (.pageFlight q flight) => { c with pages := c.pages.abandon q.cacheKey flight }
  | .request _ (.rightsFlight skillId flight) =>
    { c with rights := c.rights.abandon skillId flight }
  | .request _ (.token _) => { c with token := c.token.release }
  | .request _ (.page _) | .request _ (.rights _) | .request _ .topic => c
  | .wait (.token _ ticket) => { c with token := c.token.withdraw ticket }
  | .wait (.page ..) | .wait (.rights ..) => c

/-- A client, its open calls, and what has happened so far. -/
structure Traffic where
  client : Client
  calls : List OpenCall := []
  log : List Entry := []
  /-- How many calls have been made. -/
  made : Nat := 0
deriving Repr

namespace Traffic

/-- An open call by its number. -/
def open? (x : Traffic) (id : Nat) : Option OpenCall := x.calls.find? (·.id = id)

/-- The open calls without one. -/
def without (x : Traffic) (id : Nat) : List OpenCall := x.calls.filter (·.id ≠ id)

/-- A turn of a call is over. -/
def turned (x : Traffic) (id : Nat) (call : Call) (p : Progress × Client) : Traffic :=
  { x with
    client := p.2
    calls := x.without id ++ ((pause? p.1).map fun pause => ⟨id, call, pause⟩).toList
    log := x.log ++ shows id p.1 }

/-- An entry is added to the log. -/
def record (x : Traffic) (e : Entry) : Traffic := { x with log := x.log ++ [e] }

/-- A step is taken. -/
def step (x : Traffic) : Step → Traffic
  | .call call =>
    ({ x with made := x.made + 1 }.record (.called x.made call)).turned x.made call
      (x.client.start call)
  | .answer id a =>
    match x.open? id with
    | some ⟨_, call, .request _ e⟩ =>
      (x.record (.answered id a)).turned id call (x.client.receive e a)
    | _ => x
  | .wake id =>
    match x.open? id with
    | some ⟨_, call, .wait w⟩ => x.turned id call (x.client.wake w)
    | _ => x
  | .drop id =>
    match x.open? id with
    | some c => { x with client := leave x.client c.pause, calls := x.without id }
    | none => x
  | .losePage key =>
    { x with client := { x.client with pages := x.client.pages.invalidate key } }
  | .loseRights skillId =>
    { x with client := { x.client with rights := x.client.rights.invalidate skillId } }
  | .missPages n =>
    { x with client := { x.client with pages := { x.client.pages with misses := n } } }
  | .missRights n =>
    { x with client := { x.client with rights := { x.client.rights with misses := n } } }

/-- What steps make of some traffic. -/
def steps (x : Traffic) (ss : List Step) : Traffic := ss.foldl step x

/-- What steps make of a client that nobody has called. It may know its
token, and its two caches have limits of their own. -/
def play (token : Option String) (pages rights : CacheLimits) (ss : List Step) : Traffic :=
  steps
    { client :=
        { Client.new token with
          pages := { cache := .withLimits pages }
          rights := { cache := .withLimits rights } } } ss

/-- The requests that a call has sent. -/
def requests (log : List Entry) (id : Nat) : List Request :=
  log.filterMap fun
    | .sent i r => if i = id then some r else none
    | _ => none

end Traffic

end LearningClient.Rehearsal
