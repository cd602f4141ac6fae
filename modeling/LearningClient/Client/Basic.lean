import LearningClient.Client.Query
import LearningClient.Http.Response
import LearningClient.Store.Accessor
import LearningClient.Store.TokenCell
import LearningClient.Wire.Question
import LearningClient.Wire.Token
import LearningClient.Wire.Topic

/-!
# The client

The services of the backend behind one value. A `Client` is all that they
remember between calls: the token, the pages of questions and where each
list of skills goes on, and the rights on skills.

A call runs in turns. `Client.start` is its first; it ends with a result,
with a request to be sent, or with the call waiting for another one. When
the answer to its request is there, `Client.receive` goes on with it; a call
that waits goes on with `Client.wake`. What a call has to know between its
turns is its `Errand` (a request is under way) or its `Wait`. How requests
travel is not decided here, and neither is the order of turns: whoever runs
the calls may take any.
-/

namespace LearningClient

open LearningClient.Http LearningClient.Json

/-- What the services remember. -/
structure Client where
  token : TokenCell := {}
  pages : Accessor QuestionBatch := {}
  /-- Where the last page fetched for a list of skills said to go on. -/
  cursors : Table String := []
  rights : Accessor SkillRights := {}
deriving Repr

/-- A client that may know its token, with empty caches. -/
def Client.new (token : Option String) : Client :=
  { token := match token with
      | some t => .seeded t
      | none => {} }

/-- The client with fresh caches of given limits. -/
def Client.withLimits (c : Client) (l : CacheLimits) : Client :=
  { c with
    pages := { cache := .withLimits l }
    cursors := []
    rights := { cache := .withLimits l } }

/-- A call of a service. -/
inductive Call
  /-- The next page of questions, always from the backend. -/
  | fetchQuestions (skillIds count : String) (cursor : Option String)
  /-- A page of questions, from the cache if it has been loaded. -/
  | loadQuestions (skillIds count : String) (cursor : Option String)
  /-- Whether a page has been loaded. -/
  | isPageCached (skillIds count : String) (cursor : Option String)
  /-- Start again with the first page. -/
  | resetCursor (skillIds : String)
  | createTopic (name abbreviatedName : String)
  /-- The rights on a skill, always from the backend. -/
  | fetchRights (skillId : String)
  /-- The rights on a skill, from the cache if they have been loaded. -/
  | loadRights (skillId : String)
  | areRightsCached (skillId : String)
  | cacheRights (skillId : String) (rights : SkillRights)
  /-- The token itself. -/
  | getToken
deriving Repr

/-- The result of a call. -/
inductive Reply
  | questions (qs : List Question)
  | topic (t : TopicCreated)
  | rights (r : SkillRights)
  | flag (b : Bool)
  | token (t : String)
  | done
deriving Repr

/-- What the token is fetched for. -/
inductive TokenUse
  | handOut
  | create (t : TopicDraft)
deriving DecidableEq, Repr

/-- What the answer to a request is for. -/
inductive Errand
  | page (q : QuestionQuery)
  | pageFlight (q : QuestionQuery) (flight : Nat)
  | rights (skillId : String)
  | rightsFlight (skillId : String) (flight : Nat)
  | token (use : TokenUse)
  | topic
deriving DecidableEq, Repr

/-- What a call waits for. -/
inductive Wait
  | page (q : QuestionQuery) (flight : Nat)
  | rights (skillId : String) (flight : Nat)
  | token (use : TokenUse) (ticket : Nat)
deriving DecidableEq, Repr

/-- How a turn of a call ends. -/
inductive Progress
  | done (r : Outcome Reply)
  | sends (r : Request) (e : Errand)
  | waits (w : Wait)
deriving Repr

/-- What an answer says, if it came. -/
def received {α : Type} (r : Outcome Response) (read : Reader α) : Outcome α := do
  (← r).result read

namespace Client

/-- A page that is loaded, after its turn at the accessor. -/
def pageTurn (c : Client) (q : QuestionQuery) :
    Turn QuestionBatch × Accessor QuestionBatch → Progress × Client
  | (.answered r, pages) => (.done (r.map fun b => .questions b.questions), { c with pages })
  | (.waits f, pages) => (.waits (.page q f), { c with pages })
  | (.leads f, pages) => (.sends q.request (.pageFlight q f), { c with pages })

/-- Rights that are loaded, after their turn at the accessor. -/
def rightsTurn (c : Client) (skillId : String) :
    Turn SkillRights × Accessor SkillRights → Progress × Client
  | (.answered r, rights) => (.done (r.map .rights), { c with rights })
  | (.waits f, rights) => (.waits (.rights skillId f), { c with rights })
  | (.leads f, rights) =>
    (.sends (rightsRequest skillId) (.rightsFlight skillId f), { c with rights })

/-- Goes on with a token. -/
def useToken (token : String) : TokenUse → Progress
  | .handOut => .done (.ok (.token token))
  | .create t => .sends (t.request token) .topic

/-- A call that needs the token, after its turn at the cell. -/
def tokenTurn (use : TokenUse) : TokenTurn → Progress
  | .known t => useToken t use
  | .fetches => .sends tokenRequest (.token use)
  | .waits ticket => .waits (.token use ticket)

/-- Asks the cell for the token. -/
def askToken (c : Client) (use : TokenUse) : Progress × Client :=
  let (turn, token) := c.token.ask
  (tokenTurn use turn, { c with token })

/-- The page that a fetch asks for: from the cursor given, or else from
where the last page for the same skills said to go on. -/
def nextPage (c : Client) (q : QuestionQuery) (cursor : Option String) : QuestionQuery :=
  match cursor.or (c.cursors.get? q.skillIds) with
  | some cursor => q.startingAt cursor
  | none => q

/-- Remembers where a list of skills goes on. A page without a cursor, or
with an empty one, is the last, and the next one is the first again. -/
def remember (c : Client) (skillIds : String) (next : Option String) : Client :=
  match next.filter (!·.isEmpty) with
  | some cursor => { c with cursors := c.cursors.insert skillIds cursor }
  | none => { c with cursors := c.cursors.erase skillIds }

/-- A call that ends in its first turn because of its parameters, or goes
on with what they mean. -/
def checked {α : Type} (c : Client) (r : Outcome α) (k : α → Progress × Client) :
    Progress × Client :=
  match r with
  | .ok v => k v
  | .error e => (.done (.error e), c)

/-- The first turn of a call. -/
def start (c : Client) : Call → Progress × Client
  | .fetchQuestions skillIds count cursor =>
    c.checked (QuestionQuery.ofTexts skillIds count) fun q =>
      let q := c.nextPage q cursor
      (.sends q.request (.page q), c)
  | .loadQuestions skillIds count cursor =>
    c.checked (QuestionQuery.ofTexts skillIds count) fun q =>
      let q := q.startingAt (cursor.getD "")
      c.pageTurn q (c.pages.load q.cacheKey)
  | .isPageCached skillIds count cursor =>
    c.checked (QuestionQuery.ofTexts skillIds count) fun q =>
      let q := q.startingAt (cursor.getD "")
      (.done (.ok (.flag (c.pages.isCached q.cacheKey))), c)
  | .resetCursor skillIds =>
    (.done (.ok .done), { c with cursors := c.cursors.erase skillIds })
  | .createTopic name abbreviatedName =>
    c.checked (TopicDraft.ofTexts name abbreviatedName) fun t => c.askToken (.create t)
  | .fetchRights skillId =>
    c.checked (checkSkillId skillId) fun skillId =>
      (.sends (rightsRequest skillId) (.rights skillId), c)
  | .loadRights skillId =>
    c.checked (checkSkillId skillId) fun skillId =>
      c.rightsTurn skillId (c.rights.load skillId)
  | .areRightsCached skillId => (.done (.ok (.flag (c.rights.isCached skillId))), c)
  | .cacheRights skillId r =>
    (.done (.ok .done), { c with rights := c.rights.cacheResource skillId r })
  | .getToken => c.askToken .handOut

/-- The token in the answer to a request for it. An empty one is of no
use. -/
def receivedToken (r : Outcome Response) : Outcome String := do
  let token ← received r readToken
  if token.isEmpty then throw (.other "backend returned an empty csrf token")
  return token

/-- The turn of a call when the answer to its request is there, or the
request has failed. -/
def receive (c : Client) (e : Errand) (r : Outcome Response) : Progress × Client :=
  match e with
  | .page q =>
    match received r QuestionBatch.read with
    | .ok b => (.done (.ok (.questions b.questions)), c.remember q.skillIds b.nextCursor)
    | .error f => (.done (.error f), c)
  | .pageFlight q flight =>
    let b := received r QuestionBatch.read
    (.done (b.map fun b => .questions b.questions),
      { c with pages := c.pages.land q.cacheKey flight b })
  | .rights _ => (.done ((received r SkillRights.read).map .rights), c)
  | .rightsFlight skillId flight =>
    let v := received r SkillRights.read
    (.done (v.map .rights), { c with rights := c.rights.land skillId flight v })
  | .token use =>
    let t := receivedToken r
    let c := { c with token := c.token.settle t }
    match t with
    | .ok t => (useToken t use, c)
    | .error f => (.done (.error f), c)
  | .topic => (.done ((received r TopicCreated.read).map .topic), c)

/-- The turn of a call that has been waiting. -/
def wake (c : Client) : Wait → Progress × Client
  | .page q flight => c.pageTurn q (c.pages.resume q.cacheKey flight)
  | .rights skillId flight => c.rightsTurn skillId (c.rights.resume skillId flight)
  | .token use ticket => (tokenTurn use (c.token.askAgain ticket), c)

end Client

end LearningClient
