import LearningClient.Proofs.Store.Tickets
import LearningClient.Rehearsal.Session
import Mathlib

/-!
# Handing out the token

Calls for the token that run side by side are served like calls one after the
other. `handOut` is what the latter get. A batch is followed round by round:
after the first round one call fetches the token and the others stand in line
(`Session.fetching`, `Session.round_unknown`), and each further round serves
the one in front. If its fetch has failed, the next in line fetches, so the
session has the same form again with one call less in line
(`Session.round_failed`). If it has brought the token, all are served at once
(`Session.round_brought`). From this, `Session.settle_fetching` follows by
induction on the line, and the law for batches by induction on the batches
(`batches_eq_one_by_one`).
-/

namespace LearningClient.Rehearsal

open LearningClient LearningClient.Http

/-! ## Turns and rounds -/

/-- A call takes its turn after those before it. -/
theorem turns_append (c : Client) (b : Backend) (xs ys : List Stage) :
    turns c b (xs ++ ys) =
      ((turns c b xs).1 ++ (turns (turns c b xs).2.1 (turns c b xs).2.2 ys).1,
        (turns (turns c b xs).2.1 (turns c b xs).2.2 ys).2) := by
  induction xs generalizing c b with
  | nil => rfl
  | cons x xs ih =>
    simp only [List.cons_append, turns]
    rw [ih]

/-- A call that is over stays as it is. -/
theorem turns_over (c : Client) (b : Backend) (rs : List (Outcome Reply)) :
    turns c b (rs.map .over) = (rs.map .over, c, b) := by
  induction rs with
  | nil => rfl
  | cons r rs ih => simp only [List.map_cons, turns, turn, ih]

namespace Session

theorem settle_of_round {s : Session} (h : s.round.remaining < s.remaining) :
    s.settle = s.round.settle := by
  rw [settle]
  exact if_pos h

/-- Rounds end when all calls are over. -/
theorem settle_over (c : Client) (b : Backend) (rs : List (Outcome Reply)) :
    settle ⟨c, b, rs.map .over⟩ = ⟨c, b, rs.map .over⟩ := by
  have same : round ⟨c, b, rs.map .over⟩ = ⟨c, b, rs.map .over⟩ := by
    simp only [round, turns_over]
  rw [settle]
  simp [same]

theorem remaining_append (c : Client) (b : Backend) (xs ys : List Stage) :
    remaining ⟨c, b, xs ++ ys⟩ = remaining ⟨c, b, xs⟩ + remaining ⟨c, b, ys⟩ := by
  induction xs with
  | nil => simp [remaining]
  | cons x xs ih =>
    simp only [remaining, List.cons_append, List.foldr_cons] at ih ⊢
    rw [ih]
    omega

theorem remaining_over (c : Client) (b : Backend) (rs : List (Outcome Reply)) :
    remaining ⟨c, b, rs.map .over⟩ = 0 := by
  induction rs with
  | nil => rfl
  | cons r rs ih =>
    simp only [remaining, List.map_cons, List.foldr_cons] at ih ⊢
    rw [ih]
    rfl

end Session

/-! ## Calls at the token -/

/-- A call that waits for the token, to hand it out. -/
def inLine (ticket : Nat) : Stage := .waiting (.token .handOut ticket)

/-- A call that has sent a request for the token, and the answer to it. -/
def asking (a : Outcome Response) : Stage := .sent (.token .handOut) a

section
variable {c : Client} {b : Backend}

theorem turn_asking (a : Outcome Response) :
    turn c b (asking a) =
      (.over ((Client.receivedToken a).map Reply.token),
        { c with token := c.token.settle (Client.receivedToken a) }, b) := by
  simp only [turn, asking, Client.receive]
  cases Client.receivedToken a <;> rfl

theorem turn_first {k : Nat} (unknown : c.token.token = none) (held : c.token.holder = some k) :
    turn c b (inLine k) =
      (asking (b.accept tokenRequest).1, c, (b.accept tokenRequest).2) := by
  simp only [turn, inLine, Client.wake, TokenCell.askAgain, unknown, held, if_pos]
  rfl

theorem turns_known {t : String} (known : c.token.token = some t) (ks : List Nat) :
    turns c b (ks.map inLine) =
      ((List.replicate ks.length (.ok (.token t))).map .over, c, b) := by
  induction ks with
  | nil => rfl
  | cons k ks ih =>
    have told : turn c b (inLine k) = (.over (.ok (.token t)), c, b) := by
      simp only [turn, inLine, Client.wake, TokenCell.askAgain, known]
      rfl
    simp only [List.map_cons, turns, told, ih]
    rfl

theorem turns_others (unknown : c.token.token = none) {ks : List Nat}
    (others : ∀ k ∈ ks, c.token.holder ≠ some k) :
    turns c b (ks.map inLine) = (ks.map inLine, c, b) := by
  induction ks with
  | nil => rfl
  | cons k ks ih =>
    have other : c.token.holder ≠ some k := others k List.mem_cons_self
    have waits : turn c b (inLine k) = (inLine k, c, b) := by
      simp only [turn, inLine, Client.wake, TokenCell.askAgain, unknown, if_neg other]
      rfl
    simp only [List.map_cons, turns, waits]
    rw [ih fun m mem => others m (List.mem_cons_of_mem _ mem)]

theorem turns_fresh_known {t : String} (known : c.token.token = some t) (n : Nat) :
    turns c b (List.replicate n (.fresh .getToken)) =
      ((List.replicate n (.ok (.token t))).map .over, c, b) := by
  induction n with
  | zero => rfl
  | succ n ih =>
    have told : turn c b (.fresh .getToken) = (.over (.ok (.token t)), c, b) := by
      simp only [turn, Client.start, Client.askToken, TokenCell.ask_of_known known]
      rfl
    simp only [List.replicate_succ, turns, told, ih]
    rfl

/-- The tickets that callers take one after the other. -/
def lineUp (c : TokenCell) (n : Nat) : TokenCell :=
  { c with queue := c.queue ++ List.range' c.nextTicket n, nextTicket := c.nextTicket + n }

theorem turns_fresh {k : Nat} (unknown : c.token.token = none) (held : c.token.holder = some k)
    (n : Nat) :
    turns c b (List.replicate n (.fresh .getToken)) =
      ((List.range' c.token.nextTicket n).map inLine,
        { c with token := lineUp c.token n }, b) := by
  induction n generalizing c with
  | zero => simp [turns, lineUp]
  | succ n ih =>
    have waits : turn c b (.fresh .getToken) =
        (inLine c.token.nextTicket, { c with token := lineUp c.token 1 }, b) := by
      simp only [turn, Client.start, Client.askToken, TokenCell.ask_of_held unknown held]
      rfl
    simp only [List.replicate_succ, turns, waits]
    rw [ih (c := { c with token := lineUp c.token 1 }) unknown held]
    simp [lineUp, List.range'_succ, Nat.add_assoc, Nat.add_comm 1 n]

end

/-! ## Handing out one after the other -/

/-- What callers get, the token that is known after them, and the backend. -/
structure Tally where
  results : List (Outcome String)
  token : Option String
  backend : Backend

/-- One more caller, before the others. -/
def Tally.cons (r : Outcome String) (t : Tally) : Tally := { t with results := r :: t.results }

/-- The token is handed out to so many callers, one after the other: the one
that is known, or else what the caller's own request for it brings. -/
def handOut : Option String → Nat → Backend → Tally
  | token, 0, b => ⟨[], token, b⟩
  | some t, n + 1, b => (handOut (some t) n b).cons (.ok t)
  | none, n + 1, b =>
    let r := Client.receivedToken (b.accept tokenRequest).1
    (handOut r.toOption n (b.accept tokenRequest).2).cons r

theorem handOut_known (t : String) (n : Nat) (b : Backend) :
    handOut (some t) n b = ⟨List.replicate n (.ok t), some t, b⟩ := by
  induction n with
  | zero => rfl
  | succ n ih =>
    rw [handOut, ih]
    rfl

/-- Every caller gets something. -/
theorem length_handOut (token : Option String) (n : Nat) (b : Backend) :
    (handOut token n b).results.length = n := by
  induction n generalizing token b with
  | zero => rfl
  | succ n ih =>
    cases token with
    | some t => exact congrArg (· + 1) (ih (some t) b)
    | none => exact congrArg (· + 1) (ih _ _)

/-- So many callers, and then some more. -/
theorem handOut_add (token : Option String) (m n : Nat) (b : Backend) :
    handOut token (m + n) b =
      ⟨(handOut token m b).results ++
          (handOut (handOut token m b).token n (handOut token m b).backend).results,
        (handOut (handOut token m b).token n (handOut token m b).backend).token,
        (handOut (handOut token m b).token n (handOut token m b).backend).backend⟩ := by
  induction m generalizing token b with
  | zero => simp [handOut]
  | succ m ih =>
    rw [Nat.succ_add]
    cases token with
    | some t =>
      simp only [handOut, ih (some t) b]
      rfl
    | none =>
      simp only [handOut]
      rw [ih]
      rfl

/-- The first caller gets the failure of its fetch, the second one fetches the
token, and the third one gets it without a request. -/
example :
    handOut none 3 ⟨[.error (.transport "reset"), .ok ⟨200, "[\"t1\"]"⟩], []⟩ =
      ⟨[.error (.transport "reset"), .ok "t1", .ok "t1"], some "t1",
        ⟨[], [tokenRequest, tokenRequest]⟩⟩ := rfl

namespace Session

/-- A session is over, and its calls have got what a tally says, after others
that were over before. -/
structure Shows (s : Session) (done : List (Outcome Reply)) (t : Tally) : Prop where
  calls : s.calls = (done ++ t.results.map (Except.map Reply.token)).map .over
  backend : s.backend = t.backend
  token : s.client.token.token = t.token
  free : s.client.token.holder = none
  empty : s.client.token.queue = []

/-- One call asks for the token, and others wait in line for it. -/
def fetching (c : Client) (b : Backend) (done : List (Outcome Reply)) (a : Outcome Response)
    (ks : List Nat) : Session :=
  ⟨c, b, done.map .over ++ asking a :: ks.map inLine⟩

theorem round_fetching (c : Client) (b : Backend) (done : List (Outcome Reply))
    (a : Outcome Response) (ks : List Nat) :
    round (fetching c b done a ks) =
      let c := { c with token := c.token.settle (Client.receivedToken a) }
      let others := turns c b (ks.map inLine)
      ⟨others.2.1, others.2.2,
        (done ++ [(Client.receivedToken a).map Reply.token]).map .over ++ others.1⟩ := by
  simp only [round, fetching, turns_append, turns_over, turns, turn_asking, List.map_append,
    List.append_assoc]
  rfl

theorem remaining_fetching (c : Client) (b : Backend) (done : List (Outcome Reply))
    (a : Outcome Response) (ks : List Nat) :
    remaining (fetching c b done a ks) = 3 + 4 * ks.length := by
  rw [fetching, remaining_append, remaining_over]
  induction ks with
  | nil => rfl
  | cons k ks ih =>
    simp only [remaining, List.map_cons, List.foldr_cons, List.length_cons] at ih ⊢
    simp only [asking, inLine, Stage.remaining] at ih ⊢
    omega

/-- A round in which the token has come. -/
theorem round_brought (c : Client) (b : Backend) (done : List (Outcome Reply))
    {a : Outcome Response} (ks : List Nat) {t : String} (brings : Client.receivedToken a = .ok t) :
    (fetching c b done a ks).round =
      ⟨{ c with token := c.token.settle (.ok t) }, b,
        (done ++ List.replicate (ks.length + 1) (Except.ok (Reply.token t))).map .over⟩ := by
  have told :=
    turns_known (c := { c with token := c.token.settle (.ok t) }) (b := b) (t := t) rfl ks
  rw [round_fetching, brings]
  simp only [told]
  simp [Except.map, List.replicate_succ]

/-- A round in which the fetch has failed, and the next in line fetches. -/
theorem round_failed {c : Client} (b : Backend) (done : List (Outcome Reply))
    {a : Outcome Response} {k : Nat} {ks : List Nat} {e : Failure}
    (unknown : c.token.token = none) (queue : c.token.queue = k :: ks) (once : (k :: ks).Nodup)
    (fails : Client.receivedToken a = .error e) :
    (fetching c b done a (k :: ks)).round =
      fetching { c with token := c.token.release } (b.accept tokenRequest).2
        (done ++ [.error e]) (b.accept tokenRequest).1 ks := by
  have held : c.token.release.holder = some k := by
    rw [TokenCell.holder_release, queue]
    rfl
  have still : c.token.release.token = none := by rw [TokenCell.token_release, unknown]
  have others : ∀ m ∈ ks, c.token.release.holder ≠ some m := by
    intro m mem same
    rw [held] at same
    cases same
    exact (List.nodup_cons.mp once).1 mem
  rw [round_fetching, fails, TokenCell.settle_error]
  simp only [List.map_cons, turns]
  rw [turn_first still held, turns_others still others]
  rfl

/-- The calls in line are served one after the other. -/
theorem settle_fetching (c : Client) (b : Backend) (done : List (Outcome Reply))
    (a : Outcome Response) {ks : List Nat} (unknown : c.token.token = none)
    (queue : c.token.queue = ks) (once : ks.Nodup) :
    (fetching c b done a ks).settle.Shows done
      ((handOut (Client.receivedToken a).toOption ks.length b).cons (Client.receivedToken a)) := by
  induction ks generalizing c b done a with
  | nil =>
    have round : (fetching c b done a []).round =
        ⟨{ c with token := c.token.settle (Client.receivedToken a) }, b,
          (done ++ [(Client.receivedToken a).map Reply.token]).map .over⟩ := by
      rw [round_fetching]
      simp [turns]
    rw [settle_of_round, round, settle_over]
    · cases Client.receivedToken a with
      | ok t => exact ⟨rfl, rfl, rfl, rfl, rfl⟩
      | error e =>
        refine ⟨rfl, rfl, ?_, ?_, ?_⟩
        · exact c.token.token_release.trans unknown
        · rw [TokenCell.settle_error, TokenCell.holder_release, queue]
          rfl
        · rw [TokenCell.settle_error, TokenCell.queue_release, queue]
          rfl
    · rw [round, remaining_over, remaining_fetching]
      omega
  | cons k ks ih =>
    cases answer : Client.receivedToken a with
    | ok t =>
      have round := round_brought c b done (k :: ks) answer
      rw [settle_of_round, round, settle_over]
      · have rest : handOut (some t) (ks.length + 1) b =
            ⟨List.replicate (ks.length + 1) (.ok t), some t, b⟩ := handOut_known t _ b
        simp only [Except.toOption, List.length_cons, rest, Tally.cons]
        refine ⟨?_, rfl, rfl, rfl, rfl⟩
        simp [Except.map, List.replicate_succ]
      · rw [round, remaining_over, remaining_fetching]
        omega
    | error e =>
      have round := round_failed b done unknown queue once answer
      rw [settle_of_round, round]
      · have rest := ih { c with token := c.token.release } (b.accept tokenRequest).2
          (done ++ [.error e]) (b.accept tokenRequest).1 (c.token.token_release.trans unknown)
          (by rw [TokenCell.queue_release, queue]; rfl) (List.nodup_cons.mp once).2
        refine ⟨?_, rest.backend, rest.token, rest.free, rest.empty⟩
        rw [rest.calls]
        simp [handOut, Tally.cons, Except.toOption, Except.map]
      · rw [round, remaining_fetching, remaining_fetching, List.length_cons]
        omega

/-! ## The first round -/

/-- A cell at which the first caller has begun to fetch. -/
def begun (c : TokenCell) : TokenCell :=
  { c with nextTicket := c.nextTicket + 1, holder := some c.nextTicket }

theorem remaining_fresh (c : Client) (b : Backend) (n : Nat) :
    remaining ⟨c, b, List.replicate n (.fresh .getToken)⟩ = 5 * n := by
  induction n with
  | zero => rfl
  | succ n ih =>
    simp only [remaining, List.replicate_succ, List.foldr_cons, Stage.remaining] at ih ⊢
    omega

/-- All calls find the token. -/
theorem round_known {c : Client} {t : String} (known : c.token.token = some t) (b : Backend)
    (n : Nat) :
    round ⟨c, b, List.replicate n (.fresh .getToken)⟩ =
      ⟨c, b, (List.replicate n (Except.ok (Reply.token t))).map .over⟩ := by
  simp only [round, turns_fresh_known known]

/-- No call finds the token. The first one fetches it, and the others take
their places behind it. -/
theorem round_unknown {c : Client} (unknown : c.token.token = none)
    (free : c.token.holder = none) (b : Backend) (n : Nat) :
    round ⟨c, b, List.replicate (n + 1) (.fresh .getToken)⟩ =
      fetching { c with token := lineUp (begun c.token) n } (b.accept tokenRequest).2 []
        (b.accept tokenRequest).1 (List.range' (begun c.token).nextTicket n) := by
  have asks : turn c b (.fresh .getToken) =
      (asking (b.accept tokenRequest).1, { c with token := begun c.token },
        (b.accept tokenRequest).2) := by
    simp only [turn, Client.start, Client.askToken, TokenCell.ask_of_free unknown free]
    rfl
  have others := turns_fresh (c := { c with token := begun c.token })
    (b := (b.accept tokenRequest).2) (k := c.token.nextTicket) unknown rfl n
  simp only [round, List.replicate_succ, turns, asks, others]
  rfl

/-- A batch of calls is served like calls one after the other. -/
theorem run_shows {c : Client} (free : c.token.holder = none) (empty : c.token.queue = [])
    (b : Backend) (n : Nat) :
    (run c b (List.replicate n .getToken)).Shows [] (handOut c.token.token n b) := by
  cases n with
  | zero =>
    have ended : run c b [] = ⟨c, b, []⟩ := settle_over c b []
    rw [List.replicate_zero, ended]
    exact ⟨rfl, rfl, rfl, free, empty⟩
  | succ n =>
    have fresh : (List.replicate (n + 1) Call.getToken).map Stage.fresh =
        List.replicate (n + 1) (.fresh .getToken) := List.map_replicate ..
    rw [run, fresh]
    cases known : c.token.token with
    | some t =>
      rw [settle_of_round, round_known known, settle_over, handOut_known]
      · refine ⟨?_, rfl, known, free, empty⟩
        simp [Except.map]
      · rw [round_known known, remaining_over, remaining_fresh]
        omega
    | none =>
      have round := round_unknown known free b n
      rw [settle_of_round, round]
      · have queue : (lineUp (begun c.token) n).queue =
            List.range' (begun c.token).nextTicket n := by
          show c.token.queue ++ _ = _
          rw [empty]
          rfl
        have shows := settle_fetching { c with token := lineUp (begun c.token) n }
          (b.accept tokenRequest).2 [] (b.accept tokenRequest).1 known queue List.nodup_range'
        rw [List.length_range'] at shows
        exact shows
      · rw [round, remaining_fetching, remaining_fresh, List.length_range']
        omega

/-! ## Batches -/

/-- Batches of calls are served like all their calls one after the other. -/
theorem batches_shows {c : Client} (free : c.token.holder = none) (empty : c.token.queue = [])
    (b : Backend) (sizes : List Nat) :
    (batches c b (sizes.map fun n => List.replicate n .getToken)).Shows []
      (handOut c.token.token sizes.sum b) := by
  induction sizes generalizing c b with
  | nil => exact ⟨rfl, rfl, rfl, free, empty⟩
  | cons n sizes ih =>
    have first := run_shows free empty b n
    have rest := ih first.free first.empty (run c b (List.replicate n .getToken)).backend
    have tally : handOut (run c b (List.replicate n .getToken)).client.token.token sizes.sum
          (run c b (List.replicate n .getToken)).backend =
        handOut (handOut c.token.token n b).token sizes.sum
          (handOut c.token.token n b).backend := by
      rw [first.token, first.backend]
    rw [tally] at rest
    rw [List.sum_cons, handOut_add]
    refine ⟨?_, rest.backend, rest.token, rest.free, rest.empty⟩
    show (run c b (List.replicate n .getToken)).calls ++ _ = _
    rw [first.calls, rest.calls]
    simp

end Session

/-- What the `i`-th request for the token brings, if the backend has these
answers. -/
def fetched (answers : List (Outcome Response)) (i : Nat) : Outcome String :=
  Client.receivedToken ((answers[i]?).getD (.error (.transport "no response queued")))

theorem accept_drop (answers : List (Outcome Response)) (sent : List Request) (i : Nat) :
    Backend.accept ⟨answers.drop i, sent⟩ tokenRequest =
      ((answers[i]?).getD (.error (.transport "no response queued")),
        ⟨answers.drop (i + 1), sent ++ [tokenRequest]⟩) := by
  cases here : answers[i]? with
  | none =>
    have short : answers.length ≤ i := List.getElem?_eq_none_iff.mp here
    simp [Backend.accept, List.drop_eq_nil_of_le short,
      List.drop_eq_nil_of_le (Nat.le_succ_of_le short)]
  | some a =>
    obtain ⟨lt, rfl⟩ := List.getElem?_eq_some_iff.mp here
    rw [List.drop_eq_getElem_cons lt]
    simp [Backend.accept]

/-- Callers whose fetches fail get the failures of their own fetches. -/
theorem handOut_failing {answers : List (Outcome Response)} {n : Nat}
    (fails : ∀ i < n, ∃ e, fetched answers i = .error e) :
    handOut none n ⟨answers, []⟩ =
      ⟨(List.range n).map (fetched answers), none,
        ⟨answers.drop n, List.replicate n tokenRequest⟩⟩ := by
  induction n with
  | zero => simp [handOut]
  | succ n ih =>
    have before := ih fun i lt => fails i (Nat.lt_succ_of_lt lt)
    obtain ⟨e, last⟩ := fails n (Nat.lt_succ_self n)
    rw [handOut_add, before]
    simp only [handOut, accept_drop, Tally.cons]
    rw [← fetched, last]
    simp [List.range_succ, List.replicate_succ', last, Except.toOption]

/-- Callers from the first usable answer on get the token in it. -/
theorem handOut_brought {answers : List (Outcome Response)} {n j : Nat} {t : String} (lt : j < n)
    (fails : ∀ i < j, ∃ e, fetched answers i = .error e) (brings : fetched answers j = .ok t) :
    handOut none n ⟨answers, []⟩ =
      ⟨(List.range j).map (fetched answers) ++ List.replicate (n - j) (.ok t), some t,
        ⟨answers.drop (j + 1), List.replicate (j + 1) tokenRequest⟩⟩ := by
  obtain ⟨k, rfl⟩ := Nat.exists_eq_add_of_lt lt
  rw [Nat.add_assoc, handOut_add, handOut_failing fails]
  simp only [handOut, accept_drop, Tally.cons]
  rw [← fetched, brings]
  simp only [Except.toOption, handOut_known]
  rw [List.replicate_succ' (n := j)]
  simp [List.replicate_succ]

/-- How callers of one service fare. If the token is known from the start, they
all get it, and nothing is sent. Otherwise each caller before the first usable
answer gets the failure of its own fetch, and all from there on get the token in
that answer. -/
structure Session.Fares (s : Session) (token : Option String)
    (answers : List (Outcome Response)) (n : Nat) : Prop where
  given : ∀ t, token = some t →
    s.calls = List.replicate n (.over (.ok (.token t))) ∧
      s.backend = ⟨answers, []⟩ ∧ s.client.token.token = some t
  failing : token = none → (∀ i < n, ∃ e, fetched answers i = .error e) →
    s.calls = (List.range n).map (fun i => .over ((fetched answers i).map .token)) ∧
      s.backend = ⟨answers.drop n, List.replicate n tokenRequest⟩ ∧
      s.client.token.token = none
  brought : token = none → ∀ j < n, ∀ t, (∀ i < j, ∃ e, fetched answers i = .error e) →
    fetched answers j = .ok t →
    s.calls = (List.range j).map (fun i => .over ((fetched answers i).map .token)) ++
        List.replicate (n - j) (.over (.ok (.token t))) ∧
      s.backend = ⟨answers.drop (j + 1), List.replicate (j + 1) tokenRequest⟩ ∧
      s.client.token.token = some t

theorem Session.Shows.fares {s : Session} {token : Option String}
    {answers : List (Outcome Response)} {n : Nat}
    (h : s.Shows [] (handOut token n ⟨answers, []⟩)) : s.Fares token answers n := by
  constructor
  case given =>
    rintro t rfl
    have tally := handOut_known t n ⟨answers, []⟩
    refine ⟨?_, h.backend.trans (congrArg Tally.backend tally),
      h.token.trans (congrArg Tally.token tally)⟩
    rw [h.calls, tally]
    simp [Except.map]
  case failing =>
    rintro rfl fails
    have tally := handOut_failing fails
    refine ⟨?_, h.backend.trans (congrArg Tally.backend tally),
      h.token.trans (congrArg Tally.token tally)⟩
    rw [h.calls, tally]
    simp
  case brought =>
    rintro rfl j lt t fails brings
    have tally := handOut_brought lt fails brings
    refine ⟨?_, h.backend.trans (congrArg Tally.backend tally),
      h.token.trans (congrArg Tally.token tally)⟩
    rw [h.calls, tally]
    simp [Except.map]

/-- Calls for the token that run side by side fare like calls one after the
other. However the calls of a service are cut into batches, whether it knows its
token from the start or not, and whatever the backend answers: the results of
the calls, in their order, the requests sent, the answers left over and the
token that is known in the end are those of as many calls one after the other. -/
theorem batches_eq_one_by_one (token : Option String) (answers : List (Outcome Response))
    (sizes : List Nat) :
    let batches := Session.batches (.new token) { answers }
      (sizes.map fun n => List.replicate n .getToken)
    let single := Session.batches (.new token) { answers }
      (List.replicate sizes.sum [.getToken])
    (batches.calls = single.calls ∧ (∀ call ∈ batches.calls, call.result?.isSome) ∧
      batches.calls.length = sizes.sum ∧ batches.backend = single.backend ∧
      batches.client.token.token = single.client.token.token) ∧
    batches.Fares token answers sizes.sum := by
  have start : (Client.new token).token = { token } := by cases token <;> rfl
  have free : (Client.new token).token.holder = none := by rw [start]
  have empty : (Client.new token).token.queue = [] := by rw [start]
  have known : (Client.new token).token.token = token := by rw [start]
  have all := Session.batches_shows free empty { answers } sizes
  have each := Session.batches_shows free empty { answers } (List.replicate sizes.sum 1)
  have ones : (List.replicate sizes.sum 1).map (fun n => List.replicate n Call.getToken) =
      List.replicate sizes.sum [.getToken] := List.map_replicate ..
  have total : (List.replicate sizes.sum 1).sum = sizes.sum := by simp
  rw [known] at all each
  rw [ones, total] at each
  refine ⟨⟨all.calls.trans each.calls.symm, ?_, ?_, all.backend.trans each.backend.symm,
    all.token.trans each.token.symm⟩, all.fares⟩
  · rw [all.calls]
    intro call mem
    obtain ⟨r, _, rfl⟩ := List.mem_map.mp mem
    rfl
  · rw [all.calls, List.nil_append, List.length_map, List.length_map, length_handOut]

end LearningClient.Rehearsal
