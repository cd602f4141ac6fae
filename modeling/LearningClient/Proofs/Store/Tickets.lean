import LearningClient.Store.TokenCell
import Mathlib.Data.List.Nodup
import Mathlib.Logic.Function.Basic

/-!
# The callers of a token cell

A caller that needs the token stands at a `Spot`: it does not need it, it
fetches it, or it waits with a ticket. `TokenCell.line` is the line of
tickets, the one that may fetch in front. What a caller can do to the cell is
one of nine things (`TokenCell.Acts`), and each of them keeps the agreement
of the cell with its callers (`TokenCell.Attended`):

- a cell that knows the token has no line;
- one caller fetches at most, and then its ticket is the first of the line
  and nobody else's;
- as long as the token is not known, everyone who waits stands in the line;
- every ticket of the line is somebody's, so the right to fetch is never
  lost: if nobody fetches, the first of the line is of a caller that waits
  (`TokenCell.Attended.next`).
-/

namespace LearningClient

/-- Where a caller of a token cell stands. -/
inductive Spot
  /-- It does not need the token, or it is gone. -/
  | away
  /-- It fetches the token. -/
  | fetching
  /-- It waits with a ticket. -/
  | queued (ticket : Nat)
deriving DecidableEq, Repr

namespace TokenCell

/-- The tickets of those who are to fetch, in the order in which they will. -/
def line (c : TokenCell) : List Nat := c.holder.toList ++ c.queue

/-! ## What a caller can do -/

/-- What a caller can do to a cell: the spot it comes from, the spot it goes
to, and the cell it leaves. -/
inductive Acts (c : TokenCell) : Spot → Spot → TokenCell → Prop
  /-- It does not need the token, or the token is known. -/
  | apart : Acts c .away .away c
  /-- It asks, and is the first. -/
  | begun (unknown : c.token = none) (free : c.holder = none) :
      Acts c .away .fetching
        { c with nextTicket := c.nextTicket + 1, holder := some c.nextTicket }
  /-- It asks, and takes its place in the line. -/
  | lined {first : Nat} (unknown : c.token = none) (held : c.holder = some first) :
      Acts c .away (.queued c.nextTicket)
        { c with nextTicket := c.nextTicket + 1, queue := c.queue ++ [c.nextTicket] }
  /-- It has been waiting, and the token has come. -/
  | told {ticket : Nat} {token : String} (known : c.token = some token) :
      Acts c (.queued ticket) .away c
  /-- It has been waiting, and it is its turn to fetch. -/
  | called {ticket : Nat} (unknown : c.token = none) (next : c.holder = some ticket) :
      Acts c (.queued ticket) .fetching c
  | waiting {ticket : Nat} : Acts c (.queued ticket) (.queued ticket) c
  /-- It brings the token. -/
  | brought (token : String) : Acts c .fetching .away (c.settle (.ok token))
  /-- Its fetch fails, or it is dropped while it fetches. -/
  | failed : Acts c .fetching .away c.release
  /-- It is dropped while it waits. -/
  | withdrawn {ticket : Nat} : Acts c (.queued ticket) .away (c.withdraw ticket)

theorem settle_error (c : TokenCell) (e : Failure) : c.settle (.error e) = c.release := rfl

/-! ## Asking -/

/-- Where a turn at the cell leaves a caller. -/
def spotOf : TokenTurn → Spot
  | .known _ => .away
  | .fetches => .fetching
  | .waits ticket => .queued ticket

section
variable {c : TokenCell}

theorem ask_of_known {t : String} (known : c.token = some t) : c.ask = (.known t, c) := by
  simp only [ask, known]

theorem ask_of_free (unknown : c.token = none) (free : c.holder = none) :
    c.ask =
      (.fetches, { c with nextTicket := c.nextTicket + 1, holder := some c.nextTicket }) := by
  simp only [ask, unknown, free]

theorem ask_of_held {first : Nat} (unknown : c.token = none) (held : c.holder = some first) :
    c.ask =
      (.waits c.nextTicket,
        { c with nextTicket := c.nextTicket + 1, queue := c.queue ++ [c.nextTicket] }) := by
  simp only [ask, unknown, held]

theorem ask_acts (c : TokenCell) : c.Acts .away (spotOf c.ask.1) c.ask.2 := by
  cases known : c.token with
  | some t =>
    rw [ask_of_known known]
    exact .apart
  | none =>
    cases held : c.holder with
    | none =>
      rw [ask_of_free known held]
      exact .begun known held
    | some first =>
      rw [ask_of_held known held]
      exact .lined known held

theorem askAgain_acts (c : TokenCell) (ticket : Nat) :
    c.Acts (.queued ticket) (spotOf (c.askAgain ticket)) c := by
  unfold askAgain
  split
  · exact .told ‹_›
  · split
    · exact .called ‹_› ‹_›
    · exact .waiting

/-- Asking does not change what is known. -/
theorem token_ask (c : TokenCell) : c.ask.2.token = c.token := by
  cases known : c.token with
  | some t => rw [ask_of_known known, known]
  | none =>
    cases held : c.holder with
    | none =>
      rw [ask_of_free known held]
      exact known
    | some first =>
      rw [ask_of_held known held]
      exact known

theorem known_of_ask {t : String} (h : c.ask.1 = .known t) : c.token = some t := by
  cases known : c.token with
  | some s =>
    rw [ask_of_known known] at h
    rw [TokenTurn.known.inj h]
  | none =>
    cases held : c.holder with
    | none =>
      rw [ask_of_free known held] at h
      cases h
    | some first =>
      rw [ask_of_held known held] at h
      cases h

theorem unknown_of_ask (h : c.ask.1 = .fetches) : c.token = none := by
  cases known : c.token with
  | none => rfl
  | some t =>
    rw [ask_of_known known] at h
    cases h

theorem known_of_askAgain {ticket : Nat} {t : String} (h : c.askAgain ticket = .known t) :
    c.token = some t := by
  revert h
  unfold askAgain
  split
  · rintro ⟨⟩
    assumption
  · split <;> nofun

theorem unknown_of_askAgain {ticket : Nat} (h : c.askAgain ticket = .fetches) :
    c.token = none := by
  cases known : c.token with
  | none => rfl
  | some t =>
    simp [askAgain, known] at h

end

/-! ## What becomes of the line -/

/-- The right to fetch passes to the next in the line. -/
theorem holder_release (c : TokenCell) : c.release.holder = c.queue.head? := by
  unfold release
  split
  · rename_i empty
    rw [empty]
    rfl
  · rename_i ticket rest more
    rw [more]
    rfl

theorem queue_release (c : TokenCell) : c.release.queue = c.queue.tail := by
  unfold release
  split
  · rename_i empty
    rw [empty]
    rfl
  · rename_i ticket rest more
    rw [more]
    rfl

theorem token_release (c : TokenCell) : c.release.token = c.token := by
  unfold release
  split <;> rfl

theorem nextTicket_release (c : TokenCell) : c.release.nextTicket = c.nextTicket := by
  unfold release
  split <;> rfl

theorem line_release (c : TokenCell) : c.release.line = c.queue := by
  rw [line, holder_release, queue_release]
  cases c.queue <;> rfl

theorem token_withdraw (c : TokenCell) (ticket : Nat) :
    (c.withdraw ticket).token = c.token := by
  unfold withdraw
  split
  · exact c.token_release
  · rfl

theorem nextTicket_withdraw (c : TokenCell) (ticket : Nat) :
    (c.withdraw ticket).nextTicket = c.nextTicket := by
  unfold withdraw
  split
  · exact c.nextTicket_release
  · rfl

/-- A ticket that is withdrawn is taken out of the line. -/
theorem line_withdraw (c : TokenCell) {ticket : Nat} :
    (c.withdraw ticket).line = c.line.erase ticket := by
  unfold withdraw
  split
  · rename_i held
    rw [line_release, line, held]
    simp
  · rename_i other
    cases held : c.holder with
    | none => simp [line, held]
    | some first =>
      have ne : first ≠ ticket := by
        rintro rfl
        exact other held
      simp [line, held, ne]

theorem holder_withdraw (c : TokenCell) {ticket : Nat} (first : c.holder = c.line.head?) :
    (c.withdraw ticket).holder = (c.withdraw ticket).line.head? := by
  unfold withdraw
  split
  · rw [holder_release, line_release]
  · cases held : c.holder with
    | none =>
      -- nobody holds the right to fetch, so nobody is in line
      have empty : c.line = [] := List.head?_eq_none_iff.mp (first.symm.trans held)
      rw [line, List.append_eq_nil_iff] at empty
      simp [line, empty.2]
    | some first => simp [line]

/-! ## The agreement with the callers -/

/-- A cell agrees with its callers. -/
structure Attended (c : TokenCell) (spot : Nat → Spot) : Prop where
  /-- A cell that knows the token has no line. -/
  known : ∀ {token}, c.token = some token → c.line = []
  /-- The first of the line holds the right to fetch. -/
  first : c.holder = c.line.head?
  /-- Whoever asked earlier is served earlier. -/
  sorted : c.line.Pairwise (· < ·)
  /-- Tickets that are still to be given out are nobody's. -/
  issued : ∀ {k}, k ∈ c.line → k < c.nextTicket
  ticket : ∀ {i k}, spot i = .queued k → k < c.nextTicket
  /-- No two callers have one ticket. -/
  distinct : ∀ {i j k}, spot i = .queued k → spot j = .queued k → i = j
  /-- Callers with higher numbers have later tickets. -/
  ordered : ∀ {i j k m}, spot i = .queued k → spot j = .queued m → i < j → k < m
  /-- No two callers fetch. -/
  alone : ∀ {i j}, spot i = .fetching → spot j = .fetching → i = j
  /-- Whoever fetches does so with the first ticket of the line. -/
  held : ∀ {i}, spot i = .fetching → ∃ k, c.line.head? = some k ∧ ∀ j, spot j ≠ .queued k
  /-- Whoever waits stands in the line, as long as the token is not known. -/
  lined : ∀ {i k}, c.token = none → spot i = .queued k → k ∈ c.line
  /-- Each ticket of the line is somebody's. -/
  owned : ∀ {k}, k ∈ c.line →
    (∃ i, spot i = .queued k) ∨ c.line.head? = some k ∧ ∃ i, spot i = .fetching

namespace Attended

variable {c c' : TokenCell} {spot : Nat → Spot} {i : Nat}

/-- Nobody has asked yet. -/
theorem of_nobody (token : Option String) :
    ({ token } : TokenCell).Attended fun _ => .away where
  known _ := rfl
  first := rfl
  sorted := .nil
  issued h := by cases h
  ticket h := by cases h
  distinct h := by cases h
  ordered h := by cases h
  alone h := by cases h
  held h := by cases h
  lined _ h := by cases h
  owned h := by cases h

/-- While somebody fetches, the token is not known. -/
theorem unknown_of_fetching (h : c.Attended spot) (fetches : spot i = .fetching) :
    c.token = none := by
  obtain ⟨k, head, _⟩ := h.held fetches
  cases known : c.token with
  | none => rfl
  | some token =>
    rw [h.known known] at head
    cases head

/-- While the token is not known and nobody fetches it, either nobody waits
and whoever asks next fetches, or it is the turn of whoever has waited
longest. -/
theorem next (h : c.Attended spot) (unknown : c.token = none)
    (nobody : ∀ i, spot i ≠ .fetching) :
    (c.holder = none ∧ ∀ i k, spot i ≠ .queued k) ∨
      ∃ i k, spot i = .queued k ∧ c.holder = some k ∧ ∀ j m, spot j = .queued m → i ≤ j := by
  cases inLine : c.line with
  | nil =>
    left
    refine ⟨by rw [h.first, inLine]; rfl, ?_⟩
    intro i k waits
    have mem := h.lined unknown waits
    rw [inLine] at mem
    cases mem
  | cons k rest =>
    right
    have mem : k ∈ c.line := by
      rw [inLine]
      exact List.mem_cons_self
    rcases h.owned mem with ⟨i, waits⟩ | ⟨_, i, fetches⟩
    · refine ⟨i, k, waits, by rw [h.first, inLine]; rfl, ?_⟩
      intro j m later
      have behind : k ≤ m := by
        have mem := h.lined unknown later
        have sorted := h.sorted
        rw [inLine] at mem sorted
        rcases List.mem_cons.mp mem with rfl | mem
        · exact Nat.le_refl _
        · exact Nat.le_of_lt (List.rel_of_pairwise_cons sorted mem)
      by_contra earlier
      have ahead := h.ordered later waits (Nat.lt_of_not_le earlier)
      omega
    · exact absurd fetches (nobody i)

/-! ## What each caller keeps -/

section
variable {s t : Spot} {j : Nat}

/-- Who stands somewhere, and not where a caller has just gone, stood there
before. -/
theorem stood_of_update (h : Function.update spot i s j = t) (other : s ≠ t) :
    spot j = t ∧ j ≠ i := by
  by_cases same : j = i
  · rw [same, Function.update_self] at h
    exact absurd h other
  · rw [Function.update_of_ne same] at h
    exact ⟨h, same⟩

/-- Who stood somewhere still does, but for the caller that has gone. -/
theorem update_of_stood (h : spot j = t) (other : spot i ≠ t) :
    Function.update spot i s j = t := by
  rw [Function.update_of_ne, h]
  rintro rfl
  exact other h

/-- A caller finds nobody in line, and begins to fetch. -/
theorem begin (h : c.Attended spot) (unknown : c.token = none) (empty : c.line = [])
    (line : c'.line = [c.nextTicket]) (first : c'.holder = some c.nextTicket)
    (next : c'.nextTicket = c.nextTicket + 1) (same : c'.token = c.token) :
    c'.Attended (Function.update spot i .fetching) := by
  have unqueued : ∀ j k, spot j ≠ .queued k := by
    intro j k waits
    have mem := h.lined unknown waits
    rw [empty] at mem
    cases mem
  have nobody : ∀ j k, Function.update spot i .fetching j ≠ .queued k :=
    fun j k waits => unqueued j k (stood_of_update waits nofun).1
  have only : ∀ j, Function.update spot i .fetching j = .fetching → j = i := by
    intro j fetches
    by_contra other
    rw [Function.update_of_ne other] at fetches
    obtain ⟨k, head, _⟩ := h.held fetches
    rw [empty] at head
    cases head
  constructor
  case known =>
    intro token known
    cases (same.trans unknown).symm.trans known
  case first => rw [first, line]; rfl
  case sorted => rw [line]; exact List.pairwise_singleton _ _
  case issued =>
    intro k mem
    rw [line, List.mem_singleton] at mem
    omega
  case ticket => exact fun waits => absurd waits (nobody _ _)
  case distinct => exact fun waits _ => absurd waits (nobody _ _)
  case ordered => exact fun waits _ => absurd waits (nobody _ _)
  case alone => exact fun one two => (only _ one).trans (only _ two).symm
  case held => exact fun _ => ⟨c.nextTicket, by rw [line]; rfl, fun j => nobody j _⟩
  case lined => exact fun _ waits => absurd waits (nobody _ _)
  case owned =>
    intro k mem
    rw [line, List.mem_singleton] at mem
    exact .inr ⟨by rw [line, mem]; rfl, i, Function.update_self ..⟩

/-- Who waits after a caller has taken a place in the line is that caller, or
has waited before, with a lower number and an earlier ticket. -/
theorem stood_of_lineUp (h : c.Attended spot) (newest : ∀ j, spot j ≠ .away → j < i) {k : Nat}
    (waits : Function.update spot i (.queued c.nextTicket) j = .queued k) :
    j = i ∧ k = c.nextTicket ∨ spot j = .queued k ∧ j < i ∧ k < c.nextTicket := by
  by_cases own : j = i
  · rw [own, Function.update_self] at waits
    exact .inl ⟨own, (Spot.queued.inj waits).symm⟩
  · rw [Function.update_of_ne own] at waits
    exact .inr ⟨waits, newest j (by rw [waits]; nofun), h.ticket waits⟩

/-- A caller takes the last place of the line. -/
theorem lineUp (h : c.Attended spot) (stood : spot i = .away) (unknown : c.token = none)
    (more : c.line ≠ []) (line : c'.line = c.line ++ [c.nextTicket])
    (first : c'.holder = c.holder) (next : c'.nextTicket = c.nextTicket + 1)
    (same : c'.token = c.token) (newest : ∀ j, spot j ≠ .away → j < i) :
    c'.Attended (Function.update spot i (.queued c.nextTicket)) := by
  have head : c'.line.head? = c.line.head? := by rw [line, List.head?_append_of_ne_nil _ more]
  have waits {j k} := h.stood_of_lineUp (j := j) (k := k) newest
  constructor
  case known =>
    intro token known
    cases (same.trans unknown).symm.trans known
  case first => rw [first, head, h.first]
  case sorted =>
    rw [line, List.pairwise_append]
    refine ⟨h.sorted, List.pairwise_singleton _ _, ?_⟩
    intro k mem m new
    rw [List.mem_singleton.mp new]
    exact h.issued mem
  case issued =>
    intro k mem
    rw [line, List.mem_append, List.mem_singleton] at mem
    rcases mem with mem | new
    · exact next ▸ Nat.lt_succ_of_lt (h.issued mem)
    · omega
  case ticket =>
    intro j k queued
    rcases waits queued with ⟨_, new⟩ | ⟨_, _, old⟩
    · omega
    · omega
  case distinct =>
    intro a b k one two
    rcases waits one with ⟨rfl, rfl⟩ | ⟨one, _, old⟩
    · rcases waits two with ⟨rfl, _⟩ | ⟨_, _, old⟩
      · rfl
      · omega
    · rcases waits two with ⟨_, new⟩ | ⟨two, _⟩
      · omega
      · exact h.distinct one two
  case ordered =>
    intro a b k m one two before
    rcases waits one with ⟨own, _⟩ | ⟨one, _, old⟩
    · rcases waits two with ⟨own', _⟩ | ⟨_, earlier, _⟩
      · omega
      · omega
    · rcases waits two with ⟨_, new⟩ | ⟨two, _⟩
      · omega
      · exact h.ordered one two before
  case alone =>
    exact fun one two => h.alone (stood_of_update one nofun).1 (stood_of_update two nofun).1
  case held =>
    intro j fetches
    obtain ⟨k, ahead, nobody⟩ := h.held (stood_of_update fetches nofun).1
    refine ⟨k, head.trans ahead, ?_⟩
    intro m queued
    rcases waits queued with ⟨_, new⟩ | ⟨queued, _⟩
    · have old := h.issued (List.mem_of_head? ahead)
      omega
    · exact nobody m queued
  case lined =>
    intro j k _ queued
    rw [line, List.mem_append, List.mem_singleton]
    rcases waits queued with ⟨_, new⟩ | ⟨queued, _⟩
    · exact .inr new
    · exact .inl (h.lined unknown queued)
  case owned =>
    intro k mem
    rw [line, List.mem_append, List.mem_singleton] at mem
    rcases mem with mem | rfl
    · rcases h.owned mem with ⟨j, queued⟩ | ⟨ahead, j, fetches⟩
      · exact .inl ⟨j, update_of_stood queued (by rw [stood]; nofun)⟩
      · exact .inr ⟨head.trans ahead, j, update_of_stood fetches (by rw [stood]; nofun)⟩
    · exact .inl ⟨i, Function.update_self ..⟩

/-- The first of the line, who has been waiting, begins to fetch. -/
theorem advance {k : Nat} (h : c.Attended spot) (stood : spot i = .queued k)
    (head : c.line.head? = some k) : c.Attended (Function.update spot i .fetching) := by
  have only : ∀ {j}, Function.update spot i .fetching j = .fetching → j = i := by
    intro j fetches
    by_contra other
    rw [Function.update_of_ne other] at fetches
    obtain ⟨m, first, nobody⟩ := h.held fetches
    cases head.symm.trans first
    exact nobody i stood
  constructor
  case known => exact h.known
  case first => exact h.first
  case sorted => exact h.sorted
  case issued => exact h.issued
  case ticket => exact fun waits => h.ticket (stood_of_update waits nofun).1
  case distinct =>
    exact fun one two => h.distinct (stood_of_update one nofun).1 (stood_of_update two nofun).1
  case ordered =>
    exact fun one two => h.ordered (stood_of_update one nofun).1 (stood_of_update two nofun).1
  case alone => exact fun one two => (only one).trans (only two).symm
  case held =>
    intro j _
    refine ⟨k, head, ?_⟩
    intro m waits
    obtain ⟨waits, other⟩ := stood_of_update waits nofun
    exact other (h.distinct waits stood)
  case lined => exact fun unknown waits => h.lined unknown (stood_of_update waits nofun).1
  case owned =>
    intro m mem
    rcases h.owned mem with ⟨j, waits⟩ | ⟨first, _⟩
    · by_cases own : j = i
      · subst own
        cases stood.symm.trans waits
        exact .inr ⟨head, j, Function.update_self ..⟩
      · exact .inl ⟨j, by rw [Function.update_of_ne own, waits]⟩
    · exact .inr ⟨first, i, Function.update_self ..⟩

/-- A caller goes away, and its ticket is taken out of the line. -/
theorem depart {k : Nat} (h : c.Attended spot)
    (stood : spot i = .queued k ∨ spot i = .fetching ∧ c.line.head? = some k)
    (line : c'.line = c.line.erase k) (first : c'.holder = c'.line.head?)
    (next : c'.nextTicket = c.nextTicket) (same : c'.token = c.token) :
    c'.Attended (Function.update spot i .away) := by
  have mem_line : ∀ {m}, m ∈ c'.line ↔ m ≠ k ∧ m ∈ c.line := by
    intro m
    rw [line, List.Nodup.mem_erase_iff (h.sorted.imp Nat.ne_of_lt)]
  have head : ∀ {m}, c.line.head? = some m → m ≠ k → c'.line.head? = some m := by
    intro m ahead other
    obtain ⟨rest, cons⟩ := List.head?_eq_some_iff.mp ahead
    rw [line, cons, List.erase_cons_tail (by simpa using other)]
    rfl
  -- who waits is another caller, with another ticket
  have waits : ∀ {j m}, Function.update spot i .away j = .queued m →
      spot j = .queued m ∧ m ≠ k := by
    intro j m waits
    obtain ⟨waits, other⟩ := stood_of_update waits nofun
    refine ⟨waits, ?_⟩
    rintro rfl
    rcases stood with own | ⟨fetches, ahead⟩
    · exact other (h.distinct waits own)
    · obtain ⟨n, ahead', nobody⟩ := h.held fetches
      cases ahead.symm.trans ahead'
      exact nobody j waits
  constructor
  case known =>
    intro token known
    rw [line, h.known (same.symm.trans known)]
    rfl
  case first => exact first
  case sorted => rw [line]; exact h.sorted.sublist List.erase_sublist
  case issued => exact fun mem => next ▸ h.issued (mem_line.mp mem).2
  case ticket => exact fun queued => next ▸ h.ticket (waits queued).1
  case distinct => exact fun one two => h.distinct (waits one).1 (waits two).1
  case ordered => exact fun one two => h.ordered (waits one).1 (waits two).1
  case alone =>
    exact fun one two => h.alone (stood_of_update one nofun).1 (stood_of_update two nofun).1
  case held =>
    intro j fetches
    obtain ⟨fetches, other⟩ := stood_of_update fetches nofun
    obtain ⟨m, ahead, nobody⟩ := h.held fetches
    refine ⟨m, head ahead ?_, fun n queued => nobody n (waits queued).1⟩
    rintro rfl
    rcases stood with own | ⟨own, _⟩
    · exact nobody i own
    · exact other (h.alone fetches own)
  case lined =>
    intro j m unknown queued
    obtain ⟨queued, other⟩ := waits queued
    exact mem_line.mpr ⟨other, h.lined (same.symm.trans unknown) queued⟩
  case owned =>
    intro m mem
    obtain ⟨other, mem⟩ := mem_line.mp mem
    rcases h.owned mem with ⟨j, queued⟩ | ⟨ahead, j, fetches⟩
    · refine .inl ⟨j, update_of_stood queued ?_⟩
      intro own
      rcases stood with own' | ⟨own', _⟩
      · cases own.symm.trans own'
        exact other rfl
      · cases own.symm.trans own'
    · refine .inr ⟨head ahead other, j, update_of_stood fetches ?_⟩
      intro own
      rcases stood with own' | ⟨_, ahead'⟩
      · cases own.symm.trans own'
      · cases ahead.symm.trans ahead'
        exact other rfl

/-- The token has come, and whoever needed it can have it. -/
theorem serve {token : String} (h : c.Attended spot) (line : c'.line = [])
    (first : c'.holder = none) (next : c'.nextTicket = c.nextTicket)
    (known : c'.token = some token) (others : ∀ j, j ≠ i → spot j ≠ .fetching) :
    c'.Attended (Function.update spot i .away) := by
  have nobody : ∀ j, Function.update spot i .away j ≠ .fetching := by
    intro j fetches
    obtain ⟨fetches, other⟩ := stood_of_update fetches nofun
    exact others j other fetches
  have empty : ∀ {k}, k ∉ c'.line := by
    rw [line]
    exact List.not_mem_nil
  constructor
  case known => exact fun _ => line
  case first => rw [line, first]; rfl
  case sorted => rw [line]; exact .nil
  case issued => exact fun mem => absurd mem empty
  case ticket => exact fun waits => next ▸ h.ticket (stood_of_update waits nofun).1
  case distinct =>
    exact fun one two => h.distinct (stood_of_update one nofun).1 (stood_of_update two nofun).1
  case ordered =>
    exact fun one two => h.ordered (stood_of_update one nofun).1 (stood_of_update two nofun).1
  case alone => exact fun one _ => absurd one (nobody _)
  case held => exact fun fetches => absurd fetches (nobody _)
  case lined => exact fun unknown _ => by cases unknown.symm.trans known
  case owned => exact fun mem => absurd mem empty

end

end Attended

/-- Whatever a caller does, the cell agrees with its callers. A caller that
takes a place in the line has a higher number than those who are there. -/
theorem Acts.attended {c c' : TokenCell} {spot : Nat → Spot} {i : Nat} {old new : Spot}
    (acts : c.Acts old new c') (h : c.Attended spot) (stood : spot i = old)
    (newest : old = .away → new ≠ .away → ∀ j, spot j ≠ .away → j < i) :
    c'.Attended (Function.update spot i new) := by
  cases acts with
  | apart =>
    rw [← stood, Function.update_eq_self]
    exact h
  | begun unknown free =>
    have empty : c.line = [] := List.head?_eq_none_iff.mp (h.first.symm.trans free)
    have line : TokenCell.line
        { c with nextTicket := c.nextTicket + 1, holder := some c.nextTicket } =
          [c.nextTicket] := by
      rw [TokenCell.line, List.append_eq_nil_iff] at empty
      rw [TokenCell.line, empty.2]
      rfl
    exact h.begin unknown empty line rfl rfl rfl
  | lined unknown held =>
    have more : c.line ≠ [] := by
      intro empty
      cases held.symm.trans (h.first.trans (congrArg List.head? empty))
    exact h.lineUp stood unknown more (List.append_assoc ..).symm rfl rfl rfl (newest rfl nofun)
  | told known =>
    have empty := h.known known
    exact h.serve empty (h.first.trans (congrArg List.head? empty)) rfl known
      fun j _ fetches => by cases (h.unknown_of_fetching fetches).symm.trans known
  | called unknown next => exact h.advance stood (h.first.symm.trans next)
  | waiting =>
    rw [← stood, Function.update_eq_self]
    exact h
  | brought token =>
    exact h.serve rfl rfl rfl rfl fun j other fetches => other (h.alone fetches stood)
  | failed =>
    obtain ⟨k, head, _⟩ := h.held stood
    have line : c.release.line = c.line.erase k := by
      rw [line_release, TokenCell.line, h.first.trans head]
      simp
    exact h.depart (.inr ⟨stood, head⟩) line
      (by rw [holder_release, line_release]) c.nextTicket_release c.token_release
  | withdrawn =>
    exact h.depart (.inl stood) c.line_withdraw (c.holder_withdraw h.first)
      (c.nextTicket_withdraw _) (c.token_withdraw _)

end TokenCell

end LearningClient
