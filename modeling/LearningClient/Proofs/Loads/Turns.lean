import LearningClient.Proofs.Store.Flights
import LearningClient.Rehearsal.Course

/-!
# What one move can do

`LoadTask.Turned` lists the turns of a task, with what each shows, how it
ends and the accessor it leaves; `LoadTask.turned` says that there are no
others. `Bench.Moved` is the list of the moves at a bench in the same way,
and `Course.moved` says that it is complete. All that is proved of benches
goes through these lists, and no proof after them opens a turn or a move
again.
-/

namespace LearningClient.Rehearsal

open LearningClient

variable {V : Type}

namespace LoadTask

/-- A task runs its fetch outside the accessor. -/
def Outside (t : LoadTask V) : Prop :=
  t.standing = .fetching ∨ t.purpose = .fetch ∧ t.standing = .fresh

/-- A task is to ask for its key: it has not done so yet, or the flight that
it waited for is lost. -/
def Asks (t : LoadTask V) (a : Accessor V) : Prop :=
  t.purpose = .load ∧ t.standing = .fresh ∨
    ∃ f, t.standing = .waiting f ∧ a.flights[f]? = some .lost

/-- The turns of a task. -/
inductive Turned (t : LoadTask V) (a : Accessor V) :
    List (Event V) × TurnEnd V × Accessor V → Prop
  /-- Its own fetch, outside the accessor, goes on. -/
  | fetching {es : List (Event V)} (outside : t.Outside) (unknown : t.outcome = none)
      (shown : ∀ e ∈ es, e = .fetch t.id) :
      Turned t a (es, .parked { t with standing := .fetching }, a)
  /-- Its own fetch, outside the accessor, is over. -/
  | fetched {es : List (Event V)} {r : Outcome V} (outside : t.Outside)
      (known : t.outcome = some r) (shown : ∀ e ∈ es, e = .fetch t.id) :
      Turned t a (es, .over r none, a)
  /-- The fetch of the flight that it leads goes on. -/
  | leading {f : Nat} (stands : t.standing = .leading f) (unknown : t.outcome = none) :
      Turned t a ([], .parked { t with standing := .leading f }, a)
  /-- The fetch of the flight that it leads is over. -/
  | landed {f : Nat} {r : Outcome V} (stands : t.standing = .leading f)
      (known : t.outcome = some r) : Turned t a ([], .over r (some f), a.land t.key f r)
  /-- The flight that it waits for goes on. -/
  | waiting {f : Nat} (stands : t.standing = .waiting f)
      (going : ∀ x, a.flights[f]? = some x → ¬ x.Over) :
      Turned t a ([], .parked { t with standing := .waiting f }, a)
  /-- The flight that it waited for has landed. -/
  | told {f : Nat} {r : Outcome V} (stands : t.standing = .waiting f)
      (landed : a.flights[f]? = some (.landed r)) : Turned t a ([], .over r none, a)
  /-- It asks, and reads a value. -/
  | hit {v : V} {m : Nat} (asks : t.Asks a) (found : a.cache.get? t.key = some v) :
      Turned t a ([], .over (.ok v) none, { a with misses := m })
  /-- It asks, and joins a flight. -/
  | joined {f m : Nat} (asks : t.Asks a) (announced : a.pending.get? t.key = some f) :
      Turned t a ([], .parked { t with standing := .waiting f }, { a with misses := m })
  /-- It asks, opens a flight, and its fetch goes on. -/
  | opened {m : Nat} (asks : t.Asks a) (free : a.pending.get? t.key = none)
      (missing : a.cache.get? t.key = none) (unknown : t.outcome = none) :
      Turned t a ([.fetch t.id], .parked { t with standing := .leading a.flights.length },
        { a.openFlight t.key with misses := m })
  /-- It asks, opens a flight, and its fetch is over at once. -/
  | flew {m : Nat} {r : Outcome V} (asks : t.Asks a) (free : a.pending.get? t.key = none)
      (missing : a.cache.get? t.key = none) (known : t.outcome = some r) :
      Turned t a ([.fetch t.id], .over r (some a.flights.length),
        Accessor.land { a.openFlight t.key with misses := m } t.key a.flights.length r)

/-- The turn of a task that asks, from what it finds. -/
theorem loadTurn_turned {t : LoadTask V} {a : Accessor V} {p : Turn V × Accessor V}
    (asks : t.Asks a) (h : a.Asked t.key p) : t.Turned a (t.loadTurn p) := by
  cases h with
  | hit found => exact .hit asks found
  | joined announced => exact .joined asks announced
  | opened free missing =>
    simp only [loadTurn, leadTurn]
    split
    · exact .flew asks free missing ‹_›
    · exact .opened asks free missing ‹_›

theorem fetchTurn_turned {t : LoadTask V} {es : List (Event V)} (a : Accessor V)
    (outside : t.Outside) (shown : ∀ e ∈ es, e = .fetch t.id) :
    t.Turned a (es, t.fetchTurn a) := by
  unfold fetchTurn
  split
  · exact .fetched outside ‹_› shown
  · exact .fetching outside ‹_› shown

/-- There are no other turns than those listed. -/
theorem turned (t : LoadTask V) (a : Accessor V) : t.Turned a (t.turn a) := by
  unfold turn
  cases stands : t.standing with
  | fresh =>
    cases purpose : t.purpose with
    | fetch =>
      exact fetchTurn_turned a (.inr ⟨purpose, stands⟩) (fun e he => List.mem_singleton.mp he)
    | load => exact loadTurn_turned (.inl ⟨purpose, stands⟩) (a.load_asked t.key)
  | fetching => exact fetchTurn_turned a (.inl stands) (fun e he => absurd he List.not_mem_nil)
  | leading f =>
    simp only [leadTurn]
    split
    · exact .landed stands ‹_›
    · exact .leading stands ‹_›
  | waiting f =>
    show t.Turned a (t.loadTurn (a.resume t.key f))
    have h := a.resume_resumed t.key f
    generalize a.resume t.key f = p at h
    cases h with
    | told landed => exact .told stands landed
    | asked lost again => exact loadTurn_turned (.inr ⟨f, stands, lost⟩) again
    | waits going => exact .waiting stands going

/-- A task that goes on later is the same call. -/
theorem Turned.same_call {t u : LoadTask V} {a a' : Accessor V} {es : List (Event V)}
    (h : t.Turned a (es, .parked u, a')) :
    u.id = t.id ∧ u.key = t.key ∧ u.purpose = t.purpose ∧ u.outcome = t.outcome := by
  cases h <;> exact ⟨rfl, rfl, rfl, rfl⟩

/-- No flight is forgotten. -/
theorem Turned.length_flights {t : LoadTask V} {a a' : Accessor V} {es : List (Event V)}
    {e : TurnEnd V} (h : t.Turned a (es, e, a')) : a.flights.length ≤ a'.flights.length := by
  cases h with
  | landed stands known => exact Nat.le_of_eq List.length_set.symm
  | opened asks free missing unknown =>
    simp only [Accessor.openFlight, List.length_append]
    exact Nat.le_add_right _ _
  | flew asks free missing known =>
    simp only [Accessor.land, Accessor.openFlight, List.length_set, List.length_append]
    exact Nat.le_add_right _ _
  | _ => exact Nat.le_refl _

/-- A turn leaves a flight as it was, unless it is the new one, or the one
that the task led, and then it has landed with the outcome of the task's
fetch. -/
theorem Turned.flight {t : LoadTask V} {a a' : Accessor V} {es : List (Event V)}
    {e : TurnEnd V} (h : t.Turned a (es, e, a')) {f : Nat} {x : Flight V}
    (hf : a'.flights[f]? = some x) :
    a.flights[f]? = some x ∨ f = a.flights.length ∨
      ∃ r, t.standing = .leading f ∧ t.outcome = some r ∧ x = .landed r ∧
        e = .over r (some f) := by
  have opened : (a.flights ++ [Flight.open_])[f]? = some x →
      a.flights[f]? = some x ∨ f = a.flights.length := by
    intro hf
    rcases Nat.lt_or_ge f a.flights.length with lt | ge
    · exact .inl ((List.getElem?_append_left lt).symm.trans hf)
    · have lt := (List.getElem?_eq_some_iff.mp hf).1
      rw [List.length_append, List.length_singleton] at lt
      exact .inr (by omega)
  cases h with
  | @landed g r stands known =>
    change (a.flights.set g (.landed r))[f]? = some x at hf
    by_cases e : g = f
    · subst e
      have lt := (List.getElem?_eq_some_iff.mp hf).1
      rw [List.length_set] at lt
      rw [List.getElem?_set_self lt] at hf
      exact .inr (.inr ⟨r, stands, known, (Option.some.inj hf).symm, rfl⟩)
    · rw [List.getElem?_set_ne e] at hf
      exact .inl hf
  | opened asks free missing unknown =>
    exact (opened hf).imp_right .inl
  | @flew m r asks free missing known =>
    change ((a.flights ++ [Flight.open_]).set a.flights.length (.landed r))[f]? = some x at hf
    by_cases e : f = a.flights.length
    · exact .inr (.inl e)
    · rw [List.getElem?_set_ne (Ne.symm e)] at hf
      exact (opened hf).imp_right .inl
  | _ => exact .inl hf

/-- A task is given the outcome of its fetch, if it is the one meant. -/
def given (id : String) (r : Outcome V) (t : LoadTask V) : LoadTask V :=
  if t.id = id then { t with outcome := some r } else t

@[simp] theorem given_id (id : String) (r : Outcome V) (t : LoadTask V) :
    (t.given id r).id = t.id := by
  unfold given
  split <;> rfl

@[simp] theorem given_key (id : String) (r : Outcome V) (t : LoadTask V) :
    (t.given id r).key = t.key := by
  unfold given
  split <;> rfl

@[simp] theorem given_purpose (id : String) (r : Outcome V) (t : LoadTask V) :
    (t.given id r).purpose = t.purpose := by
  unfold given
  split <;> rfl

@[simp] theorem given_standing (id : String) (r : Outcome V) (t : LoadTask V) :
    (t.given id r).standing = t.standing := by
  unfold given
  split <;> rfl

end LoadTask

/-! ## Moves at a bench -/

namespace Bench

theorem mem_of_find? {b : Bench V} {t : LoadTask V} {id : String}
    (h : b.tasks.find? (·.id = id) = some t) : t ∈ b.tasks ∧ t.id = id :=
  ⟨List.mem_of_find?_eq_some h, by simpa using List.find?_some h⟩

theorem ne_of_find? {b : Bench V} {id : String} (h : b.tasks.find? (·.id = id) = none) :
    ∀ t ∈ b.tasks, t.id ≠ id := fun t ht => by
  simpa using List.find?_eq_none.mp h t ht

theorem mem_without {b : Bench V} {id : String} {t : LoadTask V} :
    t ∈ b.without id ↔ t ∈ b.tasks ∧ t.id ≠ id := by
  simp only [without, ne_eq, decide_not, List.mem_filter, Bool.not_eq_eq_eq_not, Bool.not_true,
    decide_eq_false_iff_not]

/-- Wherever it has its place, there are the others and the one that has parked. -/
theorem mem_park {b : Bench V} {t u v : LoadTask V} (mem : t ∈ b.tasks) (same : u.id = t.id) :
    v ∈ b.park t u ↔ v ∈ b.without u.id ∨ v = u := by
  unfold park
  split
  · rw [List.mem_map, mem_without]
    constructor
    · rintro ⟨w, hw, rfl⟩
      split
      · exact .inr rfl
      · exact .inl ⟨hw, ‹_›⟩
    · rintro (⟨hv, ne⟩ | rfl)
      · exact ⟨v, hv, if_neg ne⟩
      · exact ⟨t, mem, if_pos same.symm⟩
  · rw [List.mem_append, List.mem_singleton]

/-- The moves at a bench, with what each shows and the bench it leaves. -/
inductive Moved (b : Bench V) : Move V → List (Event V) → Bench V → Prop
  /-- The move is none: the name of the call has been used, or nobody has the
  name, or the outcome is known. -/
  | still {m : Move V} : Moved b m [] b
  | called {t : LoadTask V} (fresh : t.standing = .fresh) (new : ∀ u ∈ b.tasks, u.id ≠ t.id) :
      Moved b (.call t.id t.purpose t.key t.outcome) [] (b.spawn t)
  /-- A turn of a task that is no longer there. -/
  | absent {id : String} (gone : ∀ t ∈ b.tasks, t.id ≠ id) :
      Moved b (.turn id) [] { b with ready := b.ready.erase id }
  /-- A turn of a task that goes on later. -/
  | parked {t u : LoadTask V} {es : List (Event V)} {a : Accessor V} (mem : t ∈ b.tasks)
      (turned : t.Turned b.accessor (es, .parked u, a)) :
      Moved b (.turn t.id) es
        { accessor := a, tasks := b.park t u, ready := b.ready.erase t.id }
  /-- The last turn of a task. -/
  | last {t : LoadTask V} {es : List (Event V)} {r : Outcome V} {flight : Option Nat}
      {a : Accessor V} (mem : t ∈ b.tasks)
      (turned : t.Turned b.accessor (es, .over r flight, a)) :
      Moved b (.turn t.id) (es ++ [.done t.id r])
        { accessor := a, tasks := b.without t.id
          ready := b.ready.erase t.id ++ (flight.map b.waiters).getD [] }
  /-- A task whose outcome is not known is given it, and wakes up if its
  fetch has begun. -/
  | given {t : LoadTask V} {r : Outcome V} {ready : List String} (mem : t ∈ b.tasks)
      (unknown : t.outcome = none) (kept : ∀ i ∈ b.ready, i ∈ ready)
      (woken : t.standing = .fetching ∨ (∃ f, t.standing = .leading f) → t.id ∈ ready) :
      Moved b (.finish t.id r) [] { b with tasks := b.tasks.map (·.given t.id r), ready }
  /-- A task is dropped that does not lead. -/
  | dropped {t : LoadTask V} (mem : t ∈ b.tasks) (idle : ∀ f, t.standing ≠ .leading f) :
      Moved b (.abort t.id) [] { b with tasks := b.without t.id }
  /-- A task is dropped that leads. -/
  | abandoned {t : LoadTask V} {f : Nat} (mem : t ∈ b.tasks) (stands : t.standing = .leading f) :
      Moved b (.abort t.id) []
        { accessor := b.accessor.abandon t.key f, tasks := b.without t.id
          ready := b.ready ++ b.waiters f }
  | stored {key : String} {v : V} :
      Moved b (.cacheResource key v) []
        { b with accessor := b.accessor.cacheResource key v }
  | invalidated {key : String} :
      Moved b (.invalidate key) [] { b with accessor := b.accessor.invalidate key }
  /-- Somebody reads, or misses are set. -/
  | missing {m : Move V} {n : Nat} :
      Moved b m [] { b with accessor := { b.accessor with misses := n } }

/-- Whoever is there after a move was there before it, as the same call, or
the move is the call. -/
theorem Moved.origin {b b' : Bench V} {m : Move V} {es : List (Event V)} (h : b.Moved m es b')
    {u : LoadTask V} (hu : u ∈ b'.tasks) :
    (∃ t ∈ b.tasks, t.id = u.id ∧ t.key = u.key ∧ t.purpose = u.purpose) ∨
      m = .call u.id u.purpose u.key u.outcome ∧ u.standing = .fresh := by
  have kept : ∀ {id : String}, u ∈ b.without id →
      ∃ t ∈ b.tasks, t.id = u.id ∧ t.key = u.key ∧ t.purpose = u.purpose := fun hu =>
    ⟨u, (List.mem_filter.mp hu).1, rfl, rfl, rfl⟩
  cases h with
  | still => exact .inl ⟨u, hu, rfl, rfl, rfl⟩
  | called fresh new =>
    rcases List.mem_append.mp hu with hu | hu
    · exact .inl ⟨u, hu, rfl, rfl, rfl⟩
    · obtain rfl := List.mem_singleton.mp hu
      exact .inr ⟨rfl, fresh⟩
  | absent gone => exact .inl ⟨u, hu, rfl, rfl, rfl⟩
  | @parked t v es a mem turned =>
    obtain ⟨id, key, purpose, _⟩ := turned.same_call
    rcases (mem_park mem id).mp hu with hu | rfl
    · exact .inl (kept hu)
    · exact .inl ⟨t, mem, id.symm, key.symm, purpose.symm⟩
  | last mem turned => exact .inl (kept hu)
  | given mem unknown ready woken =>
    obtain ⟨v, hv, rfl⟩ := List.mem_map.mp hu
    exact .inl ⟨v, hv, (v.given_id _ _).symm, (v.given_key _ _).symm,
      (v.given_purpose _ _).symm⟩
  | dropped mem idle => exact .inl (kept hu)
  | abandoned mem stands => exact .inl (kept hu)
  | stored => exact .inl ⟨u, hu, rfl, rfl, rfl⟩
  | invalidated => exact .inl ⟨u, hu, rfl, rfl, rfl⟩
  | missing => exact .inl ⟨u, hu, rfl, rfl, rfl⟩

theorem take_moved (b : Bench V) (id : String) :
    b.Moved (.turn id) (b.take id).1 (b.take id).2 := by
  unfold take
  cases found : b.tasks.find? (·.id = id) with
  | none => exact .absent (ne_of_find? found)
  | some t =>
    obtain ⟨mem, rfl⟩ := mem_of_find? found
    have turned := t.turned b.accessor
    simp only [step]
    generalize t.turn b.accessor = p at turned
    obtain ⟨es, e, a⟩ := p
    obtain u | ⟨r, flight⟩ := e
    · exact .parked mem turned
    · exact .last mem turned

theorem finish_moved (b : Bench V) (id : String) (r : Outcome V) :
    b.Moved (.finish id r) [] (b.finish id r).2 := by
  unfold finish
  cases found : b.tasks.find? (·.id = id) with
  | none => exact .still
  | some t =>
    obtain ⟨mem, rfl⟩ := mem_of_find? found
    cases unknown : t.outcome with
    | some _ =>
      simp only [unknown, Option.isSome_some, ↓reduceIte]
      exact .still
    | none =>
      simp only [unknown, Option.isSome_none, Bool.false_eq_true, ↓reduceIte]
      refine .given mem unknown ?_ ?_
      · intro i hi
        split
        · exact List.mem_append_left _ hi
        · exact List.mem_append_left _ hi
        · exact hi
      · rintro (hs | ⟨f, hs⟩) <;> rw [hs] <;>
          exact List.mem_append_right _ (List.mem_singleton_self t.id)

theorem abort_moved (b : Bench V) (id : String) :
    b.Moved (.abort id) [] (b.abort id).2 := by
  unfold abort
  cases found : b.tasks.find? (·.id = id) with
  | none => exact .still
  | some t =>
    obtain ⟨mem, rfl⟩ := mem_of_find? found
    simp only
    split
    · exact .abandoned mem ‹_›
    · exact .dropped mem ‹_›

end Bench

namespace Course

/-- What is seen in a move. -/
def shown (x : Course V) : Move V → List (Event V)
  | .turn id => (x.bench.take id).1
  | _ => []

theorem seen_move (x : Course V) (m : Move V) : (x.move m).seen = x.seen ++ x.shown m := by
  cases m with
  | call id purpose key outcome =>
    simp only [move, shown, List.append_nil]
    split <;> rfl
  | turn id => rfl
  | finish id r => exact (List.append_nil _).symm
  | abort id => exact (List.append_nil _).symm
  | cacheResource key v => exact (List.append_nil _).symm
  | invalidate key => exact (List.append_nil _).symm
  | read key => exact (List.append_nil _).symm
  | miss n => exact (List.append_nil _).symm

/-- There are no other moves than those listed. -/
theorem moved {x : Course V} (named : ∀ t ∈ x.bench.tasks, t.id ∈ x.names) (m : Move V) :
    x.bench.Moved m (x.shown m) (x.move m).bench := by
  cases m with
  | call id purpose key outcome =>
    by_cases used : id ∈ x.names
    · simp only [move, if_pos used]
      exact .still
    · simp only [move, if_neg used]
      refine .called (t := { id, purpose, key, outcome }) rfl (fun u hu e => used ?_)
      obtain rfl : u.id = id := e
      exact named u hu
  | turn id => exact x.bench.take_moved id
  | finish id r => exact x.bench.finish_moved id r
  | abort id => exact x.bench.abort_moved id
  | cacheResource key v => exact .stored
  | invalidate key => exact .invalidated
  | read key =>
    simp only [move, Accessor.cached, Accessor.read]
    split
    · exact .still
    · exact .missing
  | miss n => exact .missing

end Course

end LearningClient.Rehearsal
