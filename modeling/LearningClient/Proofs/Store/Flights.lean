import LearningClient.Store.Accessor

/-!
# An accessor and its callers

What one moment of a caller can do to an accessor, said once, and the
agreement that every such moment keeps.

`Accessor.Asked` says all that a caller that asks for a key can find: the
value, the flight of the key, or neither, and then it opens a flight. Every
pass through the loop of `join` ends in one of the three
(`Accessor.load_asked`).

`Accessor.Staffed` is the agreement of an accessor with those who lead and
those who wait. It does not say who the callers are: `leads i k f` is any
relation that tells which caller leads which flight for which key, so that
the tasks of a bench and the calls of a client can both be put for it. A
flight that is announced under a key has exactly one leader, and a caller
that waits for a flight that is not over waits for the one that is
announced under its own key. The three lemmas that keep it are one for each
thing that happens to flights: nothing (`Staffed.congr`), one is opened
(`Staffed.openFlight`), one is over (`Staffed.close`).
-/

namespace LearningClient

variable {V : Type}

/-- A flight that nobody flies any more. -/
def Flight.Over (x : Flight V) : Prop := x ≠ .open_

theorem Flight.over_landed (r : Outcome V) : (landed r).Over := fun e => by cases e

theorem Flight.over_lost : (lost : Flight V).Over := fun e => by cases e

namespace Accessor

/-! ## What a caller that asks can find -/

/-- A caller asks for a key, and takes a turn that leaves an accessor. -/
inductive Asked (a : Accessor V) (key : String) : Turn V × Accessor V → Prop
  /-- There is a value, and it is read. -/
  | hit {v : V} {m : Nat} (found : a.cache.get? key = some v) :
      Asked a key (.answered (.ok v), { a with misses := m })
  /-- The key has a flight. -/
  | joined {f m : Nat} (announced : a.pending.get? key = some f) :
      Asked a key (.waits f, { a with misses := m })
  /-- There is no flight, and no value either. -/
  | opened {m : Nat} (free : a.pending.get? key = none) (missing : a.cache.get? key = none) :
      Asked a key (.leads a.flights.length, { a.openFlight key with misses := m })

/-- Asking with another number of misses is asking. -/
theorem Asked.of_misses {a : Accessor V} {key : String} {n : Nat} {p : Turn V × Accessor V}
    (h : Asked { a with misses := n } key p) : Asked a key p := by
  cases h with
  | hit found => exact .hit found
  | joined announced => exact .joined announced
  | opened free missing => exact .opened free missing

/-- The loop goes round only while there is a value to be read. -/
theorem join_asked (a : Accessor V) (key : String) (m : Nat) : Asked a key (a.join key m) := by
  induction m with
  | zero =>
    unfold join
    split
    · exact .joined ‹_›
    · split
      · exact .opened ‹_› ‹_›
      · exact .hit ‹_›
  | succ m ih =>
    unfold join
    split
    · exact .joined ‹_›
    · split
      · exact .opened ‹_› ‹_›
      · exact ih

theorem load_asked (a : Accessor V) (key : String) : Asked a key (a.load key) := by
  unfold load read
  cases a.misses with
  | zero =>
    simp only
    cases found : a.cache.get? key with
    | some v => exact .hit found
    | none => exact join_asked a key a.misses
  | succ m => exact .of_misses (join_asked { a with misses := m } key m)

/-- A caller looks again at the flight that it waits for, and takes a turn
that leaves an accessor. -/
inductive Resumed (a : Accessor V) (key : String) (f : Nat) : Turn V × Accessor V → Prop
  /-- It has landed. -/
  | told {r : Outcome V} (landed : a.flights[f]? = some (.landed r)) :
      Resumed a key f (.answered r, a)
  /-- It is lost, so the caller asks again. -/
  | asked {p : Turn V × Accessor V} (lost : a.flights[f]? = some .lost) (again : Asked a key p) :
      Resumed a key f p
  | waits (going : ∀ x, a.flights[f]? = some x → ¬ x.Over) : Resumed a key f (.waits f, a)

theorem resume_resumed (a : Accessor V) (key : String) (f : Nat) :
    Resumed a key f (a.resume key f) := by
  unfold resume
  split
  · exact .told ‹_›
  · exact .asked ‹_› (load_asked a key)
  · rename_i notLanded notLost
    refine .waits fun x hx isOver => ?_
    cases x with
    | open_ => exact isOver rfl
    | landed r => exact notLanded r hx
    | lost => exact notLost hx

/-! ## The agreement with the callers -/

/-- The flights of an accessor agree with the callers that lead (`leads`)
and those that wait (`waits`). -/
structure Staffed {ι : Type} (a : Accessor V) (leads waits : ι → String → Nat → Prop) :
    Prop where
  /-- What is led is announced. -/
  announced : ∀ {i k f}, leads i k f → a.pending.get? k = some f
  /-- What is announced is led. -/
  led : ∀ {k f}, a.pending.get? k = some f → ∃ i, leads i k f
  /-- Nobody leads with another. -/
  alone : ∀ {i j k f}, leads i k f → leads j k f → i = j
  /-- What is announced is not over. -/
  going : ∀ {k f}, a.pending.get? k = some f → a.flights[f]? = some .open_
  /-- A flight is announced under one key. -/
  apart : ∀ {k l f}, a.pending.get? k = some f → a.pending.get? l = some f → k = l
  /-- What is waited for is over, or announced under the key of who waits. -/
  awaited : ∀ {i k f}, waits i k f →
    (∃ x, a.flights[f]? = some x ∧ x.Over) ∨ a.pending.get? k = some f

namespace Staffed

variable {ι : Type} {a : Accessor V} {leads waits leads' waits' : ι → String → Nat → Prop}

/-- Nobody has called yet. -/
theorem empty (c : Cache V) (hl : ∀ i k f, ¬ leads i k f) (hw : ∀ i k f, ¬ waits i k f) :
    ({ cache := c } : Accessor V).Staffed leads waits where
  announced h := (hl _ _ _ h).elim
  led h := by cases h
  alone h := (hl _ _ _ h).elim
  going h := by cases h
  apart h := by cases h
  awaited h := (hw _ _ _ h).elim

/-- Flights stay as they are: leaders stay, and whoever waits now has been
waiting or has joined what is announced. -/
theorem congr {a' : Accessor V} (h : a.Staffed leads waits) (hp : a'.pending = a.pending)
    (hf : a'.flights = a.flights) (hl : ∀ i k f, leads' i k f ↔ leads i k f)
    (hw : ∀ i k f, waits' i k f → waits i k f ∨ a.pending.get? k = some f) :
    a'.Staffed leads' waits' where
  announced hi := by rw [hp]; exact h.announced ((hl _ _ _).mp hi)
  led hk := by
    rw [hp] at hk
    obtain ⟨i, hi⟩ := h.led hk
    exact ⟨i, (hl _ _ _).mpr hi⟩
  alone hi hj := h.alone ((hl _ _ _).mp hi) ((hl _ _ _).mp hj)
  going hk := by rw [hp] at hk; rw [hf]; exact h.going hk
  apart hk hl := by rw [hp] at hk hl; exact h.apart hk hl
  awaited hi := by
    rw [hp, hf]
    rcases hw _ _ _ hi with hi | hk
    · exact h.awaited hi
    · exact .inr hk

/-- A caller that does not lead yet opens a flight for a key that has
none. -/
theorem openFlight (h : a.Staffed leads waits) (id : ι) {key : String}
    (free : a.pending.get? key = none)
    (hl : ∀ i k f, leads' i k f ↔ leads i k f ∨ i = id ∧ k = key ∧ f = a.flights.length)
    (hw : ∀ i k f, waits' i k f → waits i k f) :
    (a.openFlight key).Staffed leads' waits' := by
  -- a flight that is announced stands among the flights, so the new one is another
  have fresh : ∀ {k f}, a.pending.get? k = some f → f < a.flights.length := fun hk =>
    (List.getElem?_eq_some_iff.mp (h.going hk)).1
  have cases_of : ∀ {k f}, (a.openFlight key).pending.get? k = some f →
      (k = key ∧ f = a.flights.length) ∨ (k ≠ key ∧ a.pending.get? k = some f) := by
    intro k f hk
    by_cases e : k = key
    · subst e
      rw [Accessor.openFlight, Table.get?_insert_self] at hk
      exact .inl ⟨rfl, (Option.some.inj hk).symm⟩
    · rw [Accessor.openFlight, Table.get?_insert_of_ne _ _ e] at hk
      exact .inr ⟨e, hk⟩
  have kept : ∀ {k f}, a.pending.get? k = some f →
      (a.openFlight key).pending.get? k = some f := by
    intro k f hk
    have e : k ≠ key := by
      rintro rfl
      rw [free] at hk
      cases hk
    rw [Accessor.openFlight, Table.get?_insert_of_ne _ _ e]
    exact hk
  have new : (a.openFlight key).pending.get? key = some a.flights.length :=
    Table.get?_insert_self ..
  refine ⟨?_, ?_, ?_, ?_, ?_, ?_⟩
  · intro i k f hi
    rcases (hl i k f).mp hi with hi | ⟨rfl, rfl, rfl⟩
    · exact kept (h.announced hi)
    · exact new
  · intro k f hk
    rcases cases_of hk with ⟨rfl, rfl⟩ | ⟨_, hk⟩
    · exact ⟨id, (hl _ _ _).mpr (.inr ⟨rfl, rfl, rfl⟩)⟩
    · obtain ⟨i, hi⟩ := h.led hk
      exact ⟨i, (hl _ _ _).mpr (.inl hi)⟩
  · intro i j k f hi hj
    rcases (hl i k f).mp hi with hi | ⟨rfl, rfl, rfl⟩
    · rcases (hl j k f).mp hj with hj | ⟨rfl, rfl, rfl⟩
      · exact h.alone hi hj
      · exact absurd (fresh (h.announced hi)) (Nat.lt_irrefl _)
    · rcases (hl j _ _).mp hj with hj | ⟨rfl, _, _⟩
      · exact absurd (fresh (h.announced hj)) (Nat.lt_irrefl _)
      · rfl
  · intro k f hk
    rcases cases_of hk with ⟨rfl, rfl⟩ | ⟨_, hk⟩
    · exact List.getElem?_concat_length
    · exact (List.getElem?_append_left (fresh hk)).trans (h.going hk)
  · intro k l f hk hl'
    rcases cases_of hk with ⟨rfl, rfl⟩ | ⟨_, hold⟩
    · rcases cases_of hl' with ⟨rfl, _⟩ | ⟨_, hold⟩
      · rfl
      · exact absurd (fresh hold) (Nat.lt_irrefl _)
    · rcases cases_of hl' with ⟨rfl, rfl⟩ | ⟨_, hold'⟩
      · exact absurd (fresh hold) (Nat.lt_irrefl _)
      · exact h.apart hold hold'
  · intro i k f hi
    rcases h.awaited (hw i k f hi) with ⟨x, hx, isOver⟩ | hk
    · have lt := (List.getElem?_eq_some_iff.mp hx).1
      exact .inl ⟨x, (List.getElem?_append_left lt).trans hx, isOver⟩
    · exact .inr (kept hk)

/-- The flight that a caller leads is over, and the caller is gone. It is
the caller's own flight that is no longer announced, and no other. -/
theorem close (h : a.Staffed leads waits) {id : ι} {key : String} {f : Nat} {x : Flight V}
    {c : Cache V} (lead : leads id key f) (only : ∀ {k g}, leads id k g → k = key)
    (isOver : x.Over) (hl : ∀ i k g, leads' i k g ↔ leads i k g ∧ i ≠ id)
    (hw : ∀ i k g, waits' i k g → waits i k g) :
    ({ a with
        cache := c, pending := a.pending.erase key, flights := a.flights.set f x } :
      Accessor V).Staffed leads' waits' := by
  have own := h.announced lead
  have lt : f < a.flights.length := (List.getElem?_eq_some_iff.mp (h.going own)).1
  have of_erase : ∀ {k g}, (a.pending.erase key).get? k = some g →
      k ≠ key ∧ a.pending.get? k = some g := by
    intro k g hk
    by_cases e : k = key
    · rw [e, Table.get?_erase_self] at hk
      cases hk
    · rw [Table.get?_erase_of_ne _ e] at hk
      exact ⟨e, hk⟩
  -- a flight announced under another key is another flight
  have other : ∀ {k g}, k ≠ key → a.pending.get? k = some g → f ≠ g := by
    rintro k g e hk rfl
    exact e (h.apart hk own)
  refine ⟨?_, ?_, ?_, ?_, ?_, ?_⟩
  · intro i k g hi
    obtain ⟨hi, ne⟩ := (hl i k g).mp hi
    have hk := h.announced hi
    have e : k ≠ key := by
      rintro rfl
      rw [own] at hk
      cases hk
      exact ne (h.alone hi lead)
    exact (Table.get?_erase_of_ne _ e).trans hk
  · intro k g hk
    obtain ⟨e, hk⟩ := of_erase hk
    obtain ⟨i, hi⟩ := h.led hk
    exact ⟨i, (hl _ _ _).mpr ⟨hi, fun he => e (only (he ▸ hi))⟩⟩
  · intro i j k g hi hj
    exact h.alone ((hl _ _ _).mp hi).1 ((hl _ _ _).mp hj).1
  · intro k g hk
    obtain ⟨e, hk⟩ := of_erase hk
    exact (List.getElem?_set_ne (other e hk)).trans (h.going hk)
  · intro k l g hk hl'
    exact h.apart (of_erase hk).2 (of_erase hl').2
  · intro i k g hi
    by_cases e : f = g
    · subst e
      exact .inl ⟨x, List.getElem?_set_self lt, isOver⟩
    · rcases h.awaited (hw i k g hi) with ⟨y, hy, hover⟩ | hk
      · exact .inl ⟨y, (List.getElem?_set_ne e).trans hy, hover⟩
      · refine .inr ((Table.get?_erase_of_ne _ ?_).trans hk)
        rintro rfl
        rw [own] at hk
        exact e (Option.some.inj hk)

end Staffed

end Accessor

end LearningClient
