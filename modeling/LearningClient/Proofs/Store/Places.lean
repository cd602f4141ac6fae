import LearningClient.Proofs.Store.Flights
import Mathlib.Logic.Function.Basic

/-!
# Callers as places

Callers of an accessor, told apart by a number, and each at a place: away,
leading a flight, or waiting for one. `Accessor.Acts` lists what a caller can
do at an accessor that concerns flights, with the places it comes from and
goes to, what it reports, and the accessor that it leaves.

Two agreements are kept by all of it. One is that the places of the callers
staff the flights (`Accessor.Manned`). The other says where values come from
(`Accessor.Sourced`): whatever the cache holds under a key has been vouched
for under that key, and if a flight has landed, its result has been told to
each caller that waits for it. What vouching and telling are is left open,
since an accessor does not know who its callers are. The result of a caller
is then vouched for, or told to it, or its own (`Acts.report`).
-/

namespace LearningClient

variable {V : Type}

/-- Where a caller of an accessor stands. -/
inductive Place
  | away
  | leads (key : String) (flight : Nat)
  | waits (key : String) (flight : Nat)
deriving DecidableEq, Repr

namespace Turn

/-- Where a turn leaves a caller for a key. -/
def place (key : String) : Turn V → Place
  | .answered _ => .away
  | .waits f => .waits key f
  | .leads f => .leads key f

/-- The result of a turn, if it has one. -/
def result? : Turn V → Option (Outcome V)
  | .answered r => some r
  | .waits _ => none
  | .leads _ => none

end Turn

namespace Accessor

/-- A caller at a place is to ask for a key. -/
def Asking (a : Accessor V) (key : String) (p : Place) : Prop :=
  p = .away ∨ ∃ f, p = .waits key f ∧ a.flights[f]? = some .lost

theorem Asking.idle {a : Accessor V} {key : String} {p : Place} (h : a.Asking key p) :
    ∀ k f, p ≠ .leads k f := by
  rintro k f rfl
  rcases h with h | ⟨g, h, _⟩ <;> cases h

/-- What a caller for a key can do that concerns flights: the place it comes
from, the place it goes to, its result, and the accessor it leaves. -/
inductive Acts (a : Accessor V) (key : String) :
    Place → Place → Option (Outcome V) → Accessor V → Prop
  | hit {p : Place} {v : V} {m : Nat} (asking : a.Asking key p)
      (found : a.cache.get? key = some v) :
      Acts a key p .away (some (.ok v)) { a with misses := m }
  | joined {p : Place} {f m : Nat} (asking : a.Asking key p)
      (announced : a.pending.get? key = some f) :
      Acts a key p (.waits key f) none { a with misses := m }
  | opened {p : Place} {m : Nat} (asking : a.Asking key p) (free : a.pending.get? key = none)
      (missing : a.cache.get? key = none) :
      Acts a key p (.leads key a.flights.length) none { a.openFlight key with misses := m }
  | told {f : Nat} {r : Outcome V} (landed : a.flights[f]? = some (.landed r)) :
      Acts a key (.waits key f) .away (some r) a
  | waiting {f : Nat} : Acts a key (.waits key f) (.waits key f) none a
  | landed {f : Nat} {r : Outcome V} :
      Acts a key (.leads key f) .away (some r) (a.land key f r)
  | abandoned {f : Nat} : Acts a key (.leads key f) .away none (a.abandon key f)
  | left {f : Nat} : Acts a key (.waits key f) .away none a

theorem Asked.acts {a : Accessor V} {key : String} {p : Place} (asking : a.Asking key p)
    {t : Turn V × Accessor V} (h : Asked a key t) :
    a.Acts key p (t.1.place key) t.1.result? t.2 := by
  cases h with
  | hit found => exact .hit asking found
  | joined announced => exact .joined asking announced
  | opened free missing => exact .opened asking free missing

theorem load_acts (a : Accessor V) (key : String) :
    a.Acts key .away ((a.load key).1.place key) (a.load key).1.result? (a.load key).2 :=
  (a.load_asked key).acts (.inl rfl)

theorem resume_acts (a : Accessor V) (key : String) (f : Nat) :
    a.Acts key (.waits key f) ((a.resume key f).1.place key) (a.resume key f).1.result?
      (a.resume key f).2 := by
  have h := a.resume_resumed key f
  generalize a.resume key f = t at h
  cases h with
  | told landed => exact .told landed
  | asked lost again => exact again.acts (.inr ⟨f, rfl, lost⟩)
  | waits going => exact .waiting

/-! ## The places staff the flights -/

variable {place : Nat → Place}

/-- The callers at their places staff the flights of an accessor. -/
def Manned (a : Accessor V) (place : Nat → Place) : Prop :=
  a.Staffed (fun i k f => place i = .leads k f) (fun i k f => place i = .waits k f)

theorem Manned.announced {a : Accessor V} (h : a.Manned place) {i : Nat} {k : String} {f : Nat}
    (leads : place i = .leads k f) : a.pending.get? k = some f :=
  Staffed.announced h leads

/-- Flights and places are all that counts. -/
theorem Manned.congr {a a' : Accessor V} (h : a.Manned place) (pending : a'.pending = a.pending)
    (flights : a'.flights = a.flights) : a'.Manned place :=
  Staffed.congr h pending flights (fun _ _ _ => Iff.rfl) (fun _ _ _ => .inl)

/-- Whoever waits for a flight that is led does so for its key. -/
theorem Manned.key_of_waiting {a : Accessor V} (h : a.Manned place) {i j : Nat} {k l : String}
    {f : Nat} (leads : place i = .leads k f) (waits : place j = .waits l f) : l = k := by
  have own := h.announced leads
  rcases Staffed.awaited h waits with ⟨x, hx, isOver⟩ | hl
  · rw [Staffed.going h own] at hx
    exact absurd (Option.some.inj hx).symm isOver
  · exact Staffed.apart h hl own

/-- A caller moves that does not lead, to a place where it does not lead, and
waits, if it does, for a flight that is announced. -/
theorem Manned.shift {a a' : Accessor V} (h : a.Manned place) {i : Nat} {p : Place}
    (idle : ∀ k f, place i ≠ .leads k f) (stays : ∀ k f, p ≠ .leads k f)
    (waits : ∀ k f, p = .waits k f → place i = .waits k f ∨ a.pending.get? k = some f)
    (pending : a'.pending = a.pending) (flights : a'.flights = a.flights) :
    a'.Manned (Function.update place i p) := by
  refine Staffed.congr h pending flights (fun j k f => ?_) (fun j k f hj => ?_)
  · by_cases e : j = i
    · subst e
      rw [Function.update_self]
      exact iff_of_false (stays k f) (idle k f)
    · rw [Function.update_of_ne e]
  · by_cases e : j = i
    · subst e
      rw [Function.update_self] at hj
      exact waits k f hj
    · rw [Function.update_of_ne e] at hj
      exact .inl hj

/-- The leader of a flight moves away, and the flight is over. -/
theorem Manned.close {a : Accessor V} (h : a.Manned place) {i : Nat} {k : String} {f : Nat}
    {x : Flight V} {c : Cache V} (leads : place i = .leads k f) (isOver : x.Over) :
    ({ a with cache := c, pending := a.pending.erase k, flights := a.flights.set f x } :
      Accessor V).Manned (Function.update place i .away) := by
  refine Staffed.close h leads (fun hi => ?_) isOver (fun j l g => ?_) (fun j l g hj => ?_)
  · rw [leads] at hi
    exact (Place.leads.inj hi).1.symm
  · by_cases e : j = i
    · subst e
      simp
    · rw [Function.update_of_ne e]
      exact ⟨fun hj => ⟨hj, e⟩, And.left⟩
  · by_cases e : j = i
    · subst e
      rw [Function.update_self] at hj
      cases hj
    · rwa [Function.update_of_ne e] at hj

/-- Whatever a caller does, the callers staff the flights. -/
theorem Acts.manned {a a' : Accessor V} {key : String} {i : Nat} {p : Place}
    {r : Option (Outcome V)} (h : a.Manned place) (acts : a.Acts key (place i) p r a') :
    a'.Manned (Function.update place i p) := by
  generalize hp : place i = before at acts
  cases acts with
  | hit asking found =>
    subst hp
    exact h.shift asking.idle (fun k f e => by cases e) (fun k f e => by cases e) rfl rfl
  | joined asking announced =>
    subst hp
    refine h.shift asking.idle (fun k f e => by cases e) (fun k f e => ?_) rfl rfl
    cases e
    exact .inr announced
  | @opened p m asking free missing =>
    subst hp
    refine Staffed.congr (Staffed.openFlight h i free (fun j k f => ?_) (fun j k f hj => ?_))
      rfl rfl (fun _ _ _ => Iff.rfl) (fun _ _ _ => .inl)
    · by_cases e : j = i
      · subst e
        rw [Function.update_self, Place.leads.injEq]
        constructor
        · rintro ⟨rfl, rfl⟩
          exact .inr ⟨rfl, rfl, rfl⟩
        · rintro (old | ⟨_, rfl, rfl⟩)
          · exact absurd old (asking.idle k f)
          · exact ⟨rfl, rfl⟩
      · rw [Function.update_of_ne e]
        constructor
        · exact .inl
        · rintro (old | ⟨rfl, _⟩)
          · exact old
          · exact absurd rfl e
    · by_cases e : j = i
      · subst e
        rw [Function.update_self] at hj
        cases hj
      · rwa [Function.update_of_ne e] at hj
  | told landed =>
    exact h.shift (fun k f e => by rw [hp] at e; cases e) (fun k f e => by cases e)
      (fun k f e => by cases e) rfl rfl
  | waiting =>
    refine h.shift (fun k f e => by rw [hp] at e; cases e) (fun k f e => by cases e)
      (fun k f e => .inl (hp.trans e)) rfl rfl
  | landed => exact h.close hp (Flight.over_landed _)
  | abandoned => exact h.close hp Flight.over_lost
  | left =>
    exact h.shift (fun k f e => by rw [hp] at e; cases e) (fun k f e => by cases e)
      (fun k f e => by cases e) rfl rfl

/-! ## Where values come from -/

/-- What the cache holds is vouched for, and whoever waits for a flight that
has landed has been told its result. -/
structure Sourced (a : Accessor V) (place : Nat → Place) (vouched : String → V → Prop)
    (told : Nat → String → Outcome V → Prop) : Prop where
  held : ∀ {k v}, a.cache.get? k = some v → vouched k v
  landed : ∀ {i k f r}, place i = .waits k f → a.flights[f]? = some (.landed r) → told i k r

variable {vouched vouched' : String → V → Prop} {told told' : Nat → String → Outcome V → Prop}

theorem Sourced.mono {a a' : Accessor V} (h : a.Sourced place vouched told)
    (flights : a'.flights = a.flights)
    (cache : ∀ k v, a'.cache.get? k = some v → a.cache.get? k = some v ∨ vouched' k v)
    (more : ∀ k v, vouched k v → vouched' k v) (later : ∀ i k r, told i k r → told' i k r) :
    a'.Sourced place vouched' told' where
  held hk := by
    rcases cache _ _ hk with old | new
    · exact more _ _ (h.held old)
    · exact new
  landed hi hf := by
    rw [flights] at hf
    exact later _ _ _ (h.landed hi hf)

/-- A caller moves. What is in the cache then has to be vouched for, and a
flight that has landed since has to be told to those who wait for it; a caller
that joins a flight finds no flight over that was not over before. -/
theorem Sourced.move {a a' : Accessor V} (manned : a.Manned place)
    (h : a.Sourced place vouched told) {i : Nat} {p : Place}
    (cache : ∀ k v, a'.cache.get? k = some v → vouched k v)
    (flights : ∀ f r, a'.flights[f]? = some (.landed r) →
      a.flights[f]? = some (.landed r) ∨ ∀ j k, place j = .waits k f → told j k r)
    (waits : ∀ k f, p = .waits k f →
      place i = .waits k f ∨ a.pending.get? k = some f ∧ a'.flights = a.flights) :
    a'.Sourced (Function.update place i p) vouched told := by
  have waited : ∀ {j k f r}, place j = .waits k f → a'.flights[f]? = some (.landed r) →
      told j k r := by
    intro j k f r hj hf
    rcases flights f r hf with old | new
    · exact h.landed hj old
    · exact new j k hj
  refine ⟨cache _ _, fun {j k f r} hj hf => ?_⟩
  by_cases e : j = i
  · subst e
    rw [Function.update_self] at hj
    rcases waits k f hj with old | ⟨announced, same⟩
    · exact waited old hf
    · rw [same, Staffed.going manned announced] at hf
      cases hf
  · rw [Function.update_of_ne e] at hj
    exact waited hj hf

/-- What has landed after a flight is opened had landed before. -/
theorem landed_of_openFlight {a : Accessor V} {key : String} {f : Nat} {r : Outcome V}
    (h : (a.openFlight key).flights[f]? = some (.landed r)) :
    a.flights[f]? = some (.landed r) := by
  rcases Nat.lt_or_ge f a.flights.length with lt | ge
  · exact (List.getElem?_append_left lt).symm.trans h
  · rw [openFlight, List.getElem?_append_right ge] at h
    have new := List.mem_of_getElem? h
    simp at new

/-- What a cache holds after a success is cached: the value, or what it held. -/
theorem get?_land {a : Accessor V} {key k : String} {f : Nat} {r : Outcome V} {v : V}
    (h : (a.land key f r).cache.get? k = some v) :
    a.cache.get? k = some v ∨ k = key ∧ r = .ok v := by
  cases r with
  | error e => exact .inl h
  | ok w =>
    rcases Cache.eq_or_get?_of_insert h with ⟨rfl, rfl⟩ | old
    · exact .inr ⟨rfl, rfl⟩
    · exact .inl old

/-- Whatever a caller does, values have their sources, if what a leader
brings is vouched for and told to whoever waits for its key. -/
theorem Acts.sourced {a a' : Accessor V} {key : String} {i : Nat} {p : Place}
    {o : Option (Outcome V)} (manned : a.Manned place) (h : a.Sourced place vouched told)
    (acts : a.Acts key (place i) p o a')
    (brings : ∀ f r, place i = .leads key f → o = some r →
      (∀ v, r = .ok v → vouched key v) ∧ ∀ j g, place j = .waits key g → told j key r) :
    a'.Sourced (Function.update place i p) vouched told := by
  have held : ∀ k v, a.cache.get? k = some v → vouched k v := fun k v => h.held
  generalize hp : place i = before at acts
  cases acts with
  | hit asking found => exact h.move manned held (fun f r => .inl) nofun
  | joined asking announced =>
    refine h.move manned held (fun f r => .inl) (fun k f e => ?_)
    cases e
    exact .inr ⟨announced, rfl⟩
  | opened asking free missing =>
    have old : ∀ f r, (a.openFlight key).flights[f]? = some (Flight.landed r) →
        a.flights[f]? = some (Flight.landed r) := fun f r => landed_of_openFlight
    exact h.move manned held (fun f r hf => .inl (old f r hf)) nofun
  | told landed => exact h.move manned held (fun f r => .inl) nofun
  | waiting => exact h.move manned held (fun f r => .inl) (fun k f e => .inl (hp.trans e))
  | @landed f r =>
    obtain ⟨good, heard⟩ := brings f r hp rfl
    refine h.move manned (fun k v hk => ?_) (fun g s hg => ?_) nofun
    · rcases get?_land hk with old | ⟨rfl, ok⟩
      · exact held k v old
      · exact good v ok
    · change (a.flights.set f (.landed r))[g]? = some (.landed s) at hg
      by_cases same : f = g
      · subst same
        have lt := (List.getElem?_eq_some_iff.mp hg).1
        rw [List.length_set] at lt
        rw [List.getElem?_set_self lt] at hg
        cases hg
        -- those who wait for the flight wait under its key
        refine .inr fun j k waits => ?_
        obtain rfl := manned.key_of_waiting hp waits
        exact heard j f waits
      · rw [List.getElem?_set_ne same] at hg
        exact .inl hg
  | @abandoned f =>
    refine h.move manned held (fun g s hg => ?_) nofun
    change (a.flights.set f .lost)[g]? = some (.landed s) at hg
    by_cases same : f = g
    · subst same
      have lt := (List.getElem?_eq_some_iff.mp hg).1
      rw [List.length_set] at lt
      rw [List.getElem?_set_self lt] at hg
      cases hg
    · rw [List.getElem?_set_ne same] at hg
      exact .inl hg
  | left => exact h.move manned held (fun f r => .inl) nofun

/-- The result of a caller is vouched for, or it has been told it, or it is
what it brings as a leader. -/
theorem Acts.report {a a' : Accessor V} {key : String} {i : Nat} {p : Place} {r : Outcome V}
    (h : a.Sourced place vouched told) (acts : a.Acts key (place i) p (some r) a') :
    (∃ v, r = .ok v ∧ vouched key v) ∨ told i key r ∨ ∃ f, place i = .leads key f := by
  generalize hp : place i = before at acts
  cases acts with
  | hit asking found => exact .inl ⟨_, rfl, h.held found⟩
  | told landed => exact .inr (.inl (h.landed hp landed))
  | landed => exact .inr (.inr ⟨_, rfl⟩)

end Accessor

end LearningClient
