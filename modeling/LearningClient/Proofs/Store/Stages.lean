import LearningClient.Proofs.Store.Flights
import Mathlib.Data.List.Chain

/-!
# A turn of a caller, stage by stage

A caller that asks for a key goes round in a loop, and nothing in the loop counts.
It reads the cache. Where it has read nothing it looks what is under way for its
key: it joins the flight, or opens one, or finds that there is a value after all and
reads again; and where it has read nothing again, it looks again. A caller that has
joined a flight, or comes back to one, listens, and if the flight is lost it reads
and looks as before. `Accessor.proceed` is one stage of this, and `Accessor.Passes`
puts stages together for as long as they last, which need not end.

It does end while no lost flight is announced under the key, and then it ends as
`load` and `resume` say (`passes_load`, `passes_resume`). What bounds it are the
reads that are to report nothing: `Accessor.budget` is how often the cache may yet be
read, and no stage takes more than there is (`proceed_budget`), so the cache is read
at most once more often than reads report nothing (`Passes.reads_le`). A read again
that finds nothing has used up one of them (`Passes.rounds`).
-/

namespace LearningClient.Accessor

variable {V : Type}

/-! ## Stages -/

/-- Where a caller stands within a turn. -/
inductive Stage
  /-- It is about to find out about the flight that it waits for. -/
  | listening (flight : Nat)
  /-- It is about to read the cache. -/
  | reading
  /-- It has read nothing, and is about to look what is under way. -/
  | looking
  /-- There is a value after all, and it is about to read again. -/
  | rereading
deriving DecidableEq, Repr

/-- Whether the cache is read at a stage. -/
def Stage.reads : Stage → Bool
  | .listening _ => false
  | .reading => true
  | .looking => false
  | .rereading => true

/-- What comes after a stage: another one, or the end of the turn. -/
inductive Sequel (V : Type)
  | goes (s : Stage)
  | ends (t : Turn V)
deriving Repr

/-- What a caller for a key does at a stage. -/
def proceed (a : Accessor V) (key : String) : Stage → Sequel V × Accessor V
  | .listening f =>
    match a.flights[f]? with
    | some (.landed r) => (.ends (.answered r), a)
    | some .lost => (.goes .reading, a)
    | _ => (.ends (.waits f), a)
  | .reading => readNow
  | .looking =>
    match a.pending.get? key with
    | some f => (.goes (.listening f), a)
    | none =>
      if a.isCached key then (.goes .rereading, a)
      else (.ends (.leads a.flights.length), a.openFlight key)
  | .rereading => readNow
where
  readNow : Sequel V × Accessor V :=
    match a.read key with
    | (some v, a) => (.ends (.answered (.ok v)), a)
    | (none, a) => (.goes .looking, a)

/-- The stages of a caller from one on, each with the accessor that it finds, and the
turn that they come to with the accessor that it leaves. -/
inductive Passes (key : String) :
    Accessor V → Stage → List (Stage × Accessor V) → Turn V × Accessor V → Prop
  | last {a a' : Accessor V} {s : Stage} {t : Turn V} (ends : a.proceed key s = (.ends t, a')) :
      Passes key a s [(s, a)] (t, a')
  | more {a a' : Accessor V} {s s' : Stage} {stages : List (Stage × Accessor V)}
      {p : Turn V × Accessor V} (goes : a.proceed key s = (.goes s', a'))
      (rest : Passes key a' s' stages p) : Passes key a s ((s, a) :: stages) p

section
variable {a a' : Accessor V} {key : String} {s s' : Stage} {stages : List (Stage × Accessor V)}
  {p : Turn V × Accessor V}

/-- Nothing is left to choice. -/
theorem Passes.unique (h : Passes key a s stages p) {stages' : List (Stage × Accessor V)}
    {p' : Turn V × Accessor V} (h' : Passes key a s stages' p') : stages' = stages ∧ p' = p := by
  induction h generalizing stages' with
  | last ends =>
    cases h' with
    | last ends' =>
      cases ends.symm.trans ends'
      exact ⟨rfl, rfl⟩
    | more goes' _ => cases ends.symm.trans goes'
  | more goes _ ih =>
    cases h' with
    | last ends' => cases goes.symm.trans ends'
    | more goes' rest' =>
      cases goes.symm.trans goes'
      obtain ⟨rfl, rfl⟩ := ih rest'
      exact ⟨rfl, rfl⟩

/-! ## What a stage leaves -/

/-- A read takes a miss away, or finds what is there. -/
theorem read_eq (a : Accessor V) (key : String) :
    (∃ m, a.misses = m + 1 ∧ a.read key = (none, { a with misses := m })) ∨
      a.misses = 0 ∧ a.read key = (a.cache.get? key, a) := by
  unfold read
  cases a.misses with
  | zero => exact .inr ⟨rfl, rfl⟩
  | succ m => exact .inl ⟨m, rfl, rfl⟩

/-- A read that finds nothing has used up a miss, or there is nothing to be found. -/
theorem read_eq_none (h : a.read key = (none, a')) :
    (∃ m, a.misses = m + 1 ∧ a' = { a with misses := m }) ∨
      a.misses = 0 ∧ a.cache.contains key = false ∧ a' = a := by
  rcases a.read_eq key with ⟨m, misses, read⟩ | ⟨misses, read⟩
  · cases read.symm.trans h
    exact .inl ⟨m, misses, rfl⟩
  · obtain ⟨missing, rfl⟩ := Prod.mk.inj (read.symm.trans h)
    refine .inr ⟨misses, ?_, rfl⟩
    rw [Cache.contains, missing]
    rfl

/-- What a stage can lead to. -/
inductive Proceeds (a : Accessor V) (key : String) : Stage → Stage → Accessor V → Prop
  | lost {f : Nat} (lost : a.flights[f]? = some .lost) : Proceeds a key (.listening f) .reading a
  | missed {s : Stage} {m : Nat} (reads : s.reads = true) (misses : a.misses = m + 1) :
      Proceeds a key s .looking { a with misses := m }
  | nothing {s : Stage} (reads : s.reads = true) (misses : a.misses = 0)
      (missing : a.cache.contains key = false) : Proceeds a key s .looking a
  | joins {f : Nat} (announced : a.pending.get? key = some f) :
      Proceeds a key .looking (.listening f) a
  | finds (held : a.cache.contains key = true) : Proceeds a key .looking .rereading a

/-- There is nothing else that a stage leads to. -/
theorem proceeds (h : a.proceed key s = (.goes s', a')) : a.Proceeds key s s' a' := by
  have read : proceed.readNow a key = (.goes s', a') → s.reads = true → a.Proceeds key s s' a' := by
    intro h reads
    unfold proceed.readNow at h
    split at h
    · cases h
    · rename_i b found
      cases h
      rcases read_eq_none found with ⟨m, misses, rfl⟩ | ⟨misses, missing, rfl⟩
      · exact .missed reads misses
      · exact .nothing reads misses missing
  unfold proceed at h
  split at h
  · split at h
    · cases h
    · cases h
      exact .lost ‹_›
    · cases h
  · exact read h rfl
  · split at h
    · cases h
      exact .joins ‹_›
    · split at h
      · cases h
        exact .finds ‹_›
      · cases h
  · exact read h rfl

/-! ## How often the cache is read -/

/-- How often a caller may yet read the cache from a stage on. -/
def budget (a : Accessor V) (key : String) : Stage → Nat
  | .listening f =>
    match a.flights[f]? with
    | some .lost => a.misses + 1
    | _ => 0
  | .reading => a.misses + 1
  | .looking => if a.cache.contains key then a.misses + 1 else 0
  | .rereading => a.misses + 1

/-- A read is within the budget. -/
theorem reads_le_budget (a : Accessor V) (key : String) (s : Stage) :
    (if s.reads then 1 else 0) ≤ a.budget key s := by
  cases s <;> simp [Stage.reads, budget]

/-- The budget is one read and one more for each read that is to report nothing. -/
theorem budget_le (a : Accessor V) (key : String) (s : Stage) : a.budget key s ≤ a.misses + 1 := by
  unfold budget
  split
  · split <;> omega
  · exact Nat.le_refl _
  · split <;> omega
  · exact Nat.le_refl _

theorem budget_of_reads (reads : s.reads = true) : a.budget key s = a.misses + 1 := by
  cases s with
  | listening f => cases reads
  | reading => rfl
  | looking => cases reads
  | rereading => rfl

/-- What is announced under a key is not over. -/
def Going (a : Accessor V) (key : String) : Prop :=
  ∀ f, a.pending.get? key = some f → a.flights[f]? = some .open_

theorem Going.proceed (h : a.Going key) (goes : a.proceed key s = (.goes s', a')) :
    a'.Going key := by
  cases proceeds goes <;> exact h

/-- What a stage reads is taken from the budget. -/
theorem proceed_budget (h : a.Going key) (goes : a.proceed key s = (.goes s', a')) :
    a'.budget key s' + (if s.reads then 1 else 0) ≤ a.budget key s := by
  cases proceeds goes with
  | lost lost => simp [Stage.reads, budget, lost]
  | @missed _ m reads misses =>
    have left : ({ a with misses := m } : Accessor V).budget key .looking ≤ m + 1 := budget_le ..
    rw [budget_of_reads reads, if_pos reads, misses]
    exact Nat.succ_le_succ left
  | nothing reads misses missing =>
    have left : a.budget key .looking = 0 := by simp [budget, missing]
    rw [budget_of_reads reads, if_pos reads, left, misses]
  | joins announced => simp [Stage.reads, budget, h _ announced]
  | finds held => simp [Stage.reads, budget, held]

/-- No more is read than the budget has. -/
theorem Passes.reads_le (h : Passes key a s stages p) (going : a.Going key) :
    stages.countP (·.1.reads) ≤ a.budget key s := by
  induction h with
  | @last a _ s _ ends =>
    rw [List.countP_singleton]
    exact a.reads_le_budget key s
  | @more a a' s s' stages p goes rest ih =>
    calc ((s, a) :: stages).countP (·.1.reads)
        = stages.countP (·.1.reads) + (if s.reads then 1 else 0) := List.countP_cons ..
      _ ≤ a'.budget key s' + (if s.reads then 1 else 0) :=
        Nat.add_le_add_right (ih (going.proceed goes)) _
      _ ≤ a.budget key s := proceed_budget going goes

/-! ## What goes round -/

/-- A caller that reads again and goes round has used up a read that was to report
nothing. -/
theorem Passes.rounds (h : Passes key a s stages p)
    (held : s = .rereading → a.cache.contains key = true) :
    stages.IsChain fun x y => x.1 = .rereading → x.2.misses = y.2.misses + 1 := by
  induction h with
  | last ends => exact .singleton _
  | @more a a' s s' stages p goes rest ih =>
    -- a caller reads again only where it has just found that there is a value
    have held' : s' = .rereading → a'.cache.contains key = true := by
      rintro rfl
      cases proceeds goes with
      | finds found => exact found
    have used : s = .rereading → a.misses = a'.misses + 1 := by
      rintro rfl
      cases proceeds goes with
      | missed _ misses => exact misses
      | nothing _ _ missing =>
        rw [held rfl] at missing
        cases missing
    cases rest with
    | last ends => exact .cons_cons used (ih held')
    | more goes rest => exact .cons_cons used (ih held')

/-! ## How a turn ends -/

theorem join_of_announced {f : Nat} (announced : a.pending.get? key = some f) (m : Nat) :
    a.join key m = (.waits f, { a with misses := m }) := by
  cases m <;> simp only [join, announced]

theorem join_of_missing (free : a.pending.get? key = none) (missing : a.cache.get? key = none)
    (m : Nat) :
    a.join key m = (.leads a.flights.length, { a.openFlight key with misses := m }) := by
  cases m <;> simp only [join, free, missing]

/-- Where there is a value, the loop goes round until no read is left that is to
report nothing. -/
theorem join_of_held {v : V} (free : a.pending.get? key = none) (held : a.cache.get? key = some v)
    (m : Nat) : a.join key m = (.answered (.ok v), { a with misses := 0 }) := by
  induction m with
  | zero => simp only [join, free, held]
  | succ m ih => simp only [join, free, held, ih]

theorem proceed_of_announced {f : Nat} (announced : a.pending.get? key = some f) :
    a.proceed key .looking = (.goes (.listening f), a) := by
  simp only [proceed, announced]

theorem proceed_of_missing (free : a.pending.get? key = none)
    (missing : a.cache.get? key = none) :
    a.proceed key .looking = (.ends (.leads a.flights.length), a.openFlight key) := by
  simp [proceed, free, isCached, Cache.contains, missing]

theorem proceed_of_held {v : V} (free : a.pending.get? key = none)
    (held : a.cache.get? key = some v) : a.proceed key .looking = (.goes .rereading, a) := by
  simp [proceed, free, isCached, Cache.contains, held]

/-- A caller that looks and finds a value goes round until it has read it, once for
each read that is to report nothing. -/
theorem passes_of_held {v : V} (free : a.pending.get? key = none)
    (held : a.cache.get? key = some v) :
    ∃ stages, Passes key a .looking stages (.answered (.ok v), { a with misses := 0 }) := by
  obtain ⟨cache, pending, flights, misses⟩ := a
  induction misses with
  | zero =>
    have reads : proceed ⟨cache, pending, flights, 0⟩ key .rereading =
        (.ends (.answered (.ok v)), ⟨cache, pending, flights, 0⟩) := by
      simp only [proceed, proceed.readNow, read, held]
    exact ⟨_, .more (proceed_of_held free held) (.last reads)⟩
  | succ m ih =>
    have goesRound : proceed ⟨cache, pending, flights, m + 1⟩ key .rereading =
        (.goes .looking, ⟨cache, pending, flights, m⟩) := rfl
    obtain ⟨stages, rest⟩ := ih free held
    exact ⟨_, .more (proceed_of_held free held) (.more goesRound rest)⟩

/-- A caller that looks comes to what `join` says. -/
theorem passes_join (going : a.Going key) :
    ∃ stages, Passes key a .looking stages (a.join key a.misses) := by
  cases announced : a.pending.get? key with
  | some f =>
    have waits : a.proceed key (.listening f) = (.ends (.waits f), a) := by
      simp only [proceed, going f announced]
    rw [join_of_announced announced]
    exact ⟨_, .more (proceed_of_announced announced) (.last waits)⟩
  | none =>
    cases found : a.cache.get? key with
    | none =>
      rw [join_of_missing announced found]
      exact ⟨_, .last (proceed_of_missing announced found)⟩
    | some v =>
      rw [join_of_held announced found]
      exact passes_of_held announced found

/-- A caller that asks comes to what `load` says. -/
theorem passes_load (going : a.Going key) :
    ∃ stages, Passes key a .reading stages (a.load key) := by
  unfold load
  cases found : a.read key with
  | mk value b =>
    cases value with
    | some v =>
      have reads : a.proceed key .reading = (.ends (.answered (.ok v)), b) := by
        simp only [proceed, proceed.readNow, found]
      exact ⟨_, .last reads⟩
    | none =>
      have reads : a.proceed key .reading = (.goes .looking, b) := by
        simp only [proceed, proceed.readNow, found]
      obtain ⟨stages, rest⟩ := passes_join (going.proceed reads)
      exact ⟨_, .more reads rest⟩

/-- A caller that comes back to a flight comes to what `resume` says. -/
theorem passes_resume (f : Nat) (going : a.Going key) :
    ∃ stages, Passes key a (.listening f) stages (a.resume key f) := by
  unfold resume
  split
  · rename_i r landed
    have told : a.proceed key (.listening f) = (.ends (.answered r), a) := by
      simp only [proceed, landed]
    exact ⟨_, .last told⟩
  · rename_i lost
    have asks : a.proceed key (.listening f) = (.goes .reading, a) := by
      simp only [proceed, lost]
    obtain ⟨stages, rest⟩ := passes_load going
    exact ⟨_, .more asks rest⟩
  · rename_i notLanded notLost
    have waits : a.proceed key (.listening f) = (.ends (.waits f), a) := by
      rw [proceed]
      split
      · rename_i r landed
        exact absurd landed (notLanded r)
      · rename_i lost
        exact absurd lost notLost
      · rfl
    exact ⟨_, .last waits⟩

end

end LearningClient.Accessor
