import LearningClient.Proofs.Loads.LaneMoves
import LearningClient.Rehearsal.Script

/-!
# Keys do not disturb each other

A script is followed at an accessor, and beside it the same script with only
those lines that are about one key and its loads. The two runs mirror each
other (`Course.Mirrors`): the lane of the key is the same in both. A line
that is about the key keeps that when it is followed in both runs
(`Course.Mirrors.obey_both`), any other line when it is followed in the first
alone (`Course.Mirrors.obey_whole`), and what a line that is about the key is
answered can be read off the lane (`Course.Apart.reads_eq`). So whoever looks
at one key cannot tell the two runs apart (`Course.key_isolated`).
-/

namespace LearningClient.Rehearsal

open LearningClient

variable {V : Type} {k : String} {mine : String → Bool}

/-! ## One line -/

namespace Line

/-- A line is about a key if the move is that it makes. -/
theorem owns_of_move? {l : Line V} {m : Move V} (h : l.move? = some m) :
    Course.Apart.Owns k mine m = l.concerns k mine := by
  cases l <;> cases h <;> rfl

theorem not_miss_of_move? {l : Line V} {m : Move V} (h : l.move? = some m) :
    ∀ n, m ≠ .miss n := by
  rintro n rfl
  cases l <;> cases h

/-- A call that a line makes as a move is the call that the line makes. -/
theorem makes?_of_move? {l : Line V} {id key : String} {purpose : Purpose}
    {o : Option (Outcome V)} (h : l.move? = some (.call id purpose key o)) :
    l.makes? id = some (purpose, key) := by
  cases l <;> cases h
  exact if_pos rfl

end Line

namespace Lane

/-- A line that is about the key of a lane. -/
def enter (lane : Lane V) (l : Line V) : Lane V :=
  match l.move? with
  | none => lane
  | some m => lane.move m

/-- What a line that is about the key is answered, from the lane alone. -/
def reads (lane : Lane V) : Line V → Reading V
  | .isCached _ => .flag lane.held.isSome
  | .cached _ => .value lane.held
  | .finish id _ => .flag ((lane.riders.find? (·.id = id)).any (·.outcome.isNone))
  | .abort id => .flag (lane.riders.find? (·.id = id)).isSome
  | _ => .nothing

end Lane

namespace Course

/-! ## Names -/

/-- Nobody is forgotten when a line is followed. -/
theorem names_obey {x : Course V} {l : Line V} {id : String} (named : id ∈ x.names) :
    id ∈ (x.obey l).names := by
  show id ∈ (x.enter l).names
  unfold enter
  cases l.move? with
  | none => exact named
  | some m => exact names_move x m named

theorem names_obey_of_makes {x : Course V} {l : Line V} {id : String} {p : Purpose × String}
    (makes : l.makes? id = some p) : id ∈ (x.obey l).names := by
  cases l with
  | call i purpose key o =>
    simp only [Line.makes?] at makes
    split at makes
    · rename_i same
      subst same
      exact mem_names_call x i key purpose o
    · cases makes
  | _ => cases makes

/-- A name that is known after a line has been known before, or the line is
about it. -/
theorem of_names_obey {x : Course V} {l : Line V} {id : String} (named : id ∈ (x.obey l).names)
    (own : l.concerns k mine = true) : id ∈ x.names ∨ mine id = true := by
  change id ∈ (x.enter l).names at named
  cases l with
  | call i purpose key o =>
    change id ∈ (x.move _).names at named
    simp only [move] at named
    split at named
    · exact .inl named
    · rcases List.mem_append.mp named with old | new
      · exact .inl old
      · rw [List.mem_singleton.mp new]
        exact .inr own
  | _ => exact .inl named

/-! ## A line at the lane of a key -/

/-- The names that are meant are those of the loads of the key, as far as
they are yet to be called. -/
def Awaits (k : String) (mine : String → Bool) (x : Course V) (script : List (Line V)) : Prop :=
  ∀ id, id ∉ x.names →
    (mine id = true ↔ script.findSome? (·.makes? id) = some (.load, k))

theorem Awaits.next {x : Course V} {l : Line V} {script : List (Line V)}
    (h : x.Awaits k mine (l :: script)) : (x.obey l).Awaits k mine script := by
  intro id new
  have makes : l.makes? id = none := by
    cases makes : l.makes? id with
    | none => rfl
    | some p => exact absurd (names_obey_of_makes makes) new
  rw [h id (mt names_obey new), List.findSome?_cons, makes]

/-- If a line makes a call, then its name is meant exactly if the call is a
load of the key. -/
def Meant (k : String) (mine : String → Bool) (x : Course V) (l : Line V) : Prop :=
  ∀ id p, l.makes? id = some p → id ∉ x.names → (mine id = true ↔ p = (.load, k))

theorem Awaits.meant {x : Course V} {l : Line V} {script : List (Line V)}
    (h : x.Awaits k mine (l :: script)) : x.Meant k mine l := by
  intro id p makes new
  rw [h id new, List.findSome?_cons, makes]
  exact Option.some_inj

namespace Apart

variable {x : Course V} {l : Line V}

theorem enter (h : x.Apart k mine) (meant : x.Meant k mine l) : (x.enter l).Apart k mine := by
  unfold Course.enter
  cases moves : l.move? with
  | none => exact h
  | some m =>
    refine h.move m (Line.not_miss_of_move? moves) ?_
    rintro id purpose key o rfl new
    rw [meant id _ (Line.makes?_of_move? moves) new, Prod.mk.injEq]

theorem enter_own (h : x.Apart k mine) (own : l.concerns k mine = true) :
    (x.enter l).lane k mine = (x.lane k mine).enter l := by
  unfold Course.enter Lane.enter
  cases moves : l.move? with
  | none => rfl
  | some m => exact h.move_own ((Line.owns_of_move? moves).trans own)

theorem enter_foreign (h : x.Apart k mine) (foreign : l.concerns k mine = false) :
    (x.enter l).lane k mine = x.lane k mine := by
  unfold Course.enter
  cases moves : l.move? with
  | none => rfl
  | some m =>
    exact h.move_foreign ((Line.owns_of_move? moves).trans foreign) (Line.not_miss_of_move? moves)

/-- What a line that is about the key is answered can be read off the
lane. -/
theorem reads_eq (h : x.Apart k mine) (own : l.concerns k mine = true) :
    l.reads x.bench = (x.lane k mine).reads l := by
  cases l with
  | isCached key =>
    obtain rfl := of_decide_eq_true own
    rfl
  | cached key =>
    obtain rfl := of_decide_eq_true own
    simp only [Line.reads, Lane.reads, Accessor.cached, Accessor.read, h.truthful, Course.lane]
  | finish id r =>
    have found := find?_riders x.bench.accessor.flights x.bench.tasks own
    simp only [Line.reads, Lane.reads, Course.lane, found, Bench.finish]
    cases x.bench.tasks.find? (·.id = id) with
    | none => rfl
    | some t => cases known : t.outcome <;> simp [known, LoadTask.rider]
  | abort id =>
    have found := find?_riders x.bench.accessor.flights x.bench.tasks own
    simp only [Line.reads, Lane.reads, Course.lane, found, Bench.abort]
    cases x.bench.tasks.find? (·.id = id) with
    | none => rfl
    | some t => cases stands : t.standing <;> simp [stands]
  | _ => rfl

end Apart

/-! ## Two runs -/

/-- A run, and beside it a run of nothing but the lines about one key: the
lane of the key is the same. -/
structure Mirrors (k : String) (mine : String → Bool) (x y : Course V) : Prop where
  whole : x.Apart k mine
  alone : y.Apart k mine
  same : x.lane k mine = y.lane k mine
  rest : x.bench.ready = []
  only : ∀ id ∈ y.names, mine id = true

namespace Mirrors

variable {x y : Course V} {l : Line V} {script : List (Line V)}

/-- What is called in the first run, and meant, is called in the second. -/
theorem names (h : Mirrors k mine x y) {id : String} (own : mine id = true)
    (named : id ∈ x.names) : id ∈ y.names := by
  have mem : id ∈ (x.lane k mine).names := List.mem_filter.mpr ⟨named, own⟩
  rw [h.same] at mem
  exact (List.mem_filter.mp mem).1

/-- A line about the key is followed in both runs. -/
theorem obey_both (h : Mirrors k mine x y) (meant : x.Meant k mine l)
    (own : l.concerns k mine = true) : Mirrors k mine (x.obey l) (y.obey l) := by
  have meant' : y.Meant k mine l := by
    intro id p makes new
    refine meant id p makes (mt (h.names ?_) new)
    cases l with
    | call i purpose key o =>
      simp only [Line.makes?] at makes
      split at makes
      · rename_i same
        exact same ▸ own
      · cases makes
    | _ => cases makes
  obtain ⟨whole, settles⟩ := Apart.settles _ (h.whole.enter meant)
  obtain ⟨alone, settles'⟩ := Apart.settles _ (h.alone.enter meant')
  rw [h.whole.enter_own own] at settles
  rw [h.alone.enter_own own, ← h.same] at settles'
  refine ⟨whole, alone, settles.unique settles', (turns_settle _).2, fun id named => ?_⟩
  exact (of_names_obey named own).elim (h.only id) fun h => h

/-- Another line is followed in the first run only. -/
theorem obey_whole (h : Mirrors k mine x y) (meant : x.Meant k mine l)
    (foreign : l.concerns k mine = false) : Mirrors k mine (x.obey l) y := by
  obtain ⟨whole, settles⟩ := Apart.settles _ (h.whole.enter meant)
  rw [h.whole.enter_foreign foreign] at settles
  have none : (x.lane k mine).ready = [] := by rw [lane, h.rest]; rfl
  have same := (Lane.Settles.rest none).unique settles
  exact ⟨whole, h.alone, same.symm.trans h.same, (turns_settle _).2, h.only⟩

/-- Scripts that are followed in two runs, in the second without the lines
that are not about the key: the lines about the key are answered the same. -/
theorem follow (h : Mirrors k mine x y) {done rest : List (Line V)}
    (awaits : x.Awaits k mine (done ++ rest)) :
    Mirrors k mine (x.follow done) (y.follow (done.filter (·.concerns k mine))) ∧
      (x.readings done).filter (·.1.concerns k mine) =
        y.readings (done.filter (·.concerns k mine)) := by
  induction done generalizing x y with
  | nil => exact ⟨h, rfl⟩
  | cons l done ih =>
    have meant := awaits.meant
    cases own : l.concerns k mine with
    | true =>
      have answered : l.reads x.bench = l.reads y.bench := by
        rw [h.whole.reads_eq own, h.alone.reads_eq own, h.same]
      obtain ⟨mirrors, readings⟩ := ih (h.obey_both meant own) awaits.next
      rw [List.filter_cons_of_pos own]
      refine ⟨mirrors, ?_⟩
      simp only [Course.readings, List.filter_cons, own, if_true, readings, answered]
    | false =>
      obtain ⟨mirrors, readings⟩ := ih (h.obey_whole meant own) awaits.next
      have out : ¬ l.concerns k mine = true := by rw [own]; exact Bool.false_ne_true
      rw [List.filter_cons_of_neg out]
      refine ⟨mirrors, ?_⟩
      simp only [Course.readings, List.filter_cons, own, Bool.false_eq_true, if_false, readings]

end Mirrors

/-! ## Whole scripts -/

/-- What a script leads to, moves lead to. -/
theorem follow_eq_play (c : Cache V) (ms : List (Move V)) (script : List (Line V)) :
    ∃ ns, (play c ms).follow script = play c ns := by
  induction script generalizing ms with
  | nil => exact ⟨ms, rfl⟩
  | cons l script ih =>
    have entered : ∃ ns, (play c ms).enter l = play c ns := by
      unfold enter
      cases l.move? with
      | none => exact ⟨ms, rfl⟩
      | some m => exact ⟨ms ++ [m], (play_concat c ms m).symm⟩
    obtain ⟨ns, entered⟩ := entered
    obtain ⟨ids, settled⟩ := (turns_settle (play c ns)).1.eq_play
    have obeyed : (play c ms).obey l = play c (ns ++ ids.map .turn) := by
      rw [obey, entered, settled]
    rw [follow, List.foldl_cons, obeyed]
    exact ih _

/-- Keys are isolated from each other. A script is followed over any cache,
and after the lines `done` of it

- the lines about a key `k` and its loads have been answered what they are
  answered when they are followed alone, without all other lines, the calls
  for other keys, and the fetches that bypass the cache, also those of `k`;
- what has been seen of the loads of `k`, in order, is all that is seen when
  those lines are followed alone;
- the loads of `k` that are not over are the calls that are not over
  then. -/
theorem key_isolated (c : Cache V) (done rest : List (Line V)) (k : String) :
    let mine := isLoadOf (done ++ rest) k
    let whole := (play c []).follow done
    let alone := (play c []).follow (done.filter (·.concerns k mine))
    ((play c []).readings done).filter (·.1.concerns k mine) =
        (play c []).readings (done.filter (·.concerns k mine)) ∧
      whole.seen.filter (mine ·.id) = alone.seen ∧
      (whole.bench.tasks.filter fun t => t.purpose = .load ∧ t.key = k).map (·.id) =
        alone.bench.tasks.map (·.id) := by
  intro mine whole alone
  have apart : (play c []).Apart k mine :=
    ⟨sound_play c [], rfl, fun t mem => absurd mem List.not_mem_nil⟩
  have start : Mirrors k mine (play c []) (play c []) :=
    ⟨apart, apart, rfl, rfl, fun id mem => absurd mem List.not_mem_nil⟩
  have awaits : (play c []).Awaits k mine (done ++ rest) := fun id _ => decide_eq_true_iff
  obtain ⟨mirrors, readings⟩ := start.follow awaits
  obtain ⟨ns, played⟩ := follow_eq_play c [] (done.filter (·.concerns k mine))
  have only : ∀ id ∈ (play c ns).names, mine id = true := played ▸ mirrors.only
  refine ⟨readings, ?_, ?_⟩
  · have seen := congrArg Lane.seen mirrors.same
    have all : alone.seen.filter (mine ·.id) = alone.seen := by
      rw [List.filter_eq_self]
      intro e mem
      exact mirrors.only _ (played ▸ (logged_play c ns).unseen e (played ▸ mem))
    exact seen.trans all
  · have mine_iff : whole.bench.tasks.filter (fun t => t.purpose = .load ∧ t.key = k) =
        whole.bench.tasks.filter (mine ·.id) := by
      apply List.filter_congr
      intro t mem
      rw [Bool.eq_iff_iff, decide_eq_true_iff]
      exact (mirrors.whole.ours t mem).symm
    have all : alone.bench.tasks.filter (mine ·.id) = alone.bench.tasks := by
      rw [List.filter_eq_self]
      intro t mem
      exact mirrors.only _ (played ▸ (sound_play c ns).named t (played ▸ mem))
    have ids : ∀ x : Course V, (x.lane k mine).riders.map (·.id) =
        (x.bench.tasks.filter (mine ·.id)).map (·.id) := fun x => List.map_map
    rw [mine_iff, ← ids whole, mirrors.same, ids, all]

end Course

end LearningClient.Rehearsal
