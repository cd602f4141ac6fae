import Mathlib.Data.List.Basic
import Mathlib.Data.List.Induction

/-!
# The last word on a part of the state

A run is a list of moves, and each list of moves leads to a state. Some of
the moves have a word on a part of the state, and the others leave it alone
(`Decided`). Then the part is, in every state, what the last such move has
said (`Decided.last`), and what it was at the start as long as there has been
none (`Decided.silent`).
-/

namespace LearningClient

variable {σ μ ω : Type} {run : List μ → σ} {part : σ → ω} {decides : σ → μ → ω → Prop}

/-- A part of the state is decided by the moves that have a word on it:
`decides x m w` is that the move `m`, made in the state `x`, wants it to be `w`. -/
structure Decided (run : List μ → σ) (part : σ → ω) (decides : σ → μ → ω → Prop) : Prop where
  obeyed : ∀ {ms m w}, decides (run ms) m w → part (run (ms ++ [m])) = w
  kept : ∀ {ms m}, (∀ w, ¬ decides (run ms) m w) → part (run (ms ++ [m])) = part (run ms)

/-- None of the moves `later`, which come after the moves `ms`, has a word
on it. -/
def Silent (run : List μ → σ) (decides : σ → μ → ω → Prop) (ms later : List μ) : Prop :=
  ∀ as m bs w, later = as ++ m :: bs → ¬ decides (run (ms ++ as)) m w

theorem Silent.nil (ms : List μ) : Silent run decides ms [] := by
  rintro as m bs w h
  exact absurd h (by simp)

theorem Silent.cons {ms later : List μ} {m : μ} (quiet : ∀ w, ¬ decides (run ms) m w)
    (h : Silent run decides (ms ++ [m]) later) : Silent run decides ms (m :: later) := by
  rintro as n bs w split
  cases as with
  | nil =>
    obtain ⟨rfl, rfl⟩ := List.cons.inj split
    rw [List.append_nil]
    exact quiet w
  | cons a as =>
    obtain ⟨rfl, tail⟩ := List.cons.inj split
    rw [List.append_cons]
    exact h as n bs w tail

theorem Silent.of_append {ms later more : List μ} (h : Silent run decides ms (later ++ more)) :
    Silent run decides ms later := by
  rintro as m bs w rfl
  exact h as m (bs ++ more) w (by rw [List.append_assoc, List.cons_append])

theorem Silent.concat {ms later : List μ} {m : μ} (h : Silent run decides ms later)
    (quiet : ∀ w, ¬ decides (run (ms ++ later)) m w) : Silent run decides ms (later ++ [m]) := by
  intro as n bs w split
  rcases bs.eq_nil_or_concat' with rfl | ⟨cs, z, rfl⟩
  · obtain ⟨rfl, same⟩ := List.append_inj' split rfl
    rw [← (List.cons.inj same).1]
    exact quiet w
  · rw [← List.cons_append, ← List.append_assoc] at split
    exact h as n cs w (List.append_inj' split rfl).1

/-- Either none of the moves has a word, or there is a last one that has. -/
theorem silent_or_last (run : List μ → σ) (decides : σ → μ → ω → Prop) (ms later : List μ) :
    Silent run decides ms later ∨ ∃ as m bs w, later = as ++ m :: bs ∧
      decides (run (ms ++ as)) m w ∧ Silent run decides (ms ++ (as ++ [m])) bs := by
  induction later using List.reverseRecOn with
  | nil => exact .inl (.nil ms)
  | append_singleton later m ih =>
    by_cases word : ∃ w, decides (run (ms ++ later)) m w
    · obtain ⟨w, word⟩ := word
      exact .inr ⟨later, m, [], w, rfl, word, .nil _⟩
    · have quiet := not_exists.mp word
      rcases ih with silent | ⟨as, n, bs, w, rfl, last, silent⟩
      · exact .inl (silent.concat quiet)
      · refine .inr ⟨as, n, bs ++ [m], w, by simp, last, silent.concat ?_⟩
        simpa using quiet

theorem Decided.silent (h : Decided run part decides) {ms later : List μ}
    (silent : Silent run decides ms later) : part (run (ms ++ later)) = part (run ms) := by
  induction later using List.reverseRecOn with
  | nil => rw [List.append_nil]
  | append_singleton later m ih =>
    have quiet : ∀ w, ¬ decides (run (ms ++ later)) m w := fun w => silent later m [] w rfl
    rw [← List.append_assoc, h.kept quiet, ih silent.of_append]

/-- If nobody wants it to be anything else than it is, it stays as it is. -/
theorem Decided.unopposed (h : Decided run part decides) {ms later : List μ} {w : ω}
    (start : part (run ms) = w)
    (words : ∀ as m bs v, later = as ++ m :: bs → decides (run (ms ++ as)) m v → v = w) :
    part (run (ms ++ later)) = w := by
  induction later using List.reverseRecOn with
  | nil => rwa [List.append_nil]
  | append_singleton later m ih =>
    have so_far : part (run (ms ++ later)) = w := ih fun as k bs v split =>
      words as k (bs ++ [m]) v (by rw [split, List.append_assoc, List.cons_append])
    rw [← List.append_assoc]
    by_cases word : ∃ v, decides (run (ms ++ later)) m v
    · obtain ⟨v, word⟩ := word
      rw [h.obeyed word, words later m [] v rfl word]
    · rw [h.kept (not_exists.mp word), so_far]

theorem Decided.last (h : Decided run part decides) {ms later : List μ} {m : μ} {w : ω}
    (word : decides (run ms) m w) (silent : Silent run decides (ms ++ [m]) later) :
    part (run (ms ++ m :: later)) = w := by
  rw [List.append_cons, h.silent silent, h.obeyed word]

end LearningClient
