import LearningClient.Text.Blank
import Mathlib.Data.List.TakeWhile

/-!
# What trimming leaves

Trimming takes characters off both ends of a text and stops at the first that is
to be kept. So it stops at the ends of a text that has blanks around it
(`trim_between`), and where every character is kept it does nothing
(`dropWhile_ends_eq_self`). The latter is about any kind of character: addresses are
trimmed of more than blanks.
-/

namespace LearningClient.Text

/-- Where every character is kept, nothing is taken off either end. -/
theorem dropWhile_ends_eq_self {p : Char → Bool} {cs : List Char}
    (kept : ∀ c ∈ cs, p c = false) : ((cs.dropWhile p).reverse.dropWhile p).reverse = cs := by
  have front : ∀ ds : List Char, (∀ c ∈ ds, p c = false) → ds.dropWhile p = ds := by
    intro ds kept
    refine List.dropWhile_eq_self_iff.mpr fun full => ?_
    rw [kept _ (List.getElem_mem full)]
    exact Bool.false_ne_true
  have reversed : ∀ c ∈ cs.reverse, p c = false := fun c mem => kept c (List.mem_reverse.mp mem)
  rw [front cs kept, front cs.reverse reversed, List.reverse_reverse]

/-- Trimming stops at the first and the last character that are no blanks. -/
theorem trim_between {before text after : List Char}
    (blankBefore : ∀ c ∈ before, isBlank c = true) (blankAfter : ∀ c ∈ after, isBlank c = true)
    (front : ∃ c t, text = c :: t ∧ isBlank c = false)
    (back : ∃ t c, text = t ++ [c] ∧ isBlank c = false) :
    trim (before ++ (text ++ after)) = text := by
  have start : trimStart (before ++ (text ++ after)) = text ++ after := by
    obtain ⟨c, t, rfl, visible⟩ := front
    rw [trimStart, List.dropWhile_append_of_pos blankBefore, List.cons_append, List.dropWhile_cons,
      visible]
    rfl
  obtain ⟨t, c, rfl, visible⟩ := back
  have blankAfter' : ∀ c ∈ after.reverse, isBlank c = true :=
    fun c mem => blankAfter c (List.mem_reverse.mp mem)
  rw [trim, start, trimEnd, List.reverse_append, List.dropWhile_append_of_pos blankAfter',
    List.reverse_append, List.reverse_singleton, List.singleton_append, List.dropWhile_cons,
    visible]
  simp

end LearningClient.Text
