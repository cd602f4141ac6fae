import LearningClient.Client.Query
import LearningClient.Proofs.Outcome
import LearningClient.Proofs.Text.Digits
import Mathlib.Data.List.Basic

/-!
# What passes the rules, and under which name it is kept

A query that passes its rules keeps the list of skills as it is written, and
asks for the first page (`QuestionQuery.ofTexts_eq_ok`). The list has only
digits and commas, and a count is written in digits, so the bars in the name
of a page are the first two of it, whatever the cursor holds: pages with one
name are one page (`QuestionQuery.cacheKey_inj`).
-/

namespace LearningClient

open LearningClient.Text

theorem eq_or_exists_of_mem_intercalate {α : Type} {x c : α} {ls : List (List α)}
    (h : c ∈ [x].intercalate ls) : c = x ∨ ∃ l ∈ ls, c ∈ l := by
  induction ls with
  | nil => exact absurd h List.not_mem_nil
  | cons l ls ih =>
    cases ls with
    | nil =>
      rw [List.intercalate_singleton] at h
      exact .inr ⟨l, List.mem_singleton_self l, h⟩
    | cons l' ls =>
      rw [List.intercalate_cons_cons, List.append_assoc, List.mem_append, List.mem_append] at h
      rcases h with h | h | h
      · exact .inr ⟨l, List.mem_cons_self, h⟩
      · exact .inl (List.mem_singleton.mp h)
      · rcases ih h with e | ⟨m, hm, hc⟩
        · exact .inl e
        · exact .inr ⟨m, List.mem_cons_of_mem _ hm, hc⟩

/-- What stands before the first occurrence of a mark, and what after it. -/
theorem split_at_mark_inj {α : Type} {a : α} {xs ys us vs : List α} (hx : a ∉ xs) (hy : a ∉ ys)
    (h : xs ++ a :: us = ys ++ a :: vs) : xs = ys ∧ us = vs := by
  induction xs generalizing ys with
  | nil =>
    cases ys with
    | nil => exact ⟨rfl, (List.cons.inj h).2⟩
    | cons y ys =>
      obtain ⟨rfl, _⟩ := List.cons.inj h
      exact absurd List.mem_cons_self hy
  | cons x xs ih =>
    cases ys with
    | nil =>
      obtain ⟨rfl, _⟩ := List.cons.inj h
      exact absurd List.mem_cons_self hx
    | cons y ys =>
      obtain ⟨rfl, tail⟩ := List.cons.inj h
      obtain ⟨rfl, rest⟩ := ih (fun m => hx (List.mem_cons_of_mem _ m))
        (fun m => hy (List.mem_cons_of_mem _ m)) tail
      exact ⟨rfl, rest⟩

namespace Parameter

theorem check_eq_ok {α : Type} {parameter : String} {r : Except Breach α} {v : α} :
    check parameter r = .ok v ↔ r = .ok v := by
  cases r with
  | error b => simp [check, Except.mapError]
  | ok w => simp [check, Except.mapError]

/-- What a check fails with says so. -/
theorem check_eq_error {α : Type} {parameter : String} {r : Except Breach α} {e : Failure}
    (h : check parameter r = .error e) : ∃ text, e = .validation text := by
  cases r with
  | error b =>
    cases h
    exact ⟨_, rfl⟩
  | ok w => cases h

theorem present_eq_ok {s t : String} (h : present s = .ok t) : t = s := by
  unfold present at h
  split at h
  · cases h
  · cases h
    rfl

/-- A list of numbers has digits and commas only. -/
theorem eq_comma_or_isDigit {cs : List Char} (h : isNumberList cs = true) {c : Char}
    (hc : c ∈ cs) : c = ',' ∨ c.isDigit = true := by
  rw [isNumberList, List.all_eq_true] at h
  have whole : [','].intercalate (cs.splitOn ',') = cs := List.intercalate_splitOn ','
  rw [← whole] at hc
  rcases eq_or_exists_of_mem_intercalate hc with comma | ⟨item, mem, hc⟩
  · exact .inl comma
  · have digits := h item mem
    rw [Bool.and_eq_true, List.all_eq_true] at digits
    exact .inr (digits.2 c hc)

end Parameter

/-- A skill id that passes its rules is not changed by them. -/
theorem checkSkillId_eq {s t : String} (h : checkSkillId s = .ok t) : t = s := by
  obtain ⟨u, present, h⟩ := bind_eq_ok.mp h
  obtain ⟨_, _, h⟩ := bind_eq_ok.mp h
  cases h
  exact Parameter.present_eq_ok (Parameter.check_eq_ok.mp present)

theorem checkSkillId_eq_error {s : String} {e : Failure} (h : checkSkillId s = .error e) :
    ∃ text, e = .validation text := by
  rcases bind_eq_error h with h | ⟨_, _, h⟩
  · exact Parameter.check_eq_error h
  rcases bind_eq_error h with h | ⟨_, _, h⟩
  · exact Parameter.check_eq_error h
  · cases h

namespace QuestionQuery

/-- A query that can be asked for: its list of skills is a list of numbers. -/
def Valid (q : QuestionQuery) : Prop := Parameter.isNumberList q.skillIds.toList = true

theorem ofTexts_eq_ok {s n : String} {q : QuestionQuery} (h : ofTexts s n = .ok q) :
    q.skillIds = s ∧ q.startCursor = "" ∧ q.Valid := by
  obtain ⟨s', present, h⟩ := bind_eq_ok.mp h
  obtain ⟨_, list, h⟩ := bind_eq_ok.mp h
  obtain ⟨n', _, h⟩ := bind_eq_ok.mp h
  obtain ⟨_, _, h⟩ := bind_eq_ok.mp h
  obtain ⟨_, _, h⟩ := bind_eq_ok.mp h
  cases h
  obtain rfl := Parameter.present_eq_ok (Parameter.check_eq_ok.mp present)
  have list := Parameter.check_eq_ok.mp list
  refine ⟨rfl, rfl, ?_⟩
  unfold Parameter.numberList at list
  split at list
  · assumption
  · cases list

theorem ofTexts_eq_error {s n : String} {e : Failure} (h : ofTexts s n = .error e) :
    ∃ text, e = .validation text := by
  rcases bind_eq_error h with h | ⟨_, _, h⟩
  · exact Parameter.check_eq_error h
  rcases bind_eq_error h with h | ⟨_, _, h⟩
  · exact Parameter.check_eq_error h
  rcases bind_eq_error h with h | ⟨_, _, h⟩
  · exact Parameter.check_eq_error h
  rcases bind_eq_error h with h | ⟨_, _, h⟩
  · exact Parameter.check_eq_error h
  rcases bind_eq_error h with h | ⟨_, _, h⟩
  · exact Parameter.check_eq_error h
  · cases h

theorem startingAt_valid {q : QuestionQuery} {cursor : String} (h : q.Valid) :
    (q.startingAt cursor).Valid := h

/-- Pages of two queries for first pages that start at cursors are one page
only if everything agrees. -/
theorem startingAt_inj {q r : QuestionQuery} {c d : String} (hq : q.startCursor = "")
    (hr : r.startCursor = "") (h : q.startingAt c = r.startingAt d) : q = r ∧ c = d := by
  obtain ⟨s, n, _⟩ := q
  obtain ⟨t, m, _⟩ := r
  obtain rfl := hq
  obtain rfl := hr
  cases h
  exact ⟨rfl, rfl⟩

theorem bar_notMem_skillIds {q : QuestionQuery} (h : q.Valid) : '|' ∉ q.skillIds.toList := by
  intro bar
  rcases Parameter.eq_comma_or_isDigit h bar with comma | digit
  · exact absurd comma (by decide)
  · exact absurd digit (by decide)

theorem bar_notMem_countText (q : QuestionQuery) : '|' ∉ q.countText.toList := by
  intro bar
  rw [countText, String.toList_ofList] at bar
  exact absurd (Nat.isDigit_of_mem_toDigits (by decide) (by decide) bar) (by decide)

theorem toList_cacheKey (q : QuestionQuery) :
    q.cacheKey.toList =
      q.skillIds.toList ++ '|' :: (q.countText.toList ++ '|' :: q.startCursor.toList) := by
  simp [cacheKey]

/-- Pages with one name are one page. -/
theorem cacheKey_inj {q r : QuestionQuery} (hq : q.Valid) (hr : r.Valid)
    (h : q.cacheKey = r.cacheKey) : q = r := by
  have keys := congrArg String.toList h
  rw [toList_cacheKey, toList_cacheKey] at keys
  obtain ⟨skills, keys⟩ :=
    split_at_mark_inj (bar_notMem_skillIds hq) (bar_notMem_skillIds hr) keys
  obtain ⟨counts, cursors⟩ :=
    split_at_mark_inj (bar_notMem_countText q) (bar_notMem_countText r) keys
  obtain ⟨s, n, c⟩ := q
  obtain ⟨s', n', c'⟩ := r
  obtain rfl := String.toList_injective skills
  obtain rfl := String.toList_injective cursors
  obtain rfl := natText_injective (String.ofList_injective (String.toList_injective counts))
  rfl

end QuestionQuery

end LearningClient
