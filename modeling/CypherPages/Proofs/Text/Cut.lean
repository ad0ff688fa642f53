import CypherPages.Text.Basic
import Mathlib.Data.List.TakeWhile
import Mathlib.Tactic.Common

/-! # Cuts at the first of a kind -/

namespace CypherPages

/-- A text is cut in front of the first occurrence of a character. -/
theorem Text.cut_append {c : Char} {t : Text} (h : c ∉ t) (after : Text) :
    (t ++ c :: after).takeWhile (· ≠ c) = t ∧ (t ++ c :: after).dropWhile (· ≠ c) = c :: after := by
  have hall : ∀ d ∈ t, decide (d ≠ c) = true := by
    intro d hd
    exact decide_eq_true fun hcontra => h (hcontra ▸ hd)
  rw [List.takeWhile_append_of_pos hall, List.dropWhile_append_of_pos hall,
    List.takeWhile_cons_of_neg (by simp), List.dropWhile_cons_of_neg (by simp), List.append_nil]
  exact ⟨rfl, rfl⟩

/-- The first element that a class does not hold of, with what stands before it. -/
theorem exists_of_dropWhile {α : Type} {p : α → Bool} {list rest : List α} {next : α}
    (h : list.dropWhile p = next :: rest) :
    ∃ front, list = front ++ next :: rest ∧ front.all p = true ∧ p next = false := by
  refine ⟨list.takeWhile p, by rw [← h, List.takeWhile_append_dropWhile], List.all_takeWhile, ?_⟩
  have := List.dropWhile_get_zero_not p list (by simp [h])
  simpa [h] using this

end CypherPages
