import CypherPages.Text.Basic
import Mathlib.Tactic.Common

/-! # Lines

A text is its lines with a line feed between neighbours. No line holds a line feed. -/

namespace CypherPages.Text

theorem lines_ne_nil (t : Text) : t.lines ≠ [] :=
  List.splitOn_ne_nil _ t

theorem unlines_lines (t : Text) : unlines t.lines = t :=
  List.intercalate_splitOn '\n'

theorem lines_unlines {pieces : List Text} (h : ∀ piece ∈ pieces, '\n' ∉ piece)
    (hne : pieces ≠ []) : (unlines pieces).lines = pieces :=
  List.splitOn_intercalate '\n' h hne

theorem lines_append_newline (t : Text) : (t ++ ['\n']).lines = t.lines ++ [[]] :=
  List.splitOn_append_cons_self t []

theorem not_mem_of_mem_lines {t line : Text} (h : line ∈ t.lines) : '\n' ∉ line := by
  induction t generalizing line with
  | nil =>
      obtain rfl := List.mem_singleton.mp h
      simp
  | cons c t ih =>
      rw [lines, List.splitOn_cons_eq_if_modifyHead] at h
      split at h
      · rcases List.mem_cons.mp h with rfl | h
        · simp
        · exact ih h
      · next hc =>
          cases hlines : t.splitOn '\n' with
          | nil => exact absurd hlines (lines_ne_nil t)
          | cons first rest =>
              have hrest : ∀ other ∈ first :: rest, '\n' ∉ other := by
                intro other hother
                exact ih (by rwa [lines, hlines])
              rw [hlines, List.modifyHead_cons] at h
              rcases List.mem_cons.mp h with rfl | h
              · simp [hrest first List.mem_cons_self, Ne.symm (by simpa using hc : c ≠ '\n')]
              · exact hrest line (List.mem_cons_of_mem _ h)

theorem unlines_eq_nil_iff {pieces : List Text} :
    unlines pieces = [] ↔ pieces = [] ∨ pieces = [[]] := by
  match pieces with
  | [] => simp [unlines]
  | [piece] => simp [unlines]
  | piece :: next :: rest => simp [unlines, List.intercalate_cons_cons]

/-! ### Line ends -/

theorem not_mem_normalizeNewlines (t : Text) : '\r' ∉ t.normalizeNewlines := by
  fun_induction normalizeNewlines t with
  | case1 => simp
  | case2 rest ih => simpa using ih
  | case3 rest _ ih => simpa using ih
  | case4 c rest _ hc ih => simpa using ⟨fun h => hc h.symm, ih⟩

theorem normalizeNewlines_of_not_mem {t : Text} (h : '\r' ∉ t) : t.normalizeNewlines = t := by
  fun_induction normalizeNewlines t with
  | case1 => rfl
  | case2 => simp at h
  | case3 => simp at h
  | case4 c rest _ _ ih => rw [ih (by simp_all)]

/-- A text whose line ends are made line feeds stays as it is only if it holds no carriage
return. -/
theorem normalizeNewlines_eq_self_iff {t : Text} : t.normalizeNewlines = t ↔ '\r' ∉ t :=
  ⟨fun h => h ▸ not_mem_normalizeNewlines t, normalizeNewlines_of_not_mem⟩

end CypherPages.Text
