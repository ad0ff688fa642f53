import CypherPages.Build.CodeBlock
import CypherPages.Proofs.Directive.Scan

/-! # Published texts

The text of a published block is the code of its source without the blank lines at the front. It
holds no directives and starts with no blank line, so publishing it again changes nothing. -/

namespace CypherPages

/-- A text holds the lines of a code from its first line on that is not blank. -/
structure CodeFrom (code : List Text) (text : Text) : Prop where
  exists_front : ∃ front rest, code = front ++ rest ∧ (∀ line ∈ front, line.isBlankText = true) ∧
    (∀ line ∈ rest.head?, line.isBlankText = false) ∧ text = Text.unlines rest ∧
    (rest ≠ [] → text ≠ [] ∧ text.lines = rest)
  eq_nil : (∀ line ∈ code, line.isBlankText = true) → text = []

theorem CodeFrom.first {code : List Text} {text : Text} (h : CodeFrom code text) :
    text = [] ∨ ∀ line ∈ text.lines.head?, line.isBlankText = false := by
  obtain ⟨_, rest, -, -, hhead, rfl, hlines⟩ := h.exists_front
  cases rest with
  | nil => exact .inl rfl
  | cons line rest =>
      right
      rwa [(hlines (List.cons_ne_nil line rest)).2]

/-! ### Blank lines at the front -/

theorem head?_dropWhile_isBlankText (code : List Text) :
    ∀ line ∈ (code.dropWhile Text.isBlankText).head?, line.isBlankText = false := by
  intro line hline
  cases hrest : code.dropWhile Text.isBlankText with
  | nil => simp [hrest] at hline
  | cons first rest =>
      obtain ⟨-, -, -, hfirst⟩ := exists_of_dropWhile hrest
      rw [hrest] at hline
      rwa [← Option.some.inj hline]

/-- Lines put together lose those that are blank at the front. -/
theorem stripLeadingBlankLines_unlines {code : List Text} (h : ∀ line ∈ code, '\n' ∉ line) :
    stripLeadingBlankLines (Text.unlines code) =
      Text.unlines (code.dropWhile Text.isBlankText) := by
  cases code with
  | nil => rfl
  | cons line code =>
      rw [stripLeadingBlankLines, Text.lines_unlines h (List.cons_ne_nil line code)]

theorem stripLeadingBlankLines_strip (code : Text) :
    stripLeadingBlankLines (stripLeadingBlankLines code) = stripLeadingBlankLines code := by
  have hlines : ∀ line ∈ code.lines.dropWhile Text.isBlankText, '\n' ∉ line := fun line hline =>
    Text.not_mem_of_mem_lines ((List.dropWhile_sublist _).subset hline)
  calc stripLeadingBlankLines (stripLeadingBlankLines code)
      = Text.unlines ((code.lines.dropWhile Text.isBlankText).dropWhile Text.isBlankText) :=
        stripLeadingBlankLines_unlines hlines
    _ = stripLeadingBlankLines code := by rw [List.dropWhile_idempotent]; rfl

theorem codeFrom_strip {code : List Text} (h : ∀ line ∈ code, '\n' ∉ line) :
    CodeFrom code (stripLeadingBlankLines (Text.unlines code)) := by
  have hsub : ∀ line ∈ code.dropWhile Text.isBlankText, '\n' ∉ line := fun line hline =>
    h line ((List.dropWhile_sublist _).subset hline)
  rw [stripLeadingBlankLines_unlines h]
  refine ⟨⟨_, _, List.takeWhile_append_dropWhile.symm, ?_, head?_dropWhile_isBlankText code, rfl,
    fun hrest => ⟨?_, Text.lines_unlines hsub hrest⟩⟩, ?_⟩
  · exact List.all_eq_true.mp List.all_takeWhile
  · intro hnil
    rcases Text.unlines_eq_nil_iff.mp hnil with hnil | hnil
    · exact hrest hnil
    · -- The first line would be empty, hence blank.
      have hblank := head?_dropWhile_isBlankText code [] (by rw [hnil]; rfl)
      cases hblank
  · intro hblank
    rw [List.dropWhile_eq_nil_iff.mpr hblank]
    rfl

/-! ### Directives of a published text -/

namespace Directive

/-- Lines of which none states a directive make up a text without directives. -/
theorem byKey_unlines {code : List Text} (hlines : ∀ line ∈ code, '\n' ∉ line)
    (h : ∀ line ∈ code, ofLine? line = none) : byKey (Text.unlines code) = [] := by
  have hcode : ∀ line ∈ (Text.unlines code).lines, ofLine? line = none := by
    cases code with
    | nil =>
        intro line hline
        obtain rfl := List.mem_singleton.mp hline
        rfl
    | cons first rest =>
        rw [Text.lines_unlines hlines (List.cons_ne_nil first rest)]
        exact h
  have hall : all (Text.unlines code) = [] := by
    rw [all, List.filterMap_eq_nil_iff]
    intro line hline
    refine hcode line ?_
    unfold sourceLines at hline
    split at hline
    · exact (List.dropLast_sublist _).subset hline
    · exact hline
  rw [byKey, hall]
  rfl

end Directive

namespace CodeBlock

open Directive

/-- A published text holds no directives and does not start with blank lines. Of its source it
keeps all lines that state no directive, in order, from the first one on that is not blank. -/
theorem publishedText_keeps_code (source : Text) :
    ∃ lines code directives, LinesOf source lines ∧ Divides lines code directives ∧
      CodeFrom code (publishedText source) ∧
      (publishedText source = [] ∨
        ∀ line ∈ (publishedText source).lines.head?, line.isBlankText = false) ∧
      (scan (publishedText source)).2 = [] ∧
      stripLeadingBlankLines (publishedText source) = publishedText source := by
  have hlines := linesOf_sourceLines source
  have hcode : ∀ line ∈ (sourceLines source).filter fun line => (ofLine? line).isNone,
      '\n' ∉ line ∧ ofLine? line = none := by
    intro line hline
    obtain ⟨hmem, hnone⟩ := List.mem_filter.mp hline
    exact ⟨hlines.no_newline line hmem, Option.isNone_iff_eq_none.mp hnone⟩
  have hnewline := fun line hline => (hcode line hline).1
  have hfrom := codeFrom_strip hnewline
  refine ⟨_, _, _, hlines, divides_filter _, hfrom, hfrom.first, ?_,
    stripLeadingBlankLines_strip _⟩
  have hsub := (List.dropWhile_sublist (l := (sourceLines source).filter fun line =>
    (ofLine? line).isNone) Text.isBlankText).subset
  show byKey (stripLeadingBlankLines (Text.unlines _)) = []
  rw [stripLeadingBlankLines_unlines hnewline]
  exact byKey_unlines (fun line hline => hnewline line (hsub hline))
    fun line hline => (hcode line (hsub hline)).2

end CodeBlock

end CypherPages
