import CypherPages.Proofs.Directive.Line
import CypherPages.Proofs.Entries

/-! # Code and directives of a source

The lines of a source are code or state a directive, each of them one of the two. The code of the
source is its code lines in order; its directives are those of the other lines, by key. -/

namespace CypherPages.Directive

/-- The lines of a source. A line feed at its very end ends the last line. -/
structure LinesOf (source : Text) (lines : List Text) : Prop where
  ne_nil : lines ≠ []
  no_newline : ∀ line ∈ lines, '\n' ∉ line
  joined : source = Text.unlines lines ++ ['\n'] ∨
    source = Text.unlines lines ∧ source.getLast? ≠ some '\n'

/-- Lines divided into code and directives. -/
inductive Divides : (lines code : List Text) → List Directive → Prop
  | nil : Divides [] [] []
  | code {line : Text} {lines code : List Text} {directives : List Directive}
      (hline : ∀ directive, ¬ States line directive) (hrest : Divides lines code directives) :
      Divides (line :: lines) (line :: code) directives
  | directive {line : Text} {lines code : List Text} {directive : Directive}
      {directives : List Directive} (hline : States line directive)
      (hrest : Divides lines code directives) :
      Divides (line :: lines) code (directive :: directives)

/-- The value of the last directive with exactly this key. -/
def lastValue? (directives : List Directive) (name : Text) : Option Text :=
  ((directives.filter fun directive => directive.key == name).getLast?).map Directive.value

/-- Entries by key: keys in the order in which they first came, each with its last value. -/
structure ByKey (directives : List Directive) (entries : Entries Text Text) : Prop where
  keys : entries.map Prod.fst = (directives.map Directive.key).eraseDups
  value : ∀ key, entries.get? key = lastValue? directives key

/-! ### The lines of a source -/

theorem sourceLines_ended (t : Text) : sourceLines (t ++ ['\n']) = t.lines := by
  rw [sourceLines, if_pos List.getLast?_concat, Text.lines_append_newline, List.dropLast_concat]

theorem linesOf_sourceLines (source : Text) : LinesOf source (sourceLines source) := by
  by_cases hended : source.getLast? = some '\n'
  · obtain ⟨t, rfl⟩ := List.getLast?_eq_some_iff.mp hended
    rw [sourceLines_ended]
    refine ⟨Text.lines_ne_nil t, fun line hline => Text.not_mem_of_mem_lines hline, .inl ?_⟩
    rw [Text.unlines_lines]
  · rw [sourceLines, if_neg hended]
    refine ⟨Text.lines_ne_nil source, fun line hline => Text.not_mem_of_mem_lines hline,
      .inr ⟨?_, hended⟩⟩
    rw [Text.unlines_lines]

/-! ### Code and directives -/

theorem isNone_ofLine?_iff (line : Text) :
    (ofLine? line).isNone = true ↔ ∀ directive, ¬ States line directive := by
  rw [Option.isNone_iff_eq_none, Option.eq_none_iff_forall_not_mem]
  exact forall_congr' fun directive => not_congr (ofLine?_eq_some_iff line directive)

/-- Reading every line divides lines into code and directives. -/
theorem divides_filter (lines : List Text) :
    Divides lines (lines.filter fun line => (ofLine? line).isNone) (lines.filterMap ofLine?) := by
  induction lines with
  | nil => exact .nil
  | cons line lines ih =>
      cases hline : ofLine? line with
      | none =>
          have hcode : (ofLine? line).isNone = true := by rw [hline]; rfl
          rw [List.filter_cons, if_pos hcode, List.filterMap_cons_none hline]
          exact .code ((isNone_ofLine?_iff line).mp hcode) ih
      | some directive =>
          rw [List.filter_cons, if_neg (by simp [hline]), List.filterMap_cons_some hline]
          exact .directive ((ofLine?_eq_some_iff line directive).mp hline) ih

theorem last?_directives (key : Text) (directives : List Directive) :
    Entries.last? key (directives.map fun d => (d.key, d.value)) = lastValue? directives key := by
  rw [Entries.last?, List.filter_map, List.getLast?_map, Option.map_map]
  rfl

theorem byKey_ofPairs (directives : List Directive) :
    ByKey directives (Entries.ofPairs (directives.map fun d => (d.key, d.value))) := by
  refine ⟨?_, fun key => ?_⟩
  · rw [Entries.keys_ofPairs, List.map_map]
    rfl
  · rw [Entries.ofPairs, Entries.get?_setAll, last?_directives]
    exact Option.or_none

/-- A source is divided line by line. What a line states is what the pattern of a directive line
captures of it; the code holds the other lines, and the directives are by key. -/
theorem scan_divides_lines (source : Text) :
    ∃ lines code directives, LinesOf source lines ∧ Divides lines code directives ∧
      (∀ line ∈ lines, ∀ directive, States line directive ↔
        Pattern.match? linePattern line = some [directive.key, directive.value] ∧
          directive.key ≠ []) ∧
      (scan source).1 = Text.unlines code ∧ ByKey directives (scan source).2 := by
  have hlines := linesOf_sourceLines source
  refine ⟨_, _, _, hlines, divides_filter _, ?_, rfl, byKey_ofPairs _⟩
  intro line hline directive
  exact states_iff_match? (hlines.no_newline line hline) directive

end CypherPages.Directive
