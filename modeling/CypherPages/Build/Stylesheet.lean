import CypherPages.Text.Basic

/-! # The stylesheet of query blocks

The packaged stylesheet, as rules and as text. -/

namespace CypherPages

/-- A style rule: what it applies to, and its properties with their values. -/
structure StyleRule where
  selectors : List String
  declarations : List (String × String)

namespace StyleRule

/-- A rule with each selector and each declaration on a line of its own. -/
def write (rule : StyleRule) : Text :=
  ",\n".toList.intercalate (rule.selectors.map String.toList) ++ " \x7b\n".toList ++
    (rule.declarations.flatMap fun (property, value) =>
      "  ".toList ++ property.toList ++ ": ".toList ++ value.toList ++ ";\n".toList) ++
    "\x7d\n".toList

def queryBlockRules : List StyleRule := [
  ⟨[".ladybug-query"], [("position", "relative")]⟩,
  ⟨[".ladybug-query .buttons"],
    [("position", "absolute"), ("top", "0.25rem"), ("right", "2.5rem")]⟩,
  ⟨[".run-ladybug-button"],
    [("border", "none"), ("background", "transparent"), ("cursor", "pointer"),
      ("width", "1.5rem"), ("height", "1.5rem")]⟩,
  ⟨[".run-ladybug-button::before"], [("content", "\"\\25B6\""), ("color", "#2e7d32")]⟩,
  ⟨[".ladybug-result"],
    [("margin", "0.5rem 0 1rem"), ("font-size", "0.9em"), ("overflow-x", "auto")]⟩,
  ⟨[".ladybug-result-table"], [("border-collapse", "collapse")]⟩,
  ⟨[".ladybug-result-table th", ".ladybug-result-table td"],
    [("border", "1px solid #ccc"), ("padding", "0.2rem 0.5rem"), ("text-align", "left")]⟩,
  ⟨[".ladybug-result-table .null"], [("color", "#999"), ("font-style", "italic")]⟩,
  ⟨[".ladybug-running", ".ladybug-empty"], [("color", "#666")]⟩,
  ⟨[".ladybug-stats"], [("margin-top", "0.3rem"), ("color", "#666")]⟩,
  ⟨[".ladybug-error"], [("color", "#b71c1c"), ("white-space", "pre-wrap")]⟩]

/-- Rules with an empty line between neighbours. -/
def writeAll (rules : List StyleRule) : Text :=
  ['\n'].intercalate (rules.map write)

end StyleRule

def packagedStylesheets : List (Text × Text) :=
  [("ladybug-query.css".toList, StyleRule.writeAll StyleRule.queryBlockRules)]

end CypherPages
