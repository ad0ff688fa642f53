import CypherPages.Text.Basic

/-! # Escaping for markup

The five characters that have a meaning in markup are written as character references, so a
text can stand between tags and inside quoted attribute values. -/

namespace CypherPages.Html

def escapeChar : Char → Text
  | '&' => "&amp;".toList
  | '<' => "&lt;".toList
  | '>' => "&gt;".toList
  | '"' => "&quot;".toList
  | '\'' => "&#x27;".toList
  | c => [c]

def escape (t : Text) : Text := t.flatMap escapeChar

end CypherPages.Html
