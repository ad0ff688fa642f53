import CypherPages.Text.Basic

/-! # Running text

The structure of running text in Markdown. -/

namespace CypherPages.Markdown

inductive Inline
  | text (characters : Text)
  /-- Characters that an escape or a reference stands for. -/
  | escaped (characters : Text)
  | softBreak
  | hardBreak
  | code (content : Text)
  /-- Markup that passes through. -/
  | html (markup : Text)
  /-- Emphasis, with the character that marks it. -/
  | emphasis (marker : Char) (content : List Inline)
  | strong (content : List Inline)
  | link (address title : Text) (content : List Inline)
  | image (address title : Text) (content : List Inline)

end CypherPages.Markdown
