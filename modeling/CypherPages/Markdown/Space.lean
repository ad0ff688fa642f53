import CypherPages.Text.Blank

/-! # White space in Markdown

Three classes of white space matter in Markdown: spaces and tabs, which set lines in; the line
feed beside them, which stands between the parts of a link; and the white space of Unicode,
which running text, cells and labels do not start or end with. The control character U+0085 is
text. -/

namespace CypherPages.Markdown

def isSpace (c : Char) : Bool := c == ' ' || c == '\t'

def isSpaceOrNewline (c : Char) : Bool := isSpace c || c == '\n'

/-- Whether a character is white space around running text. -/
def isTextSpace (c : Char) : Bool := isWhiteSpace c && c != '\u0085'

/-- Whether a character is white space to a mark of emphasis beside it. Separators of lines and
of paragraphs are not. -/
def isMarkSpace (c : Char) : Bool := isTextSpace c && c != '\u2028' && c != '\u2029'

/-- A text without the white space at either end. -/
def trimSpace (t : Text) : Text := Text.dropEndWhile isTextSpace (t.dropWhile isTextSpace)

/-- The longest pieces of a text without white space, in order. -/
def spaceWords (t : Text) : List Text :=
  (t.splitOnP isTextSpace).filter fun piece => !piece.isEmpty

end CypherPages.Markdown
