import CypherPages.Markdown.LinkTarget
import CypherPages.Text.Blank

/-! # Lines of a Markdown document

A line as its container sees it: the white space in front, measured in columns, and the
content. A tab reaches to the next column that is a multiple of four; quote marks and list
markers in front of a line count as white space to what they contain. -/

namespace CypherPages.Markdown

/-- A line of a container. -/
structure Line where
  /-- The white space in front. -/
  lead : Text
  /-- What stands behind the white space; empty for a blank line. -/
  content : Text
  /-- The width of the white space in columns. It is negative for a line that is in a quote
  only because it goes on with the quote's paragraph. -/
  indent : Int
  /-- The column at which the white space starts, from which tabs are measured. -/
  column : Nat
  /-- Whether the line ends with a line feed. -/
  terminated : Bool

/-- The column behind a character of white space that stands at a column. -/
def columnAfter (column : Nat) (c : Char) : Nat :=
  if c == '\t' then column + 4 - column % 4 else column + 1

/-- The width of white space that starts at a column. -/
def widthFrom (column : Nat) (space : Text) : Nat := space.foldl columnAfter column - column

/-- White space in front of a text without as many columns as possible up to `columns`;
`passed` columns are taken off already. A tab that reaches further leaves spaces. -/
def cutColumns (start columns passed : Nat) : Text → Text
  | [] => List.replicate (passed - columns) ' '
  | c :: rest =>
    if passed < columns then
      cutColumns start columns (columnAfter (start + passed) c - start) rest
    else List.replicate (passed - columns) ' ' ++ c :: rest

namespace Line

/-- Whether nothing but white space stands on a line. -/
def isBlank (line : Line) : Bool := line.content.isEmpty

/-- A line without the first columns of its white space. -/
def cut (columns : Int) (line : Line) : Text :=
  cutColumns line.column columns.toNat 0 line.lead ++ line.content

def ofText (terminated : Bool) (t : Text) : Line :=
  let lead := t.takeWhile isSpace
  ⟨lead, t.dropWhile isSpace, widthFrom 0 lead, 0, terminated⟩

/-- The lines of a document. White space behind the last line feed makes no line. -/
def ofDocument (t : Text) : List Line :=
  let pieces := t.lines
  let last := pieces.getLast?.getD []
  pieces.dropLast.map (ofText true) ++
    if last.all isSpace then [] else [ofText false last]

/-- The lines without their first columns, with the line feeds between them. -/
def joined (columns : Int) (lines : List Line) : Text := Text.unlines (lines.map (cut columns))

/-- The lines without their first columns, each with its line feed. -/
def whole (columns : Int) (lines : List Line) : Text :=
  lines.flatMap fun line => line.cut columns ++ if line.terminated then ['\n'] else []

end Line

end CypherPages.Markdown
