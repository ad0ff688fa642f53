import CypherPages.Markdown.Block
import CypherPages.Markdown.BlockStart

/-! # Tables

A table starts with a line of cells and a line that aligns its columns. Bars stand between
cells; a bar behind a backslash belongs to its cell. -/

namespace CypherPages.Markdown

/-- The cells of a row. `cell` holds what is read of the first one, newest character first, and
`escaped` says that a backslash stands just before. -/
def splitRow (cell : Text) (escaped : Bool) : Text → List Text
  | [] => [cell.reverse]
  | c :: rest =>
    if c == '|' then
      if escaped then splitRow (c :: cell.drop 1) false rest
      else cell.reverse :: splitRow [] false rest
    else splitRow (c :: cell) (c == '\\') rest

def dropEmptyFirst : List Text → List Text
  | [] :: rest => rest
  | cells => cells

/-- The cells of a line. Bars at its ends enclose the row. -/
def rowCells (line : Text) : List Text :=
  let cells := dropEmptyFirst (splitRow [] false (trimSpace line))
  ((dropEmptyFirst cells.reverse).reverse).map trimSpace

/-- The alignment that a cell of hyphens and colons states. -/
def alignment? (cell : Text) : Option Alignment :=
  let left := cell.head? == some ':'
  let right := cell.getLast? == some ':'
  let hyphens := ((cell.drop (if left then 1 else 0)).reverse.drop (if right then 1 else 0))
  if hyphens.isEmpty || !hyphens.all (· == '-') then none
  else if left && right then some .center
  else if left then some .left
  else if right then some .right
  else some .unset

/-- The alignments of the columns that a line states. An empty cell may stand at either end. -/
def alignments? (line : Text) : Option (List Alignment) :=
  let cells := (line.splitOn '|').map trimSpace
  let inner := (dropEmptyFirst (dropEmptyFirst cells).reverse).reverse
  inner.mapM alignment?

/-- Whether a line may align the columns of a table. -/
def isAlignmentLine (content : Text) : Bool :=
  let isMark := fun c => c == '|' || c == '-' || c == ':'
  match content with
  | first :: second :: rest =>
    isMark first && (isMark second || isSpace second) && !(first == '-' && isSpace second) &&
      rest.all fun c => isMark c || isSpace c
  | _ => false

/-- The alignments and the header cells of the table that two lines start. -/
def tableHead? (margin : Margin) (first second : Line) : Option (List Alignment × List Text) :=
  if second.indent < margin.column || second.isCode margin || first.isCode margin ||
      !isAlignmentLine second.content || !first.content.contains '|' then none
  else
    match alignments? second.content with
    | none => none
    | some alignments =>
      let cells := rowCells first.content
      if cells.isEmpty || cells.length != alignments.length then none
      else some (alignments, cells)

def startsTable (margin : Margin) : List Line → Bool
  | first :: second :: _ => (tableHead? margin first second).isSome
  | _ => false

/-- The lines of a table behind its head. -/
def tableRows (margin : Margin) (lines : List Line) : List Line :=
  lines.takeWhile fun line =>
    !(line.indent < margin.column || line.content.all isTextSpace || line.isCode margin ||
      line.startsBlock margin (line.list? margin).isSome)

/-- A row with as many cells as there are columns. -/
def fitRow (columns : Nat) (cells : List Text) : List Text :=
  cells.take columns ++ List.replicate (columns - cells.length) []

/-- How many cells may be missing in the rows of a table, less those that are too many. -/
def maxMissingCells : Int := 65536

/-- Rows with as many cells as there are columns, up to the first with which too many cells are
missing. In the rows before, `missing` cells are. -/
def fitRows (columns : Nat) (missing : Int) : List (List Text) → List (List Text)
  | [] => []
  | cells :: rest =>
    let missing := missing + columns - cells.length
    if maxMissingCells < missing then [] else fitRow columns cells :: fitRows columns missing rest

/-- The table that the lines start, and the number of lines behind the first that it takes. -/
def table? (margin : Margin) (line : Line) (rest : List Line) : Option (Block × Nat) :=
  match rest with
  | [] => none
  | second :: others =>
    (tableHead? margin line second).map fun (alignments, header) =>
      let cells := (tableRows margin others).map fun row => rowCells row.content
      let rows := fitRows header.length 0 cells
      (.table alignments header rows, rows.length + 1)

end CypherPages.Markdown
