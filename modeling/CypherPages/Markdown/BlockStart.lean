import CypherPages.Markdown.Line
import CypherPages.Markdown.RawHtml

/-! # Starts of blocks

What a line shows about the block that it starts. A line that is set in by four columns or more
starts nothing but code. -/

namespace CypherPages.Markdown

/-- The margin of a container: the column where its content starts, and for a list item the
column where the content around the list starts. -/
structure Margin where
  column : Int
  list : Option Int

/-- The margin of a document or a quote. -/
def Margin.zero : Margin := ⟨0, none⟩

/-- What opens fenced code. -/
structure Fence where
  marker : Char
  length : Nat
  info : Text

structure ListMarker where
  number : Option Nat
  /-- The character that tells lists apart. -/
  delimiter : Char
  /-- The number of characters. -/
  width : Nat
  after : Text

namespace Line

/-- Whether a line is set in as far as code. -/
def isCode (margin : Margin) (line : Line) : Bool := 4 ≤ line.indent - margin.column

/-- The fence that a line opens. What stands behind a fence of backquotes holds none. -/
def fence? (margin : Margin) (line : Line) : Option Fence :=
  match line.content with
  | [] => none
  | c :: _ =>
    let length := (line.content.takeWhile (· == c)).length
    let info := line.content.drop length
    let tilde := c == '~'
    let backquote := c == Char.ofNat 0x60
    if line.isCode margin || !(tilde || backquote) || length < 3 then none
    else if backquote && info.contains c then none
    else some ⟨c, length, info⟩

def closes (margin : Margin) (fence : Fence) (line : Line) : Bool :=
  let length := (line.content.takeWhile (· == fence.marker)).length
  !line.isCode margin && fence.length ≤ length && (line.content.drop length).all isSpace

def isQuote (margin : Margin) (line : Line) : Bool :=
  !line.isCode margin && line.content.head? == some '>'

/-- Whether a line is a thematic break: three or more equal marks and nothing else. -/
def isThematicBreak (margin : Margin) (line : Line) : Bool :=
  match line.content with
  | [] => false
  | c :: _ =>
    !line.isCode margin && (c == '*' || c == '-' || c == '_') &&
      line.content.all (fun d => d == c || isSpace d) && 3 ≤ line.content.count c

/-- The level and the text of a heading. A run of number signs behind the text and a space is
not part of it. -/
def heading? (margin : Margin) (line : Line) : Option (Nat × Text) :=
  let level := (line.content.takeWhile (· == '#')).length
  let rest := line.content.drop level
  if line.isCode margin || level = 0 || 6 < level || !(rest.isEmpty || rest.head?.any isSpace) then
    none
  else
    let text := Text.dropEndWhile isSpace rest
    let opened := Text.dropEndWhile (· == '#') text
    some (level, trimSpace (if opened.getLast?.any isSpace then opened else text))

/-- The marker of an item of an unordered list that starts a text. -/
def bullet? : Text → Option ListMarker
  | [] => none
  | c :: rest =>
    if (c == '*' || c == '-' || c == '+') && (rest.isEmpty || rest.head?.any isSpace) then
      some ⟨none, c, 1, rest⟩
    else none

/-- The marker of an item of an ordered list that starts a text. Its number has at most nine
digits. -/
def ordinal? (t : Text) : Option ListMarker :=
  let digits := t.takeWhile Numeral.isDigit
  match t.drop digits.length with
  | c :: rest =>
    if !digits.isEmpty && digits.length ≤ 9 && (c == ')' || c == '.') &&
        (rest.isEmpty || rest.head?.any isSpace) then
      some ⟨some (Numeral.ofDigits digits), c, digits.length + 1, rest⟩
    else none
  | [] => none

/-- The marker of a list item that starts a text. -/
def marker? (t : Text) : Option ListMarker := (ordinal? t).or (bullet? t)

/-- The marker of the list that a line starts. A line that stands between the margins of two
nested lists, four columns behind the outer one, starts none. -/
def list? (margin : Margin) (line : Line) : Option ListMarker :=
  let between := margin.list.any fun outer =>
    4 ≤ line.indent - outer && line.indent < margin.column
  if line.isCode margin || between then none else marker? line.content

/-- Whether a line starts a list that may end a paragraph: one whose first item is not empty and
has the number one, if any. A line left of the margin may start any list. -/
def isInterruptingList (margin : Margin) (line : Line) : Bool :=
  match line.list? margin with
  | none => false
  | some marker =>
    line.indent < margin.column ||
      ((marker.number.all fun n => n == 1) && !marker.after.all isSpace)

/-- Where the block of raw markup ends that a line starts, and whether it may end a
paragraph. -/
def html? (margin : Margin) (line : Line) : Option (RawHtml.BlockEnd × Bool) :=
  if line.isCode margin then none else RawHtml.blockEnd? line.content

/-- The level of the heading that a line makes of the paragraph before it. -/
def underline? (line : Line) : Option Nat :=
  match line.content with
  | [] => none
  | c :: _ =>
    if (c == '-' || c == '=') && (line.content.dropWhile (· == c)).all isSpace then
      some (if c == '=' then 1 else 2)
    else none

/-- Whether a line ends a list item before it. -/
def endsItem (margin : Margin) (line : Line) : Bool :=
  (line.fence? margin).isSome || line.isQuote margin || line.isThematicBreak margin

/-- Whether a line starts a block, if a list that starts on it counts. -/
def startsBlock (margin : Margin) (startsList : Bool) (line : Line) : Bool :=
  line.endsItem margin || startsList || (line.html? margin).any (·.2) ||
    (line.heading? margin).isSome

end Line

end CypherPages.Markdown
