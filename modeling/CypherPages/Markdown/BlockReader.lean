import CypherPages.Markdown.Table

/-! # Reading blocks

The lines of a container are read block by block. Quotes and list items are containers of
their own: the reader of their content is a parameter, and nesting deeper than `maxDepth` is
passed over. -/

namespace CypherPages.Markdown

/-- What is read of a container. -/
structure Reading where
  blocks : List Block
  /-- Whether no blank line stands between two of the blocks. -/
  tight : Bool
  /-- How many lines are left. -/
  left : Nat

/-- A reader of the lines of a container with a margin. -/
abbrev Reader := Margin → List Line → Reading

/-- A block, and the number of lines behind its first one that it takes. -/
abbrev Taken := Block × Nat

/-! ### Paragraphs -/

/-- Whether the first of some lines ends a paragraph before it. -/
def endsParagraph (margin : Margin) (line : Line) (rest : List Line) : Bool :=
  startsTable margin (line :: rest) || line.startsBlock margin (line.isInterruptingList margin)

/-- Whether the first of some lines ends a definition before it. -/
def endsDefinition (margin : Margin) (line : Line) (rest : List Line) : Bool :=
  startsTable margin (line :: rest) || line.startsBlock margin (line.list? margin).isSome

/-- How many lines go on with a paragraph, if `ends` says where one ends. A line that is set in
or that belongs to a quote's paragraph always goes on. -/
def continuation (margin : Margin) (ends : Line → List Line → Bool) : List Line → Nat
  | [] => 0
  | line :: rest =>
    if line.isBlank then 0
    else if line.isCode margin || line.indent < 0 || !ends line rest then
      continuation margin ends rest + 1
    else 0

def paragraph (margin : Margin) (line : Line) (rest : List Line) : Taken :=
  let more := continuation margin (endsParagraph margin) rest
  (.paragraph (trimSpace (Line.joined margin.column (line :: rest.take more))), more)

/-- How many lines stand before the underline of a heading, and the heading's level. -/
def underlined? (margin : Margin) : List Line → Option (Nat × Nat)
  | [] => none
  | line :: rest =>
    let next := (underlined? margin rest).map fun (count, level) => (count + 1, level)
    if line.isBlank then none
    else if line.isCode margin then next
    else
      match if margin.column ≤ line.indent then line.underline? else none with
      | some level => some (0, level)
      | none => if line.indent < 0 || !endsParagraph margin line rest then next else none

def underlinedHeading? (margin : Margin) (line : Line) (rest : List Line) : Option Taken :=
  (underlined? margin rest).map fun (more, level) =>
    (.heading level (trimSpace (Line.joined margin.column (line :: rest.take more))), more + 1)

def definitionBlock? (margin : Margin) (line : Line) (rest : List Line) : Option Taken :=
  if line.content.head? == some '[' then
    let more := continuation margin (endsDefinition margin) rest
    let text := Text.unlines ((line :: rest.take more).map Line.content)
    (definition? text).map fun (definition, after) =>
      (.definition definition, (text.take (text.length - after.length)).count '\n')
  else none

/-! ### Code and markup -/

/-- Code that is set in. Blank lines between its lines belong to it. -/
def indentedCode (margin : Margin) (line : Line) (rest : List Line) : Taken :=
  let candidates := rest.takeWhile fun line => line.isBlank || line.isCode margin
  let more := (candidates.reverse.dropWhile Line.isBlank).length
  (.indentedCode (Line.joined (margin.column + 4) (line :: rest.take more) ++ ['\n']), more)

/-- How many lines fenced code holds, and whether a fence closes it. It ends before a line left
of the margin and before an empty line at the very end of the document. -/
def fencedLines (margin : Margin) (fence : Fence) : List Line → Nat × Bool
  | [] => (0, false)
  | line :: rest =>
    if !line.isBlank && line.indent < margin.column then (0, false)
    else if line.isBlank && !line.terminated then (0, false)
    else if line.closes margin fence then (0, true)
    else
      let (more, closed) := fencedLines margin fence rest
      (more + 1, closed)

/-- Fenced code. Its lines are set back by the width by which the fence is set in. -/
def fencedCode (margin : Margin) (fence : Fence) (line : Line) (rest : List Line) : Taken :=
  let (more, closed) := fencedLines margin fence rest
  (.fencedCode fence.info (Line.whole line.indent (rest.take more)),
    if closed then more + 1 else more)

/-- How many lines behind the first one a block of raw markup takes. It ends before a line left
of the margin, blank lines apart. -/
def htmlLines (margin : Margin) (condition : RawHtml.BlockEnd) : List Line → Nat
  | [] => 0
  | line :: rest =>
    if !line.isBlank && line.indent < margin.column then 0
    else if condition.isOn line.content then if line.isBlank then 0 else 1
    else htmlLines margin condition rest + 1

def htmlBlock (margin : Margin) (condition : RawHtml.BlockEnd) (line : Line) (rest : List Line) :
    Taken :=
  let more := if condition.isOn line.content then 0 else htmlLines margin condition rest
  (.html (Line.whole margin.column (line :: rest.take more)), more)

/-! ### Quotes -/

/-- A line without its quote mark. One space behind the mark belongs to it; of a tab one column
does. -/
def unquote (line : Line) : Line :=
  let behind := line.indent.toNat + 1
  let inside := line.content.drop 1
  let (text, start, column) := match inside with
    | ' ' :: rest => (rest, line.column + behind + 1, behind + 1)
    | '\t' :: rest =>
      (if (line.column + behind) % 4 = 3 then rest else inside, line.column + behind + 1,
        behind + 1)
    | _ => (inside, line.column + behind, behind)
  let lead := text.takeWhile isSpace
  { line with
    lead, content := text.dropWhile isSpace, indent := widthFrom start lead, column }

/-- The lines of a quote behind its first one, as the quote sees them. `afterBlank` says that
the line before is blank in the quote. -/
def quoteLines (margin : Margin) (afterBlank : Bool) : List Line → List Line
  | [] => []
  | line :: rest =>
    if line.isBlank then []
    else if margin.column ≤ line.indent && line.content.head? == some '>' then
      let inner := unquote line
      inner :: quoteLines margin inner.isBlank rest
    else if afterBlank || line.startsBlock margin (line.list? margin).isSome then []
    else { line with indent := -1 } :: quoteLines margin false rest

/-- A quote, whose content is read by `read`. -/
def quoteBlock (read : Reader) (margin : Margin) (line : Line) (rest : List Line) : Taken :=
  let first := unquote line
  let lines := first :: quoteLines margin first.isBlank rest
  let content := read .zero lines
  (.quote content.blocks, lines.length - content.left - 1)

/-! ### Lists -/

/-- The first line of a list item as the item sees it, and the item's margin. White space of more
than four columns behind the marker belongs to the content, except for one column. -/
def itemStart (margin : Margin) (marker : ListMarker) (line : Line) : Line × Margin :=
  let start := line.indent + marker.width
  let gap := marker.after.takeWhile isSpace
  let content := marker.after.dropWhile isSpace
  let width := widthFrom (line.column + start.toNat) gap
  let shift := if content.isEmpty || 4 < width then 1 else width
  ({ line with
      lead := line.lead ++ line.content.take marker.width ++ gap
      content
      indent := start + width },
    ⟨start + shift, some margin.column⟩)

/-- The content of a list item. An item that is empty and has a blank line after it ends
there. -/
def itemContent (read : Reader) (margin : Margin) (marker : ListMarker) (line : Line)
    (rest : List Line) : Reading :=
  let (first, inner) := itemStart margin marker line
  if first.isBlank && rest.head?.all Line.isBlank then ⟨[], true, rest.length - 1⟩
  else read inner (first :: rest)

/-- The items of a list from one with a marker on: their content, whether the list is tight, and
the number of lines behind the first that they take. -/
def listItems (read : Reader) (margin : Margin) (marker : ListMarker) (line : Line)
    (rest : List Line) : List (List Block) × Bool × Nat :=
  let content := itemContent read margin marker line rest
  let taken := rest.length - content.left
  if h : taken < rest.length then
    let next := rest[taken]
    let continues :=
      !(next.indent < margin.column || next.isCode margin || next.endsItem margin)
    match if continues then Line.marker? next.content else none with
    | none => ([content.blocks], content.tight, taken)
    | some nextMarker =>
      if nextMarker.delimiter == marker.delimiter &&
          nextMarker.number.isSome == marker.number.isSome then
        let endsBlank := 0 < taken && ((line :: rest)[taken]?).any Line.isBlank
        let (items, tight, more) :=
          listItems read margin nextMarker next (rest.drop (taken + 1))
        (content.blocks :: items, content.tight && !endsBlank && tight, taken + 1 + more)
      else ([content.blocks], content.tight, taken)
  else ([content.blocks], content.tight, taken)
  termination_by rest.length
  decreasing_by simp only [List.length_drop]; omega

def listBlock (read : Reader) (margin : Margin) (marker : ListMarker) (line : Line)
    (rest : List Line) : Taken :=
  let (items, tight, more) := listItems read margin marker line rest
  (.list marker.number tight items, more)

/-! ### Containers -/

/-- The block that a line starts, which is not blank and not left of the margin. -/
def block (readQuote readItem : Reader) (margin : Margin) (line : Line) (rest : List Line) :
    Taken :=
  match table? margin line rest with
  | some taken => taken
  | none =>
    if line.isCode margin then indentedCode margin line rest
    else
      match line.fence? margin with
      | some fence => fencedCode margin fence line rest
      | none =>
        if line.isQuote margin then quoteBlock readQuote margin line rest
        else if line.isThematicBreak margin then (.thematicBreak, 0)
        else
          match line.list? margin with
          | some marker => listBlock readItem margin marker line rest
          | none =>
            match definitionBlock? margin line rest with
            | some taken => taken
            | none =>
              match line.html? margin with
              | some (condition, _) => htmlBlock margin condition line rest
              | none =>
                match line.heading? margin with
                | some (level, text) => (.heading level text, 0)
                | none =>
                  (underlinedHeading? margin line rest).getD (paragraph margin line rest)

/-- The blocks of a container from some line on. `tight` holds of the blocks before, and
`afterBlank` says that a blank line stands behind one of them. -/
def readBlocks (readQuote readItem : Reader) (margin : Margin) (tight afterBlank : Bool)
    (lines : List Line) : Reading :=
  match lines with
  | [] => ⟨[], tight, 0⟩
  | line :: rest =>
    if line.isBlank then readBlocks readQuote readItem margin tight afterBlank rest
    else if line.indent < margin.column then ⟨[], tight, rest.length + 1⟩
    else
      let (found, more) := block readQuote readItem margin line rest
      let behind := rest.drop more
      let blank := ((line :: rest)[more]?).any Line.isBlank || behind.head?.any Line.isBlank
      let others := readBlocks readQuote readItem margin (!afterBlank) (afterBlank || blank) behind
      { others with blocks := found :: others.blocks }
  termination_by lines.length
  decreasing_by all_goals simp only [List.length_drop, List.length_cons]; omega

/-- Nothing is read, and the lines of the container are passed over. -/
def passOver : Reader := fun margin lines =>
  let rest := lines.dropWhile Line.isBlank
  ⟨[], true, if rest.head?.any fun line => line.indent < margin.column then rest.length else 0⟩

/-- The reader of a container that may hold `depth` levels of containers. A list takes two of
them, one for itself and one for its items. -/
def readerTo : Nat → Reader
  | 0 => passOver
  | 1 => fun margin => readBlocks passOver passOver margin true false
  | depth + 2 => fun margin =>
    readBlocks (readerTo (depth + 1)) (readerTo depth) margin true false

/-- How deep containers may nest. -/
def maxDepth : Nat := 20

/-- The blocks of a document. Line ends of all kinds are alike, and the character NUL is not
allowed. -/
def blocks (document : Text) : List Block :=
  let text := document.normalizeNewlines.map fun c => if c == Char.ofNat 0 then '\ufffd' else c
  (readerTo maxDepth .zero (Line.ofDocument text)).blocks

end CypherPages.Markdown
