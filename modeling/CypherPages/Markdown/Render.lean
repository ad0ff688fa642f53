import CypherPages.Build.CodeBlock
import CypherPages.Markdown.BlockReader
import CypherPages.Markdown.InlineReader

/-! # Rendering Markdown

A document as markup. Fenced code goes through a build, which publishes query blocks; all else
is rendered by the rules of Markdown. -/

namespace CypherPages.Markdown

/-- A character as it is written in markup. Single quotes stay. -/
def escapeMarkup : Char → Text
  | '&' => "&amp;".toList
  | '<' => "&lt;".toList
  | '>' => "&gt;".toList
  | '"' => "&quot;".toList
  | c => [c]

def markup (t : Text) : Text := t.flatMap escapeMarkup

def element (name : String) (content : Text) : Text :=
  '<' :: name.toList ++ '>' :: content ++ "</".toList ++ name.toList ++ ['>']

/-- An attribute of a tag with the space before it. -/
def attributeMarkup (name : String) (value : Text) : Text :=
  ' ' :: name.toList ++ "=\"".toList ++ markup value ++ ['"']

def titleMarkup (title : Text) : Text :=
  if title.isEmpty then [] else attributeMarkup "title" title

mutual

/-- The plain text of a piece, which describes an image. In an image inside that image, which
`nested` tells, escapes and references are left out. -/
def Inline.plain (nested : Bool) : Inline → Text
  | .text characters | .code characters | .html characters => characters
  | .escaped characters => if nested then [] else characters
  | .softBreak | .hardBreak => ['\n']
  | .emphasis _ content | .strong content | .link _ _ content => plainText nested content
  | .image _ _ content => plainText true content

def plainText (nested : Bool) : List Inline → Text
  | [] => []
  | piece :: rest => piece.plain nested ++ plainText nested rest

end

mutual

def Inline.render : Inline → Text
  | .text characters | .escaped characters => markup characters
  | .softBreak => ['\n']
  | .hardBreak => "<br />\n".toList
  | .code content => element "code" (markup content)
  | .html markup => markup
  | .emphasis _ content => element "em" (renderInlines content)
  | .strong content => element "strong" (renderInlines content)
  | .link address title content =>
    "<a".toList ++ attributeMarkup "href" address ++ titleMarkup title ++ '>' ::
      renderInlines content ++ "</a>".toList
  | .image address title content =>
    "<img".toList ++ attributeMarkup "src" address ++
      attributeMarkup "alt" (plainText false content) ++ titleMarkup title ++ " />".toList

def renderInlines : List Inline → Text
  | [] => []
  | piece :: rest => piece.render ++ renderInlines rest

end

/-- Running text as markup. -/
def running (definitions : List Definition) (t : Text) : Text :=
  renderInlines (inlines definitions t)

/-- Code as markup, with the first word of what stands behind its fence as its language. -/
def codeMarkup (info content : Text) : Text :=
  let language := match spaceWords (unescape info) with
    | [] => []
    | word :: _ => attributeMarkup "class" ("language-".toList ++ word)
  "<pre><code".toList ++ language ++ '>' :: markup content ++ "</code></pre>\n".toList

def cellMarkup (definitions : List Definition) (name : String) (alignment : Alignment)
    (cell : Text) : Text :=
  let style := match alignment with
    | .unset => []
    | .left => attributeMarkup "style" "text-align:left".toList
    | .center => attributeMarkup "style" "text-align:center".toList
    | .right => attributeMarkup "style" "text-align:right".toList
  '<' :: name.toList ++ style ++ '>' :: running definitions cell ++ "</".toList ++ name.toList ++
    ">\n".toList

def rowMarkup (definitions : List Definition) (name : String) (alignments : List Alignment)
    (cells : List Text) : Text :=
  "<tr>\n".toList ++
    ((alignments.zip cells).flatMap fun (alignment, cell) =>
      cellMarkup definitions name alignment cell) ++
    "</tr>\n".toList

def tableMarkup (definitions : List Definition) (alignments : List Alignment)
    (header : List Text) (rows : List (List Text)) : Text :=
  let body :=
    if rows.isEmpty then []
    else
      "<tbody>\n".toList ++ rows.flatMap (rowMarkup definitions "td" alignments) ++
        "</tbody>\n".toList
  "<table>\n<thead>\n".toList ++ rowMarkup definitions "th" alignments header ++
    "</thead>\n".toList ++ body ++ "</table>\n".toList

/-- Fenced code in a build: a query block as the build publishes it, or code. -/
def fence (pass : BuildPass) (info content : Text) : Except AssetError (Text × BuildPass) :=
  let block : CodeBlock Text := ⟨content, info.words, [], []⟩
  if pass.publishes block.classes then
    match pass.process block with
    | (.ok published, next) => .ok (published.render, next)
    | (.error error, _) => .error error
  else .ok (codeMarkup info content, pass)

/-- Whether a block shows nothing. -/
def Block.isDefinition : Block → Bool
  | .definition _ => true
  | _ => false

/-- Whether a block starts on a line of its own behind a paragraph that stands close. -/
def Block.startsLine : Block → Bool
  | .heading .. | .thematicBreak | .quote _ | .list .. | .table .. => true
  | _ => false

def Block.isParagraph : Block → Bool
  | .paragraph _ => true
  | _ => false

/-- What stands between the tag of a list item and its content, and what stands before a block
behind a paragraph that stands close. -/
def lineEndIf (condition : Bool) : Text := if condition then ['\n'] else []

def listTag (start : Option Nat) : Text :=
  match start with
  | none => "<ul>\n".toList
  | some 1 => "<ol>\n".toList
  | some n => "<ol".toList ++ attributeMarkup "start" (Text.decimal n) ++ ">\n".toList

def listEnd (start : Option Nat) : Text :=
  if start.isSome then "</ol>\n".toList else "</ul>\n".toList

mutual

/-- A block as markup. A paragraph of a tight list stands close: it has no tags. -/
def Block.render (definitions : List Definition) (close : Bool) (pass : BuildPass) :
    Block → Except AssetError (Text × BuildPass)
  | .paragraph text =>
    let content := running definitions text
    .ok (if close then content else element "p" content ++ ['\n'], pass)
  | .heading level text =>
    let name := String.ofList ('h' :: Text.decimal level)
    .ok (element name (running definitions text) ++ ['\n'], pass)
  | .thematicBreak => .ok ("<hr />\n".toList, pass)
  | .indentedCode content => .ok (codeMarkup [] content, pass)
  | .fencedCode info content => fence pass info content
  | .html markup => .ok (markup, pass)
  | .definition _ => .ok ([], pass)
  | .quote blocks =>
    match renderBlocks definitions false false pass blocks with
    | .error error => .error error
    | .ok (content, next) =>
      let shown := blocks.any fun block => !block.isDefinition
      .ok ("<blockquote>".toList ++ lineEndIf shown ++ content ++ "</blockquote>\n".toList, next)
  | .list start tight items =>
    match renderItems definitions tight pass items with
    | .error error => .error error
    | .ok (content, next) => .ok (listTag start ++ content ++ listEnd start, next)
  | .table alignments header rows => .ok (tableMarkup definitions alignments header rows, pass)

/-- Blocks as markup. `afterClose` says that a paragraph that stands close comes before. -/
def renderBlocks (definitions : List Definition) (close afterClose : Bool) (pass : BuildPass) :
    List Block → Except AssetError (Text × BuildPass)
  | [] => .ok ([], pass)
  | block :: rest =>
    match block.render definitions close pass with
    | .error error => .error error
    | .ok (first, next) =>
      let isClose := (close && block.isParagraph) || (afterClose && block.isDefinition)
      match renderBlocks definitions close isClose next rest with
      | .error error => .error error
      | .ok (others, final) =>
        .ok (lineEndIf (afterClose && block.startsLine) ++ first ++ others, final)

def renderItems (definitions : List Definition) (tight : Bool) (pass : BuildPass) :
    List (List Block) → Except AssetError (Text × BuildPass)
  | [] => .ok ([], pass)
  | item :: rest =>
    match renderBlocks definitions tight false pass item with
    | .error error => .error error
    | .ok (content, next) =>
      match renderItems definitions tight next rest with
      | .error error => .error error
      | .ok (others, final) =>
        let onLine := ((item.filter fun block => !block.isDefinition).head?).any fun block =>
          !(tight && block.isParagraph)
        .ok ("<li>".toList ++ lineEndIf onLine ++ content ++ "</li>\n".toList ++ others, final)

end

/-- A document as markup in a build. -/
def render (pass : BuildPass) (document : Text) : Except AssetError (Text × BuildPass) :=
  let content := blocks document
  renderBlocks (definitionsOf content) false false pass content

end CypherPages.Markdown
