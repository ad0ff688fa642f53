import CypherPages.Markdown.LinkTarget

/-! # Blocks

The block structure of a Markdown document. Running text is kept as it is written, since the
definitions that it may refer to can stand anywhere in the document. -/

namespace CypherPages.Markdown

inductive Alignment
  | unset
  | left
  | center
  | right
  deriving DecidableEq

inductive Block
  | paragraph (text : Text)
  | heading (level : Nat) (text : Text)
  | thematicBreak
  /-- Code that is set off by white space. -/
  | indentedCode (content : Text)
  /-- Code between fences, with what stands behind the opening one. -/
  | fencedCode (info content : Text)
  /-- Markup that passes through. -/
  | html (markup : Text)
  /-- A definition, which shows nothing. -/
  | definition (definition : Definition)
  | quote (blocks : List Block)
  /-- A list. An ordered one has a first number; in a tight one paragraphs stand close. -/
  | list (start : Option Nat) (tight : Bool) (items : List (List Block))
  | table (alignments : List Alignment) (header : List Text) (rows : List (List Text))

mutual

def Block.definitions : Block → List Definition
  | .definition definition => [definition]
  | .quote blocks => definitionsOf blocks
  | .list _ _ items => definitionsOfItems items
  | _ => []

def definitionsOf : List Block → List Definition
  | [] => []
  | block :: rest => block.definitions ++ definitionsOf rest

def definitionsOfItems : List (List Block) → List Definition
  | [] => []
  | item :: rest => definitionsOf item ++ definitionsOfItems rest

end

end CypherPages.Markdown
