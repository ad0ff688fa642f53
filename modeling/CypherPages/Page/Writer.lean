import CypherPages.Page.Basic

/-! # Writing a page

A page is written by editing its source: controls go into their blocks, results go after them
or in place of the results of an earlier run. Edits are applied from the back of the page to
its front, so the offsets of those still to come hold. -/

namespace CypherPages

/-- A change of a text: what stands from `start` to before `stop` is replaced. -/
structure Edit where
  start : Nat
  stop : Nat
  replacement : Text
  deriving DecidableEq

namespace Edit

/-- Put a text in at an offset. -/
def insertion (offset : Nat) (text : Text) : Edit := ⟨offset, offset, text⟩

def apply (text : Text) (edit : Edit) : Text :=
  text.take edit.start ++ edit.replacement ++ text.drop edit.stop

/-- A text with changes made from back to front. Of two that start at one place the first is
made first. -/
def applyAll (text : Text) (edits : List Edit) : Text :=
  (edits.mergeSort fun a b => b.start ≤ a.start).foldl apply text

end Edit

namespace QueryBlock

/-- The change that shows the block's controls, if any are to be added. -/
def controlEdit? (block : QueryBlock) : Option Edit :=
  match block.controls with
  | none => none
  | some region =>
    if region.controls.isEmpty then none
    else
      match region.existing with
      | none => some (.insertion block.startTagEnd region.toHtml)
      | some existing =>
        if region.pendingHtml.isEmpty then none
        else some (.insertion existing.insertAt region.pendingHtml)

/-- The change that shows the block's result, if the block was run. -/
def resultEdit? (block : QueryBlock) : Option Edit :=
  match block.result with
  | none => none
  | some region =>
    if region.generation = 0 then none
    else
      match region.span with
      | some (start, stop) => some ⟨start, stop, region.toHtml⟩
      | none => some (.insertion block.stop ('\n' :: region.toHtml))

/-- The changes that show the block's regions. -/
def edits (block : QueryBlock) : List Edit := block.controlEdit?.toList ++ block.resultEdit?.toList

end QueryBlock

/-- The text of a page with the regions of its blocks. -/
def Page.toHtml (page : Page) : Text := Edit.applyAll page.source (page.blocks.flatMap (·.edits))

end CypherPages
