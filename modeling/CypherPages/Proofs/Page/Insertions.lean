import CypherPages.Proofs.Page.Places

/-! # Pages that show nothing but controls

Without a run, writing a page puts in the controls of its blocks and changes nothing else. The
places that they go to stand in the order of the blocks, so the page is its source, copied once
from left to right with the controls put in on the way. -/

namespace CypherPages
open Html

/-- The controls of a block as they are put in. -/
def QueryBlock.controlInsertion (block : QueryBlock) : Edit :=
  .insertion block.controlPoint block.controlMarkup

namespace QueryBlock

variable {offset : ℕ} {block : QueryBlock} {blocks : List QueryBlock}

/-- A block without a run has no edit but the one for its controls. -/
theorem edits_of_no_result (h : block.resultEdit? = none) :
    block.edits = block.controlEdit?.toList := by
  rw [edits, h, Option.toList_none, List.append_nil]

theorem ordered_controlEdits (hplaces : blocks.Pairwise (·.controlPoint < ·.controlPoint))
    (hoffset : ∀ block ∈ blocks, offset ≤ block.controlPoint) :
    Edit.Ordered offset (blocks.flatMap (·.controlEdit?.toList)) := by
  induction blocks generalizing offset with
  | nil => trivial
  | cons block rest ih =>
      obtain ⟨hbehind, hplaces⟩ := List.pairwise_cons.mp hplaces
      have hblock := hoffset block List.mem_cons_self
      have hrest := ih hplaces fun other hother => Nat.succ_le_of_lt (hbehind other hother)
      rw [List.flatMap_cons]
      apply hrest.toList_append (by omega)
      intro edit hedit
      obtain ⟨hstart, hstop⟩ := BlockTags.place_of_controlEdit? hedit
      omega

/-- An edit with nothing to put in may be left out. -/
theorem splice_controlEdits (hplaces : blocks.Pairwise (·.controlPoint < ·.controlPoint))
    (text : Text) (hoffset : ∀ block ∈ blocks, offset ≤ block.controlPoint ∧
      block.controlPoint ≤ offset + text.length) :
    Edit.splice offset (blocks.flatMap (·.controlEdit?.toList)) text =
      Edit.splice offset (blocks.map controlInsertion) text := by
  induction blocks generalizing offset text with
  | nil => rfl
  | cons block rest ih =>
      obtain ⟨hbehind, hrest⟩ := List.pairwise_cons.mp hplaces
      obtain ⟨hle, hbound⟩ := hoffset block List.mem_cons_self
      let front := text.take (block.controlPoint - offset)
      let back := text.drop (block.controlPoint - offset)
      have hlength : block.controlPoint = offset + front.length := by
        simp only [front, List.length_take]
        omega
      have hordered := ordered_controlEdits hrest fun other hother => (hbehind other hother).le
      have htext : text = front ++ ([] ++ back) := (List.take_append_drop _ _).symm
      have hback : ∀ other ∈ rest, block.controlPoint ≤ other.controlPoint ∧
          other.controlPoint ≤ block.controlPoint + back.length := by
        intro other hother
        have hlt := hbehind other hother
        have hother := (hoffset other (List.mem_cons_of_mem _ hother)).2
        simp only [back, List.length_drop]
        omega
      calc Edit.splice offset ((block :: rest).flatMap (·.controlEdit?.toList)) text
          = front ++ (block.controlMarkup ++ Edit.splice block.controlPoint
              (rest.flatMap (·.controlEdit?.toList)) back) := by
            rw [List.flatMap_cons]
            conv_lhs => rw [htext]
            exact Edit.splice_toList block.writes_controlEdit? hlength hordered back
        _ = front ++ (block.controlMarkup ++ Edit.splice block.controlPoint
              (rest.map controlInsertion) back) := by rw [ih hrest back hback]
        _ = Edit.splice offset ((block :: rest).map controlInsertion) text := by
            rw [List.map_cons, Edit.splice, List.append_assoc]
            rfl

end QueryBlock

/-- A place for controls: just past the start tag of the block's control region, or past the
block's own start tag if the page has no such region. -/
structure Html.Placed.TakesControls (tag : Placed) (block : QueryBlock) : Prop where
  stop_eq : tag.stop = block.controlPoint
  region : ∀ existing ∈ block.controlRegion.existing,
    ∃ attributes, tag.Opens "div".toList ControlRegion.elementClass attributes
  block : block.controlRegion.existing = none →
    tag.Opens "pre".toList CodeBlock.publishedClass block.attributes

namespace BlockTags

variable {line : List Placed} {own later : BlockTags} {block next : QueryBlock}

theorem Mark.takesControls (h : own.Mark line block) : ∃ tag ∈ line, tag.TakesControls block := by
  cases hexisting : block.controlRegion.existing with
  | none =>
      have hpoint : block.controlPoint = own.opening.stop := by
        rw [QueryBlock.controlPoint, hexisting]
        exact h.startTagEnd_eq
      refine ⟨own.opening, h.opening_mem, hpoint.symm, ?_, fun _ => h.opening_opens⟩
      intro existing hmem
      rw [hexisting] at hmem
      cases hmem
  | some existing =>
      have hinsert := h.insertAt_eq
      rw [hexisting, Option.map_some, eq_comm, Option.map_eq_some_iff] at hinsert
      obtain ⟨tag, htag, hstop⟩ := hinsert
      obtain ⟨hmem, hopens, -⟩ := h.controls_mark tag htag
      have hpoint : block.controlPoint = existing.insertAt := by
        rw [QueryBlock.controlPoint, hexisting]
      refine ⟨tag, hmem, hstop.trans hpoint.symm, fun _ _ => hopens, ?_⟩
      intro hnone
      rw [hexisting] at hnone
      cases hnone

/-- The place of a block that stands before another one is in front of the other's. -/
theorem Mark.controlPoint_lt (h : own.Mark line block) (hnext : later.Mark line next)
    (hline : Placed.InLine line) (hprecedes : own.Precedes later) :
    block.controlPoint < next.controlPoint := by
  obtain ⟨tag, -, hpoint, -, hstop⟩ := h.controlPoint hline
  obtain ⟨other, -, hother, hopening, -⟩ := hnext.controlPoint hline
  calc block.controlPoint ≤ own.closing.stop := hpoint.trans_le hstop
    _ ≤ own.stop := h.closing_stop_le hline
    _ ≤ later.opening.start := hprecedes
    _ < later.opening.stop := hline.start_lt_stop hnext.opening_mem
    _ ≤ next.controlPoint := hopening.trans_eq hother.symm

end BlockTags

namespace Page

variable {source : Text} {page : Page}

/-- The places for controls on a page that was read: one for each block, in order. -/
theorem places_of_read (h : Page.read source = .ok page) :
    ∃ tokens, Html.tokens source = .ok tokens ∧
      page.blocks.Pairwise (·.controlPoint < ·.controlPoint) ∧
      ∀ block ∈ page.blocks, block.controlPoint ≤ source.length ∧
        ∃ tag ∈ Placed.all 0 tokens, tag.TakesControls block := by
  obtain ⟨tokens, tags, htokens, hmark, hprecedes⟩ := exists_tags_of_read h
  have hline := Placed.inLine_of_tokens htokens
  refine ⟨tokens, htokens, ?_, ?_⟩
  · apply pairwise_of_forall₂ hmark hprecedes
    intro own block later next hown hlater hbefore
    exact hown.controlPoint_lt hlater hline hbefore
  · intro block hblock
    obtain ⟨own, -, hown⟩ := exists_of_mem_right hmark hblock
    obtain ⟨tag, -, hpoint, -, hstop⟩ := hown.controlPoint hline
    refine ⟨?_, hown.takesControls⟩
    calc block.controlPoint ≤ own.closing.stop := hpoint.trans_le hstop
      _ ≤ own.stop := hown.closing_stop_le hline
      _ ≤ source.length := hown.closing_stop_le_length htokens

/-- A page that shows no result is its source with the controls of its blocks put in. -/
theorem toHtml_of_no_results (hplaces : page.blocks.Pairwise (·.controlPoint < ·.controlPoint))
    (hbound : ∀ block ∈ page.blocks, block.controlPoint ≤ page.source.length)
    (hresults : ∀ block ∈ page.blocks, block.resultEdit? = none) :
    page.toHtml = Edit.splice 0 (page.blocks.map QueryBlock.controlInsertion) page.source := by
  have hedits : page.blocks.flatMap QueryBlock.edits =
      page.blocks.flatMap (·.controlEdit?.toList) := by
    apply List.flatMap_congr
    intro block hblock
    exact QueryBlock.edits_of_no_result (hresults block hblock)
  have hordered := QueryBlock.ordered_controlEdits hplaces fun _ _ => Nat.zero_le _
  have hstop : ∀ edit ∈ page.blocks.flatMap (·.controlEdit?.toList),
      edit.stop ≤ page.source.length := by
    intro edit hedit
    obtain ⟨block, hblock, hmem⟩ := List.mem_flatMap.mp hedit
    obtain ⟨-, hplace⟩ := BlockTags.place_of_controlEdit? (Option.mem_toList.mp hmem)
    exact hplace.trans_le (hbound block hblock)
  rw [toHtml, hedits, Edit.applyAll_eq_splice hordered hstop]
  apply QueryBlock.splice_controlEdits hplaces
  intro block hblock
  have hle := hbound block hblock
  omega

end Page

end CypherPages
