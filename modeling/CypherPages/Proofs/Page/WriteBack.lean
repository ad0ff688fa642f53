import CypherPages.Proofs.Page.RewrittenPage
import CypherPages.Proofs.Page.Splice

/-! # Writing a page back

The edits of a block put its run button and its result where its layout has a place for them.
The text of a page with its regions is therefore the text of its rewritten layouts. -/

namespace CypherPages
open Html

/-- A block of a page after its use: with a run control, if controls were attached, and with a
result, if it was run. -/
structure QueryBlock.Carries (attached : Bool) (content? : Option Page.Content)
    (found block : QueryBlock) : Prop where
  query : block.query = found.query
  attributes : block.attributes = found.attributes
  startTagEnd : block.startTagEnd = found.startTagEnd
  stop : block.stop = found.stop
  controls : block.controls =
    if attached then some (found.controlRegion.insert .run) else found.controls
  result : match content? with
    | none => block.result = found.result
    | some content => ∃ generation, generation ≠ 0 ∧ block.result =
      some ⟨Piece.writeAll content.pieces, generation, found.resultRegion.span⟩

/-- A region that is behind its block already is replaced. -/
theorem QueryBlock.resultEdit?_of_span {block : QueryBlock} {content : Text} {generation : ℕ}
    {start stop : ℕ} (hgeneration : generation ≠ 0)
    (h : block.result = some ⟨content, generation, some (start, stop)⟩) :
    block.resultEdit? =
      some ⟨start, stop, (ResultRegion.mk content generation (some (start, stop))).toHtml⟩ := by
  rw [resultEdit?, h]
  exact if_neg hgeneration

/-- A region that is not there yet is put behind its block. -/
theorem QueryBlock.resultEdit?_of_none {block : QueryBlock} {content : Text} {generation : ℕ}
    (hgeneration : generation ≠ 0) (h : block.result = some ⟨content, generation, none⟩) :
    block.resultEdit? =
      some (.insertion block.stop ('\n' :: (ResultRegion.mk content generation none).toHtml)) := by
  rw [resultEdit?, h]
  exact if_neg hgeneration

namespace Page.BlockLayout

variable {layout : BlockLayout} {attached : Bool} {content? : Option Content} {offset : ℕ}
  {block : QueryBlock}

/-! ### Places in a block -/

theorem startTagEnd_lt (layout : BlockLayout) (offset : ℕ) :
    offset < layout.startTagEnd offset := by
  simp only [startTagEnd, WrittenTag.write, List.length_append, List.length_cons]
  omega

theorem startTagEnd_block (layout : BlockLayout) (offset : ℕ) :
    (layout.block offset).startTagEnd = layout.startTagEnd offset :=
  (OpenBlock.frame_pieces _ _ layout.inner).1

theorem length_frontPieces (layout : BlockLayout) (attached : Bool) (offset : ℕ) :
    offset + (Piece.writeAll (layout.frontPieces attached)).length =
      layout.startTagEnd offset +
        (Piece.writeAll (insertionFor attached layout.inner).front).length := by
  simp [frontPieces, startTagEnd, Piece.write, Nat.add_assoc]

theorem length_frontPieces_lt (layout : BlockLayout) (attached : Bool) (offset : ℕ) :
    offset + (Piece.writeAll (layout.frontPieces attached)).length < layout.stop offset := by
  rw [stop, layout.element_eq attached]
  simp only [backPieces, Piece.writeAll_append, Piece.writeAll_cons, Piece.writeAll_nil,
    Piece.write, Piece.endTag, List.length_append, List.length_cons]
  omega

/-! ### The edits of a block -/

/-- The edit for the controls puts the run button at its place. -/
theorem writes_controlEdit? (h : (layout.block offset).Carries attached content? block) :
    Edit.Writes block.controlEdit? (offset + (Piece.writeAll (layout.frontPieces attached)).length)
      [] (Piece.writeAll (insertionFor attached layout.inner).added) := by
  have hcontrols := h.controls
  rw [QueryBlock.controlRegion, controls_block] at hcontrols
  cases attached with
  | false =>
      have hnone : block.controlEdit? = none := by
        rw [if_neg Bool.false_ne_true] at hcontrols
        rw [QueryBlock.controlEdit?, hcontrols]
        cases OpenBlock.controlsOf (layout.startTagEnd offset) layout.inner <;> rfl
      rw [hnone]
      exact .none _ []
  | true =>
      rw [if_pos rfl] at hcontrols
      have hhtml : Control.run.toHtml.isEmpty = false := by decide
      rcases controls_cases layout.inner with hall | ⟨front, opener, rest, hinner, hfront, hopens⟩
      · rw [controlsOf_of_all hall] at hcontrols
        have hedit : block.controlEdit? = some (.insertion (layout.startTagEnd offset)
            (Piece.writeAll controlsPieces)) := by
          rw [QueryBlock.controlEdit?, hcontrols, h.startTagEnd, startTagEnd_block,
            writeAll_controlsPieces]
          rfl
        rw [hedit, length_frontPieces, insertionFor, if_pos rfl, insertButton_of_all hall]
        exact .insertion _ _
      · -- The page has a control region: a button is put into it unless there is one.
        rw [hinner, controlsOf_of_opener hfront hopens] at hcontrols
        rw [length_frontPieces, insertionFor, if_pos rfl, hinner,
          insertButton_of_opener hfront hopens]
        cases hany : rest.any isRunButton with
        | true =>
            have hnone : block.controlEdit? = none := by
              rw [QueryBlock.controlEdit?, hcontrols, hany]
              rfl
            rw [hnone]
            exact .none _ []
        | false =>
            have hpending : ∀ place, (ControlRegion.mk [.run] (some ⟨place, false⟩)).pendingHtml =
                Control.run.toHtml := fun place => by
              simp [ControlRegion.pendingHtml, ControlRegion.pending, ControlRegion.hasRunButton]
            rw [QueryBlock.controlEdit?, hcontrols, hany]
            simp only [Option.map_some, Option.getD_some, ControlRegion.insert, List.isEmpty_cons,
              Bool.false_eq_true, ite_false, hpending, hhtml, writeAll_buttonPieces]
            exact .insertion _ _

/-- The edit for the result puts a region behind the block, or in the place of the one there. -/
theorem writes_resultEdit? (h : (layout.block offset).Carries attached content? block) :
    ∃ kept replaced written : List Piece, layout.regionPieces = kept ++ replaced ∧
      (layout.rewrite attached content?).regionPieces = kept ++ written ∧
      Edit.Writes block.resultEdit? (layout.stop offset + (Piece.writeAll kept).length)
        (Piece.writeAll replaced) (Piece.writeAll written) := by
  have hresult := h.result
  have hfound : (layout.block offset).result = layout.result offset := rfl
  cases content? with
  | none =>
      have hnone : block.resultEdit? = none := by
        rw [QueryBlock.resultEdit?, hresult, hfound, result]
        cases layout.region <;> rfl
      refine ⟨[], layout.regionPieces, layout.regionPieces, rfl, ?_, ?_⟩
      · simp [regionPieces, rewrite]
      · rw [hnone]
        exact .none _ _
  | some content =>
      obtain ⟨generation, hgeneration, hresult⟩ := hresult
      have hwrite := writeAll_element_ofContent layout.gap layout.isBetween_gap content generation
      have hrewritten : (layout.rewrite attached (some content)).regionPieces =
          layout.gap ++ (RegionLayout.ofContent layout.gap layout.isBetween_gap content).element :=
        rfl
      rw [QueryBlock.resultRegion, hfound, result] at hresult
      cases hregion : layout.region with
      | none =>
          have hgap : Piece.writeAll layout.gap = ['\n'] := by rw [gap, hregion]; rfl
          have hwritten : Piece.writeAll (layout.rewrite attached (some content)).regionPieces =
              '\n' :: (ResultRegion.mk (Piece.writeAll content.pieces) generation none).toHtml := by
            rw [hrewritten, Piece.writeAll_append, hgap, hwrite none]
            rfl
          rw [hregion] at hresult
          refine ⟨[], [], (layout.rewrite attached (some content)).regionPieces,
            by rw [regionPieces, hregion]; rfl, rfl, ?_⟩
          rw [QueryBlock.resultEdit?_of_none hgeneration hresult, h.stop, hwritten]
          exact .insertion _ _
      | some region =>
          have hgap : layout.gap = region.gap := by rw [gap, hregion]; rfl
          rw [hregion] at hresult
          refine ⟨region.gap, region.element,
            (RegionLayout.ofContent layout.gap layout.isBetween_gap content).element,
            by rw [regionPieces, hregion], hrewritten.trans (congrArg (· ++ _) hgap), ?_⟩
          rw [QueryBlock.resultEdit?_of_span hgeneration hresult, hwrite]
          refine .replacement ?_ _
          simp [stop, pieces, regionPieces, hregion, Nat.add_assoc]

theorem ordered_resultEdit? (h : (layout.block offset).Carries attached content? block)
    {rest : List Edit}
    (hrest : Edit.Ordered (offset + (Piece.writeAll layout.pieces).length + 1) rest) :
    Edit.Ordered (layout.stop offset) (block.resultEdit?.toList ++ rest) ∧
      ∀ edit ∈ block.resultEdit?, edit.stop ≤ offset + (Piece.writeAll layout.pieces).length := by
  obtain ⟨kept, replaced, written, hregion, -, hresult⟩ := writes_resultEdit? h
  have hstop : layout.stop offset = offset + (Piece.writeAll layout.element).length := rfl
  have hlength : (Piece.writeAll layout.pieces).length = (Piece.writeAll layout.element).length +
      ((Piece.writeAll kept).length + (Piece.writeAll replaced).length) := by
    rw [pieces, hregion, Piece.writeAll_append, Piece.writeAll_append, List.length_append,
      List.length_append]
  refine ⟨hrest.toList_append (by omega) fun edit hedit => ?_, fun edit hedit => ?_⟩
  · obtain ⟨hplace, hend⟩ := hresult.place edit hedit
    omega
  · obtain ⟨hplace, hend⟩ := hresult.place edit hedit
    omega

/-- The edits of a block stand in it in order, behind its first character. -/
theorem ordered_edits (h : (layout.block offset).Carries attached content? block) {rest : List Edit}
    (hrest : Edit.Ordered (offset + (Piece.writeAll layout.pieces).length + 1) rest) :
    Edit.Ordered (offset + 1) (block.edits ++ rest) ∧
      ∀ edit ∈ block.edits, edit.stop ≤ offset + (Piece.writeAll layout.pieces).length := by
  obtain ⟨hordered, hbound⟩ := ordered_resultEdit? h hrest
  have hcontrol := (writes_controlEdit? h).place
  have hstart := layout.startTagEnd_lt offset
  have hfront := layout.length_frontPieces attached offset
  have hlt := layout.length_frontPieces_lt attached offset
  have hle : layout.stop offset ≤ offset + (Piece.writeAll layout.pieces).length := by
    simp [stop, pieces]
  rw [QueryBlock.edits, List.append_assoc]
  refine ⟨hordered.toList_append (by omega) fun edit hedit => ?_, fun edit hedit => ?_⟩
  · obtain ⟨hplace, hend⟩ := hcontrol edit hedit
    rw [List.length_nil] at hend
    omega
  · rcases List.mem_append.mp hedit with hedit | hedit
    · obtain ⟨hplace, hend⟩ := hcontrol edit (Option.mem_toList.mp hedit)
      rw [List.length_nil] at hend
      omega
    · exact hbound edit (Option.mem_toList.mp hedit)

/-- Copying a block with its edits writes the rewritten block. -/
theorem splice_edits (h : (layout.block offset).Carries attached content? block) {rest : List Edit}
    (hrest : Edit.Ordered (offset + (Piece.writeAll layout.pieces).length + 1) rest)
    (text : Text) :
    Edit.splice offset (block.edits ++ rest) (Piece.writeAll layout.pieces ++ text) =
      Piece.writeAll (layout.rewrite attached content?).pieces ++
        Edit.splice (offset + (Piece.writeAll layout.pieces).length) rest text := by
  obtain ⟨kept, replaced, written, hregion, hwritten, hresult⟩ := writes_resultEdit? h
  have hlt := layout.length_frontPieces_lt attached offset
  have hordered := (ordered_resultEdit? h hrest).1
  -- The block up to the place of the button, from there to its region, and the region.
  have hsource : Piece.writeAll layout.pieces ++ text =
      Piece.writeAll (layout.frontPieces attached) ++ ([] ++
        (Piece.writeAll (layout.backPieces attached ++ kept) ++
          (Piece.writeAll replaced ++ text))) := by
    simp [pieces, layout.element_eq attached, hregion]
  have hplace : layout.stop offset + (Piece.writeAll kept).length =
      offset + (Piece.writeAll (layout.frontPieces attached)).length + ([] : Text).length +
        (Piece.writeAll (layout.backPieces attached ++ kept)).length := by
    simp [stop, layout.element_eq attached, Nat.add_assoc]
  have hend : layout.stop offset + (Piece.writeAll kept).length +
      (Piece.writeAll replaced).length = offset + (Piece.writeAll layout.pieces).length := by
    simp [stop, pieces, hregion, Nat.add_assoc]
  rw [hsource, QueryBlock.edits, List.append_assoc,
    Edit.splice_toList (writes_controlEdit? h) rfl (hordered.mono (by simpa using hlt.le)),
    Edit.splice_toList hresult hplace (hrest.mono (by omega)), hend]
  simp [pieces, element_rewrite, hwritten]

end Page.BlockLayout

namespace Page

/-! ### The text of a page -/

/-- The blocks of a page after its use, with what each was rewritten with. -/
def CarriesAll (attached : Bool) (offset : ℕ) :
    List (BlockLayout × Option Content) → List QueryBlock → Prop
  | [], blocks => blocks = []
  | (layout, content?) :: rest, blocks =>
    ∃ block others, blocks = block :: others ∧
      (layout.block offset).Carries attached content? block ∧
      CarriesAll attached (offset + (Piece.writeAll layout.pieces).length) rest others

variable {attached : Bool} {changes : List (BlockLayout × Option Content)} {tail : List Piece}
  {blocks : List QueryBlock} {offset : ℕ}

theorem CarriesAll.ordered (h : CarriesAll attached offset changes blocks) :
    Edit.Ordered (offset + 1) (blocks.flatMap QueryBlock.edits) := by
  induction changes generalizing offset blocks with
  | nil =>
      obtain rfl : blocks = [] := h
      exact trivial
  | cons change rest ih =>
      obtain ⟨layout, content?⟩ := change
      obtain ⟨block, others, rfl, hblock, hothers⟩ := h
      rw [List.flatMap_cons]
      exact (BlockLayout.ordered_edits hblock (ih hothers)).1

theorem CarriesAll.stop_le (h : CarriesAll attached offset changes blocks) {edit : Edit}
    (hedit : edit ∈ blocks.flatMap QueryBlock.edits) (tail : List Piece) :
    edit.stop ≤ offset + (Piece.writeAll (layoutPieces (changes.map Prod.fst) tail)).length := by
  induction changes generalizing offset blocks with
  | nil =>
      obtain rfl : blocks = [] := h
      cases hedit
  | cons change rest ih =>
      obtain ⟨layout, content?⟩ := change
      obtain ⟨block, others, rfl, hblock, hothers⟩ := h
      simp only [List.map_cons, layoutPieces_cons, Piece.writeAll_append, List.length_append]
      rw [List.flatMap_cons, List.mem_append] at hedit
      rcases hedit with hedit | hedit
      · have := (BlockLayout.ordered_edits hblock hothers.ordered).2 edit hedit
        omega
      · have := ih hothers hedit
        omega

theorem CarriesAll.splice (h : CarriesAll attached offset changes blocks) :
    Edit.splice offset (blocks.flatMap QueryBlock.edits)
        (Piece.writeAll (layoutPieces (changes.map Prod.fst) tail)) =
      Piece.writeAll (layoutPieces (rewriteAll attached changes) tail) := by
  induction changes generalizing offset blocks with
  | nil =>
      obtain rfl : blocks = [] := h
      rfl
  | cons change rest ih =>
      obtain ⟨layout, content?⟩ := change
      obtain ⟨block, others, rfl, hblock, hothers⟩ := h
      rw [List.flatMap_cons, List.map_cons, layoutPieces_cons, Piece.writeAll_append,
        BlockLayout.splice_edits hblock hothers.ordered, ih hothers, rewriteAll_cons,
        layoutPieces_cons, Piece.writeAll_append]

/-- The text of a page with the regions of its blocks is that of its rewritten layouts. -/
theorem CarriesAll.toHtml {page : Page} (h : CarriesAll attached 0 changes page.blocks)
    (hsource : page.source = Piece.writeAll (layoutPieces (changes.map Prod.fst) tail)) :
    page.toHtml = Piece.writeAll (layoutPieces (rewriteAll attached changes) tail) := by
  have hbounds : ∀ edit ∈ page.blocks.flatMap QueryBlock.edits, edit.stop ≤
      (Piece.writeAll (layoutPieces (changes.map Prod.fst) tail)).length := fun edit hedit => by
    simpa using h.stop_le hedit tail
  rw [Page.toHtml, hsource, Edit.applyAll_eq_splice (h.ordered.mono (Nat.zero_le _)) hbounds,
    h.splice]

end Page

end CypherPages
