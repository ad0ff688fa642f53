import CypherPages.Proofs.Page.WriteBack
import CypherPages.Proofs.Results

/-! # Reading a page again

A page of plain markup that was used and written back is read as the page that was written:
nothing of it is lost, and the new regions are found where they were put. -/

namespace CypherPages
open Html

/-- A block that was written into a text is found there as it was: with its code, its endpoint
and its controls, and with its result. A block that was not run keeps the region it had in the
source. -/
structure QueryBlock.Keeps (attached : Bool) (source text : Text) (block again : QueryBlock) :
    Prop where
  query : again.query = block.query
  attributes : again.attributes = block.attributes
  endpoint? : again.endpoint? = block.endpoint?
  withControls : attached = true → again.controlRegion.hasRunButton = true
  withoutControls : attached = false →
    again.controls.map ControlRegion.hasRunButton = block.controls.map ControlRegion.hasRunButton
  wasRun : block.resultRegion.generation ≠ 0 →
    ∃ span, again.resultRegion.span = some span ∧
      Page.slice text span = block.resultRegion.toHtml
  notRun : block.resultRegion.generation = 0 →
    again.result.isSome = block.result.isSome ∧
      ∀ place, block.resultRegion.span = some place →
        ∃ span, again.resultRegion.span = some span ∧
          Page.slice text span = Page.slice source place

/-- A page that was written back is read as the page that was written. -/
structure Page.Keeps (used again : Page) : Prop where
  source : again.source = used.toHtml
  config : again.config = used.config
  length : again.blocks.length = used.blocks.length
  block : ∀ (index : ℕ) (block found : QueryBlock), used.blocks[index]? = some block →
    again.blocks[index]? = some found →
    block.Keeps used.controlsAttached used.source used.toHtml found

namespace Page

/-! ### Well-formed sources -/

/-- A source is plain markup, and every result region behind a block is closed: a reader does
not stand in one at the end. -/
def WellFormed (source : Text) : Prop :=
  ∃ pieces, Piece.Plain pieces ∧ Piece.writeAll pieces = source ∧
    (Reading.start.pieces 0 pieces).place.isInResult = false

/-- A well-formed source has a layout. -/
theorem WellFormed.exists_layouts {source : Text} (h : WellFormed source) :
    ∃ layouts tail, Piece.Plain (layoutPieces layouts tail) ∧ Follows tail layouts ∧
      source = Piece.writeAll (layoutPieces layouts tail) := by
  obtain ⟨pieces, hplain, rfl, hclosed⟩ := h
  obtain ⟨layouts, tail, rfl, hfollows⟩ := exists_layout pieces hplain.lawful hclosed
  exact ⟨layouts, tail, hplain, hfollows, rfl⟩

/-- A configuration of the source has an integer with too many digits, so it cannot be read. -/
def RefusesConfig (source : Text) : Prop :=
  ∃ digits, Json.digitLimit < digits ∧ Page.read source = .error (.config (.overlong digits))

theorem not_refusesConfig {source : Text} {page : Page} (h : Page.read source = .ok page) :
    ¬ RefusesConfig source := by
  rintro ⟨digits, -, hfailure⟩
  cases h.symm.trans hfailure

/-- Nothing but a configuration keeps a well-formed source from being read. -/
theorem WellFormed.read {source : Text} (h : WellFormed source) :
    RefusesConfig source ∨ ∃ page, Page.read source = .ok page := by
  obtain ⟨layouts, tail, hplain, hfollows, rfl⟩ := h.exists_layouts
  have hread := read_layout hplain hfollows
  cases hconfig : configOf (.ok []) (outerPieces layouts tail) with
  | error failure =>
      obtain ⟨digits, hdigits, rfl⟩ := exists_overlong_of_configOf hconfig
      rw [hconfig] at hread
      exact .inl ⟨digits, hdigits, hread⟩
  | ok config =>
      rw [hconfig] at hread
      exact .inr ⟨_, hread⟩

theorem wellFormed_writeAll {layouts : List BlockLayout} {tail : List Piece}
    (hplain : Piece.Plain (layoutPieces layouts tail)) (hfollows : Follows tail layouts) :
    WellFormed (Piece.writeAll (layoutPieces layouts tail)) :=
  ⟨_, hplain, rfl, (@Reading.pieces_layout [] (.ok []) layouts tail hplain.lawful hfollows 0).2.2⟩

/-! ### Blocks by their places -/

/-- The block at an index is the block of the layout there. -/
theorem exists_of_getElem?_blocksFrom {layouts : List BlockLayout} {offset index : ℕ}
    {block : QueryBlock} (h : (blocksFrom offset layouts)[index]? = some block) :
    ∃ layout place, layouts[index]? = some layout ∧ block = layout.block place := by
  induction layouts generalizing offset index with
  | nil => cases h
  | cons layout rest ih =>
      cases index with
      | zero => exact ⟨layout, offset, rfl, (Option.some.inj h).symm⟩
      | succ index => exact ih h

theorem length_blocksFrom (layouts : List BlockLayout) (offset : ℕ) :
    (blocksFrom offset layouts).length = layouts.length := by
  induction layouts generalizing offset with
  | nil => rfl
  | cons layout rest ih => rw [blocksFrom, List.length_cons, List.length_cons, ih]

/-- The results of a page block by block make up the changes of its layouts. -/
theorem carriesAll_zip {attached : Bool} {layouts : List BlockLayout} {offset : ℕ}
    {contents : List (Option Content)} {blocks : List QueryBlock}
    (hcontents : contents.length = layouts.length) (hblocks : blocks.length = layouts.length)
    (h : ∀ (index : ℕ) (found : QueryBlock) (content? : Option Content) (block : QueryBlock),
      (blocksFrom offset layouts)[index]? = some found → contents[index]? = some content? →
      blocks[index]? = some block → found.Carries attached content? block) :
    CarriesAll attached offset (layouts.zip contents) blocks := by
  induction layouts generalizing offset contents blocks with
  | nil => exact List.length_eq_zero_iff.mp hblocks
  | cons layout rest ih =>
      cases contents with
      | nil => cases hcontents
      | cons content? contents =>
          cases blocks with
          | nil => cases hblocks
          | cons block others =>
              exact ⟨block, others, rfl, h 0 _ _ _ rfl rfl rfl,
                ih (Nat.succ.inj hcontents) (Nat.succ.inj hblocks)
                  fun index => h (index + 1)⟩

/-- A page after its use: with run controls or without, and with a result for each block that
was run. -/
structure Uses (attached : Bool) (contents : List (Option Content)) (page used : Page) : Prop where
  source : used.source = page.source
  config : used.config = page.config
  controlsAttached : used.controlsAttached = attached
  contents_length : contents.length = page.blocks.length
  length : used.blocks.length = page.blocks.length
  carries : ∀ (index : ℕ) (found : QueryBlock) (content? : Option Content) (block : QueryBlock),
    page.blocks[index]? = some found → contents[index]? = some content? →
    used.blocks[index]? = some block → found.Carries attached content? block

section uses

variable {layouts : List BlockLayout} {tail : List Piece} {attached : Bool}
  {contents : List (Option Content)} {used : Page} {config : List (Text × Json)} {ready : Bool}

/-- The text of a page after its use. -/
theorem Uses.toHtml (h : Uses attached contents
      ⟨Piece.writeAll (layoutPieces layouts tail), blocksFrom 0 layouts, config, ready⟩ used) :
    used.toHtml =
      Piece.writeAll (layoutPieces (rewriteAll attached (layouts.zip contents)) tail) := by
  have hcontents : contents.length = layouts.length :=
    h.contents_length.trans (length_blocksFrom layouts 0)
  have hblocks : used.blocks.length = layouts.length :=
    h.length.trans (length_blocksFrom layouts 0)
  refine (carriesAll_zip hcontents hblocks h.carries).toHtml ?_
  rw [h.source, List.map_fst_zip hcontents.ge]

/-! ### What is found again -/

/-- The offset of a block decides only where its control region is. -/
theorem hasRunButton_controlsOf (inner : List Piece) (offset offset' : ℕ) :
    (OpenBlock.controlsOf offset inner).map ExistingControls.hasRunButton =
      (OpenBlock.controlsOf offset' inner).map ExistingControls.hasRunButton := by
  rcases controls_cases inner with h | ⟨front, opener, rest, rfl, hfront, hopens⟩
  · rw [controlsOf_of_all h, controlsOf_of_all h]
  · rw [controlsOf_of_opener hfront hopens, controlsOf_of_opener hfront hopens]
    rfl

theorem hasRunButton_block (layout : BlockLayout) (offset : ℕ) :
    (layout.block offset).controls.map ControlRegion.hasRunButton =
      (OpenBlock.controlsOf (layout.startTagEnd offset) layout.inner).map
        ExistingControls.hasRunButton := by
  rw [BlockLayout.controls_block, Option.map_map]
  rfl

theorem generation_of_carries_none {layout : BlockLayout} {place : ℕ} {block : QueryBlock}
    (h : (layout.block place).Carries attached none block) :
    block.resultRegion.generation = 0 := by
  have hresult : block.result = layout.result place := h.result
  rw [QueryBlock.resultRegion, hresult, BlockLayout.result]
  cases layout.region <;> rfl

/-- A result that was written is found behind its block. -/
theorem exists_span_of_content {index place place' : ℕ} {layout : BlockLayout} {content : Content}
    {block : QueryBlock} {rewritten : List BlockLayout}
    (hrewritten : rewritten[index]? = some (layout.rewrite attached (some content)))
    (hplace' : (blocksFrom 0 rewritten)[index]? =
      some ((layout.rewrite attached (some content)).block place'))
    (h : (layout.block place).Carries attached (some content) block) (tail : List Piece) :
    ∃ span,
      ((layout.rewrite attached (some content)).block place').resultRegion.span = some span ∧
      slice (Piece.writeAll (layoutPieces rewritten tail)) span = block.resultRegion.toHtml := by
  obtain ⟨generation, -, hresult⟩ := h.result
  obtain ⟨span, hspan, hslice⟩ := exists_span hrewritten hplace' rfl tail
  refine ⟨span, by rw [QueryBlock.resultRegion, hspan]; rfl, hslice.trans ?_⟩
  rw [QueryBlock.resultRegion, hresult]
  exact writeAll_element_ofContent _ _ _ _ _

/-- A block that was not run keeps the region that it had, or has none. -/
theorem exists_span_of_none {index place place' : ℕ} {layout : BlockLayout} {block : QueryBlock}
    {original rewritten : List BlockLayout} (horiginal : original[index]? = some layout)
    (hplace : (blocksFrom 0 original)[index]? = some (layout.block place))
    (hrewritten : rewritten[index]? = some (layout.rewrite attached none))
    (hplace' : (blocksFrom 0 rewritten)[index]? =
      some ((layout.rewrite attached none).block place'))
    (h : (layout.block place).Carries attached none block) (tail : List Piece) :
    ((layout.rewrite attached none).block place').result.isSome = block.result.isSome ∧
      ∀ before, block.resultRegion.span = some before →
        ∃ span, ((layout.rewrite attached none).block place').resultRegion.span = some span ∧
          slice (Piece.writeAll (layoutPieces rewritten tail)) span =
            slice (Piece.writeAll (layoutPieces original tail)) before := by
  have hresult : block.result = layout.result place := h.result
  cases hregion : layout.region with
  | none =>
      have hnone : block.result = none := by
        rw [hresult, BlockLayout.result, hregion]
        rfl
      have hagain : ((layout.rewrite attached none).block place').result = none := by
        show Option.map _ (Option.or none layout.region) = none
        rw [Option.none_or, hregion]
        rfl
      rw [hagain, hnone, QueryBlock.resultRegion, hnone]
      exact ⟨rfl, fun _ hspan => by cases hspan⟩
  | some region =>
      obtain ⟨span, hspan, hslice⟩ := exists_span hrewritten hplace' hregion tail
      obtain ⟨before, hbefore, hslice'⟩ := exists_span horiginal hplace hregion tail
      have hkept : block.result = some { ResultRegion.empty with span := some before } :=
        hresult.trans hbefore
      rw [hspan, hkept, QueryBlock.resultRegion, hkept, QueryBlock.resultRegion, hspan]
      refine ⟨rfl, fun place hplace => ⟨span, rfl, ?_⟩⟩
      obtain rfl : before = place := Option.some.inj hplace
      rw [hslice, hslice']

/-- A block of a page after its use is found again where its rewritten layout puts it. -/
theorem keeps_rewrite {index place place' : ℕ} {layout : BlockLayout} {content? : Option Content}
    {block : QueryBlock} {original rewritten : List BlockLayout}
    (horiginal : original[index]? = some layout)
    (hplace : (blocksFrom 0 original)[index]? = some (layout.block place))
    (hrewritten : rewritten[index]? = some (layout.rewrite attached content?))
    (hplace' : (blocksFrom 0 rewritten)[index]? =
      some ((layout.rewrite attached content?).block place'))
    (h : (layout.block place).Carries attached content? block) :
    block.Keeps attached (Piece.writeAll (layoutPieces original tail))
      (Piece.writeAll (layoutPieces rewritten tail))
      ((layout.rewrite attached content?).block place') := by
  have hattributes : ((layout.rewrite attached content?).block place').attributes =
      block.attributes :=
    (BlockLayout.attributes_rewrite attached content? place' place).trans h.attributes.symm
  refine ⟨(BlockLayout.query_rewrite attached content? place' place).trans h.query.symm,
    hattributes, by rw [QueryBlock.endpoint?, QueryBlock.endpoint?, hattributes], ?_, ?_, ?_, ?_⟩
  · rintro rfl
    exact BlockLayout.hasRunButton_rewrite content? place'
  · rintro rfl
    rw [h.controls, if_neg Bool.false_ne_true, hasRunButton_block, hasRunButton_block]
    exact hasRunButton_controlsOf layout.inner _ _
  · intro hrun
    cases content? with
    | none => exact absurd (generation_of_carries_none h) hrun
    | some content => exact exists_span_of_content hrewritten hplace' h tail
  · intro hrun
    cases content? with
    | none => exact exists_span_of_none horiginal hplace hrewritten hplace' h tail
    | some content =>
        obtain ⟨generation, hgeneration, hresult⟩ := h.result
        rw [QueryBlock.resultRegion, hresult] at hrun
        exact absurd hrun hgeneration

end uses

/-- A well-formed page that was used is written back as a well-formed page, which is read as the
page that was written. -/
theorem WellFormed.keeps {source : Text} (h : WellFormed source) {page used : Page}
    (hpage : Page.read source = .ok page) {attached : Bool} {contents : List (Option Content)}
    (huses : Uses attached contents page used) :
    WellFormed used.toHtml ∧ ∃ again, Page.read used.toHtml = .ok again ∧ used.Keeps again := by
  obtain ⟨layouts, tail, hplain, hfollows, rfl⟩ := h.exists_layouts
  rw [read_layout hplain hfollows] at hpage
  obtain ⟨config, hconfig, rfl⟩ := exists_of_map_eq_ok hpage
  have hcontents : contents.length = layouts.length :=
    huses.contents_length.trans (length_blocksFrom layouts 0)
  have hfst : (layouts.zip contents).map Prod.fst = layouts := List.map_fst_zip hcontents.ge
  rw [← hfst] at hplain hfollows
  have hread := read_rewriteAll attached hplain hfollows
  rw [hfst, hconfig] at hread
  rw [huses.toHtml]
  refine ⟨wellFormed_writeAll (plain_rewriteAll attached hplain)
    (follows_rewriteAll attached hfollows), _, hread, ?_⟩
  have hlength : (blocksFrom 0 (rewriteAll attached (layouts.zip contents))).length =
      layouts.length := by
    rw [length_blocksFrom, length_rewriteAll, List.length_zip, hcontents, Nat.min_self]
  refine ⟨huses.toHtml.symm, huses.config.symm, ?_, ?_⟩
  · rw [hlength, huses.length, length_blocksFrom]
  · intro index block found hblock hfound
    obtain ⟨rewritten, place', hrewritten, rfl⟩ := exists_of_getElem?_blocksFrom hfound
    have hchange := hrewritten
    rw [rewriteAll, List.getElem?_map, Option.map_eq_some_iff] at hchange
    obtain ⟨⟨layout, content?⟩, hchange, rfl⟩ := hchange
    obtain ⟨hlayout, hcontent⟩ := List.getElem?_zip_eq_some.mp hchange
    have hindex : index < (blocksFrom 0 layouts).length := by
      rw [length_blocksFrom]
      exact (List.getElem?_eq_some_iff.mp hlayout).1
    have hbase := List.getElem?_eq_getElem hindex
    obtain ⟨original, place, horiginal, heq⟩ := exists_of_getElem?_blocksFrom hbase
    obtain rfl : original = layout := Option.some.inj (horiginal.symm.trans hlayout)
    rw [heq] at hbase
    have hcarries := huses.carries index _ content? block hbase hcontent hblock
    rw [huses.controlsAttached, huses.source, huses.toHtml]
    exact keeps_rewrite horiginal hbase hrewritten hfound hcarries

/-! ### What a page asks for -/

/-- What a page asks for does not change with its use. -/
theorem Uses.queries {attached : Bool} {contents : List (Option Content)} {page used : Page}
    (h : Uses attached contents page used) :
    (used.blocks.map fun block => (block.query, block.attributes)) =
      page.blocks.map fun block => (block.query, block.attributes) := by
  refine List.ext_getElem (by simp [h.length]) fun index hused hpage => ?_
  rw [List.length_map] at hused hpage
  have hcontent : index < contents.length := h.contents_length ▸ hpage
  have hcarries := h.carries index page.blocks[index] contents[index] used.blocks[index]
    (List.getElem?_eq_getElem _) (List.getElem?_eq_getElem _) (List.getElem?_eq_getElem _)
  rw [List.getElem_map, List.getElem_map, hcarries.query, hcarries.attributes]

theorem Keeps.queries {used again : Page} (h : used.Keeps again) :
    (again.blocks.map fun block => (block.query, block.attributes)) =
      used.blocks.map fun block => (block.query, block.attributes) := by
  refine List.ext_getElem (by simp [h.length]) fun index hagain hused => ?_
  rw [List.length_map] at hagain hused
  have hkeeps := h.block index used.blocks[index] again.blocks[index]
    (List.getElem?_eq_getElem _) (List.getElem?_eq_getElem _)
  rw [List.getElem_map, List.getElem_map, hkeeps.query, hkeeps.attributes]

end Page

end CypherPages
