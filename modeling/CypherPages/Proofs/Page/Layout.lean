import CypherPages.Proofs.Json.Limits
import CypherPages.Proofs.Page.OpenBlock

/-! # The layout of a page

A page that closes its result regions is a sequence of query blocks, each with what stands
before it and with its result region, and a tail. The layout of a page fixes its blocks. -/

namespace CypherPages.Page
open Html

/-- Whether pieces in a division of a region, `depth` divisions deep, leave no more than the
region open and never close it. -/
def Encloses (depth : ℕ) : List Piece → Prop
  | [] => depth = 1
  | next :: rest => depthAfter depth next ≠ 0 ∧ Encloses (depthAfter depth next) rest

/-- Pieces behind a query block that do not continue with a result region. -/
def LeavesBlock (pieces : List Piece) : Prop :=
  ∀ next ∈ (pieces.dropWhile isBetween).head?, opensRegion next = false

/-- A result region with the pieces between it and its block. -/
structure RegionLayout where
  gap : List Piece
  opening : WrittenTag
  content : List Piece
  closing : Text
  isBetween_gap : gap.all isBetween = true
  opensRegion_opening : opensRegion (.start opening) = true
  encloses_content : Encloses 1 content
  closes_closing : closes "div".toList (.close closing) = true

/-- The pieces of a result region behind its gap. -/
def RegionLayout.element (region : RegionLayout) : List Piece :=
  .start region.opening :: region.content ++ [.close region.closing]

/-- A query block with the pieces before it and its result region, if it has one. -/
@[ext] structure BlockLayout where
  before : List Piece
  opening : WrittenTag
  inner : List Piece
  closing : Text
  region : Option RegionLayout
  opensBlock_before : before.all (!opensBlock ·) = true
  opensBlock_opening : opensBlock (.start opening) = true
  closes_inner : inner.all (!closes "pre".toList ·) = true
  closes_closing : closes "pre".toList (.close closing) = true

namespace BlockLayout

/-- The pieces of a block up to its end tag. -/
def element (layout : BlockLayout) : List Piece :=
  layout.before ++ .start layout.opening :: layout.inner ++ [.close layout.closing]

/-- The pieces of a block's result region with its gap. -/
def regionPieces (layout : BlockLayout) : List Piece :=
  match layout.region with
  | none => []
  | some region => region.gap ++ region.element

def pieces (layout : BlockLayout) : List Piece := layout.element ++ layout.regionPieces

/-- Just past the start tag of the block whose first piece starts at `offset`. -/
def startTagEnd (layout : BlockLayout) (offset : ℕ) : ℕ :=
  offset + (Piece.writeAll layout.before).length + layout.opening.write.length

/-- Just past the end tag of the block. -/
def stop (layout : BlockLayout) (offset : ℕ) : ℕ :=
  offset + (Piece.writeAll layout.element).length

/-- The result region as it is read. -/
def result (layout : BlockLayout) (offset : ℕ) : Option ResultRegion :=
  layout.region.map fun region =>
    { ResultRegion.empty with
      span := some (layout.stop offset + (Piece.writeAll region.gap).length,
        offset + (Piece.writeAll layout.pieces).length) }

/-- The block as it is read up to its end tag. -/
def openBlock (layout : BlockLayout) (offset : ℕ) : OpenBlock :=
  (OpenBlock.opened layout.opening (layout.startTagEnd offset)).pieces (layout.startTagEnd offset)
    layout.inner

/-- The block as it is read. -/
def block (layout : BlockLayout) (offset : ℕ) : QueryBlock :=
  { (layout.openBlock offset).close (layout.stop offset) with result := layout.result offset }

end BlockLayout

/-- The pieces of a page: blocks and a tail. -/
def layoutPieces (layouts : List BlockLayout) (tail : List Piece) : List Piece :=
  layouts.flatMap BlockLayout.pieces ++ tail

/-- The blocks of a page whose first piece starts at `offset`. -/
def blocksFrom (offset : ℕ) : List BlockLayout → List QueryBlock
  | [] => []
  | layout :: rest =>
    layout.block offset :: blocksFrom (offset + (Piece.writeAll layout.pieces).length) rest

/-- Where a block has no result region, what follows it is none. A tail closes no block. -/
def Follows (tail : List Piece) : List BlockLayout → Prop
  | [] => ((tail.dropWhile (!opensBlock ·)).all (!closes "pre".toList ·)) = true
  | layout :: rest =>
    (layout.region = none → LeavesBlock (layoutPieces rest tail)) ∧ Follows tail rest

/-- The pieces that count for the configuration of a page. -/
def outerPieces (layouts : List BlockLayout) (tail : List Piece) : List Piece :=
  (layouts.flatMap fun layout => layout.before ++ layout.inner) ++ tail

/-- The configuration after pieces outside all result regions. -/
def configOf (config : Except Json.Failure (List (Text × Json))) (pieces : List Piece) :
    Except Json.Failure (List (Text × Json)) :=
  pieces.foldl configAfter config

/-- Whether a place is in a result region. -/
def Place.isInResult : Place → Bool
  | .inResult .. => true
  | _ => false

namespace Reading

/-- Two readings show the same, and neither or both stand in a result region. -/
structure SameOutcome (reading other : Reading) : Prop where
  blocks : reading.blocks = other.blocks
  config : reading.config = other.config
  isInResult : reading.place.isInResult = other.place.isInResult

variable {complete : List QueryBlock} {config : Except Json.Failure (List (Text × Json))}
  {next : List Piece}

/-! ### Sequences of pieces -/

theorem pieces_outside (hlawful : ∀ piece ∈ next, piece.isLawful = true)
    (h : next.all (!opensBlock ·) = true) (offset : ℕ) :
    pieces ⟨complete, .outside, none, config⟩ offset next =
      ⟨complete, .outside, none, configOf config next⟩ := by
  induction next generalizing config offset with
  | nil => rfl
  | cons first rest ih =>
      rw [List.all_cons, Bool.and_eq_true, Bool.not_eq_true'] at h
      rw [pieces_cons, piece_outside (hlawful first List.mem_cons_self) h.1,
        ih (fun piece hp => hlawful piece (List.mem_cons_of_mem _ hp)) h.2]
      rfl

theorem pieces_inBlock (hlawful : ∀ piece ∈ next, piece.isLawful = true)
    (h : next.all (!closes "pre".toList ·) = true) (block : OpenBlock) (offset : ℕ) :
    pieces ⟨complete, .inBlock block, none, config⟩ offset next =
      ⟨complete, .inBlock (block.pieces offset next), none, configOf config next⟩ := by
  induction next generalizing config block offset with
  | nil => rfl
  | cons first rest ih =>
      rw [List.all_cons, Bool.and_eq_true, Bool.not_eq_true'] at h
      rw [pieces_cons, piece_inBlock (hlawful first List.mem_cons_self) h.1,
        ih (fun piece hp => hlawful piece (List.mem_cons_of_mem _ hp)) h.2]
      rfl

theorem pieces_isBetween (h : next.all isBetween = true) (block : QueryBlock) (offset : ℕ) :
    pieces ⟨complete, .afterBlock block, none, config⟩ offset next =
      ⟨complete, .afterBlock block, none, config⟩ := by
  induction next generalizing offset with
  | nil => rfl
  | cons first rest ih =>
      rw [List.all_cons, Bool.and_eq_true] at h
      rw [pieces_cons, piece_isBetween h.1, ih h.2]

theorem pieces_inResult (hlawful : ∀ piece ∈ next, piece.isLawful = true) {depth : ℕ}
    (h : Encloses depth next) (block : QueryBlock) (start offset : ℕ) :
    pieces ⟨complete, .inResult block start depth, none, config⟩ offset next =
      ⟨complete, .inResult block start 1, none, config⟩ := by
  induction next generalizing depth offset with
  | nil =>
      obtain rfl : depth = 1 := h
      rfl
  | cons first rest ih =>
      rw [pieces_cons, piece_inResult (hlawful first List.mem_cons_self) _ _ _ h.1,
        ih (fun piece hp => hlawful piece (List.mem_cons_of_mem _ hp)) h.2]

/-- What does not continue with a result region is read behind a block as it is read outside. -/
theorem sameOutcome_afterBlock (hlawful : ∀ piece ∈ next, piece.isLawful = true)
    (h : LeavesBlock next) (block : QueryBlock) (offset : ℕ) :
    SameOutcome (pieces ⟨complete, .afterBlock block, none, config⟩ offset next)
      (pieces ⟨complete ++ [block], .outside, none, config⟩ offset next) := by
  induction next generalizing offset with
  | nil => exact ⟨rfl, rfl, rfl⟩
  | cons first rest ih =>
      have hfirst := hlawful first List.mem_cons_self
      rw [pieces_cons, pieces_cons]
      cases hbetween : isBetween first with
      | true =>
          have hopens : opensBlock first = false := by
            cases first <;> first | rfl | cases hbetween
          have hconfig : configAfter config first = config := by
            cases first <;> first | rfl | cases hbetween
          rw [LeavesBlock, List.dropWhile_cons_of_pos hbetween] at h
          rw [piece_isBetween hbetween, piece_outside hfirst hopens, hconfig]
          exact ih (fun piece hp => hlawful piece (List.mem_cons_of_mem _ hp)) h _
      | false =>
          rw [LeavesBlock, List.dropWhile_cons_of_neg (by simp [hbetween])] at h
          rw [piece_afterBlock hfirst hbetween (h first rfl)]
          exact ⟨rfl, rfl, rfl⟩

/-! ### Blocks and tails -/

theorem pieces_element (layout : BlockLayout)
    (hlawful : ∀ piece ∈ layout.element, piece.isLawful = true) (offset : ℕ) :
    pieces ⟨complete, .outside, none, config⟩ offset layout.element =
      ⟨complete, .afterBlock ((layout.openBlock offset).close (layout.stop offset)), none,
        configOf config (layout.before ++ layout.inner)⟩ := by
  have hstop : layout.startTagEnd offset + (Piece.writeAll layout.inner).length +
      (Piece.endTag layout.closing).length = layout.stop offset := by
    simp only [BlockLayout.startTagEnd, BlockLayout.stop, BlockLayout.element,
      Piece.writeAll_append, Piece.writeAll_cons, Piece.writeAll_nil, Piece.write,
      List.length_append, List.length_nil]
    omega
  have hbefore : ∀ piece ∈ layout.before, piece.isLawful = true := fun piece hp =>
    hlawful piece (by simp [BlockLayout.element, hp])
  have hinner : ∀ piece ∈ layout.inner, piece.isLawful = true := fun piece hp =>
    hlawful piece (by simp [BlockLayout.element, hp])
  have hclosing : (Piece.close layout.closing).isLawful = true :=
    hlawful _ (by simp [BlockLayout.element])
  simp only [BlockLayout.element, List.append_assoc, List.cons_append]
  rw [pieces_append, pieces_outside hbefore layout.opensBlock_before, pieces_cons,
    piece_opensBlock layout.opensBlock_opening, pieces_append,
    pieces_inBlock hinner layout.closes_inner, pieces_cons,
    piece_closesBlock hclosing layout.closes_closing, pieces_nil, configOf, configOf, configOf,
    List.foldl_append, ← hstop]
  rfl

theorem pieces_region (region : RegionLayout)
    (hlawful : ∀ piece ∈ region.gap ++ region.element, piece.isLawful = true)
    (block : QueryBlock) (offset : ℕ) :
    pieces ⟨complete, .afterBlock block, none, config⟩ offset (region.gap ++ region.element) =
      ⟨complete ++ [{ block with result := some { ResultRegion.empty with
          span := some (offset + (Piece.writeAll region.gap).length,
            offset + (Piece.writeAll (region.gap ++ region.element)).length) } }], .outside, none,
        config⟩ := by
  have hcontent : ∀ piece ∈ region.content, piece.isLawful = true := fun piece hp =>
    hlawful piece (by simp [RegionLayout.element, hp])
  have hclosing : (Piece.close region.closing).isLawful = true :=
    hlawful _ (by simp [RegionLayout.element])
  simp only [RegionLayout.element, List.cons_append]
  rw [pieces_append, pieces_isBetween region.isBetween_gap, pieces_cons,
    piece_opensRegion region.opensRegion_opening, pieces_append,
    pieces_inResult hcontent region.encloses_content, pieces_cons,
    piece_closesRegion hclosing region.closes_closing, pieces_nil]
  simp [Piece.write, Nat.add_assoc]

/-- A block with its result region is read as the layout says. -/
theorem pieces_block (layout : BlockLayout)
    (hlawful : ∀ piece ∈ layout.pieces, piece.isLawful = true) (offset : ℕ) :
    pieces ⟨complete, .outside, none, config⟩ offset layout.pieces =
      match layout.region with
      | none => ⟨complete, .afterBlock (layout.block offset), none,
          configOf config (layout.before ++ layout.inner)⟩
      | some _ => ⟨complete ++ [layout.block offset], .outside, none,
          configOf config (layout.before ++ layout.inner)⟩ := by
  obtain ⟨helement, hregion⟩ := List.forall_mem_append.mp hlawful
  rw [BlockLayout.pieces, pieces_append, pieces_element layout helement]
  simp only [BlockLayout.block, BlockLayout.result, BlockLayout.pieces, BlockLayout.regionPieces]
    at hregion ⊢
  cases hr : layout.region with
  | none => rfl
  | some region =>
      rw [hr] at hregion
      rw [pieces_region region hregion]
      simp [BlockLayout.stop, Nat.add_assoc]

theorem pieces_tail (hlawful : ∀ piece ∈ next, piece.isLawful = true)
    (h : (next.dropWhile (!opensBlock ·)).all (!closes "pre".toList ·) = true) (offset : ℕ) :
    (pieces ⟨complete, .outside, none, config⟩ offset next).blocks = complete ∧
      (pieces ⟨complete, .outside, none, config⟩ offset next).config = configOf config next ∧
      (pieces ⟨complete, .outside, none, config⟩ offset next).place.isInResult = false := by
  induction next generalizing config offset with
  | nil => exact ⟨rfl, rfl, rfl⟩
  | cons first rest ih =>
      obtain ⟨hfirst, hrest⟩ := List.forall_mem_cons.mp hlawful
      rw [pieces_cons]
      cases hopens : opensBlock first with
      | false =>
          rw [List.dropWhile_cons_of_pos (by simp [hopens])] at h
          rw [piece_outside hfirst hopens]
          exact ih hrest h _
      | true =>
          rw [List.dropWhile_cons_of_neg (by simp [hopens]), List.all_cons, Bool.and_eq_true] at h
          cases first with
          | start tag =>
              rw [piece_opensBlock hopens, pieces_inBlock hrest h.2]
              exact ⟨rfl, rfl, rfl⟩
          | _ => cases hopens

/-- The layout of a page fixes what is read of it. -/
theorem pieces_layout {layouts : List BlockLayout} {tail : List Piece}
    (hlawful : ∀ piece ∈ layoutPieces layouts tail, piece.isLawful = true)
    (h : Follows tail layouts) (offset : ℕ) :
    let reading := pieces ⟨complete, .outside, none, config⟩ offset (layoutPieces layouts tail)
    reading.blocks = complete ++ blocksFrom offset layouts ∧
      reading.config = configOf config (outerPieces layouts tail) ∧
      reading.place.isInResult = false := by
  induction layouts generalizing complete config offset with
  | nil => simpa [layoutPieces, outerPieces, blocksFrom] using pieces_tail hlawful h offset
  | cons layout rest ih =>
      have hsplit : layoutPieces (layout :: rest) tail =
          layout.pieces ++ layoutPieces rest tail := by
        simp [layoutPieces]
      have houter : configOf config (outerPieces (layout :: rest) tail) =
          configOf (configOf config (layout.before ++ layout.inner)) (outerPieces rest tail) := by
        simp [configOf, outerPieces, List.foldl_append]
      rw [hsplit] at hlawful
      obtain ⟨hlayout, hrest⟩ := List.forall_mem_append.mp hlawful
      obtain ⟨hblocks, hconfig, hplace⟩ := @ih (complete ++ [layout.block offset])
        (configOf config (layout.before ++ layout.inner)) hrest h.2
        (offset + (Piece.writeAll layout.pieces).length)
      simp only [hsplit, pieces_append, pieces_block layout hlayout, blocksFrom, houter]
      cases hregion : layout.region with
      | some region =>
          simp only [hblocks, hconfig, hplace, List.append_assoc, List.singleton_append, and_self]
      | none =>
          -- The block waits for a region, but none follows.
          have hsame := @sameOutcome_afterBlock complete
            (configOf config (layout.before ++ layout.inner)) _ hrest (h.1 hregion)
            (layout.block offset) (offset + (Piece.writeAll layout.pieces).length)
          simp only [hsame.blocks, hsame.config, hsame.isInResult, hblocks, hconfig, hplace,
            List.append_assoc, List.singleton_append, and_self]

end Reading

/-- A page is what its layout says, if its configurations can be read. -/
theorem read_layout {layouts : List BlockLayout} {tail : List Piece}
    (hplain : Piece.Plain (layoutPieces layouts tail)) (h : Follows tail layouts) :
    Page.read (Piece.writeAll (layoutPieces layouts tail)) =
      ((configOf (.ok []) (outerPieces layouts tail)).mapError .config).map fun config =>
        ⟨Piece.writeAll (layoutPieces layouts tail), blocksFrom 0 layouts, config, false⟩ := by
  obtain ⟨hblocks, hconfig, -⟩ :=
    @Reading.pieces_layout [] (.ok []) layouts tail hplain.lawful h 0
  rw [Reading.pieces] at hblocks hconfig
  simp only [read, hplain.tokens_writeAll, Except.mapError, Except.bind, Reading.start, hblocks,
    hconfig, List.nil_append]

/-- A piece is no configuration, or one that can be read. -/
def ReadableConfig : Piece → Prop
  | .raw tag content _ => opensConfig tag = true → ∃ value, Json.read content = .ok value
  | _ => True

/-- Whether a piece is an element whose content is no markup. -/
def isRaw : Piece → Bool
  | .raw .. => true
  | _ => false

theorem readableConfig_of_all {pieces : List Piece} (h : pieces.all (!isRaw ·) = true)
    {piece : Piece} (hpiece : piece ∈ pieces) : ReadableConfig piece := by
  have hraw := List.all_eq_true.mp h piece hpiece
  cases piece with
  | raw => cases hraw
  | _ => trivial

theorem exists_configOf {pieces : List Piece} (h : ∀ piece ∈ pieces, ReadableConfig piece)
    (config : List (Text × Json)) : ∃ fields, configOf (.ok config) pieces = .ok fields := by
  induction pieces generalizing config with
  | nil => exact ⟨config, rfl⟩
  | cons piece rest ih =>
      obtain ⟨hpiece, hrest⟩ := List.forall_mem_cons.mp h
      obtain ⟨fields, hfields⟩ : ∃ fields, configAfter (.ok config) piece = .ok fields := by
        cases piece with
        | raw tag content closing =>
            rw [configAfter]
            split
            · next htag =>
                obtain ⟨value, hvalue⟩ := hpiece htag
                cases value with
                | object fields => exact ⟨fields, by simp [Except.bind, Reading.nextConfig, hvalue]⟩
                | _ => exact ⟨config, by simp [Except.bind, Reading.nextConfig, hvalue]⟩
            · exact ⟨config, rfl⟩
        | _ => exact ⟨config, rfl⟩
      rw [configOf, List.foldl_cons, hfields]
      exact ih hrest fields

theorem exists_overlong_of_nextConfig {content : Text} {config : List (Text × Json)}
    {failure : Json.Failure} (h : Reading.nextConfig content config = .error failure) :
    ∃ digits, Json.digitLimit < digits ∧ failure = .overlong digits := by
  unfold Reading.nextConfig at h
  split at h
  · cases h
  · cases h
  · cases h
  · next found hjson hread =>
      obtain rfl := Except.error.inj h
      exact Json.exists_overlong_of_read hread hjson

theorem configOf_error (failure : Json.Failure) (pieces : List Piece) :
    configOf (.error failure) pieces = .error failure := by
  induction pieces with
  | nil => rfl
  | cons piece rest ih =>
      have hpiece : configAfter (.error failure) piece = .error failure := by
        cases piece with
        | raw tag content closing =>
            rw [configAfter]
            split <;> rfl
        | _ => rfl
      rw [configOf, List.foldl_cons, hpiece]
      exact ih

/-- A configuration that is JSON is refused for an integer with too many digits only. -/
theorem exists_overlong_of_configOf {pieces : List Piece} {config : List (Text × Json)}
    {failure : Json.Failure} (h : configOf (.ok config) pieces = .error failure) :
    ∃ digits, Json.digitLimit < digits ∧ failure = .overlong digits := by
  induction pieces generalizing config with
  | nil => cases h
  | cons piece rest ih =>
      rw [configOf, List.foldl_cons] at h
      cases hnext : configAfter (.ok config) piece with
      | ok fields =>
          rw [hnext] at h
          exact ih h
      | error found =>
          rw [hnext] at h
          obtain rfl := Except.error.inj ((configOf_error found rest).symm.trans h)
          cases piece with
          | raw tag content closing =>
              rw [configAfter] at hnext
              split at hnext
              · exact exists_overlong_of_nextConfig hnext
              · cases hnext
          | _ => cases hnext

theorem mem_layoutPieces_of_mem_outerPieces {layouts : List BlockLayout} {tail : List Piece}
    {piece : Piece} (h : piece ∈ outerPieces layouts tail) : piece ∈ layoutPieces layouts tail := by
  simp only [outerPieces, layoutPieces, List.mem_append, List.mem_flatMap] at h ⊢
  refine h.imp_left fun ⟨layout, hlayout, hpiece⟩ => ⟨layout, hlayout, ?_⟩
  simp only [BlockLayout.pieces, BlockLayout.element, List.mem_append, List.mem_cons]
  tauto

/-- A page whose configurations can be read is what its layout says. -/
theorem exists_read_layout {layouts : List BlockLayout} {tail : List Piece}
    (hplain : Piece.Plain (layoutPieces layouts tail)) (h : Follows tail layouts)
    (hconfig : ∀ piece ∈ layoutPieces layouts tail, ReadableConfig piece) :
    ∃ config, Page.read (Piece.writeAll (layoutPieces layouts tail)) =
      .ok ⟨Piece.writeAll (layoutPieces layouts tail), blocksFrom 0 layouts, config, false⟩ := by
  obtain ⟨config, hfields⟩ := exists_configOf
    (fun piece hpiece => hconfig piece (mem_layoutPieces_of_mem_outerPieces hpiece)) []
  exact ⟨config, by rw [read_layout hplain h, hfields]; rfl⟩

/-! ### Every page that closes its regions has a layout -/

/-- Pieces are a tail, or start with a query block. -/
theorem exists_element (pieces : List Piece) :
    ((pieces.dropWhile (!opensBlock ·)).all (!closes "pre".toList ·)) = true ∨
      ∃ (layout : BlockLayout) (rest : List Piece),
        layout.region = none ∧ pieces = layout.element ++ rest := by
  cases hopener : pieces.dropWhile (!opensBlock ·) with
  | nil => exact .inl rfl
  | cons opener inside =>
      obtain ⟨before, rfl, hbefore, hopens⟩ := exists_of_dropWhile hopener
      cases opener with
      | start opening =>
          cases hcloser : inside.dropWhile (!closes "pre".toList ·) with
          | nil =>
              left
              rw [List.all_cons, Bool.and_eq_true]
              exact ⟨rfl, List.all_eq_true.mpr (List.dropWhile_eq_nil_iff.mp hcloser)⟩
          | cons closer rest =>
              obtain ⟨inner, rfl, hinner, hcloses⟩ := exists_of_dropWhile hcloser
              cases closer with
              | close closing =>
                  right
                  refine ⟨⟨before, opening, inner, closing, none, hbefore, by simpa using hopens,
                    hinner, by simpa using hcloses⟩, rest, rfl, ?_⟩
                  simp [BlockLayout.element]
              | _ => cases hcloses
      | _ => cases hopens

/-- Pieces in a region close it somewhere, or a reader stands in the region behind them. -/
theorem exists_encloses (pieces : List Piece) (hlawful : ∀ piece ∈ pieces, piece.isLawful = true)
    {depth : ℕ} (hdepth : depth ≠ 0) :
    (∃ content closing rest, pieces = content ++ .close closing :: rest ∧ Encloses depth content ∧
      closes "div".toList (.close closing) = true) ∨
    ∀ complete block start config offset,
      (Reading.pieces ⟨complete, .inResult block start depth, none, config⟩ offset
        pieces).place.isInResult = true := by
  induction pieces generalizing depth with
  | nil => exact .inr fun _ _ _ _ _ => rfl
  | cons first rest ih =>
      obtain ⟨hfirst, hrest⟩ := List.forall_mem_cons.mp hlawful
      by_cases hzero : depthAfter depth first = 0
      · -- Only an end tag brings the depth down to zero.
        left
        cases first with
        | close name =>
            simp only [depthAfter] at hzero
            split at hzero
            · next hname =>
                obtain rfl : depth = 1 := by omega
                exact ⟨[], name, rest, rfl, rfl, hname⟩
            · exact absurd hzero hdepth
        | start tag =>
            simp only [depthAfter] at hzero
            split at hzero
            · cases hzero
            · exact absurd hzero hdepth
        | _ => exact absurd hzero hdepth
      · rcases ih hrest hzero with
          ⟨content, closing, rest, rfl, hencloses, hcloses⟩ | hopen
        · exact .inl ⟨first :: content, closing, rest, rfl, ⟨hzero, hencloses⟩, hcloses⟩
        · right
          intro complete block start config offset
          rw [Reading.pieces_cons, Reading.piece_inResult hfirst _ _ _ hzero]
          exact hopen _ _ _ _ _

/-- Behind a block stands no result region, one that is closed, or one that is not. -/
theorem exists_region (pieces : List Piece) (hlawful : ∀ piece ∈ pieces, piece.isLawful = true) :
    LeavesBlock pieces ∨
      (∃ (region : RegionLayout) (rest : List Piece),
        pieces = region.gap ++ region.element ++ rest) ∨
      ∀ complete block config offset,
        (Reading.pieces ⟨complete, .afterBlock block, none, config⟩ offset
          pieces).place.isInResult = true := by
  by_cases hleaves : LeavesBlock pieces
  · exact .inl hleaves
  · right
    cases hopener : pieces.dropWhile isBetween with
    | nil => exact absurd (by simp [LeavesBlock, hopener]) hleaves
    | cons opener inside =>
        obtain ⟨gap, rfl, hgap, -⟩ := exists_of_dropWhile hopener
        have hopens : opensRegion opener = true := by
          simpa [LeavesBlock, hopener] using hleaves
        cases opener with
        | start opening =>
            have hinside : ∀ piece ∈ inside, piece.isLawful = true := fun piece hp =>
              hlawful piece (by simp [hp])
            rcases exists_encloses inside hinside Nat.one_ne_zero with
              ⟨content, closing, rest, rfl, hencloses, hcloses⟩ | hopen
            · refine .inl ⟨⟨gap, opening, content, closing, hgap, hopens, hencloses, hcloses⟩,
                rest, ?_⟩
              simp [RegionLayout.element]
            · right
              intro complete block config offset
              rw [Reading.pieces_append, Reading.pieces_isBetween hgap,
                Reading.pieces_cons, Reading.piece_opensRegion hopens]
              exact hopen _ _ _ _ _
        | _ => cases hopens

/-- Pieces have a layout if a reader does not stand in a result region behind them. -/
theorem exists_layout (pieces : List Piece) (hlawful : ∀ piece ∈ pieces, piece.isLawful = true)
    {complete : List QueryBlock} {config : Except Json.Failure (List (Text × Json))} {offset : ℕ}
    (h : (Reading.pieces ⟨complete, .outside, none, config⟩ offset
      pieces).place.isInResult = false) :
    ∃ layouts tail, pieces = layoutPieces layouts tail ∧ Follows tail layouts := by
  induction hlength : pieces.length using Nat.strong_induction_on
    generalizing pieces complete config offset with
  | _ length ih =>
    rcases exists_element pieces with htail | ⟨layout, rest, hnone, rfl⟩
    · exact ⟨[], pieces, rfl, htail⟩
    · have hshorter : ∀ tail : List Piece, tail.length ≤ rest.length → tail.length < length := by
        intro tail hle
        simp only [BlockLayout.element, List.length_append, List.length_cons] at hlength
        omega
      obtain ⟨helement, hrest⟩ := List.forall_mem_append.mp hlawful
      rw [Reading.pieces_append, Reading.pieces_element layout helement] at h
      rcases exists_region rest hrest with hleaves | ⟨region, after, rfl⟩ | hopen
      · -- The block has no region: what follows reads as it does outside.
        rw [(Reading.sameOutcome_afterBlock hrest hleaves _ _).isInResult] at h
        obtain ⟨layouts, tail, rfl, hfollows⟩ := ih _ (hshorter rest le_rfl) rest hrest h rfl
        refine ⟨layout :: layouts, tail, ?_, fun _ => hleaves, hfollows⟩
        simp [layoutPieces, BlockLayout.pieces, BlockLayout.regionPieces, hnone]
      · -- The region ends the block, and the reader is outside again.
        obtain ⟨hregion, hafter⟩ := List.forall_mem_append.mp hrest
        rw [Reading.pieces_append, Reading.pieces_region region hregion] at h
        obtain ⟨layouts, tail, rfl, hfollows⟩ :=
          ih _ (hshorter after (by simp; omega)) after hafter h rfl
        refine ⟨{ layout with region := some region } :: layouts, tail, ?_, ?_, hfollows⟩
        · simp [layoutPieces, BlockLayout.pieces, BlockLayout.regionPieces, BlockLayout.element]
        · rintro ⟨⟩
      · rw [hopen] at h
        cases h

end CypherPages.Page
