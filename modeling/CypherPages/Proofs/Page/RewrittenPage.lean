import CypherPages.Proofs.Page.Rewrite

/-! # Pages with new regions

A page is rewritten block by block. What is written is a page again, with the same blocks and
the same configuration. -/

namespace CypherPages.Page
open Html

/-- The layouts of blocks rewritten with their results. -/
def rewriteAll (attached : Bool) (changes : List (BlockLayout × Option Content)) :
    List BlockLayout :=
  changes.map fun (layout, content?) => layout.rewrite attached content?

@[simp] theorem rewriteAll_cons (attached : Bool) (layout : BlockLayout)
    (content? : Option Content) (rest : List (BlockLayout × Option Content)) :
    rewriteAll attached ((layout, content?) :: rest) =
      layout.rewrite attached content? :: rewriteAll attached rest := rfl

theorem length_rewriteAll (attached : Bool) (changes : List (BlockLayout × Option Content)) :
    (rewriteAll attached changes).length = changes.length := List.length_map _

theorem layoutPieces_cons (layout : BlockLayout) (rest : List BlockLayout) (tail : List Piece) :
    layoutPieces (layout :: rest) tail = layout.pieces ++ layoutPieces rest tail := by
  simp [layoutPieces]

variable {changes : List (BlockLayout × Option Content)} {tail : List Piece}

/-! ### Rewritten pages are plain markup -/

theorem plain_rewriteAll (attached : Bool)
    (h : Piece.Plain (layoutPieces (changes.map Prod.fst) tail)) :
    Piece.Plain (layoutPieces (rewriteAll attached changes) tail) := by
  induction changes with
  | nil => exact h
  | cons change rest ih =>
      obtain ⟨layout, content?⟩ := change
      rw [List.map_cons, layoutPieces_cons] at h
      rw [rewriteAll_cons, layoutPieces_cons]
      exact (BlockLayout.plain_rewrite attached content? h.left).append (ih h.right)
        fun a ha _ _ hboth => by simp [BlockLayout.isText_getLast?_pieces a ha] at hboth

/-- What stands before the first block of a page decides whether a region follows. -/
theorem leavesBlock_cons (layout : BlockLayout) (rest : List Piece) :
    LeavesBlock (layout.pieces ++ rest) ↔
      LeavesBlock (layout.before ++ [.start layout.opening]) := by
  have hopening : isBetween (.start layout.opening) = false := rfl
  have hpieces : layout.pieces ++ rest = layout.before ++ .start layout.opening ::
      (layout.inner ++ .close layout.closing :: (layout.regionPieces ++ rest)) := by
    simp [BlockLayout.pieces, BlockLayout.element]
  simp only [LeavesBlock, hpieces, List.dropWhile_append,
    List.dropWhile_cons_of_neg (by simp [hopening] : ¬ isBetween (.start layout.opening) = true)]
  split
  · rfl
  · next hne =>
      cases h : layout.before.dropWhile isBetween with
      | nil => exact absurd (by simp [h]) hne
      | cons first rest => rfl

theorem leavesBlock_rewriteAll (attached : Bool) :
    LeavesBlock (layoutPieces (rewriteAll attached changes) tail) ↔
      LeavesBlock (layoutPieces (changes.map Prod.fst) tail) := by
  cases changes with
  | nil => rfl
  | cons change rest =>
      obtain ⟨layout, content?⟩ := change
      rw [rewriteAll_cons, List.map_cons, layoutPieces_cons, layoutPieces_cons, leavesBlock_cons,
        leavesBlock_cons]
      rfl

theorem follows_rewriteAll (attached : Bool) (h : Follows tail (changes.map Prod.fst)) :
    Follows tail (rewriteAll attached changes) := by
  induction changes with
  | nil => exact h
  | cons change rest ih =>
      obtain ⟨layout, content?⟩ := change
      refine ⟨fun hnone => (leavesBlock_rewriteAll attached).mpr (h.1 ?_), ih h.2⟩
      cases content? with
      | none => exact hnone
      | some content => cases hnone

theorem configOf_rewriteAll (attached : Bool)
    (config : Except Json.Failure (List (Text × Json))) :
    configOf config (outerPieces (rewriteAll attached changes) tail) =
      configOf config (outerPieces (changes.map Prod.fst) tail) := by
  induction changes generalizing config with
  | nil => rfl
  | cons change rest ih =>
      obtain ⟨layout, content?⟩ := change
      have hcons : ∀ (first : BlockLayout) (others : List BlockLayout),
          configOf config (outerPieces (first :: others) tail) =
            configOf (configOf config (first.before ++ first.inner)) (outerPieces others tail) := by
        intro first others
        simp [configOf, outerPieces, List.foldl_append]
      rw [rewriteAll_cons, List.map_cons, hcons, hcons, BlockLayout.configOf_rewrite, ih]

/-- A rewritten page is read as its layouts say. -/
theorem read_rewriteAll (attached : Bool)
    (hplain : Piece.Plain (layoutPieces (changes.map Prod.fst) tail))
    (hfollows : Follows tail (changes.map Prod.fst)) :
    Page.read (Piece.writeAll (layoutPieces (rewriteAll attached changes) tail)) =
      ((configOf (.ok []) (outerPieces (changes.map Prod.fst) tail)).mapError .config).map
        fun config => ⟨Piece.writeAll (layoutPieces (rewriteAll attached changes) tail),
          blocksFrom 0 (rewriteAll attached changes), config, false⟩ := by
  rw [read_layout (plain_rewriteAll attached hplain) (follows_rewriteAll attached hfollows),
    configOf_rewriteAll]

/-! ### Where regions stand -/

/-- What stands at a span of a text. -/
def slice (text : Text) (span : ℕ × ℕ) : Text := (text.take span.2).drop span.1

theorem slice_append (front middle back : Text) :
    slice (front ++ (middle ++ back)) (front.length, front.length + middle.length) = middle := by
  rw [slice, ← List.append_assoc, ← List.length_append, List.take_left, List.drop_left]

/-- The result region of a block stands where the block says. -/
theorem slice_blocksFrom {layouts : List BlockLayout} {index : ℕ} {layout : BlockLayout}
    {block : QueryBlock} {region : RegionLayout} {offset : ℕ} {front : Text}
    (hfront : front.length = offset) (hlayout : layouts[index]? = some layout)
    (hblock : (blocksFrom offset layouts)[index]? = some block)
    (hregion : layout.region = some region) :
    ∃ span, block.result = some { ResultRegion.empty with span := some span } ∧
      slice (front ++ Piece.writeAll (layoutPieces layouts tail)) span =
        Piece.writeAll region.element := by
  induction layouts generalizing index offset front with
  | nil => cases hlayout
  | cons first rest ih =>
      rw [layoutPieces_cons, Piece.writeAll_append]
      cases index with
      | zero =>
          obtain rfl : first = layout := by simpa using hlayout
          obtain rfl : first.block offset = block := by simpa [blocksFrom] using hblock
          refine ⟨(first.stop offset + (Piece.writeAll region.gap).length,
            offset + (Piece.writeAll first.pieces).length),
            by simp [BlockLayout.block, BlockLayout.result, hregion], ?_⟩
          have hslice := slice_append (front ++ Piece.writeAll first.element ++
            Piece.writeAll region.gap) (Piece.writeAll region.element)
            (Piece.writeAll (layoutPieces rest tail))
          simp only [List.length_append, hfront, List.append_assoc] at hslice
          simp only [BlockLayout.pieces, BlockLayout.regionPieces, hregion, BlockLayout.stop,
            Piece.writeAll_append, List.length_append, List.append_assoc, Nat.add_assoc] at hslice ⊢
          exact hslice
      | succ index =>
          rw [← List.append_assoc]
          exact ih (by rw [List.length_append, hfront]) (by simpa using hlayout)
            (by simpa [blocksFrom] using hblock)

theorem exists_span {layouts : List BlockLayout} {index : ℕ} {layout : BlockLayout}
    {block : QueryBlock} {region : RegionLayout} (hlayout : layouts[index]? = some layout)
    (hblock : (blocksFrom 0 layouts)[index]? = some block)
    (hregion : layout.region = some region) (tail : List Piece) :
    ∃ span, block.result = some { ResultRegion.empty with span := some span } ∧
      slice (Piece.writeAll (layoutPieces layouts tail)) span = Piece.writeAll region.element :=
  @slice_blocksFrom tail layouts index layout block region 0 [] rfl hlayout hblock hregion

end CypherPages.Page
