import CypherPages.Proofs.Html.Fragment
import CypherPages.Proofs.Page.Layout

/-! # Blocks with new regions

A block is rewritten by putting a run button into it and a result behind it. That leaves its
code and its attributes alone, and markup that was plain stays plain. -/

namespace CypherPages.Page
open Html

/-! ### The pieces of a run button -/

/-- The start tag of a run button. -/
def buttonTag : WrittenTag :=
  .ofValues "button".toList
    [("class".toList, Control.buttonClass ++ " play-button".toList),
      ("title".toList, Control.runTitle), ("aria-label".toList, Control.runTitle)]

def buttonPieces : List Piece := Piece.element buttonTag []

/-- The start tag of a control region. -/
def controlsTag : WrittenTag :=
  .ofValues "div".toList [("class".toList, ControlRegion.elementClass)]

def controlsPieces : List Piece := Piece.element controlsTag buttonPieces

theorem writeAll_buttonPieces : Piece.writeAll buttonPieces = Control.run.toHtml := by
  decide

theorem writeAll_controlsPieces :
    Piece.writeAll controlsPieces = (ControlRegion.empty.insert .run).toHtml := by
  decide +kernel

/-- Pieces that may be put into a block. -/
structure Addition (pieces : List Piece) : Prop where
  solid : Piece.Solid pieces
  isInert : pieces.all OpenBlock.isInert = true
  closes : pieces.all (!closes "pre".toList ·) = true

theorem addition_nil : Addition [] := ⟨Piece.solid_nil, rfl, rfl⟩

theorem addition_buttonPieces : Addition buttonPieces :=
  ⟨Piece.Plain.element (by decide) Piece.plain_nil, by decide, by decide⟩

theorem addition_controlsPieces : Addition controlsPieces :=
  ⟨Piece.Plain.element (by decide) addition_buttonPieces.solid.plain, by decide,
    by decide⟩

theorem configOf_of_all_isInert {pieces : List Piece} (h : pieces.all OpenBlock.isInert = true)
    (config : Except Json.Failure (List (Text × Json))) : configOf config pieces = config := by
  induction pieces with
  | nil => rfl
  | cons piece rest ih =>
      rw [List.all_cons, Bool.and_eq_true] at h
      have hpiece : configAfter config piece = config := by
        cases piece <;> first | rfl | cases h.1
      rw [configOf, List.foldl_cons, hpiece]
      exact ih h.2

/-! ### Where a run button goes -/

/-- Pieces with an addition between them. -/
structure Insertion where
  front : List Piece
  added : List Piece
  back : List Piece

def Insertion.pieces (insertion : Insertion) : List Piece :=
  insertion.front ++ insertion.added ++ insertion.back

/-- How a run button is put among the pieces of a block: a region of its own at the front, or a
place at the front of the region that there is, unless that has one. -/
def insertButton (inner : List Piece) : Insertion :=
  match inner.dropWhile (!opensControls ·) with
  | [] => ⟨[], controlsPieces, inner⟩
  | opener :: rest =>
    ⟨inner.takeWhile (!opensControls ·) ++ [opener],
      if rest.any isRunButton then [] else buttonPieces, rest⟩

/-- How the pieces of a block change when run controls are or are not attached. -/
def insertionFor (attached : Bool) (inner : List Piece) : Insertion :=
  if attached then insertButton inner else ⟨[], [], inner⟩

/-- Pieces open no control region, or one of them is the first that does. -/
theorem controls_cases (inner : List Piece) :
    inner.all (!opensControls ·) = true ∨
      ∃ front opener rest, inner = front ++ opener :: rest ∧
        front.all (!opensControls ·) = true ∧ opensControls opener = true := by
  cases h : inner.dropWhile (!opensControls ·) with
  | nil => exact .inl (List.all_eq_true.mpr (List.dropWhile_eq_nil_iff.mp h))
  | cons opener rest =>
      obtain ⟨front, hsplit, hfront, hopens⟩ := exists_of_dropWhile h
      exact .inr ⟨front, opener, rest, hsplit, hfront, by simpa using hopens⟩

section cases

variable {front rest : List Piece} {opener : Piece}

theorem dropWhile_opensControls (hfront : front.all (!opensControls ·) = true)
    (hopens : opensControls opener = true) :
    (front ++ opener :: rest).dropWhile (!opensControls ·) = opener :: rest := by
  rw [List.dropWhile_append_of_pos (List.all_eq_true.mp hfront),
    List.dropWhile_cons_of_neg (by simp [hopens])]

theorem takeWhile_opensControls (hfront : front.all (!opensControls ·) = true)
    (hopens : opensControls opener = true) :
    (front ++ opener :: rest).takeWhile (!opensControls ·) = front := by
  rw [List.takeWhile_append_of_pos (List.all_eq_true.mp hfront),
    List.takeWhile_cons_of_neg (by simp [hopens]), List.append_nil]

theorem insertButton_of_all (h : rest.all (!opensControls ·) = true) :
    insertButton rest = ⟨[], controlsPieces, rest⟩ := by
  rw [insertButton, List.dropWhile_eq_nil_iff.mpr (List.all_eq_true.mp h)]

theorem insertButton_of_opener (hfront : front.all (!opensControls ·) = true)
    (hopens : opensControls opener = true) :
    insertButton (front ++ opener :: rest) =
      ⟨front ++ [opener], if rest.any isRunButton then [] else buttonPieces, rest⟩ := by
  rw [insertButton, dropWhile_opensControls hfront hopens, takeWhile_opensControls hfront hopens]

theorem controlsOf_of_all (h : rest.all (!opensControls ·) = true) (offset : ℕ) :
    OpenBlock.controlsOf offset rest = none := by
  rw [OpenBlock.controlsOf, List.dropWhile_eq_nil_iff.mpr (List.all_eq_true.mp h)]

theorem controlsOf_of_opener (hfront : front.all (!opensControls ·) = true)
    (hopens : opensControls opener = true) (offset : ℕ) :
    OpenBlock.controlsOf offset (front ++ opener :: rest) =
      some ⟨offset + (Piece.writeAll (front ++ [opener])).length, rest.any isRunButton⟩ := by
  rw [OpenBlock.controlsOf, dropWhile_opensControls hfront hopens,
    takeWhile_opensControls hfront hopens]
  simp [Nat.add_assoc]

end cases

/-- What is put in goes between pieces that stay as they are. -/
theorem front_append_back (attached : Bool) (inner : List Piece) :
    (insertionFor attached inner).front ++ (insertionFor attached inner).back = inner := by
  cases attached with
  | false => rfl
  | true =>
      rcases controls_cases inner with h | ⟨front, opener, rest, rfl, hfront, hopens⟩
      · simp [insertionFor, insertButton_of_all h]
      · simp [insertionFor, insertButton_of_opener hfront hopens]

theorem addition_added (attached : Bool) (inner : List Piece) :
    Addition (insertionFor attached inner).added := by
  cases attached with
  | false => exact addition_nil
  | true =>
      rcases controls_cases inner with h | ⟨front, opener, rest, rfl, hfront, hopens⟩
      · simpa only [insertionFor, ite_true, insertButton_of_all h] using addition_controlsPieces
      · simp only [insertionFor, ite_true, insertButton_of_opener hfront hopens]
        split
        · exact addition_nil
        · exact addition_buttonPieces

/-- With a run button put in, the control region has one. -/
theorem hasRunButton_insertButton (inner : List Piece) (offset : ℕ) :
    ∃ controls, OpenBlock.controlsOf offset (insertButton inner).pieces = some controls ∧
      controls.hasRunButton = true := by
  rcases controls_cases inner with h | ⟨front, opener, rest, rfl, hfront, hopens⟩
  · have hopener : opensControls (.start controlsTag) = true := by decide +kernel
    have hbutton : isRunButton (.start buttonTag) = true := by decide +kernel
    have hpieces : (insertButton inner).pieces =
        [] ++ .start controlsTag :: (buttonPieces ++ [.close controlsTag.name] ++ inner) := by
      rw [insertButton_of_all h]
      rfl
    rw [hpieces, controlsOf_of_opener rfl hopener]
    exact ⟨_, rfl, by simp [buttonPieces, Piece.element, hbutton]⟩
  · have hbutton : buttonPieces.any isRunButton = true := by decide +kernel
    have hpieces : (insertButton (front ++ opener :: rest)).pieces =
        front ++ opener :: ((if rest.any isRunButton then [] else buttonPieces) ++ rest) := by
      simp [insertButton_of_opener hfront hopens, Insertion.pieces]
    rw [hpieces, controlsOf_of_opener hfront hopens]
    refine ⟨_, rfl, ?_⟩
    cases hany : rest.any isRunButton <;> simp [hany, hbutton]

/-- Where the control region has a run button none is put in. -/
theorem pieces_insertionFor_of_hasRunButton {inner : List Piece} {offset : ℕ}
    {controls : ExistingControls} (h : OpenBlock.controlsOf offset inner = some controls)
    (hbutton : controls.hasRunButton = true) (attached : Bool) :
    (insertionFor attached inner).pieces = inner := by
  cases attached with
  | false => rfl
  | true =>
      rcases controls_cases inner with hall | ⟨front, opener, rest, rfl, hfront, hopens⟩
      · rw [controlsOf_of_all hall] at h
        cases h
      · rw [controlsOf_of_opener hfront hopens, Option.some.injEq] at h
        subst h
        have hbutton : rest.any isRunButton = true := hbutton
        simp only [insertionFor, ite_true, insertButton_of_opener hfront hopens, Insertion.pieces,
          hbutton]
        simp

/-! ### Result regions -/

/-- Pieces that may stand in a region. -/
structure Content where
  pieces : List Piece
  plain : Piece.Plain pieces
  nested : Piece.Nested pieces

def regionTag : WrittenTag :=
  .ofValues "div".toList [("class".toList, ResultRegion.elementClass)]

/-- Properly nested pieces leave the depth of divisions as it was. -/
theorem encloses_append_of_nested {pieces : List Piece} (h : Piece.Nested pieces)
    {depth : ℕ} (hdepth : depth ≠ 0) {rest : List Piece} (hrest : Encloses depth rest) :
    Encloses depth (pieces ++ rest) := by
  induction h generalizing depth rest with
  | nil => exact hrest
  | text characters _ ih => exact ⟨hdepth, ih hdepth hrest⟩
  | element tag _ _ ihcontent ih =>
      have hafter := ih hdepth hrest
      simp only [Piece.element, List.append_assoc, List.cons_append, Encloses, depthAfter]
      split
      · next hname =>
          refine ⟨Nat.succ_ne_zero _, ihcontent (Nat.succ_ne_zero _) ?_⟩
          simp only [List.nil_append, Encloses, depthAfter, hname, ite_true]
          exact ⟨hdepth, hafter⟩
      · next hname =>
          refine ⟨hdepth, ihcontent hdepth ?_⟩
          simp only [List.nil_append, Encloses, depthAfter, hname, ite_false, Bool.false_eq_true]
          exact ⟨hdepth, hafter⟩

/-- A result region with a content, behind a gap. -/
def RegionLayout.ofContent (gap : List Piece) (hgap : gap.all isBetween = true)
    (content : Content) : RegionLayout where
  gap := gap
  opening := regionTag
  content := content.pieces
  closing := "div".toList
  isBetween_gap := hgap
  opensRegion_opening := by decide +kernel
  encloses_content := by
    simpa using encloses_append_of_nested content.nested Nat.one_ne_zero
      (show Encloses 1 [] from rfl)
  closes_closing := by decide +kernel

/-- A result region as it stands on a page. -/
theorem writeAll_element_ofContent (gap : List Piece) (hgap : gap.all isBetween = true)
    (content : Content) (generation : ℕ) (span : Option (ℕ × ℕ)) :
    Piece.writeAll (RegionLayout.ofContent gap hgap content).element =
      (ResultRegion.mk (Piece.writeAll content.pieces) generation span).toHtml := by
  have hopening : regionTag.write = "<div class=\"ladybug-result\">".toList := by decide
  have hclosing : Piece.endTag "div".toList = "</div>".toList := by decide
  have hclass : ResultRegion.elementClass = "ladybug-result".toList := rfl
  have hhtml : (ResultRegion.mk (Piece.writeAll content.pieces) generation span).toHtml =
      "<div class=\"".toList ++ ResultRegion.elementClass ++ "\">".toList ++
        Piece.writeAll content.pieces ++ "</div>".toList := rfl
  have helement : (RegionLayout.ofContent gap hgap content).element =
      .start regionTag :: content.pieces ++ [.close "div".toList] := rfl
  rw [hhtml, hclass, helement, Piece.writeAll_append, Piece.writeAll_cons, Piece.writeAll_cons,
    Piece.write, Piece.write, hopening, hclosing]
  simp

/-! ### Rewritten blocks -/

namespace BlockLayout

/-- The pieces between a block and its result region: those that there are, else a line feed. -/
def gap (layout : BlockLayout) : List Piece := layout.region.elim [.text ['\n']] RegionLayout.gap

theorem isBetween_gap (layout : BlockLayout) : layout.gap.all isBetween = true := by
  have hnewline : [Piece.text ['\n']].all isBetween = true := by decide +kernel
  unfold gap
  cases layout.region with
  | none => exact hnewline
  | some region => exact region.isBetween_gap

theorem closes_inner_insertion (layout : BlockLayout) (attached : Bool) :
    ((insertionFor attached layout.inner).pieces.all (!Page.closes "pre".toList ·)) = true := by
  have hinner := layout.closes_inner
  rw [← front_append_back attached layout.inner, List.all_append, Bool.and_eq_true] at hinner
  rw [Insertion.pieces, List.all_append, List.all_append, hinner.1, hinner.2,
    (addition_added attached layout.inner).closes]
  rfl

/-- A block with run controls, if they are attached, and with a result, if it was run. -/
def rewrite (layout : BlockLayout) (attached : Bool) (content? : Option Content) : BlockLayout :=
  { layout with
    inner := (insertionFor attached layout.inner).pieces
    closes_inner := layout.closes_inner_insertion attached
    region := (content?.map (.ofContent layout.gap layout.isBetween_gap)).or layout.region }

variable (layout : BlockLayout) (attached : Bool) (content? : Option Content)

/-- What is rewritten again with the same result, or with none, stays as it is. -/
theorem rewrite_rewrite (again : Bool) {later? : Option Content}
    (h : later? = none ∨ later? = content?) :
    (layout.rewrite true content?).rewrite again later? = layout.rewrite true content? := by
  obtain ⟨controls, hcontrols, hbutton⟩ := hasRunButton_insertButton layout.inner 0
  refine BlockLayout.ext rfl rfl
    (pieces_insertionFor_of_hasRunButton hcontrols hbutton again) rfl ?_
  rcases h with rfl | rfl
  · rfl
  · cases later? <;> rfl

/-! ### Rewritten blocks are plain markup -/

/-- What stands in a block before the place of the run button. -/
def frontPieces : List Piece :=
  layout.before ++ .start layout.opening :: (insertionFor attached layout.inner).front

/-- What stands in a block behind the place of the run button. -/
def backPieces : List Piece :=
  (insertionFor attached layout.inner).back ++ [.close layout.closing]

theorem element_eq :
    layout.element = layout.frontPieces attached ++ layout.backPieces attached := by
  simp only [element, frontPieces, backPieces]
  conv_lhs => rw [← front_append_back attached layout.inner]
  simp

theorem element_rewrite : (layout.rewrite attached content?).element =
    layout.frontPieces attached ++ (insertionFor attached layout.inner).added ++
      layout.backPieces attached := by
  simp [element, rewrite, frontPieces, backPieces, Insertion.pieces]

variable {layout}

theorem isText_getLast?_element : ∀ piece ∈ layout.element.getLast?, piece.isText = false := by
  intro piece hpiece
  rw [element, List.getLast?_append_of_ne_nil _ (by simp)] at hpiece
  obtain rfl : Piece.close layout.closing = piece := by simpa using hpiece
  rfl

theorem isText_getLast?_pieces : ∀ piece ∈ layout.pieces.getLast?, piece.isText = false := by
  cases hregion : layout.region with
  | none =>
      simp only [pieces, regionPieces, hregion, List.append_nil]
      exact isText_getLast?_element
  | some region =>
      intro piece hpiece
      simp only [pieces, regionPieces, hregion] at hpiece
      rw [RegionLayout.element, List.getLast?_append_of_ne_nil _ (by simp),
        List.getLast?_append_of_ne_nil _ (by simp), List.getLast?_append_of_ne_nil _ (by simp)]
        at hpiece
      obtain rfl : Piece.close region.closing = piece := by simpa using hpiece
      rfl

theorem plain_gap (h : Piece.Plain layout.pieces) : Piece.Plain layout.gap := by
  rw [pieces, regionPieces] at h
  unfold gap
  cases hregion : layout.region with
  | none => exact Piece.plain_singleton (by decide)
  | some region =>
      rw [hregion] at h
      exact h.right.left

theorem plain_rewrite (h : Piece.Plain layout.pieces) :
    Piece.Plain (layout.rewrite attached content?).pieces := by
  have helement : Piece.Plain (layout.rewrite attached content?).element := by
    rw [element_rewrite]
    refine Piece.Plain.insert ?_ (addition_added attached layout.inner).solid
    rw [← element_eq]
    exact h.left
  refine helement.append ?_ fun a ha _ _ hboth => by
    simp [isText_getLast?_element a ha] at hboth
  cases content? with
  | none => exact h.right
  | some content =>
      have hregion : Piece.Solid (RegionLayout.ofContent layout.gap layout.isBetween_gap
          content).element := by
        have htag : (Piece.start regionTag).isLawful = true := by decide +kernel
        exact Piece.Plain.element htag content.plain
      exact (plain_gap h).append hregion.plain fun _ _ b hb hboth => by
        simp [hregion.head b hb] at hboth

/-! ### Rewritten blocks have the same code -/

theorem sameCode_openBlock (offset offset' : ℕ) :
    ((layout.rewrite attached content?).openBlock offset).SameCode (layout.openBlock offset') := by
  have hopened : (OpenBlock.opened layout.opening
      ((layout.rewrite attached content?).startTagEnd offset)).SameCode
      (OpenBlock.opened layout.opening (layout.startTagEnd offset')) := ⟨rfl, rfl, rfl⟩
  have hinsert := hopened.insert (addition_added attached layout.inner).isInert
    (insertionFor attached layout.inner).front (insertionFor attached layout.inner).back
    ((layout.rewrite attached content?).startTagEnd offset) (layout.startTagEnd offset')
  rwa [front_append_back] at hinsert

theorem query_rewrite (offset offset' : ℕ) :
    ((layout.rewrite attached content?).block offset).query = (layout.block offset').query :=
  (sameCode_openBlock attached content? offset offset').query

theorem attributes_rewrite (offset offset' : ℕ) :
    ((layout.rewrite attached content?).block offset).attributes =
      (layout.block offset').attributes :=
  (sameCode_openBlock attached content? offset offset').attributes

/-- The control region of a block among its pieces. -/
theorem controls_block (offset : ℕ) : (layout.block offset).controls =
    (OpenBlock.controlsOf (layout.startTagEnd offset) layout.inner).map
      fun existing => ⟨[], some existing⟩ := by
  have hcontrols := OpenBlock.controls_opened layout.opening (layout.startTagEnd offset)
    (layout.startTagEnd offset) layout.inner
  dsimp only at hcontrols
  rw [← hcontrols, Option.map_map]
  rfl

/-- With controls attached, a rewritten block is read with a run button. -/
theorem hasRunButton_rewrite (offset : ℕ) :
    ((layout.rewrite true content?).block offset).controlRegion.hasRunButton = true := by
  obtain ⟨controls, hcontrols, hbutton⟩ := hasRunButton_insertButton layout.inner
    ((layout.rewrite true content?).startTagEnd offset)
  have hinner : (layout.rewrite true content?).inner = (insertButton layout.inner).pieces := rfl
  rw [QueryBlock.controlRegion, controls_block, hinner, hcontrols]
  exact hbutton

theorem configOf_rewrite (config : Except Json.Failure (List (Text × Json))) :
    configOf config
        ((layout.rewrite attached content?).before ++ (layout.rewrite attached content?).inner) =
      configOf config (layout.before ++ layout.inner) := by
  have hinner : (layout.rewrite attached content?).before ++
      (layout.rewrite attached content?).inner =
      layout.before ++ (insertionFor attached layout.inner).pieces := rfl
  rw [hinner, Insertion.pieces]
  conv_rhs => rw [← front_append_back attached layout.inner]
  simp only [configOf, List.foldl_append]
  exact congrArg (List.foldl configAfter · _)
    (configOf_of_all_isInert (addition_added attached layout.inner).isInert _)

end BlockLayout

end CypherPages.Page
