import CypherPages.Proofs.Page.Pieces

/-! # The pieces of a query block

Pieces inside a block make up its query and its controls. Markup that opens and closes no code
element leaves the query alone, whatever the offsets are. -/

namespace CypherPages.Page.OpenBlock
open Html

/-- A block right behind its start tag. -/
def opened (tag : WrittenTag) (stop : ℕ) : OpenBlock :=
  ⟨tagAttributes tag, stop, none, false, 0, []⟩

@[simp] theorem pieces_nil (block : OpenBlock) (offset : ℕ) : block.pieces offset [] = block := rfl

theorem pieces_cons (block : OpenBlock) (offset : ℕ) (next : Piece) (rest : List Piece) :
    block.pieces offset (next :: rest) =
      (block.piece offset next).pieces (offset + next.write.length) rest := rfl

theorem pieces_append (block : OpenBlock) (offset : ℕ) (first rest : List Piece) :
    block.pieces offset (first ++ rest) =
      (block.pieces offset first).pieces (offset + (Piece.writeAll first).length) rest := by
  induction first generalizing block offset with
  | nil => rfl
  | cons next first ih =>
      rw [List.cons_append, pieces_cons, pieces_cons, ih, Piece.writeAll_cons, List.length_append,
        Nat.add_assoc]

/-! ### The query -/

/-- Two blocks have the same attributes and the same code so far. -/
structure SameCode (block other : OpenBlock) : Prop where
  attributes : block.attributes = other.attributes
  codeDepth : block.codeDepth = other.codeDepth
  query : block.query = other.query

/-- Whether a piece leaves the code of a block alone. -/
def isInert : Piece → Bool
  | .start tag => tag.name.lower != "code".toList
  | .close name => name.lower != "code".toList
  | .comment .. | .declaration _ => true
  | .text _ | .raw .. => false

theorem SameCode.refl (block : OpenBlock) : block.SameCode block := ⟨rfl, rfl, rfl⟩

variable {block other third : OpenBlock}

theorem SameCode.trans (h : block.SameCode other) (h' : other.SameCode third) :
    block.SameCode third :=
  ⟨h.attributes.trans h'.attributes, h.codeDepth.trans h'.codeDepth, h.query.trans h'.query⟩

theorem SameCode.text (h : block.SameCode other) (decoded : Text) :
    (block.text decoded).SameCode (other.text decoded) := by
  obtain ⟨ha, hd, hq⟩ := h
  by_cases hzero : other.codeDepth = 0
  · simp only [OpenBlock.text, hd, hzero, ite_true]
    exact ⟨ha, hd, hq⟩
  · simp only [OpenBlock.text, hd, hzero, ite_false]
    exact ⟨ha, rfl, congrArg (· ++ decoded) hq⟩

theorem SameCode.openInside (h : block.SameCode other) (name : Text) (classes : List Text)
    (stop stop' : ℕ) : (Reading.openInside block name classes stop).SameCode
      (Reading.openInside other name classes stop') := by
  obtain ⟨ha, hd, hq⟩ := h
  unfold Reading.openInside
  by_cases hcode : (name == "code".toList) = true
  · simp only [hcode, ite_true]
    exact ⟨ha, congrArg (· + 1) hd, hq⟩
  · simp only [hcode, ite_false, Bool.false_eq_true]
    constructor <;> (split_ifs <;> assumption)

/-- The code of a block after a piece depends on its code before it, not on the offset. -/
theorem SameCode.piece (h : block.SameCode other) (next : Piece) (offset offset' : ℕ) :
    (block.piece offset next).SameCode (other.piece offset' next) := by
  cases next with
  | text characters => exact h.text _
  | start tag => exact h.openInside _ _ _ _
  | comment body gap => exact h
  | declaration body => exact h
  | close name =>
      simp only [OpenBlock.piece]
      split
      · exact ⟨h.attributes, congrArg (· - 1) h.codeDepth, h.query⟩
      · exact h
  | raw tag content closing =>
      simp only [OpenBlock.piece]
      split
      · exact h
      · exact h.text _

theorem SameCode.pieces (h : block.SameCode other) (next : List Piece) (offset offset' : ℕ) :
    (block.pieces offset next).SameCode (other.pieces offset' next) := by
  induction next generalizing block other offset offset' with
  | nil => exact h
  | cons next rest ih => exact ih (h.piece next _ _) _ _

theorem sameCode_of_isInert {next : Piece} (h : isInert next = true) (block : OpenBlock)
    (offset : ℕ) : (block.piece offset next).SameCode block := by
  cases next with
  | text characters => cases h
  | raw tag content closing => cases h
  | comment body gap => exact .refl block
  | declaration body => exact .refl block
  | close name =>
      rw [isInert, bne_iff_ne] at h
      simp only [OpenBlock.piece, beq_iff_eq, h, ite_false]
      exact .refl block
  | start tag =>
      rw [isInert, bne_iff_ne] at h
      simp only [OpenBlock.piece, Reading.openInside, beq_iff_eq, h, ite_false]
      constructor <;> (split_ifs <;> rfl)

theorem sameCode_of_all_isInert {next : List Piece} (h : next.all isInert = true)
    (block : OpenBlock) (offset : ℕ) : (block.pieces offset next).SameCode block := by
  induction next generalizing block offset with
  | nil => exact .refl block
  | cons next rest ih =>
      rw [List.all_cons, Bool.and_eq_true] at h
      exact (ih h.2 _ _).trans (sameCode_of_isInert h.1 block offset)

/-- Inert markup put in somewhere leaves the code of a block alone. -/
theorem SameCode.insert (h : block.SameCode other) {added : List Piece}
    (hadded : added.all isInert = true) (front back : List Piece) (offset offset' : ℕ) :
    (block.pieces offset (front ++ added ++ back)).SameCode
      (other.pieces offset' (front ++ back)) := by
  rw [List.append_assoc, pieces_append, pieces_append, pieces_append]
  exact (SameCode.trans (sameCode_of_all_isInert hadded _ _) (h.pieces front _ _)).pieces _ _ _

/-! ### The controls -/

/-- The start tag of a block is not looked at again. -/
theorem frame_piece (block : OpenBlock) (offset : ℕ) (next : Piece) :
    (block.piece offset next).startTagEnd = block.startTagEnd ∧
      (block.piece offset next).attributes = block.attributes := by
  cases next with
  | comment body gap | declaration body => exact ⟨rfl, rfl⟩
  | text characters | start tag | close name | raw tag content closing =>
      simp only [piece, OpenBlock.text, Reading.openInside]
      split_ifs <;> exact ⟨rfl, rfl⟩

theorem frame_pieces (block : OpenBlock) (offset : ℕ) (next : List Piece) :
    (block.pieces offset next).startTagEnd = block.startTagEnd ∧
      (block.pieces offset next).attributes = block.attributes := by
  induction next generalizing block offset with
  | nil => exact ⟨rfl, rfl⟩
  | cons next rest ih =>
      obtain ⟨hstart, hattributes⟩ := ih (block.piece offset next) (offset + next.write.length)
      obtain ⟨hstart', hattributes'⟩ := frame_piece block offset next
      exact ⟨hstart.trans hstart', hattributes.trans hattributes'⟩

/-- Only start tags change the controls of a block. -/
theorem controls_piece_of_not_start {next : Piece} (h : ∀ tag, next ≠ .start tag)
    (block : OpenBlock) (offset : ℕ) :
    (block.piece offset next).controlsAt = block.controlsAt ∧
      (block.piece offset next).hasRunButton = block.hasRunButton := by
  cases next with
  | start tag => exact absurd rfl (h tag)
  | comment body gap => exact ⟨rfl, rfl⟩
  | declaration body => exact ⟨rfl, rfl⟩
  | text characters | close name | raw tag content closing =>
      simp only [piece, OpenBlock.text]
      split_ifs <;> exact ⟨rfl, rfl⟩

/-- A piece that opens no control region changes no controls where none are open. -/
theorem controls_piece_of_none {next : Piece} (h : opensControls next = false)
    (hnone : block.controlsAt = none) (offset : ℕ) :
    (block.piece offset next).controlsAt = none ∧
      (block.piece offset next).hasRunButton = block.hasRunButton := by
  by_cases hstart : ∃ tag, next = .start tag
  · obtain ⟨tag, rfl⟩ := hstart
    rw [opensControls, isTagged] at h
    simp only [piece, Reading.openInside, h, hnone, Bool.false_and, Option.isSome_none,
      Bool.and_false, Bool.false_eq_true, ite_false]
    split_ifs
    · exact ⟨rfl, rfl⟩
    · exact ⟨hnone, rfl⟩
  · rw [← hnone]
    exact controls_piece_of_not_start (fun tag htag => hstart ⟨tag, htag⟩) block offset

/-- Once a control region is open its place is kept, and run buttons are found. -/
theorem controls_piece_of_some (next : Piece) {place : ℕ} (h : block.controlsAt = some place)
    (offset : ℕ) :
    (block.piece offset next).controlsAt = some place ∧
      (block.piece offset next).hasRunButton = (block.hasRunButton || isRunButton next) := by
  by_cases hstart : ∃ tag, next = .start tag
  · obtain ⟨tag, rfl⟩ := hstart
    simp only [piece, Reading.openInside, h, isRunButton, isTagged, Option.isNone_some,
      Option.isSome_some, Bool.and_true, Bool.and_false, Bool.false_eq_true, ite_false]
    split_ifs with hcode hbutton
    · rw [beq_iff_eq] at hcode
      exact ⟨rfl, by simp [hcode]⟩
    · exact ⟨rfl, by rw [hbutton, Bool.or_true]⟩
    · exact ⟨h, by rw [eq_false_of_ne_true hbutton, Bool.or_false]⟩
  · have hbutton : isRunButton next = false := by
      cases next with
      | start tag => exact absurd ⟨tag, rfl⟩ hstart
      | _ => rfl
    rw [hbutton, Bool.or_false, ← h]
    exact controls_piece_of_not_start (fun tag htag => hstart ⟨tag, htag⟩) block offset

theorem controls_pieces_of_none {next : List Piece} (h : next.all (!opensControls ·) = true)
    (hnone : block.controlsAt = none) (offset : ℕ) :
    (block.pieces offset next).controlsAt = none ∧
      (block.pieces offset next).hasRunButton = block.hasRunButton := by
  induction next generalizing block offset with
  | nil => exact ⟨hnone, rfl⟩
  | cons next rest ih =>
      rw [List.all_cons, Bool.and_eq_true, Bool.not_eq_true'] at h
      obtain ⟨hat, hbutton⟩ := controls_piece_of_none h.1 hnone offset
      obtain ⟨hat', hbutton'⟩ := ih h.2 hat (offset + next.write.length)
      exact ⟨hat', hbutton'.trans hbutton⟩

theorem controls_pieces_of_some (next : List Piece) {place : ℕ} (h : block.controlsAt = some place)
    (offset : ℕ) :
    (block.pieces offset next).controlsAt = some place ∧
      (block.pieces offset next).hasRunButton = (block.hasRunButton || next.any isRunButton) := by
  induction next generalizing block offset with
  | nil => exact ⟨h, by simp⟩
  | cons next rest ih =>
      obtain ⟨hat, hbutton⟩ := controls_piece_of_some next h offset
      obtain ⟨hat', hbutton'⟩ := ih hat (offset + next.write.length)
      exact ⟨hat', by rw [pieces_cons, hbutton', hbutton, List.any_cons, Bool.or_assoc]⟩

theorem controls_piece_opensControls {next : Piece} (h : opensControls next = true)
    (hnone : block.controlsAt = none) (offset : ℕ) :
    (block.piece offset next).controlsAt = some (offset + next.write.length) ∧
      (block.piece offset next).hasRunButton = block.hasRunButton := by
  cases next with
  | start tag =>
      simp only [opensControls, isTagged, Bool.and_eq_true, beq_iff_eq] at h
      simp only [piece, Reading.openInside, h.1, h.2, hnone, Piece.write]
      simp
  | _ => cases h

/-- The control region among the pieces of a block, the first of which starts at `offset`. -/
def controlsOf (offset : ℕ) (inner : List Piece) : Option ExistingControls :=
  match inner.dropWhile (!opensControls ·) with
  | [] => none
  | opener :: rest =>
    some ⟨offset + (Piece.writeAll (inner.takeWhile (!opensControls ·))).length +
      opener.write.length, rest.any isRunButton⟩

/-- The control region of a block is opened by the first piece that can open one. -/
theorem controls_opened (tag : WrittenTag) (start offset : ℕ) (inner : List Piece) :
    let block := (opened tag start).pieces offset inner
    block.controlsAt.map (fun place => ExistingControls.mk place block.hasRunButton) =
      controlsOf offset inner := by
  have hfront : (inner.takeWhile (!opensControls ·)).all (!opensControls ·) = true :=
    List.all_takeWhile
  obtain ⟨hat, hbutton⟩ :=
    @controls_pieces_of_none (opened tag start) _ hfront rfl offset
  have hsplit := List.takeWhile_append_dropWhile (p := (!opensControls ·)) (l := inner)
  simp only [controlsOf]
  cases hdrop : inner.dropWhile (!opensControls ·) with
  | nil =>
      rw [hdrop, List.append_nil] at hsplit
      rw [hsplit] at hat
      rw [hat]
      rfl
  | cons opener rest =>
      have hopener : opensControls opener = true := by
        have := List.dropWhile_get_zero_not (!opensControls ·) inner (by simp [hdrop])
        simpa [hdrop] using this
      rw [hdrop] at hsplit
      obtain ⟨hat', hbutton'⟩ := controls_piece_opensControls hopener hat
        (offset + (Piece.writeAll (inner.takeWhile (!opensControls ·))).length)
      obtain ⟨hat'', hbutton''⟩ := controls_pieces_of_some rest hat'
        (offset + (Piece.writeAll (inner.takeWhile (!opensControls ·))).length +
          opener.write.length)
      rw [← pieces_cons, ← pieces_append, hsplit] at hat'' hbutton''
      rw [hat'', hbutton'', hbutton', hbutton]
      simp [opened]

end CypherPages.Page.OpenBlock
