import CypherPages.Page.Reader
import CypherPages.Proofs.Html.Piece

/-! # Reading pieces

What a reader makes of a piece of markup outside, inside and behind a query block. No
configuration is being read at either end of a piece, since a raw element is one piece with its
end tag. -/

namespace CypherPages.Page
open Html

/-! ### What a reader looks for -/

/-- The attributes of a start tag by name. -/
def tagAttributes (tag : WrittenTag) : Entries Text Text :=
  Reading.byName (tag.attributes.map WrittenAttribute.read)

def tagClasses (tag : WrittenTag) : List Text :=
  Text.words (((tagAttributes tag).get? "class".toList).getD [])

/-- Whether a piece is a start tag with a name and a class. -/
def isTagged (name cls : Text) : Piece → Bool
  | .start tag => tag.name.lower == name && (tagClasses tag).contains cls
  | _ => false

/-- Whether a piece opens a query block where none is open. -/
def opensBlock : Piece → Bool := isTagged "pre".toList CodeBlock.publishedClass

/-- Whether a piece opens a result region right behind a query block. -/
def opensRegion : Piece → Bool := isTagged "div".toList ResultRegion.elementClass

/-- Whether a piece opens a control region inside a query block. -/
def opensControls : Piece → Bool := isTagged "div".toList ControlRegion.elementClass

def isRunButton : Piece → Bool := isTagged "button".toList Control.buttonClass

/-- Whether a piece is an end tag with a name. -/
def closes (name : Text) : Piece → Bool
  | .close found => found.lower == name
  | _ => false

/-- Whether a piece may stand between a query block and its result region. -/
def isBetween : Piece → Bool
  | .text characters => (unescape characters).isBlankText
  | .comment .. | .declaration _ => true
  | _ => false

/-- Whether a start tag is that of the page's configuration. -/
def opensConfig (tag : WrittenTag) : Bool :=
  tag.name.lower == "script".toList &&
    (tagAttributes tag).get? "id".toList == some Dependency.configId

/-- The configuration after a piece that stands outside all result regions. -/
def configAfter (config : Except Json.Failure (List (Text × Json))) :
    Piece → Except Json.Failure (List (Text × Json))
  | .raw tag content _ =>
    if opensConfig tag then config.bind (Reading.nextConfig content) else config
  | _ => config

namespace OpenBlock

/-- An open block after text. -/
def text (block : OpenBlock) (decoded : Text) : OpenBlock :=
  if block.codeDepth = 0 then block else { block with query := block.query ++ decoded }

/-- An open block after a piece that starts at `offset` and does not close it. -/
def piece (block : OpenBlock) (offset : ℕ) : Piece → OpenBlock
  | .text characters => block.text (unescape characters)
  | .start tag =>
    Reading.openInside block tag.name.lower (tagClasses tag) (offset + tag.write.length)
  | .close name =>
    if name.lower == "code".toList then { block with codeDepth := block.codeDepth - 1 } else block
  | .comment .. | .declaration _ => block
  | .raw tag content _ => if opensConfig tag then block else block.text content

/-- An open block after pieces the first of which starts at `offset`. -/
def pieces (block : OpenBlock) (offset : ℕ) : List Piece → OpenBlock
  | [] => block
  | next :: rest => (block.piece offset next).pieces (offset + next.write.length) rest

end OpenBlock

/-- The depth of divisions after a piece. -/
def depthAfter (depth : ℕ) : Piece → ℕ
  | .start tag => if tag.name.lower == "div".toList then depth + 1 else depth
  | .close name => if name.lower == "div".toList then depth - 1 else depth
  | _ => depth

namespace Reading

/-- A piece that starts at `offset`. -/
def piece (reading : Reading) (offset : ℕ) (next : Piece) : Reading :=
  reading.tokens offset next.tokens

def pieces (reading : Reading) (offset : ℕ) (next : List Piece) : Reading :=
  reading.tokens offset (Piece.allTokens next)

/-! ### Sequences -/

theorem tokens_append (reading : Reading) (offset : ℕ) (first rest : List Token) :
    reading.tokens offset (first ++ rest) =
      (reading.tokens offset first).tokens (offset + (first.flatMap Token.lexeme).length) rest := by
  induction first generalizing reading offset with
  | nil => rfl
  | cons token first ih =>
      simp only [List.cons_append, tokens, ih, List.flatMap_cons, List.length_append, Nat.add_assoc]

end Reading

theorem lexemes_tokens (piece : Piece) : piece.tokens.flatMap Token.lexeme = piece.write := by
  cases piece with
  | raw tag content closing =>
      cases content <;> simp [Piece.tokens, Piece.contentTokens, Piece.write]
  | _ => simp [Piece.tokens, Piece.write]

theorem lexemes_allTokens (pieces : List Piece) :
    (Piece.allTokens pieces).flatMap Token.lexeme = Piece.writeAll pieces := by
  rw [Piece.allTokens, Piece.writeAll, List.flatMap_assoc]
  simp only [lexemes_tokens]

namespace Reading

@[simp] theorem pieces_nil (reading : Reading) (offset : ℕ) :
    reading.pieces offset [] = reading := rfl

theorem pieces_cons (reading : Reading) (offset : ℕ) (next : Piece) (rest : List Piece) :
    reading.pieces offset (next :: rest) =
      (reading.piece offset next).pieces (offset + next.write.length) rest := by
  rw [pieces, Piece.allTokens, List.flatMap_cons, tokens_append, lexemes_tokens]
  rfl

theorem pieces_append (reading : Reading) (offset : ℕ) (first rest : List Piece) :
    reading.pieces offset (first ++ rest) =
      (reading.pieces offset first).pieces (offset + (Piece.writeAll first).length) rest := by
  rw [pieces, Piece.allTokens, List.flatMap_append, tokens_append, ← Piece.allTokens,
    lexemes_allTokens]
  rfl

/-! ### Tags and raw elements -/

theorem piece_text (reading : Reading) (offset : ℕ) (characters : Text) :
    reading.piece offset (.text characters) = reading.text (unescape characters) := rfl

theorem piece_start (reading : Reading) (offset : ℕ) (tag : WrittenTag) :
    reading.piece offset (.start tag) =
      reading.startTag tag.name.lower (tagAttributes tag) offset (offset + tag.write.length) := rfl

/-- An end tag ends at its own closing bracket. -/
theorem piece_close (reading : Reading) (offset : ℕ) {name : Text}
    (h : (Piece.close name).isLawful = true) :
    reading.piece offset (.close name) =
      reading.endTag name.lower (offset + (Piece.endTag name).length) := by
  have htake : (Piece.endTag name).takeWhile (· ≠ '>') = '<' :: '/' :: name :=
    (Text.cut_append (t := '<' :: '/' :: name)
      (by simpa using not_mem_of_isTagName h (by decide)) []).1
  show reading.endTag name.lower (offset + ((Piece.endTag name).takeWhile (· ≠ '>')).length + 1) = _
  rw [htake]
  simp [Piece.endTag, Nat.add_assoc]

theorem text_nil {reading : Reading} (h : reading.capture = none) : reading.text [] = reading := by
  obtain ⟨complete, place, capture, config⟩ := reading
  obtain rfl : capture = none := h
  cases place with
  | inBlock block =>
      simp only [text, List.append_nil]
      split <;> rfl
  | outside | afterBlock | inResult => rfl

theorem tokens_contentTokens {reading : Reading} (h : reading.text [] = reading) (offset : ℕ)
    (content : Text) :
    reading.tokens offset (Piece.contentTokens content) = reading.text content := by
  cases content with
  | nil => exact h.symm
  | cons c content => rfl

theorem piece_raw_eq (reading : Reading) (offset : ℕ) (tag : WrittenTag) (content closing : Text) :
    reading.piece offset (.raw tag content closing) =
      tokens
        (reading.startTag tag.name.lower (tagAttributes tag) offset (offset + tag.write.length))
        (offset + tag.write.length)
        (Piece.contentTokens content ++ [⟨Piece.endTag closing, .endTag tag.name.lower⟩]) := rfl

/-- A raw element is read as its start tag, its content and its end tag. -/
theorem piece_raw {reading : Reading} (offset : ℕ) (tag : WrittenTag) (content closing : Text)
    {opened : Reading} (hopened : reading.startTag tag.name.lower (tagAttributes tag) offset
      (offset + tag.write.length) = opened) (hempty : opened.text [] = opened) :
    ∃ stop, reading.piece offset (.raw tag content closing) =
      (opened.text content).endTag tag.name.lower stop := by
  rw [piece_raw_eq, hopened, tokens_append, tokens_contentTokens hempty]
  exact ⟨_, rfl⟩

theorem endCapture_eq (complete : List QueryBlock) (place : Place) (capture : Option Text)
    (config : Except Json.Failure (List (Text × Json))) {tag : WrittenTag}
    (h : opensConfig tag = true) (content closing : Text) :
    endCapture ⟨complete, place, capture, config⟩ content =
      ⟨complete, place, none, configAfter config (.raw tag content closing)⟩ := by
  simp only [endCapture, configAfter, h, ite_true]

variable {complete : List QueryBlock} {config : Except Json.Failure (List (Text × Json))}
  {next : Piece}

theorem name_of_start {tag : WrittenTag} (h : (Piece.start tag).isLawful = true) :
    (tag.name.lower == "script".toList) = false := by
  simp only [Piece.isLawful, Bool.and_eq_true, Bool.not_eq_true', isRawElement,
    Bool.or_eq_false_iff] at h
  exact h.2.1

theorem name_of_raw {tag : WrittenTag} {content closing : Text}
    (h : (Piece.raw tag content closing).isLawful = true) :
    tag.name.lower = "script".toList ∨ tag.name.lower = "style".toList := by
  simp only [Piece.isLawful, Bool.and_eq_true] at h
  exact eq_of_isRawElement h.1.1.1.2

theorem openElement_config (reading : Reading) {tag : WrittenTag} (h : opensConfig tag = true)
    (stop : ℕ) : reading.openElement tag.name.lower (tagAttributes tag) (tagClasses tag) stop =
      { reading with capture := some [] } := by
  rw [opensConfig] at h
  simp only [openElement, h, ite_true]

/-- The element that holds the configuration, outside result regions. -/
theorem piece_config {tag : WrittenTag} (h : opensConfig tag = true) {place : Place}
    (hplace : place = .outside ∨ ∃ block, place = .inBlock block) (offset : ℕ)
    (content closing : Text) :
    piece ⟨complete, place, none, config⟩ offset (.raw tag content closing) =
      ⟨complete, place, none, configAfter config (.raw tag content closing)⟩ := by
  have hopened : (Reading.mk complete place none config).startTag tag.name.lower
      (tagAttributes tag) offset (offset + tag.write.length) =
      ⟨complete, place, some [], config⟩ := by
    rcases hplace with rfl | ⟨block, rfl⟩ <;> exact openElement_config _ h _
  have hname : (tag.name.lower == "script".toList) = true := by
    rw [opensConfig, Bool.and_eq_true] at h
    exact h.1
  obtain ⟨stop, hpiece⟩ := piece_raw offset tag content closing hopened rfl
  have hcaptured : (Reading.mk complete place (some []) config).text content =
      ⟨complete, place, some content, config⟩ := rfl
  rw [hpiece, hcaptured, ← endCapture_eq complete place (some content) config h content closing]
  rcases hplace with rfl | ⟨block, rfl⟩ <;> simp only [endTag, leaveBlock, closeElement, hname]

/-! ### Outside query blocks -/

theorem piece_outside (h : next.isLawful = true) (hopens : opensBlock next = false) (offset : ℕ) :
    piece ⟨complete, .outside, none, config⟩ offset next =
      ⟨complete, .outside, none, configAfter config next⟩ := by
  cases next with
  | text characters => rfl
  | close name => rfl
  | comment body gap => rfl
  | declaration body => rfl
  | start tag =>
      simp only [opensBlock, isTagged] at hopens
      simp only [piece_start, startTag, openElement, name_of_start h, Bool.false_and,
        Bool.false_eq_true, ite_false]
      rw [if_neg (by simpa [tagClasses] using hopens)]
      rfl
  | raw tag content closing =>
      by_cases hconfig : opensConfig tag = true
      · exact piece_config hconfig (.inl rfl) offset content closing
      · have hopened : (Reading.mk complete .outside none config).startTag tag.name.lower
            (tagAttributes tag) offset (offset + tag.write.length) =
            ⟨complete, .outside, none, config⟩ := by
          rw [opensConfig] at hconfig
          simp only [startTag, openElement, hconfig, Bool.false_eq_true, ite_false]
          rcases name_of_raw h with hname | hname <;> simp [hname]
        obtain ⟨stop, hpiece⟩ := piece_raw offset tag content closing hopened rfl
        rw [hpiece, configAfter, if_neg hconfig]
        rfl

theorem piece_opensBlock {tag : WrittenTag} (h : opensBlock (.start tag) = true) (offset : ℕ) :
    piece ⟨complete, .outside, none, config⟩ offset (.start tag) =
      ⟨complete, .inBlock ⟨tagAttributes tag, offset + tag.write.length, none, false, 0, []⟩,
        none, config⟩ := by
  simp only [opensBlock, isTagged, Bool.and_eq_true, beq_iff_eq] at h
  simp only [piece_start, startTag, openElement, h.1]
  rw [if_neg (by simp), if_pos (by simpa [tagClasses] using h.2)]

/-! ### Inside a query block -/

theorem piece_inBlock (h : next.isLawful = true) (hcloses : closes "pre".toList next = false)
    (block : OpenBlock) (offset : ℕ) :
    piece ⟨complete, .inBlock block, none, config⟩ offset next =
      ⟨complete, .inBlock (block.piece offset next), none, configAfter config next⟩ := by
  cases next with
  | text characters =>
      simp only [piece_text, text, OpenBlock.piece, OpenBlock.text]
      split <;> rfl
  | close name =>
      rw [closes] at hcloses
      rw [piece_close _ _ h]
      simp only [endTag, leaveBlock, closeElement, hcloses, Bool.false_eq_true, ite_false,
        OpenBlock.piece]
      split <;> rfl
  | comment body gap => rfl
  | declaration body => rfl
  | start tag =>
      simp only [piece_start, startTag, openElement, name_of_start h, Bool.false_and,
        Bool.false_eq_true, ite_false]
      rfl
  | raw tag content closing =>
      by_cases hconfig : opensConfig tag = true
      · rw [piece_config hconfig (.inr ⟨block, rfl⟩), OpenBlock.piece, if_pos hconfig]
      · have hopened : (Reading.mk complete (.inBlock block) none config).startTag
            tag.name.lower (tagAttributes tag) offset (offset + tag.write.length) =
            ⟨complete, .inBlock block, none, config⟩ := by
          rw [opensConfig] at hconfig
          simp only [startTag, openElement, hconfig, Bool.false_eq_true, ite_false, openInside]
          rcases name_of_raw h with hname | hname <;> simp [hname]
        obtain ⟨stop, hpiece⟩ := piece_raw offset tag content closing hopened (text_nil rfl)
        have htext : (Reading.mk complete (.inBlock block) none config).text content =
            ⟨complete, .inBlock (block.text content), none, config⟩ := by
          simp only [text, OpenBlock.text]
          split <;> rfl
        rw [hpiece, htext, OpenBlock.piece, configAfter, if_neg hconfig, if_neg hconfig]
        rcases name_of_raw h with hname | hname <;>
          simp [endTag, leaveBlock, closeElement, hname]

theorem piece_closesBlock {name : Text} (h : (Piece.close name).isLawful = true)
    (hcloses : closes "pre".toList (.close name) = true) (block : OpenBlock) (offset : ℕ) :
    piece ⟨complete, .inBlock block, none, config⟩ offset (.close name) =
      ⟨complete, .afterBlock (block.close (offset + (Piece.endTag name).length)), none,
        config⟩ := by
  have hname : name.lower = "pre".toList := by simpa [closes] using hcloses
  rw [piece_close _ _ h]
  simp [endTag, leaveBlock, closeElement, hname]

/-! ### Behind a query block -/

theorem piece_isBetween (h : isBetween next = true) (block : QueryBlock) (offset : ℕ) :
    piece ⟨complete, .afterBlock block, none, config⟩ offset next =
      ⟨complete, .afterBlock block, none, config⟩ := by
  cases next with
  | text characters =>
      rw [isBetween] at h
      simp only [piece_text, text, h, ite_true]
  | comment body gap => rfl
  | declaration body => rfl
  | start tag | close name | raw tag content closing => cases h

/-- Whatever neither stands between a block and its result region nor opens one leaves the
block. -/
theorem piece_afterBlock (h : next.isLawful = true) (hbetween : isBetween next = false)
    (hopens : opensRegion next = false) (block : QueryBlock) (offset : ℕ) :
    piece ⟨complete, .afterBlock block, none, config⟩ offset next =
      piece ⟨complete ++ [block], .outside, none, config⟩ offset next := by
  cases next with
  | text characters =>
      rw [isBetween] at hbetween
      simp only [piece_text, text, hbetween, Bool.false_eq_true, ite_false]
      rfl
  | comment body gap | declaration body => cases hbetween
  | close name => rfl
  | start tag =>
      simp only [opensRegion, isTagged] at hopens
      simp only [piece_start, startTag]
      rw [if_neg (by simpa [tagClasses] using hopens)]
      rfl
  | raw tag content closing =>
      have hopened : ∀ stop, (Reading.mk complete (.afterBlock block) none config).startTag
          tag.name.lower (tagAttributes tag) offset stop =
          (Reading.mk (complete ++ [block]) .outside none config).startTag
            tag.name.lower (tagAttributes tag) offset stop := by
        intro stop
        rcases name_of_raw h with hname | hname <;> simp [startTag, leaveBlock, hname]
      rw [piece_raw_eq, hopened, ← piece_raw_eq]

theorem piece_opensRegion {tag : WrittenTag} (h : opensRegion (.start tag) = true)
    (block : QueryBlock) (offset : ℕ) :
    piece ⟨complete, .afterBlock block, none, config⟩ offset (.start tag) =
      ⟨complete, .inResult block offset 1, none, config⟩ := by
  simp only [opensRegion, isTagged] at h
  simp only [piece_start, startTag]
  rw [if_pos (by simpa [tagClasses] using h)]

/-! ### In a result region -/

theorem piece_inResult (h : next.isLawful = true) (block : QueryBlock) (start offset : ℕ)
    {depth : ℕ} (hdepth : depthAfter depth next ≠ 0) :
    piece ⟨complete, .inResult block start depth, none, config⟩ offset next =
      ⟨complete, .inResult block start (depthAfter depth next), none, config⟩ := by
  cases next with
  | text characters => rfl
  | comment body gap => rfl
  | declaration body => rfl
  | start tag =>
      simp only [piece_start, startTag, depthAfter]
      split <;> rfl
  | close name =>
      rw [piece_close _ _ h]
      simp only [endTag, depthAfter] at hdepth ⊢
      split
      · next hname =>
          rw [if_pos hname] at hdepth
          rw [if_neg (by omega)]
      · rfl
  | raw tag content closing =>
      have hname : (tag.name.lower == "div".toList) = false := by
        rcases name_of_raw h with hname | hname <;> simp [hname]
      have hopened : (Reading.mk complete (.inResult block start depth) none config).startTag
          tag.name.lower (tagAttributes tag) offset (offset + tag.write.length) =
          ⟨complete, .inResult block start depth, none, config⟩ := by
        simp only [startTag, hname, Bool.false_eq_true, ite_false]
      obtain ⟨stop, hpiece⟩ := piece_raw offset tag content closing hopened rfl
      rw [hpiece]
      simp only [text, endTag, hname, Bool.false_eq_true, ite_false, depthAfter]

theorem piece_closesRegion {name : Text} (h : (Piece.close name).isLawful = true)
    (hcloses : closes "div".toList (.close name) = true) (block : QueryBlock) (start offset : ℕ) :
    piece ⟨complete, .inResult block start 1, none, config⟩ offset (.close name) =
      ⟨complete ++ [{ block with result := some { ResultRegion.empty with
          span := some (start, offset + (Piece.endTag name).length) } }], .outside, none,
        config⟩ := by
  rw [closes] at hcloses
  rw [piece_close _ _ h]
  simp only [endTag, hcloses, ite_true]

end Reading

end CypherPages.Page
