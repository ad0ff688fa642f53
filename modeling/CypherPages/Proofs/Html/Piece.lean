import CypherPages.Proofs.Html.WrittenTag
import Mathlib.Data.List.Chain

/-! # Pieces of markup

Plain markup is a sequence of pieces: text, start tags, end tags, comments, declarations, and
raw elements with their end tags. The tokens of such markup are the tokens of its pieces. -/

namespace CypherPages.Html

/-- A piece of plain markup. -/
inductive Piece
  | text (characters : Text)
  | start (tag : WrittenTag)
  | close (name : Text)
  /-- A comment with the blanks before its closing bracket. -/
  | comment (body gap : Text)
  | declaration (body : Text)
  /-- A raw element from its start tag to its end tag, whose name is `closing`. -/
  | raw (tag : WrittenTag) (content closing : Text)
  deriving DecidableEq

namespace Piece

def endTag (name : Text) : Text := '<' :: '/' :: name ++ ['>']

def write : Piece → Text
  | .text characters => characters
  | .start tag => tag.write
  | .close name => endTag name
  | .comment body gap => "<!--".toList ++ body ++ "--".toList ++ gap ++ ['>']
  | .declaration body => "<!".toList ++ body ++ ['>']
  | .raw tag content closing => tag.write ++ content ++ endTag closing

/-- The tokens of raw content, which is no token where it is empty. -/
def contentTokens (content : Text) : List Token :=
  if content.isEmpty then [] else [⟨content, .text content⟩]

def tokens : Piece → List Token
  | .text characters => [⟨characters, .text (unescape characters)⟩]
  | .start tag => [⟨tag.write, tag.event⟩]
  | .close name => [⟨endTag name, .endTag name.lower⟩]
  | .comment body gap => [⟨"<!--".toList ++ body ++ "--".toList ++ gap ++ ['>'], .skipped⟩]
  | .declaration body => [⟨"<!".toList ++ body ++ ['>'], .skipped⟩]
  | .raw tag content closing =>
    ⟨tag.write, tag.event⟩ ::
      (contentTokens content ++ [⟨endTag closing, .endTag tag.name.lower⟩])

def isText : Piece → Bool
  | .text _ => true
  | _ => false

/-- Whether a piece reads as it is written. Text holds no opening bracket, a comment no end of
a comment, and raw content no end tag of its element. -/
def isLawful : Piece → Bool
  | .text characters => !characters.isEmpty && !characters.contains '<'
  | .start tag => tag.isLawful && !isRawElement tag.name.lower
  | .close name => isTagName name
  | .comment body gap => (after? closesComment? body).isNone && gap.all isBlank
  | .declaration body =>
    !body.contains '>' && body.head? != some '[' && !"--".toList.isPrefixOf body
  | .raw tag content closing =>
    tag.isLawful && isRawElement tag.name.lower && isTagName closing &&
      (rawContent? tag.name.lower content).isNone && closing.map Char.toLower == tag.name.lower

/-- Pieces that read as they are written, no two texts side by side. -/
structure Plain (pieces : List Piece) : Prop where
  lawful : ∀ piece ∈ pieces, piece.isLawful = true
  separate : pieces.IsChain fun a b => ¬ (a.isText = true ∧ b.isText = true)

end Piece

/-! ### One token -/

/-- What stands at the head of a text is one token if it is the lexeme of the head. -/
theorem tokensIn_cons {openElement : Option Text} {c : Char} {lexeme after : Text} {event : Event}
    (h : head openElement c (lexeme ++ after) = .ok (event, after)) :
    tokensIn openElement (c :: lexeme ++ after) =
      (tokensIn (rawAfter openElement event) after).map (⟨c :: lexeme, event⟩ :: ·) := by
  have hlength : (lexeme ++ after).length - after.length = lexeme.length := by
    rw [List.length_append, Nat.add_sub_cancel]
  rw [List.cons_append, tokensIn]
  simp only [h, hlength, List.drop_left, List.take_left]
  cases tokensIn (rawAfter openElement event) after <;> rfl

/-- Text ends at an opening bracket or at the end of the page. -/
def EndsText (t : Text) : Prop := ∀ c ∈ t.head?, c = '<'

theorem tokensIn_text {characters after : Text} (hne : characters ≠ [])
    (hplain : '<' ∉ characters) (hafter : EndsText after) :
    tokensIn none (characters ++ after) =
      (tokensIn none after).map (⟨characters, .text (unescape characters)⟩ :: ·) := by
  cases characters with
  | nil => exact absurd rfl hne
  | cons c rest =>
      have hc : c ≠ '<' := fun h => hplain (by simp [h])
      have hrest : ∀ d ∈ rest, decide (d ≠ '<') = true := by
        intro d hd
        simpa using fun h : d = '<' => hplain (h ▸ List.mem_cons_of_mem c hd)
      apply tokensIn_cons
      simp only [head, hc, ite_false]
      rw [List.takeWhile_append_of_pos hrest, List.dropWhile_append_of_pos hrest]
      cases after with
      | nil => simp
      | cons d after =>
          have hd : d = '<' := hafter d (by simp)
          rw [List.takeWhile_cons_of_neg (by simp [hd]), List.dropWhile_cons_of_neg (by simp [hd]),
            List.append_nil]

theorem bracketHead_of_isLetter {c : Char} (h : isLetter c = true) (t : Text) :
    bracketHead (c :: t) = .ok (startHead (c :: t)) := by
  have hslash : c ≠ '/' := by rintro rfl; revert h; decide
  have hbang : c ≠ '!' := by rintro rfl; revert h; decide
  have hquestion : c ≠ '?' := by rintro rfl; revert h; decide
  unfold bracketHead
  split <;> simp_all

theorem tokensIn_startTag {tag : WrittenTag} (h : tag.isLawful = true) (after : Text) :
    tokensIn none (tag.write ++ after) =
      (tokensIn (rawAfter none tag.event) after).map (⟨tag.write, tag.event⟩ :: ·) := by
  have hname := h
  simp only [WrittenTag.isLawful, Bool.and_eq_true] at hname
  obtain ⟨c, rest, hrest, hc, -⟩ := exists_cons_of_isTagName hname.1.1
  have hhead : head none '<' (tag.name ++ tag.tail ++ ['>'] ++ after) = .ok (tag.event, after) := by
    have hread := WrittenTag.startHead_written h after
    rw [hrest] at hread
    simp only [head, ite_true, hrest, List.cons_append, List.append_assoc,
      List.nil_append] at hread ⊢
    rw [bracketHead_of_isLetter hc, hread]
  exact tokensIn_cons (c := '<') hhead

theorem not_mem_of_isTagName {name : Text} (h : isTagName name = true) {c : Char}
    (hc : isEndNameChar c = false) : c ∉ name := by
  obtain ⟨-, -, -, -, hall⟩ := exists_cons_of_isTagName h
  intro hmem
  rw [hall c hmem] at hc
  cases hc

theorem endTagEvent_of_isTagName {name : Text} (h : isTagName name = true) :
    endTagEvent name = .endTag name.lower := by
  obtain ⟨c, rest, hrest, hc, hall⟩ := exists_cons_of_isTagName h
  have htrim : Text.trimLeft name = name := by
    rw [hrest, Text.trimLeft, List.dropWhile_cons_of_neg (by simp [isBlank_of_isLetter hc])]
  have htake : name.takeWhile isEndNameChar = name := List.takeWhile_eq_self_iff.mpr hall
  simp only [endTagEvent, htrim, htake, List.drop_length]
  simp [hrest, hc, Text.isBlankText]

theorem tokensIn_endTag {name : Text} (h : isTagName name = true) (after : Text) :
    tokensIn none (Piece.endTag name ++ after) =
      (tokensIn none after).map (⟨Piece.endTag name, .endTag name.lower⟩ :: ·) := by
  have hhead : head none '<' ('/' :: name ++ ['>'] ++ after) = .ok (.endTag name.lower, after) := by
    obtain ⟨htake, hdrop⟩ := Text.cut_append (not_mem_of_isTagName (c := '>') h (by decide)) after
    simp only [head, ite_true, List.append_assoc, List.cons_append, List.nil_append, bracketHead,
      afterAngle?, hdrop, htake, endTagEvent_of_isTagName h]
  exact tokensIn_cons (c := '<') hhead

/-! ### Comments and declarations -/

/-- What does not end with an angle bracket does not do so when a character other than a blank
and the bracket follows. -/
theorem closesAngle?_append {t after : Text} {c : Char} (hc : isBlank c = false)
    (hangle : c ≠ '>') (h : closesAngle? t = none) : closesAngle? (t ++ c :: after) = none := by
  simp only [closesAngle?, Text.trimLeft] at h ⊢
  rw [List.dropWhile_append]
  cases ht : t.dropWhile isBlank with
  | nil =>
      rw [List.isEmpty_nil, if_pos rfl, List.dropWhile_cons_of_neg (by simp [hc])]
      split
      · next heq => exact absurd (List.cons.inj heq).1 hangle
      · rfl
  | cons d rest =>
      rw [List.isEmpty_cons, if_neg (by simp)]
      rw [ht] at h
      split at h
      · cases h
      · next hne =>
          split
          · next heq => exact absurd (congrArg (· :: rest) (List.cons.inj heq).1) (hne rest)
          · rfl

/-- The first closing sequence stands behind what holds none, if what follows completes none
that was begun. -/
theorem after?_append {closes? : Text → Option Text} {closing after : Text}
    (hstable : ∀ c t, closes? (c :: t) = none → closes? (c :: t ++ closing) = none)
    (hne : closing ≠ []) (hcloses : closes? closing = some after) {t : Text}
    (h : after? closes? t = none) : after? closes? (t ++ closing) = some after := by
  induction t with
  | nil =>
      cases closing with
      | nil => exact absurd rfl hne
      | cons c closing => rw [List.nil_append, after?, hcloses, Option.some_or]
  | cons c t ih =>
      rw [after?, Option.or_eq_none_iff] at h
      rw [List.cons_append, after?, ih h.2, ← List.cons_append, hstable c t h.1, Option.none_or]

theorem closesComment?_cons_cons (c d : Char) (t : Text) :
    closesComment? (c :: d :: t) = if c = '-' ∧ d = '-' then closesAngle? t else none := by
  unfold closesComment?
  split
  · next heq => simp_all
  · next hne => rw [if_neg fun h => hne t (by rw [h.1, h.2])]

theorem closesComment?_append {c : Char} {t : Text} (after : Text)
    (h : closesComment? (c :: t) = none) :
    closesComment? (c :: t ++ '-' :: '-' :: after) = none := by
  cases t with
  | nil =>
      rw [List.cons_append, List.nil_append, closesComment?_cons_cons]
      split <;> rfl
  | cons d t =>
      rw [closesComment?_cons_cons] at h
      rw [List.cons_append, List.cons_append, closesComment?_cons_cons]
      split
      · next hd =>
          rw [if_pos hd] at h
          exact closesAngle?_append (by decide) (by decide) h
      · rfl

theorem closesAngle?_blanks {gap : Text} (h : gap.all isBlank = true) (after : Text) :
    closesAngle? (gap ++ '>' :: after) = some after := by
  have htrim : Text.trimLeft (gap ++ '>' :: after) = '>' :: after := by
    rw [Text.trimLeft, List.dropWhile_append_of_pos (by simpa using h),
      List.dropWhile_cons_of_neg (by decide)]
  simp only [closesAngle?, htrim]

theorem tokensIn_comment {body gap : Text} (h : after? closesComment? body = none)
    (hgap : gap.all isBlank = true) (after : Text) :
    tokensIn none ("<!--".toList ++ body ++ "--".toList ++ gap ++ ['>'] ++ after) =
      (tokensIn none after).map
        (⟨"<!--".toList ++ body ++ "--".toList ++ gap ++ ['>'], .skipped⟩ :: ·) := by
  have hend : after? closesComment? (body ++ '-' :: '-' :: (gap ++ '>' :: after)) = some after :=
    after?_append (fun c t hct => closesComment?_append _ hct) (by simp)
      (closesAngle?_blanks hgap after) h
  have hhead : head none '<' ("!--".toList ++ body ++ "--".toList ++ gap ++ ['>'] ++ after) =
      .ok (.skipped, after) := by
    have hsplit : "!--".toList ++ body ++ "--".toList ++ gap ++ ['>'] ++ after =
        '!' :: '-' :: '-' :: (body ++ '-' :: '-' :: (gap ++ '>' :: after)) := by simp
    rw [hsplit]
    simp only [head, ite_true, bracketHead, afterDeclaration, hend]
    rfl
  exact tokensIn_cons (c := '<') hhead

theorem tokensIn_declaration {body : Text} (h : (Piece.declaration body).isLawful = true)
    (after : Text) :
    tokensIn none ("<!".toList ++ body ++ ['>'] ++ after) =
      (tokensIn none after).map (⟨"<!".toList ++ body ++ ['>'], .skipped⟩ :: ·) := by
  simp only [Piece.isLawful, Bool.and_eq_true, Bool.not_eq_true', bne_iff_ne, ne_eq] at h
  obtain ⟨⟨hangle, hsection⟩, hcomment⟩ := h
  obtain ⟨-, hdrop⟩ := Text.cut_append (by simpa using hangle) after
  have hafter : afterDeclaration (body ++ '>' :: after) = .ok (some after) := by
    unfold afterDeclaration
    split
    · next rest heq =>
        exfalso
        match body, heq with
        | [], heq => simp at heq
        | [c], heq => simp at heq
        | c :: d :: body, heq => simp_all
    · next rest heq =>
        exfalso
        match body, heq with
        | [], heq => simp at heq
        | c :: body, heq => simp_all
    · simp only [afterAngle?, hdrop]
  have hhead : head none '<' ("!".toList ++ body ++ ['>'] ++ after) = .ok (.skipped, after) := by
    have hsplit : "!".toList ++ body ++ ['>'] ++ after = '!' :: (body ++ '>' :: after) := by simp
    rw [hsplit]
    simp only [head, ite_true, bracketHead, hafter]
    rfl
  exact tokensIn_cons (c := '<') hhead

/-! ### Raw elements -/

theorem closesRaw?_cons_cons (name : Text) (c d : Char) (t : Text) :
    closesRaw? name (c :: d :: t) =
      if c = '<' ∧ d = '/' ∧
          ((t.dropWhile isBlank).take name.length).map Char.toLower = name then
        closesAngle? ((t.dropWhile isBlank).drop name.length)
      else none := by
  unfold closesRaw?
  split
  · next heq => simp_all
  · next hne => rw [if_neg fun h => hne t (by rw [h.1, h.2.1])]

/-- A text that holds an opening bracket is no name of an element. -/
theorem map_toLower_take_ne {name t after : Text} (hname : '<' ∉ name)
    (hlt : t.length < name.length) :
    ((t ++ '<' :: after).take name.length).map Char.toLower ≠ name := by
  intro h
  apply hname
  rw [← h, List.mem_map]
  refine ⟨'<', ?_, by decide⟩
  rw [List.take_append, List.mem_append]
  right
  obtain ⟨k, hk⟩ : ∃ k, name.length - t.length = k + 1 := ⟨name.length - t.length - 1, by omega⟩
  rw [hk, List.take_succ_cons]
  exact List.mem_cons_self

theorem closesRaw?_append {name : Text} (hname : '<' ∉ name) (hne : name ≠ []) {c : Char}
    {t : Text} (after : Text) (h : closesRaw? name (c :: t) = none) :
    closesRaw? name (c :: t ++ '<' :: after) = none := by
  cases t with
  | nil =>
      rw [List.cons_append, List.nil_append, closesRaw?_cons_cons, if_neg (by simp)]
  | cons d t =>
      rw [List.cons_append, List.cons_append, closesRaw?_cons_cons]
      rw [closesRaw?_cons_cons] at h
      split
      · next hcond =>
          obtain ⟨hc, hd, htake⟩ := hcond
          rw [List.dropWhile_append] at htake ⊢
          cases ht : t.dropWhile isBlank with
          | nil =>
              rw [ht, List.isEmpty_nil, if_pos rfl, List.dropWhile_cons_of_neg (by decide)] at htake
              exact absurd htake
                (map_toLower_take_ne (t := []) hname (List.length_pos_iff.mpr hne))
          | cons x rest =>
              rw [ht, List.isEmpty_cons, if_neg (by simp)] at htake
              rw [List.isEmpty_cons, if_neg (by simp)]
              have hlength : name.length ≤ (x :: rest).length := by
                by_contra hlt
                exact map_toLower_take_ne hname (Nat.lt_of_not_le hlt) htake
              rw [List.take_append_of_le_length hlength] at htake
              rw [ht, if_pos ⟨hc, hd, htake⟩] at h
              rw [List.drop_append_of_le_length hlength]
              exact closesAngle?_append (by decide) (by decide) h
      · rfl

theorem closesRaw?_endTag {name closing : Text} (hclosing : isTagName closing = true)
    (h : closing.map Char.toLower = name) (after : Text) :
    closesRaw? name (Piece.endTag closing ++ after) = some after := by
  obtain ⟨c, rest, hrest, hc, -⟩ := exists_cons_of_isTagName hclosing
  have hlength : name.length = closing.length := by rw [← h, List.length_map]
  have hdrop : (closing ++ '>' :: after).dropWhile isBlank = closing ++ '>' :: after := by
    rw [hrest, List.cons_append, List.dropWhile_cons_of_neg (by simp [isBlank_of_isLetter hc])]
  have hsplit : Piece.endTag closing ++ after = '<' :: '/' :: (closing ++ '>' :: after) := by
    simp [Piece.endTag]
  rw [hsplit, closesRaw?_cons_cons, hdrop, hlength, List.take_left, List.drop_left,
    if_pos ⟨rfl, rfl, h⟩]
  rfl

theorem rawContent?_append {name : Text} {closing : Text} (hne : closing ≠ [])
    (hstable : ∀ c t, closesRaw? name (c :: t) = none →
      closesRaw? name (c :: t ++ closing) = none)
    (hcloses : (closesRaw? name closing).isSome = true) {content : Text}
    (h : rawContent? name content = none) :
    rawContent? name (content ++ closing) = some (content, closing) := by
  induction content with
  | nil =>
      cases closing with
      | nil => exact absurd rfl hne
      | cons c closing => rw [List.nil_append, rawContent?, if_pos hcloses]
  | cons c content ih =>
      rw [rawContent?] at h
      split at h
      · cases h
      · next hc =>
          rw [Option.not_isSome_iff_eq_none] at hc
          have hcontent := ih (Option.map_eq_none_iff.mp h)
          have hhead := hstable c content hc
          rw [List.cons_append] at hhead
          rw [List.cons_append, rawContent?, hhead, hcontent]
          rfl

/-- An end tag starts with a bracket and a slash. -/
theorem closesRaw?_of_ne {name : Text} {c : Char} {t : Text} (h : c ≠ '<' ∨ t.head? ≠ some '/') :
    closesRaw? name (c :: t) = none := by
  unfold closesRaw?
  split
  · next heq =>
      obtain ⟨rfl, rfl⟩ := List.cons.inj heq
      simp at h
  · rfl

theorem rawContent?_cons {name : Text} {c : Char} {t : Text} (h : closesRaw? name (c :: t) = none)
    (ht : rawContent? name t = none) : rawContent? name (c :: t) = none := by
  rw [rawContent?, h, ht]
  rfl

theorem rawContent?_of_not_mem {name t : Text} (h : '<' ∉ t) : rawContent? name t = none := by
  induction t with
  | nil => rfl
  | cons c t ih =>
      rw [List.mem_cons, not_or] at h
      exact rawContent?_cons (closesRaw?_of_ne (.inl (Ne.symm h.1))) (ih h.2)

theorem eq_of_isRawElement {name : Text} (h : isRawElement name = true) :
    name = "script".toList ∨ name = "style".toList := by
  simpa only [isRawElement, Bool.or_eq_true, beq_iff_eq] using h

theorem tokensIn_endRaw {name closing : Text} (hclosing : isTagName closing = true)
    (h : closing.map Char.toLower = name) (after : Text) :
    tokensIn (some name) (Piece.endTag closing ++ after) =
      (tokensIn none after).map (⟨Piece.endTag closing, .endTag name⟩ :: ·) := by
  have hhead : head (some name) '<' ('/' :: closing ++ ['>'] ++ after) =
      .ok (.endTag name, after) := by
    have hcloses := closesRaw?_endTag hclosing h after
    simp only [Piece.endTag, List.cons_append] at hcloses
    simp only [head, rawHead, List.cons_append, hcloses]
  exact tokensIn_cons (c := '<') hhead

theorem tokensIn_rawContent {name closing content : Text} (hraw : isRawElement name = true)
    (hclosing : isTagName closing = true) (hlower : closing.map Char.toLower = name)
    (hcontent : rawContent? name content = none) (after : Text) :
    tokensIn (some name) (content ++ (Piece.endTag closing ++ after)) =
      (tokensIn none after).map
        (Piece.contentTokens content ++ [⟨Piece.endTag closing, .endTag name⟩] ++ ·) := by
  have hend := tokensIn_endRaw hclosing hlower after
  cases content with
  | nil => simpa [Piece.contentTokens] using hend
  | cons c rest =>
      have hname : '<' ∉ name ∧ name ≠ [] := by
        rcases eq_of_isRawElement hraw with rfl | rfl <;> decide
      have hstable : ∀ d t, closesRaw? name (d :: t) = none →
          closesRaw? name (d :: t ++ (Piece.endTag closing ++ after)) = none :=
        fun d t ht => closesRaw?_append hname.1 hname.2 _ ht
      have hnone : closesRaw? name (c :: rest) = none := by
        rw [rawContent?] at hcontent
        split at hcontent
        · cases hcontent
        · next hc => exact Option.not_isSome_iff_eq_none.mp hc
      have hsplit : rawContent? name (c :: rest ++ (Piece.endTag closing ++ after)) =
          some (c :: rest, Piece.endTag closing ++ after) :=
        rawContent?_append (by simp [Piece.endTag]) hstable
          (by rw [closesRaw?_endTag hclosing hlower]; rfl) hcontent
      have hhead : head (some name) c (rest ++ (Piece.endTag closing ++ after)) =
          .ok (.text (c :: rest), Piece.endTag closing ++ after) := by
        simp only [head, rawHead, ← List.cons_append, hstable c rest hnone, hsplit]
      rw [tokensIn_cons hhead]
      simp only [rawAfter, hend, Piece.contentTokens, List.isEmpty_cons, Bool.false_eq_true,
        ite_false]
      cases tokensIn none after <;> rfl

theorem tokensIn_raw {tag : WrittenTag} {content closing : Text}
    (h : (Piece.raw tag content closing).isLawful = true) (after : Text) :
    tokensIn none (tag.write ++ content ++ Piece.endTag closing ++ after) =
      (tokensIn none after).map ((Piece.raw tag content closing).tokens ++ ·) := by
  simp only [Piece.isLawful, Bool.and_eq_true, Option.isNone_iff_eq_none, beq_iff_eq] at h
  obtain ⟨⟨⟨⟨htag, hraw⟩, hclosing⟩, hcontent⟩, hlower⟩ := h
  have hopen : rawAfter none tag.event = some tag.name.lower := by
    simp only [WrittenTag.event, rawAfter, hraw, ite_true]
  rw [List.append_assoc, List.append_assoc, tokensIn_startTag htag, hopen,
    tokensIn_rawContent hraw hclosing hlower hcontent]
  cases tokensIn none after <;> simp [Except.map, Piece.tokens]

/-! ### Many pieces -/

namespace Piece

def writeAll (pieces : List Piece) : Text := pieces.flatMap write

def allTokens (pieces : List Piece) : List Token := pieces.flatMap tokens

@[simp] theorem writeAll_nil : writeAll [] = [] := rfl

@[simp] theorem writeAll_cons (piece : Piece) (rest : List Piece) :
    writeAll (piece :: rest) = piece.write ++ writeAll rest := rfl

@[simp] theorem writeAll_append (first rest : List Piece) :
    writeAll (first ++ rest) = writeAll first ++ writeAll rest :=
  List.flatMap_append

theorem tokensIn_write {piece : Piece} (h : piece.isLawful = true) {after : Text}
    (hafter : piece.isText = true → EndsText after) :
    tokensIn none (piece.write ++ after) = (tokensIn none after).map (piece.tokens ++ ·) := by
  cases piece with
  | text characters =>
      simp only [isLawful, Bool.and_eq_true, Bool.not_eq_true'] at h
      simp only [write]
      exact tokensIn_text (by simpa using h.1) (by simpa using h.2) (hafter rfl)
  | start tag =>
      simp only [isLawful, Bool.and_eq_true, Bool.not_eq_true'] at h
      have hopen : rawAfter none tag.event = none := by
        simp only [WrittenTag.event, rawAfter, h.2, Bool.false_eq_true, ite_false]
      rw [write, tokensIn_startTag h.1, hopen]
      rfl
  | close name => exact tokensIn_endTag h after
  | comment body gap =>
      simp only [isLawful, Bool.and_eq_true, Option.isNone_iff_eq_none] at h
      exact tokensIn_comment h.1 h.2 after
  | declaration body => exact tokensIn_declaration h after
  | raw tag content closing => exact tokensIn_raw h after

theorem endsText_write {piece : Piece} (h : piece.isText = false) (after : Text) :
    EndsText (piece.write ++ after) := by
  cases piece <;> simp_all [EndsText, write, isText, WrittenTag.write, endTag]

/-- The tokens of plain markup are the tokens of its pieces. -/
theorem Plain.tokens_writeAll {pieces : List Piece} (h : Plain pieces) :
    Html.tokens (writeAll pieces) = .ok (allTokens pieces) := by
  obtain ⟨hlawful, hseparate⟩ := h
  induction pieces with
  | nil => rw [writeAll, Html.tokens, List.flatMap_nil, tokensIn]; rfl
  | cons piece pieces ih =>
      have hends : piece.isText = true → EndsText (writeAll pieces) := by
        intro htext
        cases pieces with
        | nil => simp [EndsText, writeAll]
        | cons next pieces =>
            have hnext : next.isText = false := by
              have := (List.isChain_cons_cons.mp hseparate).1
              simpa [htext] using this
            exact endsText_write hnext _
      have htail := ih (fun p hp => hlawful p (List.mem_cons_of_mem _ hp)) hseparate.tail
      rw [Html.tokens] at htail ⊢
      show tokensIn none (piece.write ++ writeAll pieces) = _
      rw [tokensIn_write (hlawful piece List.mem_cons_self) hends, htail]
      rfl

end Piece

end CypherPages.Html
