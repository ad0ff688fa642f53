import CypherPages.Html.Lexer
import CypherPages.Proofs.Text.Cut
import Mathlib.Data.Nat.Notation

/-! # Written start tags

A start tag in the form in which pages are written: each attribute stands behind white space
and has its value in double quotes. Reading such a tag gives its name and its attributes and
leaves the text behind it. -/

namespace CypherPages.Html

/-- Whether a character is white space that may follow the name of a tag. -/
def isTagSpace (c : Char) : Bool :=
  c == ' ' || c == '\t' || c == '\n' || c == '\r' || c == '\x0c'

/-- Whether a text is the name of a tag. -/
def isTagName (t : Text) : Bool := t.head?.any isLetter && t.all isEndNameChar

/-- An attribute with the white space before it and its value as it stands in the quotes. -/
structure WrittenAttribute where
  gap : Text
  name : Text
  value : Text
  deriving DecidableEq

namespace WrittenAttribute

def write (written : WrittenAttribute) : Text :=
  written.gap ++ written.name ++ '=' :: '"' :: written.value ++ ['"']

def read (written : WrittenAttribute) : Text × Option Text :=
  (written.name.lower, some (unescape written.value))

/-- Whether an attribute reads as it is written. -/
def isLawful (written : WrittenAttribute) : Bool :=
  !written.gap.isEmpty && written.gap.all isTagSpace && !written.name.isEmpty &&
    written.name.all isAttributeNameChar && !written.value.contains '"'

end WrittenAttribute

/-- A start tag with the white space before its closing bracket. -/
structure WrittenTag where
  name : Text
  attributes : List WrittenAttribute
  gap : Text
  deriving DecidableEq

namespace WrittenTag

/-- What stands behind the name of a tag, up to its closing bracket. -/
def tail (tag : WrittenTag) : Text :=
  tag.attributes.flatMap WrittenAttribute.write ++ tag.gap

def write (tag : WrittenTag) : Text := '<' :: tag.name ++ tag.tail ++ ['>']

/-- What a reader is told of a tag. -/
def event (tag : WrittenTag) : Event :=
  .startTag tag.name.lower (tag.attributes.map WrittenAttribute.read) false

/-- Whether a tag reads as it is written. -/
def isLawful (tag : WrittenTag) : Bool :=
  isTagName tag.name && tag.attributes.all WrittenAttribute.isLawful && tag.gap.all isTagSpace

end WrittenTag

/-! ### Names and white space -/

theorem isLetter_iff (c : Char) : isLetter c = true ↔
    (97 ≤ c.toNat ∧ c.toNat ≤ 122) ∨ (65 ≤ c.toNat ∧ c.toNat ≤ 90) := by
  simp only [isLetter, Bool.or_eq_true, Bool.and_eq_true, decide_eq_true_eq]
  rfl

theorem isBlank_of_isLetter {c : Char} (h : isLetter c = true) : isBlank c = false := by
  rw [isLetter_iff] at h
  simp only [isBlank, isWhiteSpace, Bool.or_eq_false_iff, Bool.and_eq_false_iff,
    decide_eq_false_iff_not, beq_eq_false_iff_ne]
  omega

theorem isBlank_of_isTagSpace {c : Char} (h : isTagSpace c = true) : isBlank c = true := by
  simp only [isTagSpace, Bool.or_eq_true, beq_iff_eq] at h
  rcases h with (((rfl | rfl) | rfl) | rfl) | rfl <;> decide

theorem endsTagName_of_isTagSpace {c : Char} (h : isTagSpace c = true) :
    endsTagName c = true := by
  simp only [isTagSpace, Bool.or_eq_true, beq_iff_eq] at h
  rcases h with (((rfl | rfl) | rfl) | rfl) | rfl <;> decide

theorem not_endsTagName_of_isEndNameChar {c : Char} (h : isEndNameChar c = true) :
    endsTagName c = false := by
  by_contra hc
  simp only [endsTagName, Bool.or_eq_true, beq_iff_eq, Bool.not_eq_false] at hc
  rcases hc with ((((((rfl | rfl) | rfl) | rfl) | rfl) | rfl) | rfl) | rfl <;> revert h <;> decide

theorem exists_cons_of_isTagName {t : Text} (h : isTagName t = true) :
    ∃ c rest, t = c :: rest ∧ isLetter c = true ∧ ∀ d ∈ t, isEndNameChar d = true := by
  rw [isTagName, Bool.and_eq_true] at h
  cases t with
  | nil => simp at h
  | cons c rest => exact ⟨c, rest, rfl, by simpa using h.1, by simpa using h.2⟩

/-! ### Gaps -/

theorem skipGap_append {gap : Text} (h : gap.all isTagSpace = true) (t : Text) :
    skipGap (gap ++ t) = skipGap t := by
  induction gap with
  | nil => rfl
  | cons c gap ih =>
      simp only [List.all_cons, Bool.and_eq_true] at h
      rw [List.cons_append, skipGap, if_pos (isBlank_of_isTagSpace h.1), ih h.2]

theorem skipGap_of_isAttributeNameChar {c : Char} (h : isAttributeNameChar c = true) (t : Text) :
    skipGap (c :: t) = c :: t := by
  simp only [isAttributeNameChar, Bool.not_eq_true', Bool.or_eq_false_iff] at h
  simp [skipGap, h]

theorem skipGap_angle (t : Text) : skipGap ('>' :: t) = '>' :: t := by
  rw [skipGap, if_neg (by decide), if_neg (by simp)]

/-! ### Attributes -/

theorem isAttributeNameChar_startsAttribute {c : Char} (h : isAttributeNameChar c = true) :
    startsAttribute c = true := by
  simp only [isAttributeNameChar, Bool.not_eq_true', Bool.or_eq_false_iff] at h
  simp [startsAttribute, h]

/-- A quoted value right behind an equals sign is the value of the attribute. -/
theorem assignment?_quoted {value : Text} (h : '"' ∉ value) (t : Text) :
    assignment? ('=' :: '"' :: value ++ '"' :: t) = some (value, t) := by
  obtain ⟨htake, hdrop⟩ := Text.cut_append h t
  have hread : value? ('"' :: (value ++ '"' :: t)) = some (value, t) := by
    simp only [value?, show isQuote '"' = true by decide, ite_true, hdrop, htake]
  simp only [assignment?, List.cons_append]
  rw [List.dropWhile_cons_of_neg (by decide), List.takeWhile_cons_of_pos (by decide),
    List.takeWhile_cons_of_neg (by decide)]
  simp only [List.isEmpty_cons, Bool.false_eq_true, ite_false, List.length_cons, List.length_nil,
    Nat.zero_add, List.drop_succ_cons, List.drop_zero]
  rw [List.takeWhile_cons_of_neg (by decide), List.length_nil, List.drop_zero, hread]

/-- Reading an attribute behind its gap. -/
theorem SpelledAttribute.read_written {written : WrittenAttribute} {c : Char} {name t : Text}
    (h : written.isLawful = true) (hname : written.name = c :: name) :
    SpelledAttribute.read c (name ++ '=' :: '"' :: written.value ++ '"' :: t) =
      ⟨written.name.lower, some (unescape written.value), true, skipGap t⟩ := by
  simp only [WrittenAttribute.isLawful, Bool.and_eq_true, List.all_eq_true, hname] at h
  have hchars : ∀ d ∈ name, isAttributeNameChar d = true := fun d hd => h.1.2 d (by simp [hd])
  have hvalue : '"' ∉ written.value := by simpa using h.2
  have htake : (name ++ '=' :: '"' :: written.value ++ '"' :: t).takeWhile
      isAttributeNameChar = name := by
    rw [List.append_assoc, List.takeWhile_append_of_pos hchars, List.cons_append,
      List.takeWhile_cons_of_neg (by decide), List.append_nil]
  have hdrop : (name ++ '=' :: '"' :: written.value ++ '"' :: t).dropWhile
      isAttributeNameChar = '=' :: '"' :: written.value ++ '"' :: t := by
    rw [List.append_assoc, List.dropWhile_append_of_pos hchars, List.cons_append,
      List.dropWhile_cons_of_neg (by decide)]
  simp only [SpelledAttribute.read, htake, hdrop, assignment?_quoted hvalue, hname]

theorem attributes_angle (mayStart : Bool) (t : Text) :
    attributes mayStart ('>' :: t) = ([], '>' :: t) := by
  rw [attributes]
  simp [startsAttribute]

namespace WrittenAttribute

theorem isLawful_cons {written : WrittenAttribute} (h : written.isLawful = true) :
    ∃ c name, written.name = c :: name ∧ isAttributeNameChar c = true := by
  simp only [isLawful, Bool.and_eq_true, List.all_eq_true] at h
  cases hname : written.name with
  | nil => simp [hname] at h
  | cons c name => exact ⟨c, name, rfl, h.1.2 c (by simp [hname])⟩

theorem isLawful_gap {written : WrittenAttribute} (h : written.isLawful = true) :
    written.gap ≠ [] ∧ written.gap.all isTagSpace = true := by
  simp only [isLawful, Bool.and_eq_true] at h
  exact ⟨by simpa using h.1.1.1.1, h.1.1.1.2⟩

end WrittenAttribute

/-- Written attributes are read one after the other, and then what stands behind them. -/
theorem attributes_append {spelled : List WrittenAttribute}
    (h : spelled.all WrittenAttribute.isLawful = true) (t : Text) :
    attributes true (skipGap (spelled.flatMap WrittenAttribute.write ++ t)) =
      (spelled.map WrittenAttribute.read ++ (attributes true (skipGap t)).1,
        (attributes true (skipGap t)).2) := by
  induction spelled with
  | nil => rfl
  | cons written spelled ih =>
      rw [List.all_cons, Bool.and_eq_true] at h
      obtain ⟨c, name, hname, hc⟩ := WrittenAttribute.isLawful_cons h.1
      have hskip : skipGap ((written :: spelled).flatMap WrittenAttribute.write ++ t) =
            c :: (name ++ '=' :: '"' :: written.value ++
              '"' :: (spelled.flatMap WrittenAttribute.write ++ t)) := by
        simp only [List.flatMap_cons, WrittenAttribute.write, List.append_assoc]
        rw [skipGap_append (WrittenAttribute.isLawful_gap h.1).2, hname, List.cons_append,
          skipGap_of_isAttributeNameChar hc]
        simp
      rw [hskip, attributes]
      simp only [isAttributeNameChar_startsAttribute hc, Bool.and_self, ite_true,
        SpelledAttribute.read_written h.1 hname, ih h.2, List.map_cons]
      rfl

/-- The attributes of a tag behind the gap of the first one, up to the closing bracket. -/
theorem attributes_written {spelled : List WrittenAttribute} {gap : Text}
    (h : spelled.all WrittenAttribute.isLawful = true) (hgap : gap.all isTagSpace = true)
    (t : Text) :
    attributes true (skipGap (spelled.flatMap WrittenAttribute.write ++ gap ++ '>' :: t)) =
      (spelled.map WrittenAttribute.read, '>' :: t) := by
  rw [List.append_assoc, attributes_append h, skipGap_append hgap, skipGap_angle,
    attributes_angle, List.append_nil]

/-! ### Start tags -/

namespace WrittenTag

variable {tag : WrittenTag}

/-- What follows the name of a tag ends the name. -/
theorem exists_cons_tail (h : tag.isLawful = true) (t : Text) :
    ∃ c rest, tag.tail ++ '>' :: t = c :: rest ∧ endsTagName c = true := by
  simp only [isLawful, Bool.and_eq_true] at h
  rw [tail]
  cases hs : tag.attributes with
  | cons written spelled =>
      rw [hs, List.all_cons, Bool.and_eq_true] at h
      obtain ⟨hne, hgap⟩ := WrittenAttribute.isLawful_gap h.1.2.1
      cases hg : written.gap with
      | nil => exact absurd hg hne
      | cons c gap =>
          rw [hg, List.all_cons, Bool.and_eq_true] at hgap
          exact ⟨c, _, by simp [WrittenAttribute.write, hg]; rfl,
            endsTagName_of_isTagSpace hgap.1⟩
  | nil =>
      cases hg : tag.gap with
      | nil => exact ⟨'>', t, rfl, by decide⟩
      | cons c gap =>
          rw [hg, List.all_cons, Bool.and_eq_true] at h
          exact ⟨c, _, by simp; rfl, endsTagName_of_isTagSpace h.2.1⟩

/-- An attribute may start behind the name of a tag that has one. -/
theorem length_skipGap_tail_lt (h : tag.isLawful = true) (hne : tag.attributes ≠ []) (t : Text) :
    (skipGap (tag.tail ++ '>' :: t)).length < (tag.tail ++ '>' :: t).length := by
  simp only [isLawful, Bool.and_eq_true] at h
  rw [tail]
  cases hs : tag.attributes with
  | nil => exact absurd hs hne
  | cons written spelled =>
      rw [hs, List.all_cons, Bool.and_eq_true] at h
      obtain ⟨hgap, hall⟩ := WrittenAttribute.isLawful_gap h.1.2.1
      have hlength := List.length_pos_iff.mpr hgap
      simp only [List.flatMap_cons, WrittenAttribute.write, List.append_assoc]
      rw [skipGap_append hall]
      refine Nat.lt_of_le_of_lt (length_skipGap_le _) ?_
      simp only [List.length_append]
      omega

theorem read_written (h : tag.isLawful = true) (t : Text) :
    StartTag.read (tag.name ++ (tag.tail ++ '>' :: t)) =
      ⟨tag.name.lower, tag.attributes.map WrittenAttribute.read, .closed false, t⟩ := by
  have hlawful := h
  simp only [isLawful, Bool.and_eq_true] at hlawful
  obtain ⟨⟨hname, hattributes⟩, hgap⟩ := hlawful
  obtain ⟨c, rest, hrest, hends⟩ := exists_cons_tail h t
  obtain ⟨-, -, -, -, hchars⟩ := exists_cons_of_isTagName hname
  have hname' : ∀ d ∈ tag.name, (!endsTagName d) = true := fun d hd => by
    rw [not_endsTagName_of_isEndNameChar (hchars d hd), Bool.not_false]
  have htake : (tag.name ++ (tag.tail ++ '>' :: t)).takeWhile (fun d => !endsTagName d) =
      tag.name := by
    rw [List.takeWhile_append_of_pos hname', hrest,
      List.takeWhile_cons_of_neg (by simp [hends]), List.append_nil]
  have hfound : ∀ mayStart, (tag.attributes ≠ [] → mayStart = true) →
      Html.attributes mayStart (skipGap (tag.tail ++ '>' :: t)) =
        (tag.attributes.map WrittenAttribute.read, '>' :: t) := by
    intro mayStart hmay
    by_cases hne : tag.attributes = []
    · rw [tail, hne, List.flatMap_nil, List.nil_append, skipGap_append hgap, skipGap_angle,
        attributes_angle, List.map_nil]
    · rw [hmay hne, tail]
      exact attributes_written hattributes hgap t
  unfold StartTag.read
  simp only [htake, List.drop_left]
  rw [hfound _ (fun hne => by
    rw [decide_eq_true (length_skipGap_tail_lt h hne t), Bool.true_or])]
  rfl

/-- The token of a written start tag is the tag. -/
theorem startHead_written (h : tag.isLawful = true) (t : Text) :
    startHead (tag.name ++ (tag.tail ++ '>' :: t)) = (tag.event, t) := by
  simp only [startHead, read_written h]
  rfl

end WrittenTag

end CypherPages.Html
