import CypherPages.Proofs.Html.Escape
import CypherPages.Proofs.Html.Piece

/-! # Names that stand as they are

A name of an attribute that is written as it is, behind a blank and in front of an equals sign. If
no character in it ends a name or is a quote, the name is read as a whole, whatever follows the
equals sign: the rest of the tag reads as behind any other such name. -/

namespace CypherPages.Html

/-- Whether a character neither ends the name of an attribute nor opens a value. -/
def isInnerNameChar (c : Char) : Bool := isAttributeNameChar c && !isQuote c

/-- The start tag of an element with some attributes, up to the next one with its name and its
equals sign. -/
def tagUpTo (element : Text) (before : List WrittenAttribute) (name rest : Text) : Text :=
  element ++ (before.flatMap WrittenAttribute.write ++ ' ' :: (name ++ '=' :: rest))

/-- A name that no tag splits or closes early. -/
structure StandsWhole (name : Text) : Prop where
  /-- Escaping it changes nothing. -/
  escape : Html.escape name = name
  /-- Whatever follows the equals sign, the name is read as it is, and the tag goes on and ends as
  with a single letter for a name. -/
  whole : ∀ (element : Text) (before : List WrittenAttribute) (rest : Text),
    isTagName element = true → before.all WrittenAttribute.isLawful = true →
      ∃ value others ending after,
        StartTag.read (tagUpTo element before name rest) =
          ⟨element.lower, before.map WrittenAttribute.read ++ (name, value) :: others, ending,
            after⟩ ∧
        StartTag.read (tagUpTo element before ['x'] rest) =
          ⟨element.lower, before.map WrittenAttribute.read ++ (['x'], value) :: others, ending,
            after⟩
  /-- Among attributes with quoted values it comes back with its own value. -/
  quoted : ∀ (element value after : Text) (before behind : List WrittenAttribute),
    isTagName element = true → before.all WrittenAttribute.isLawful = true →
      behind.all WrittenAttribute.isLawful = true →
        let tag : WrittenTag :=
          ⟨element, before ++ ⟨[' '], name, Html.escape value⟩ :: behind, []⟩
        let event : Event := .startTag element.lower (before.map WrittenAttribute.read ++
          (name, some value) :: behind.map WrittenAttribute.read) false
        tokensIn none (tag.write ++ after) =
          (tokensIn (rawAfter none event) after).map (⟨tag.write, event⟩ :: ·)

/-! ### The attribute of a name -/

/-- An attribute of such a name is that of any other name, but for the name. -/
theorem SpelledAttribute.read_name {c : Char} {name : Text}
    (h : ∀ d ∈ c :: name, isInnerNameChar d = true) (rest : Text) :
    SpelledAttribute.read c (name ++ '=' :: rest) =
      { SpelledAttribute.read 'x' ('=' :: rest) with name := Text.lower (c :: name) } := by
  have hinner : ∀ d ∈ c :: name, isAttributeNameChar d = true ∧ isQuote d = false := by
    intro d hd
    simpa [isInnerNameChar] using h d hd
  have hname : ∀ d ∈ name, isAttributeNameChar d = true :=
    fun d hd => (hinner d (List.mem_cons_of_mem c hd)).1
  have hsign : ¬ isAttributeNameChar '=' = true := by decide
  have htake : (name ++ '=' :: rest).takeWhile isAttributeNameChar = name := by
    rw [List.takeWhile_append_of_pos hname, List.takeWhile_cons_of_neg hsign, List.append_nil]
  have hdrop : (name ++ '=' :: rest).dropWhile isAttributeNameChar = '=' :: rest := by
    rw [List.dropWhile_append_of_pos hname, List.dropWhile_cons_of_neg hsign]
  have hlast : (c :: name).getLast?.any isQuote = false := by
    rw [List.getLast?_eq_some_getLast (List.cons_ne_nil c name), Option.any_some]
    exact (hinner _ (List.getLast_mem _)).2
  have hletter : ['x'].getLast?.any isQuote = false := by decide
  simp only [SpelledAttribute.read, htake, hdrop, hlast, List.takeWhile_cons_of_neg hsign,
    List.dropWhile_cons_of_neg hsign, hletter]
  cases assignment? ('=' :: rest) with
  | some found => rfl
  | none => rfl

/-- The text behind a name is read in the same way for all names. -/
theorem exists_attributes_of_name (rest : Text) :
    ∃ value others after, ∀ name : Text, name ≠ [] → (∀ c ∈ name, isInnerNameChar c = true) →
      attributes true (skipGap (' ' :: (name ++ '=' :: rest))) =
        ((name.lower, value) :: others, after) := by
  let letter := SpelledAttribute.read 'x' ('=' :: rest)
  refine ⟨letter.value, (attributes letter.mayContinue letter.rest).1,
    (attributes letter.mayContinue letter.rest).2, fun name hne h => ?_⟩
  obtain ⟨c, name, rfl⟩ := List.exists_cons_of_ne_nil hne
  have hc := (Bool.and_eq_true_iff.mp (h c List.mem_cons_self)).1
  rw [skipGap, if_pos (by decide), List.cons_append, skipGap_of_isAttributeNameChar hc, attributes]
  simp only [isAttributeNameChar_startsAttribute hc, Bool.and_self, ite_true,
    SpelledAttribute.read_name h, letter]

/-! ### The tag -/

/-- A start tag with white space behind its name. -/
theorem StartTag.read_of_isTagSpace {element : Text} {c : Char} {t : Text}
    (hname : isTagName element = true) (hc : isTagSpace c = true) :
    StartTag.read (element ++ c :: t) =
      ⟨element.lower, (Html.attributes true (skipGap (c :: t))).1,
        (tagEnd (Html.attributes true (skipGap (c :: t))).2).1,
        (tagEnd (Html.attributes true (skipGap (c :: t))).2).2⟩ := by
  obtain ⟨-, -, -, -, hchars⟩ := exists_cons_of_isTagName hname
  have htake : (element ++ c :: t).takeWhile (fun d => !endsTagName d) = element := by
    rw [List.takeWhile_append_of_pos fun d hd => by
        rw [not_endsTagName_of_isEndNameChar (hchars d hd), Bool.not_false],
      List.takeWhile_cons_of_neg (by simp [endsTagName_of_isTagSpace hc]), List.append_nil]
  have hgap : (skipGap (c :: t)).length < (c :: t).length := by
    rw [skipGap, if_pos (isBlank_of_isTagSpace hc)]
    exact Nat.lt_succ_of_le (length_skipGap_le t)
  simp only [StartTag.read, htake, List.drop_left, hgap, decide_true, Bool.true_or]

/-- What stands behind the name of an element starts with white space. -/
theorem exists_cons_of_before {before : List WrittenAttribute}
    (h : before.all WrittenAttribute.isLawful = true) (t : Text) :
    ∃ c rest, before.flatMap WrittenAttribute.write ++ ' ' :: t = c :: rest ∧
      isTagSpace c = true := by
  cases before with
  | nil => exact ⟨' ', t, rfl, by decide⟩
  | cons written before =>
      rw [List.all_cons, Bool.and_eq_true] at h
      obtain ⟨hne, hall⟩ := WrittenAttribute.isLawful_gap h.1
      obtain ⟨c, gap, hgap⟩ := List.exists_cons_of_ne_nil hne
      rw [hgap, List.all_cons, Bool.and_eq_true] at hall
      exact ⟨c, _, by simp [WrittenAttribute.write, hgap]; rfl, hall.1⟩

theorem StartTag.read_tagUpTo {element : Text} {before : List WrittenAttribute} {name rest : Text}
    (hname : isTagName element = true) (h : before.all WrittenAttribute.isLawful = true)
    {found : List (Text × Option Text)} {after : Text}
    (hfound : Html.attributes true (skipGap (' ' :: (name ++ '=' :: rest))) = (found, after)) :
    StartTag.read (tagUpTo element before name rest) =
      ⟨element.lower, before.map WrittenAttribute.read ++ found, (tagEnd after).1,
        (tagEnd after).2⟩ := by
  obtain ⟨c, t, hcons, hc⟩ := exists_cons_of_before h (name ++ '=' :: rest)
  rw [tagUpTo, hcons, StartTag.read_of_isTagSpace hname hc, ← hcons, attributes_append h, hfound]

/-- A name of such characters, in lower case, stands as it is. -/
theorem standsWhole_of_forall {name : Text} (hne : name ≠ [])
    (h : ∀ c ∈ name, isInnerNameChar c = true) (hlower : name.lower = name)
    (hescape : Html.escape name = name) : StandsWhole name where
  escape := hescape
  whole element before rest hname hbefore := by
    obtain ⟨value, others, after, hread⟩ := exists_attributes_of_name rest
    have hown := hread name hne h
    have hletter := hread ['x'] (List.cons_ne_nil _ _) (List.forall_mem_singleton.mpr rfl)
    rw [hlower] at hown
    exact ⟨value, others, _, _, StartTag.read_tagUpTo hname hbefore hown,
      StartTag.read_tagUpTo hname hbefore hletter⟩
  quoted element value after before behind hname hbefore hbehind := by
    intro tag event
    have hchars : name.all isAttributeNameChar = true :=
      List.all_eq_true.mpr fun c hc => (Bool.and_eq_true_iff.mp (h c hc)).1
    have hvalue : '"' ∉ Html.escape value := not_mem_escape (by decide) value
    have hattribute : WrittenAttribute.isLawful ⟨[' '], name, Html.escape value⟩ = true := by
      simp [WrittenAttribute.isLawful, hchars, hvalue, hne, isTagSpace]
    have hlawful : tag.isLawful = true := by
      simp only [WrittenTag.isLawful, tag, hname, List.all_append, List.all_cons, hbefore,
        hattribute, hbehind, List.all_nil, Bool.and_self]
    have hevent : tag.event = event := by
      simp only [WrittenTag.event, tag, event, List.map_append, List.map_cons,
        WrittenAttribute.read, hlower, unescape_escape]
    rw [← hevent]
    exact tokensIn_startTag hlawful after

end CypherPages.Html
