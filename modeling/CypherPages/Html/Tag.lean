import CypherPages.Html.CharRef
import CypherPages.Html.Token
import CypherPages.Text.Blank
import CypherPages.Text.Lower

/-! # Tags

What stands between the angle brackets of a tag. The rules are lenient: attributes need no
space between them, a value may be quoted or bare, and a quote that is never closed is no
quote. -/

namespace CypherPages.Html

def endsTagName (c : Char) : Bool :=
  c == '\t' || c == '\n' || c == '\r' || c == '\x0c' || c == ' ' || c == '/' || c == '>' ||
    c == '\x00'

/-- Whether a character is an ASCII letter. -/
def isLetter (c : Char) : Bool := ('a' ≤ c && c ≤ 'z') || ('A' ≤ c && c ≤ 'Z')

def isQuote (c : Char) : Bool := c == '\'' || c == '"'

/-- A text without the blanks and slashes it starts with. The slash of `/>` stays. -/
def skipGap : Text → Text
  | [] => []
  | c :: rest =>
    if isBlank c then skipGap rest
    else if c == '/' && rest.head? != some '>' then skipGap rest
    else c :: rest

/-- Whether a character may stand in the name of an attribute, behind its first character. -/
def isAttributeNameChar (c : Char) : Bool := !(isBlank c || c == '/' || c == '=' || c == '>')

def startsAttribute (c : Char) : Bool := !(isBlank c || c == '/' || c == '>')

def isBareChar (c : Char) : Bool := !(isBlank c || c == '>')

/-- The value that stands after an equals sign and blanks: quoted, with its closing quote, or
bare. A quote that is never closed starts no value. -/
def value? (t : Text) : Option (Text × Text) :=
  match t with
  | [] => some ([], [])
  | c :: rest =>
    if isQuote c then
      match rest.dropWhile (· ≠ c) with
      | [] => none
      | _ :: after => some (rest.takeWhile (· ≠ c), after)
    else some (t.takeWhile isBareChar, t.dropWhile isBareChar)

/-- The value of an attribute after its name, and the text after the value. When a quote after
the equals sign is never closed, the value is empty if blanks stand before the quote, starts
with the last of several equals signs, or is missing. -/
def assignment? (t : Text) : Option (Text × Text) :=
  let atSign := t.dropWhile isBlank
  let signs := atSign.takeWhile (· == '=')
  if signs.isEmpty then none
  else
    let afterSigns := atSign.drop signs.length
    let blanks := afterSigns.takeWhile isBlank
    let atValue := afterSigns.drop blanks.length
    match value? atValue with
    | some found => some found
    | none =>
      if !blanks.isEmpty then some ([], afterSigns.drop (blanks.length - 1))
      else if 2 ≤ signs.length then
        some ('=' :: atValue.takeWhile isBareChar, atValue.dropWhile isBareChar)
      else none

theorem length_skipGap_le (t : Text) : (skipGap t).length ≤ t.length := by
  fun_induction skipGap t <;> simp_all <;> omega

private theorem length_dropWhile_le_length (p : Char → Bool) (t : Text) :
    (t.dropWhile p).length ≤ t.length :=
  (List.dropWhile_sublist p).length_le

theorem length_of_value? {t : Text} {found : Text × Text} (h : value? t = some found) :
    found.2.length ≤ t.length := by
  unfold value? at h
  split at h
  · obtain rfl := Option.some.inj h
    simp
  · next c rest =>
    split at h
    · split at h
      · cases h
      · next hd =>
        obtain rfl := Option.some.inj h
        have := length_dropWhile_le_length (· ≠ c) rest
        rw [hd] at this
        simp only [List.length_cons] at this ⊢
        omega
    · obtain rfl := Option.some.inj h
      exact length_dropWhile_le_length isBareChar _

theorem length_of_assignment? {t : Text} {found : Text × Text} (h : assignment? t = some found) :
    found.2.length ≤ t.length := by
  unfold assignment? at h
  simp only at h
  have hd := length_dropWhile_le_length isBlank t
  split at h
  · cases h
  · split at h
    · next found' hv =>
      obtain rfl := Option.some.inj h
      have := length_of_value? hv
      simp only [List.length_drop] at this
      omega
    · split at h
      · obtain rfl := Option.some.inj h
        simp only [List.length_drop]
        omega
      · split at h
        · obtain rfl := Option.some.inj h
          refine Nat.le_trans (length_dropWhile_le_length isBareChar _) ?_
          simp only [List.length_drop]
          omega
        · cases h

/-- An attribute with what stands behind it. -/
structure SpelledAttribute where
  name : Text
  /-- The decoded value; an attribute without an equals sign has none. -/
  value : Option Text
  /-- Whether another attribute may start right behind this one. -/
  mayContinue : Bool
  /-- The text behind the attribute and the gap after it. -/
  rest : Text

/-- Read the attribute whose name starts with `c`. -/
def SpelledAttribute.read (c : Char) (rest : Text) : SpelledAttribute :=
  let name : Text := c :: rest.takeWhile isAttributeNameChar
  let afterName := rest.dropWhile isAttributeNameChar
  match assignment? afterName with
  | some (value, after) => ⟨name.lower, some (unescape value), true, skipGap after⟩
  | none =>
    let gap := skipGap afterName
    ⟨name.lower, none, name.getLast?.any isQuote || gap.length < afterName.length, gap⟩

theorem SpelledAttribute.length_read_le (c : Char) (t : Text) :
    (SpelledAttribute.read c t).rest.length ≤ t.length := by
  have hName := length_dropWhile_le_length isAttributeNameChar t
  simp only [SpelledAttribute.read]
  split
  · next value after h =>
    have hAssignment := length_of_assignment? h
    have hGap := length_skipGap_le after
    simp only at hAssignment ⊢
    omega
  · exact Nat.le_trans (length_skipGap_le _) hName

/-- The attributes at the head of a text, and the text after them. An attribute may start
where `mayStart` holds: behind a blank, a slash or a quote. -/
def attributes (mayStart : Bool) : Text → List (Text × Option Text) × Text
  | [] => ([], [])
  | c :: rest =>
    if mayStart && startsAttribute c then
      let first := SpelledAttribute.read c rest
      have := SpelledAttribute.length_read_le c rest
      let (others, final) := attributes first.mayContinue first.rest
      ((first.name, first.value) :: others, final)
    else ([], c :: rest)
  termination_by t => t.length
  decreasing_by simp only [List.length_cons]; omega

/-- What a start tag turns out to be. -/
inductive TagEnd
  /-- It ends with `>`, or with `/>` when `selfClosing` holds. -/
  | closed (selfClosing : Bool)
  /-- It goes on to the end of the page or breaks off where an attribute is expected. -/
  | incomplete
  /-- It stops before a character that cannot stand in a tag, and is no tag. -/
  | broken

/-- How a tag ends at a place where no further attribute starts. -/
def tagEnd : Text → TagEnd × Text
  | '>' :: rest => (.closed false, rest)
  | '/' :: '>' :: rest => (.closed true, rest)
  | [] => (.incomplete, [])
  | c :: rest =>
    (if isLetter c || c == '=' || c == '/' then .incomplete else .broken, c :: rest)

/-- The start tag that a text spells behind its opening bracket: name, attributes, how it ends
and what follows. -/
structure StartTag where
  name : Text
  attributes : List (Text × Option Text)
  ending : TagEnd
  rest : Text

def StartTag.read (t : Text) : StartTag :=
  let name : Text := t.takeWhile fun c => !endsTagName c
  let afterName := t.drop name.length
  let gap := skipGap afterName
  let mayStart := gap.length < afterName.length || name.getLast?.any fun c => isQuote c || isBlank c
  let (found, atEnd) := Html.attributes mayStart gap
  let (ending, rest) := tagEnd atEnd
  ⟨name.lower, found, ending, rest⟩

/-- Whether a character may stand in the name of an end tag, behind its first letter. -/
def isEndNameChar (c : Char) : Bool :=
  isLetter c || Numeral.isDigit c || c == '-' || c == '.' || c == ':' || c == '_'

/-- What an end tag tells a reader, from what stands between its slash and its bracket. -/
def endTagEvent (inner : Text) : Event :=
  let name := (Text.trimLeft inner).takeWhile isEndNameChar
  if (name.head?.any isLetter) && Text.isBlankText ((Text.trimLeft inner).drop name.length) then
    .endTag (Text.lower name)
  else if inner.head?.any isLetter then
    .endTag (Text.lower (inner.takeWhile fun c => !endsTagName c))
  else .skipped

end CypherPages.Html
