import CypherPages.Markdown.Unescape
import CypherPages.Text.Blank

/-! # Opening tags in Markdown

An opening tag is read character by character. Blanks beyond ASCII may stand in a value without
quotes as well as between attributes, so what has been read can leave several readings open, and
the reader keeps them all. Outside quotes the first closing bracket ends the tag or shows that
there is none. -/

namespace CypherPages.Markdown

namespace OpenTag

/-- What the last character read belongs to. -/
inductive Place
  | name
  /-- Blanks behind the name of the tag or behind an attribute. -/
  | gap
  | attributeName
  /-- Blanks before an equals sign. -/
  | beforeEquals
  /-- An equals sign, or blanks behind it. -/
  | equals
  | bareValue
  | quotedValue (quote : Char)
  | closingQuote
  /-- The slash before the closing bracket. -/
  | slash
  deriving DecidableEq

def isNameChar (c : Char) : Bool := isAlphanumeric c || c == '-'

def startsAttributeName (c : Char) : Bool := Html.isLetter c || c == '_' || c == ':'

def isAttributeNameChar (c : Char) : Bool :=
  isAlphanumeric c || c == '_' || c == ':' || c == '.' || c == '-'

def isBareChar (c : Char) : Bool :=
  !(c == '"' || c == '\'' || c == '=' || c == '<' || c == '>' || c == Char.ofNat 0x60 ||
    c.toNat ≤ 0x20)

namespace Place

/-- Whether the tag may end behind a place, be it with a slash or without one. -/
def isComplete : Place → Bool
  | .name | .gap | .attributeName | .bareValue | .closingQuote => true
  | _ => false

/-- Whether a closing bracket behind a place ends the tag. -/
def maySeal (place : Place) : Bool := place.isComplete || place == .slash

/-- Where a character that goes on with a place, or is a part of its own, can stand. -/
def within (place : Place) (c : Char) : List Place :=
  match place with
  | .name => if isNameChar c then [.name] else []
  | .gap => if startsAttributeName c then [.attributeName] else []
  | .attributeName =>
    if isAttributeNameChar c then [.attributeName] else if c == '=' then [.equals] else []
  | .beforeEquals => if c == '=' then [.equals] else []
  | .equals =>
    if c == '"' || c == '\'' then [.quotedValue c] else if isBareChar c then [.bareValue] else []
  | .bareValue => if isBareChar c then [.bareValue] else []
  | .quotedValue quote => if c == quote then [.closingQuote] else [.quotedValue quote]
  | .closingQuote | .slash => []

/-- Where a blank behind a place can stand besides. -/
def acrossBlank (place : Place) : List Place :=
  (if place.isComplete then [.gap] else []) ++
    match place with
    | .attributeName | .beforeEquals => [.beforeEquals]
    | .equals => [.equals]
    | _ => []

/-- Where a character behind a place can stand. -/
def next (c : Char) (place : Place) : List Place :=
  place.within c ++ (if isBlank c then place.acrossBlank else []) ++
    if c == '/' && place.isComplete then [.slash] else []

def isQuoted : Place → Bool
  | .quotedValue _ => true
  | _ => false

end Place

/-- What stands after the closing bracket of a tag, if what has been read can stand at the
places. -/
def after? (places : List Place) : Text → Option Text
  | [] => none
  | c :: rest =>
    if c == '>' && !places.any Place.isQuoted then
      if places.any Place.maySeal then some rest else none
    else if places.isEmpty then none
    else after? (places.flatMap (Place.next c)).eraseDups rest

end OpenTag

/-- What stands after the opening tag at the head of a text. -/
def afterOpenTag? : Text → Option Text
  | '<' :: c :: rest => if Html.isLetter c then OpenTag.after? [.name] rest else none
  | _ => none

end CypherPages.Markdown
