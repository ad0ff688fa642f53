import CypherPages.Text.Basic

/-! # Markup tokens

Markup is a sequence of tokens. A token is its exact lexeme together with what it tells a
reader, so the lexemes of a page put one after the other are the page. -/

namespace CypherPages.Html

/-- What a token tells a reader. -/
inductive Event
  /-- Text, with its character references decoded where they count. -/
  | text (decoded : Text)
  /-- A start tag. An attribute without a value has none; `selfClosing` says that the tag is its
  own end tag as well. -/
  | startTag (name : Text) (attributes : List (Text × Option Text)) (selfClosing : Bool)
  | endTag (name : Text)
  /-- A comment, a declaration or anything else that a reader passes over. -/
  | skipped
  deriving DecidableEq

/-- A lexeme with what it tells a reader. -/
structure Token where
  lexeme : Text
  event : Event

/-- The elements whose content is raw text: neither tags nor references count in it. -/
def isRawElement (name : Text) : Bool := name == "script".toList || name == "style".toList

/-- The raw element that is open after an event, given the one that was open before it. -/
def rawAfter (openElement : Option Text) : Event → Option Text
  | .startTag name _ false => if isRawElement name then some name else none
  | .endTag _ => none
  | _ => openElement

/-- Why a page cannot be divided into tokens. -/
inductive Refusal
  /-- A marked section whose keyword is missing or not known. -/
  | markedSection
  deriving DecidableEq

end CypherPages.Html
