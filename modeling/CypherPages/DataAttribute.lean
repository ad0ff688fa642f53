import CypherPages.Text.Lower

/-! # Data attributes

A published block carries its options as attributes named `data-ladybug-` and a slug of the
option's key. -/

namespace CypherPages.DataAttribute

def isSlugChar (c : Char) : Bool :=
  ('a' ≤ c && c ≤ 'z') || ('0' ≤ c && c ≤ '9') || c == '_' || c == '-'

/-- Every longest run of characters that may not stand in a slug becomes one hyphen.
`inRun` says that the run before this text is already written. -/
def hyphenate (inRun : Bool) : Text → Text
  | [] => []
  | c :: rest =>
    if isSlugChar c then c :: hyphenate false rest
    else if inRun then hyphenate true rest
    else '-' :: hyphenate true rest

/-- The slug of an option's key: lower case, unsafe runs hyphenated, no hyphen at either
end. -/
def slug (key : Text) : Text :=
  Text.dropEndWhile (· == '-') ((hyphenate false key.lower).dropWhile (· == '-'))

/-- What every data attribute's name starts with. -/
def stem : Text := "data-ladybug-".toList

/-- The name of the attribute for an option's key, unless nothing is left of the key. -/
def name? (key : Text) : Option Text :=
  match slug key with
  | [] => none
  | s => some (stem ++ s)

def id : Text := "data-ladybug-id".toList

def endpoint : Text := "data-ladybug-endpoint".toList

end CypherPages.DataAttribute
