import CypherPages.Number.Hexadecimal
import CypherPages.Text.LabelTable
import CypherPages.Text.Lower
import CypherPages.Text.Punycode
import CypherPages.Text.Quoted
import CypherPages.Text.ScriptTable

/-! # Domain names

A domain name is a sequence of labels. A label may be written in any script, subject to rules on
its characters and their order, and has a form in ASCII letters, digits and hyphens under which
it is looked up. -/

namespace CypherPages.DomainName

/-- Why a text is no domain name. -/
inductive Problem
  | tooLong
  | empty
  | emptyLabel
  | longLabel
  /-- A letter and a mark stand where one character would do. -/
  | notComposed
  /-- The third and the fourth character are hyphens. -/
  | innerHyphens
  /-- A hyphen stands at an end. -/
  | outerHyphen
  /-- A mark stands in front. -/
  | leadingMark
  /-- A character that stands in no label. -/
  | character (c : Char) (position : Nat) (label : Text)
  /-- A joiner where nothing can be joined. -/
  | joiner (c : Char) (position : Nat) (label : Text)
  /-- A character that its neighbours do not go with. -/
  | context (c : Char) (position : Nat) (label : Text)
  /-- A label from right to left starts with a character that has no direction. -/
  | firstDirection (label : Text)
  /-- A character of the other direction. -/
  | direction (position : Nat) (rightToLeft : Bool)
  | mixedDigits
  | lastDirection
  /-- Nothing stands behind the mark of a label in ASCII. -/
  | nothingEncoded
  /-- A hyphen stands at the end of a label in ASCII. -/
  | encodedHyphen
  /-- A label in ASCII stands for no other. -/
  | undecodable
  deriving DecidableEq

def codePoint (c : Char) : Text :=
  "U+".toList ++ (Hexadecimal.toDigits 4 c.toNat).map Char.toUpper

/-- Where a character stands in a label. -/
def placed (position : Nat) (link : String) (label : Text) : Text :=
  " at position ".toList ++ Text.decimal position ++ link.toList ++ label.quoted

def Problem.message : Problem → Text
  | .tooLong => "Domain too long".toList
  | .empty => "Empty domain".toList
  | .emptyLabel => "Empty Label".toList
  | .longLabel => "Label too long".toList
  | .notComposed => "Label must be in Normalization Form C".toList
  | .innerHyphens => "Label has disallowed hyphens in 3rd and 4th position".toList
  | .outerHyphen => "Label must not start or end with a hyphen".toList
  | .leadingMark => "Label begins with an illegal combining character".toList
  | .character c position label =>
    "Codepoint ".toList ++ codePoint c ++ placed position " of " label ++ " not allowed".toList
  | .joiner c position label =>
    "Unknown codepoint adjacent to joiner ".toList ++ codePoint c ++ placed position " in " label
  | .context c position label =>
    "Codepoint ".toList ++ codePoint c ++ " not allowed".toList ++ placed position " in " label
  | .firstDirection label =>
    "First codepoint in label ".toList ++ label.quoted ++
      " must be directionality L, R or AL".toList
  | .direction position rightToLeft =>
    "Invalid direction for codepoint at position ".toList ++ Text.decimal position ++
      (if rightToLeft then " in a right-to-left label" else " in a left-to-right label").toList
  | .mixedDigits => "Can not mix numeral types in a right-to-left label".toList
  | .lastDirection => "Label ends with illegal codepoint directionality".toList
  | .nothingEncoded => "Malformed A-label, no Punycode eligible content found".toList
  | .encodedHyphen => "A-label must not end with a hyphen".toList
  | .undecodable => "Invalid A-label".toList

/-- What is asked of a text: nothing, or a problem. -/
abbrev Check := Except Problem Unit

/-- A problem, if a condition holds. -/
def refuse (problem : Problem) (condition : Bool) : Check :=
  if condition then .error problem else .ok ()

/-! ### Characters and their neighbours -/

/-- Whether the nearest character that is no mark joins, as `joins` tells. -/
def joinsAcrossMarks (joins : Char → Bool) (t : Text) : Bool :=
  (t.find? fun c => !MarkTable.isMark c).any joins

/-- Whether a joiner can stand between the text before it, nearest character first, and the text
after it. -/
def mayJoin (before : Text) (c : Char) (after : Text) : Bool :=
  before.head?.any MarkTable.isVirama ||
    (c == '\u200c' && joinsAcrossMarks ScriptTable.joinsForth before &&
      joinsAcrossMarks ScriptTable.joinsBack after)

/-- Whether a character is a digit of the script whose digits start at a code point. -/
def isDigitFrom (first : Nat) (c : Char) : Bool := first ≤ c.toNat && c.toNat ≤ first + 9

/-- Whether a character is one that some neighbours go with, and whether the text before it,
nearest character first, and the text after it are such. -/
def context? (before : Text) (c : Char) (after : Text) : Option Bool :=
  let around := before ++ after
  if c == '\u00b7' then some (before.head? == some 'l' && after.head? == some 'l')
  else if c == '\u0375' then
    some (after.head?.any (ScriptTable.within ScriptTable.greekRanges))
  else if c == '\u05f3' || c == '\u05f4' then
    some (before.head?.any (ScriptTable.within ScriptTable.hebrewRanges))
  else if c == '\u30fb' then
    some (around.any (ScriptTable.within ScriptTable.ideographicRanges))
  else if isDigitFrom 0x660 c then some (!around.any (isDigitFrom 0x6f0))
  else if isDigitFrom 0x6f0 c then some (!around.any (isDigitFrom 0x660))
  else none

def checkCharacter (label before : Text) (c : Char) (after : Text) : Check :=
  let position := before.length + 1
  if LabelTable.covers c then .ok ()
  else if c == '\u200c' || c == '\u200d' then
    refuse (.joiner c position label) !mayJoin before c after
  else
    match context? before c after with
    | some fits => refuse (.context c position label) !fits
    | none => .error (.character c position label)

/-- Check the characters of a label behind the first ones, nearest character first. -/
def checkCharacters (label before : Text) : Text → Check
  | [] => .ok ()
  | c :: rest => do
    checkCharacter label before c rest
    checkCharacters label (c :: before) rest

/-! ### Directions -/

/-- Check the directions of a label from a position on. `ends` says that the label may end there,
and `digits` is the direction of the digits before. -/
def checkDirections (rightToLeft : Bool) (position : Nat) (ends : Bool)
    (digits : Option ScriptTable.Direction) : List ScriptTable.Direction → Check
  | [] => refuse .lastDirection !ends
  | direction :: rest => do
    let isDigit := direction == .arabicDigit || direction == .commonDigit
    let isForeign :=
      if rightToLeft then direction == .leftToRight
      else direction == .rightToLeft || direction == .arabicDigit
    refuse (.direction position rightToLeft) isForeign
    refuse .mixedDigits (rightToLeft && isDigit && digits.any (· != direction))
    let ends := (ends && direction == .mark) || (direction != .mark && direction != .neutral)
    checkDirections rightToLeft (position + 1) ends (if isDigit then some direction else digits)
      rest

/-- Check the directions of a label, if part of it goes from right to left. -/
def checkDirection (label : Text) : Check :=
  let directions := label.map ScriptTable.direction
  if directions.any fun d => d == .rightToLeft || d == .arabicDigit then
    match directions.head? with
    | some .rightToLeft => checkDirections true 1 false none directions
    | some .leftToRight => checkDirections false 1 false none directions
    | _ => .error (.firstDirection label)
  else .ok ()

/-! ### Labels -/

/-- Whether two neighbours in a text have a form as one character. -/
def isDecomposed : Text → Bool
  | c :: d :: rest => MarkTable.composes c d || isDecomposed (d :: rest)
  | _ => false

/-- Check a label in its own script. -/
def checkLabel (label : Text) : Check := do
  refuse .emptyLabel label.isEmpty
  refuse .notComposed (isDecomposed label)
  refuse .innerHyphens ((label.drop 2).take 2 == ['-', '-'])
  refuse .outerHyphen (label.head? == some '-' || label.getLast? == some '-')
  refuse .leadingMark (label.head?.any MarkTable.isMark)
  checkCharacters label [] label
  checkDirection label

/-- Check a label in ASCII; one that stands for another is decoded for that. -/
def checkAscii (label : Text) : Check :=
  let lower := label.map Char.toLower
  match Punycode.labelMark.isPrefixOf? lower with
  | none => checkLabel lower
  | some coded => do
    refuse .nothingEncoded coded.isEmpty
    refuse .encodedHyphen (coded.getLast? == some '-')
    match Punycode.decode? coded with
    | some decoded => checkLabel decoded
    | none => .error .undecodable

/-- How many characters a label in ASCII may have. -/
def maxLabelLength : Nat := 63

/-- How many characters a domain name may have, besides a full stop at its end. -/
def maxLength : Nat := 253

def asciiLabel (label : Text) : Except Problem Text := do
  let ascii ←
    if label.all Text.isAscii then do
      checkAscii label
      pure label
    else do
      checkLabel label
      pure (Punycode.labelMark ++ Punycode.encode label)
  refuse .longLabel (maxLabelLength < ascii.length)
  pure ascii

/-- The labels of a name without the empty one behind a full stop at its end, and whether there
is one. -/
def labels (name : Text) : Except Problem (List Text × Bool) := do
  refuse .tooLong (maxLength + 1 < name.length)
  refuse .empty name.isEmpty
  let labels := name.splitOnP Punycode.isLabelSeparator
  let dotted := labels.getLast? == some []
  pure (if dotted then labels.dropLast else labels, dotted)

def encode (name : Text) : Except Problem Text := do
  let (parts, dotted) ← labels name
  let encoded ← parts.mapM asciiLabel
  let joined : Text := ['.'].intercalate encoded
  refuse .tooLong (maxLength < joined.length)
  pure (if dotted then joined ++ ['.'] else joined)

def check (name : Text) : Check := do
  let (parts, _) ← labels name
  parts.forM checkAscii

end CypherPages.DomainName
