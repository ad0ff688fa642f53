import CypherPages.Build.CodeBlock
import CypherPages.Document.Basic

/-! # Code block elements

A code block element of a document is an object tagged `CodeBlock` whose content is a pair: a
triple of identifier, classes and attributes, and the text. Wherever a sequence is expected, a
string counts as the sequence of its characters and an object as the sequence of its names. -/

namespace CypherPages

namespace Json

/-- The integer that a boolean or an integer counts as. -/
def whole? : Json → Option Int
  | .bool b => some (if b then 1 else 0)
  | .int n => some n
  | _ => none

/-- Whether two values are the same attribute name. Numbers are compared as numbers, and a
boolean counts as one; what is not a number is the same as itself. Lists and objects are no
names. -/
def sameName : Json → Json → Bool
  | .null, .null => true
  | .string s, .string t => s == t
  | .float x, .float y => x.sameValue y || (x == .nan && y == .nan)
  | .float x, value => value.whole?.isSome && x.toInt? == value.whole?
  | value, .float x => value.whole?.isSome && x.toInt? == value.whole?
  | a, b => a.whole?.isSome && a.whole? == b.whole?

def canBeName : Json → Bool
  | .array _ | .object _ => false
  | _ => true

def sequence? : Json → Option (List Json)
  | .array items => some items
  | .string s => some (s.map fun c => .string [c])
  | .object fields => some (fields.map fun field => .string field.1)
  | _ => none

instance : BlockValue Json where
  beq := sameName
  ofText := .string

end Json

/-- What can be wrong with a code block element. -/
inductive ElementFault
  | noContent
  /-- A sequence has too few members or too many. -/
  | wrongCount
  /-- A value is no sequence, or cannot be an attribute name. -/
  | wrongKind
  | textNotString
  deriving DecidableEq

/-- A code block element: all of a code block, its text as it stands. -/
structure CodeElement where
  identifier : Json
  classes : List Json
  attributes : Entries Json Json
  text : Json

namespace CodeElement

def tag : Text := "CodeBlock".toList

def tagField : Text := "t".toList

def contentField : Text := "c".toList

def isTagged (fields : List (Text × Json)) : Bool :=
  match fields.lookup tagField with
  | some (.string s) => s == tag
  | _ => false

def members (value : Json) : Except ElementFault (List Json) :=
  match value.sequence? with
  | some items => .ok items
  | none => .error .wrongKind

def pair (value : Json) : Except ElementFault (Json × Json) :=
  match members value with
  | .ok [a, b] => .ok (a, b)
  | .ok _ => .error .wrongCount
  | .error fault => .error fault

def triple (value : Json) : Except ElementFault (Json × Json × Json) :=
  match members value with
  | .ok [a, b, c] => .ok (a, b, c)
  | .ok _ => .error .wrongCount
  | .error fault => .error fault

/-- An attribute: a name with a value. -/
def nameAndValue (value : Json) : Except ElementFault (Json × Json) :=
  match pair value with
  | .ok (name, value) => if name.canBeName then .ok (name, value) else .error .wrongKind
  | .error fault => .error fault

def ofContent (content : Json) : Except ElementFault CodeElement := do
  let (header, text) ← pair content
  let (identifier, classes, attributes) ← triple header
  let classes ← members classes
  let attributes ← (← members attributes).mapM nameAndValue
  return ⟨identifier, classes, .ofPairs attributes, text⟩

def ofFields (fields : List (Text × Json)) : Except ElementFault CodeElement :=
  match fields.lookup contentField with
  | some content => ofContent content
  | none => .error .noContent

end CodeElement

def CodeBlock.toElement (block : CodeBlock Json) : Json :=
  .object [(CodeElement.tagField, .string CodeElement.tag),
    (CodeElement.contentField, .array [
      .array [block.identifier, .array block.classes,
        .array (block.attributes.map fun (name, value) => .array [name, value])],
      .string block.text])]

end CypherPages
