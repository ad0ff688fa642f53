import CypherPages.Entries
import CypherPages.Text.Blank

/-! # Environment files

An environment file states variables, one to a line as `NAME=value`. A line may start with
`export`, a value may be quoted, comments start with a hash sign, and a value may refer to
other variables. A line that is none of this is passed over. -/

namespace CypherPages.EnvFile

/-- A variable that a file states; without an equals sign it has no value. -/
structure Binding where
  name : Text
  value : Option Text
  deriving DecidableEq

/-- Whether a character is a blank within a line. -/
def isInlineBlank (c : Char) : Bool := isBlank c && c != '\n' && c != '\r'

def isLineEnd (c : Char) : Bool := c == '\n' || c == '\r'

def isNameChar (c : Char) : Bool := !(isBlank c || c == '=' || c == '#')

/-- A text without an `export` and the blanks after it. -/
def skipExport (t : Text) : Text :=
  match "export".toList.isPrefixOf? t with
  | some (c :: rest) => if isInlineBlank c then rest.dropWhile isInlineBlank else t
  | _ => t

/-- The content of a quoted value, up to the first quote that no backslash stands before, and the
text after it. A backslash takes the character behind it along, be it a backslash. -/
def quoted? (quote : Char) : Text → Option (Text × Text)
  | [] => none
  | '\\' :: c :: rest =>
    (quoted? quote rest).map fun (content, after) => ('\\' :: c :: content, after)
  | c :: rest =>
    if c = quote then some ([], rest)
    else (quoted? quote rest).map fun (content, after) => (c :: content, after)

/-- The character for a letter after a backslash in double quotes. -/
def doubleEscape? : Char → Option Char
  | '\\' => some '\\'
  | '\'' => some '\''
  | '"' => some '"'
  | 'a' => some '\x07'
  | 'b' => some '\x08'
  | 'f' => some '\x0c'
  | 'n' => some '\n'
  | 'r' => some '\r'
  | 't' => some '\t'
  | 'v' => some '\x0b'
  | _ => none

/-- The character for a letter after a backslash in single quotes. -/
def singleEscape? : Char → Option Char
  | '\\' => some '\\'
  | '\'' => some '\''
  | _ => none

/-- A quoted content with its escapes replaced. -/
def decodeEscapes (escape? : Char → Option Char) : Text → Text
  | '\\' :: c :: rest =>
    match escape? c with
    | some d => d :: decodeEscapes escape? rest
    | none => '\\' :: decodeEscapes escape? (c :: rest)
  | c :: rest => c :: decodeEscapes escape? rest
  | [] => []

/-- A value without the comment that blanks and a hash sign start. -/
def dropComment : Text → Text
  | [] => []
  | c :: rest =>
    if isBlank c && ((c :: rest).dropWhile isBlank).head? == some '#' then []
    else c :: dropComment rest

/-- The value behind an equals sign and the text after it. Blanks before the value are not part of
it; before a hash sign they start a comment. -/
def value? (t : Text) : Option (Text × Text) :=
  match t.dropWhile isInlineBlank with
  | '\'' :: rest =>
    (quoted? '\'' rest).map fun (content, after) => (decodeEscapes singleEscape? content, after)
  | '"' :: rest =>
    (quoted? '"' rest).map fun (content, after) => (decodeEscapes doubleEscape? content, after)
  | start =>
    let line : Text := t.takeWhile fun c => !isLineEnd c
    let value := (dropComment line).dropWhile isInlineBlank
    some (Text.trimRight value, start.dropWhile fun c => !isLineEnd c)

/-- The name at the head of a text, none at a comment, and the text after it. -/
def name? (t : Text) : Option (Option Text × Text) :=
  match t with
  | '#' :: _ => some (none, t)
  | '\'' :: rest =>
    let name := rest.takeWhile (· ≠ '\'')
    match rest.drop name.length with
    | _ :: after => if name.isEmpty then none else some (some name, after)
    | [] => none
  | t =>
    let name := t.takeWhile isNameChar
    if name.isEmpty then none else some (some name, t.drop name.length)

/-- The text after a comment and the end of its line; nothing when something else follows. -/
def endOfLine? (t : Text) : Option Text :=
  let atComment := t.dropWhile isInlineBlank
  let afterComment := match atComment with
    | '#' :: rest => rest.dropWhile fun c => !isLineEnd c
    | _ => atComment
  match afterComment with
  | [] => some []
  | '\r' :: '\n' :: rest => some rest
  | c :: rest => if isLineEnd c then some rest else none

/-- What a statement that starts a text says and the text after it, or else the text where it
stops to be one. -/
def statement (t : Text) : Except Text (Option Binding × Text) :=
  let start := skipExport t
  match name? start with
  | none => .error start
  | some (name, afterName) =>
    let atSign := afterName.dropWhile isInlineBlank
    let valued : Option (Option Text × Text) := match atSign with
      | '=' :: rest => (value? rest).map fun (v, after) => (some v, after)
      | _ => some (none, atSign)
    match valued with
    | none => match atSign with
      | '=' :: rest => .error (rest.dropWhile isInlineBlank)
      | _ => .error atSign
    | some (value, afterValue) =>
      match endOfLine? afterValue with
      | none => .error afterValue
      | some rest => .ok (name.map fun name => ⟨name, value⟩, rest)

/-- The bindings of a text, taking at most `fuel` statements; a text has no more statements
than characters. -/
def bindingsUpTo : Nat → Text → List Binding
  | 0, _ => []
  | fuel + 1, t =>
    match t.trimLeft with
    | [] => []
    | start =>
      match statement start with
      | .ok (binding, rest) => binding.toList ++ bindingsUpTo fuel rest
      | .error rest => bindingsUpTo fuel (rest.dropWhile fun c => !isLineEnd c)

/-- The bindings that a file states, in order. A byte order mark in front is not part of it. -/
def bindings : Text → List Binding
  | '\ufeff' :: rest => bindingsUpTo (rest.length + 1) rest
  | t => bindingsUpTo (t.length + 1) t

/-- A value with every `${name}` and `${name:-default}` replaced by the value that `lookup`
gives to the name, else by the default, else by nothing. -/
def interpolate (lookup : Text → Option Text) (t : Text) : Text :=
  match t with
  | [] => []
  | '$' :: '\x7b' :: rest =>
    let name := rest.takeWhile fun c => c != '\x7d' && c != ':'
    match rest.drop name.length with
    | '\x7d' :: _ =>
      (lookup name).getD [] ++ interpolate lookup (rest.drop (name.length + 1))
    | ':' :: '-' :: tail =>
      let fallback := tail.takeWhile (· ≠ '\x7d')
      if fallback.length < tail.length then
        (lookup name).getD fallback ++
          interpolate lookup (rest.drop (name.length + fallback.length + 3))
      else '$' :: interpolate lookup ('\x7b' :: rest)
    | _ => '$' :: interpolate lookup ('\x7b' :: rest)
  | c :: rest => c :: interpolate lookup rest
  termination_by t.length
  decreasing_by all_goals simp only [List.length_drop, List.length_cons]; omega

/-- The variables that bindings define. A value may refer to variables defined before it and
to those of the environment. -/
def resolve (environment : List (Text × Text)) (stated : List Binding) :
    Entries Text (Option Text) :=
  stated.foldl (fun defined binding =>
    let lookup := fun name =>
      match Entries.get? name defined with
      | some value => some (value.getD [])
      | none => (Entries.ofPairs environment).get? name
    defined.set binding.name (binding.value.map (interpolate lookup))) []

end CypherPages.EnvFile
