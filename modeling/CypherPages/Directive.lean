import CypherPages.Text.Blank
import CypherPages.Entries

/-! # Directive lines

A query block may carry directives: comment lines of the form `//| key: value`, placed
anywhere in it. `Directive.ofLine?` reads one line; `scan` divides a block's source into its
code and its directives. -/

namespace CypherPages

/-- One directive: a key that is not empty, and its value. -/
structure Directive where
  key : Text
  value : Text
  deriving DecidableEq

namespace Directive

/-- What a directive line starts with, after blanks. -/
def marker : Text := "//|".toList

/-- The directive that a line states, if it states one. The key ends at the first colon, so
a value may hold further colons; a line without a colon or without a key is code. -/
def ofLine? (line : Text) : Option Directive :=
  match marker.isPrefixOf? line.trimLeft with
  | none => none
  | some body =>
    match body.dropWhile (· ≠ ':') with
    | [] => none
    | _ :: value =>
      let key := Text.trim (body.takeWhile (· ≠ ':'))
      if key.isEmpty then none else some ⟨key, Text.trim value⟩

/-- The lines of a block's source. A line feed at the very end ends the last line and opens
no further one. -/
def sourceLines (source : Text) : List Text :=
  if source.getLast? = some '\n' then source.lines.dropLast else source.lines

/-- The source of a block without its directive lines. -/
def residualCode (source : Text) : Text :=
  Text.unlines ((sourceLines source).filter fun line => (ofLine? line).isNone)

/-- The directives of a block's source, in order of lines. -/
def all (source : Text) : List Directive := (sourceLines source).filterMap ofLine?

def byKey (source : Text) : Entries Text Text :=
  Entries.ofPairs ((all source).map fun d => (d.key, d.value))

/-- A block's source divided into residual code and directives. -/
def scan (source : Text) : Text × Entries Text Text := (residualCode source, byKey source)

end Directive

def stripLeadingBlankLines (code : Text) : Text :=
  Text.unlines (code.lines.dropWhile Text.isBlankText)

end CypherPages
