import CypherPages.Json.Value
import CypherPages.Number.Hexadecimal
import CypherPages.Number.Shortest

/-! # Writing JSON

A value as JSON text on one line. A `Style` fixes what stands between items and after names,
and whether the text is confined to ASCII. -/

namespace CypherPages.Json

structure Style where
  /-- What stands between items. -/
  comma : Text
  /-- What stands after the name of a field. -/
  colon : Text
  /-- Whether characters beyond the printable ASCII ones are escaped. -/
  ascii : Bool

/-- ASCII text with a space after every comma and colon. -/
def Style.spaced : Style := ⟨", ".toList, ": ".toList, true⟩

/-- Text without spaces, every printable character as it is. -/
def Style.compact : Style := ⟨",".toList, ":".toList, false⟩

/-- The escape of one sixteen-bit unit. -/
def unitEscape (n : Nat) : Text := '\\' :: 'u' :: Hexadecimal.toDigits 4 n

/-- The escape of a character by its one or two sixteen-bit units. -/
def codeEscape (c : Char) : Text :=
  let n := c.toNat
  if n < 0x10000 then unitEscape n
  else unitEscape (0xd800 + (n - 0x10000) / 0x400) ++ unitEscape (0xdc00 + (n - 0x10000) % 0x400)

/-- A character as it is written inside a string. -/
def escapeChar (ascii : Bool) (c : Char) : Text :=
  match c with
  | '"' => ['\\', '"']
  | '\\' => ['\\', '\\']
  | '\n' => ['\\', 'n']
  | '\r' => ['\\', 'r']
  | '\t' => ['\\', 't']
  | '\x0c' => ['\\', 'f']
  | '\x08' => ['\\', 'b']
  | c => if c.toNat < 0x20 || (ascii && 0x7e < c.toNat) then codeEscape c else [c]

def quote (ascii : Bool) (t : Text) : Text := '"' :: t.flatMap (escapeChar ascii) ++ ['"']

/-- Numbers are written in the shortest form that reads back; the special values have names. -/
def numberLayout : ShortestLayout := ⟨16, 3, "Infinity".toList, "NaN".toList⟩

mutual

/-- A value as text. Its integers have to be within the limit, as those of every value that was
read are: there is no text of a longer one. -/
def write (style : Style) : Json → Text
  | .null => "null".toList
  | .bool true => "true".toList
  | .bool false => "false".toList
  | .int n => Text.signedDecimal n
  | .float x => x.write numberLayout
  | .string s => quote style.ascii s
  | .array items => '[' :: writeItems style items ++ [']']
  | .object fields => '{' :: writeFields style fields ++ ['}']

def writeItems (style : Style) : List Json → Text
  | [] => []
  | [item] => write style item
  | item :: rest => write style item ++ style.comma ++ writeItems style rest

def writeFields (style : Style) : List (Text × Json) → Text
  | [] => []
  | [(name, value)] => quote style.ascii name ++ style.colon ++ write style value
  | (name, value) :: rest =>
    quote style.ascii name ++ style.colon ++ write style value ++ style.comma ++
      writeFields style rest

end

end CypherPages.Json
