import CypherPages.Html.NamedReference
import CypherPages.Number.Numeral

/-! # Character references

Decoding of character references in text and attribute values. A semicolon may be missing
after a number and after the older names; of a name that is not known the longest known
beginning is decoded. -/

namespace CypherPages.Html

/-- The characters for the code points 80 to 9f, which stand for those of an older code page. -/
def codePageNumbers : List Nat := [
  0x20ac, 0x81, 0x201a, 0x192, 0x201e, 0x2026, 0x2020, 0x2021, 0x2c6, 0x2030, 0x160, 0x2039,
  0x152, 0x8d, 0x17d, 0x8f, 0x90, 0x2018, 0x2019, 0x201c, 0x201d, 0x2022, 0x2013, 0x2014,
  0x2dc, 0x2122, 0x161, 0x203a, 0x153, 0x9d, 0x17e, 0x178]

/-- Whether a code point is a control or a noncharacter, which a reference cannot produce. -/
def isForbiddenNumber (n : Nat) : Bool :=
  (0x1 ≤ n && n ≤ 0x8) || n == 0xb || (0xe ≤ n && n ≤ 0x1f) || (0x7f ≤ n && n ≤ 0x9f) ||
    (0xfdd0 ≤ n && n ≤ 0xfdef) || n % 0x10000 == 0xfffe || n % 0x10000 == 0xffff

/-- What a numeric reference stands for. -/
def ofNumber (n : Nat) : Text :=
  if n = 0 then ['\ufffd']
  else if 0x80 ≤ n && n ≤ 0x9f then
    (codePageNumbers[n - 0x80]?.map fun m => Char.ofNat m).toList
  else if (0xd800 ≤ n && n ≤ 0xdfff) || 0x10ffff < n then ['\ufffd']
  else if isForbiddenNumber n then []
  else [Char.ofNat n]

/-- The references that escaping writes. -/
def essentialReferences : List (Text × Text) := [
  ("amp".toList, ['&']), ("lt".toList, ['<']), ("gt".toList, ['>']), ("quot".toList, ['"'])]

/-- What a name stands for; `closed` says that a semicolon follows it. -/
def named? (name : Text) (closed : Bool) : Option Text :=
  match essentialReferences.lookup name with
  | some characters => some characters
  | none =>
    (NamedReference.all.find? fun r => r.name == name && (closed || r.bare)).map
      fun r => r.characters

/-- The longest beginning of `name`, of at most `length` and at least two characters, that is
known without a semicolon, decoded and followed by the rest of the name. -/
def decodeBeginning? (name : Text) : Nat → Option Text
  | 0 | 1 => none
  | length + 2 =>
    match named? (name.take (length + 2)) false with
    | some characters => some (characters ++ name.drop (length + 2))
    | none => decodeBeginning? name (length + 1)

def isNameChar (c : Char) : Bool :=
  !(c == '\t' || c == '\n' || c == '\x0c' || c == ' ' || c == '<' || c == '&' || c == '#' ||
    c == ';')

/-- What a reference by name stands for, the ampersand included. -/
def decodeName (name : Text) (closed : Bool) : Text :=
  let written := if closed then name ++ [';'] else name
  match named? name closed with
  | some characters => characters
  | none =>
    let longest := if closed then name.length else name.length - 1
    (decodeBeginning? written longest).getD ('&' :: written)

def atSemicolon (t : Text) : Bool := t.head? == some ';'

/-- The number of characters of a spelling with the semicolon after it, if there is one. -/
def closedLength (length : Nat) (t : Text) : Nat :=
  if atSemicolon (t.drop length) then length + 1 else length

/-- The reference that the text after an ampersand spells: what it stands for, and the number
of characters that it takes. -/
def reference? (t : Text) : Option (Text × Nat) :=
  match t with
  | '#' :: x :: rest =>
    let digits := (x :: rest).takeWhile Numeral.isDigit
    let hexDigits := rest.takeWhile Hexadecimal.isDigit
    if !digits.isEmpty then
      some (ofNumber (Numeral.ofDigits digits), closedLength (digits.length + 1) t)
    else if (x == 'x' || x == 'X') && !hexDigits.isEmpty then
      some (ofNumber (Hexadecimal.ofDigits hexDigits), closedLength (hexDigits.length + 2) t)
    else none
  | t =>
    let name := (t.take 32).takeWhile isNameChar
    if name.isEmpty then none
    else some (decodeName name (atSemicolon (t.drop name.length)), closedLength name.length t)

/-- A text with every character reference decoded. -/
def unescape : Text → Text
  | [] => []
  | '&' :: rest =>
    match reference? rest with
    | some (characters, length) => characters ++ unescape (rest.drop length)
    | none => '&' :: unescape rest
  | c :: rest => c :: unescape rest
  termination_by t => t.length
  decreasing_by all_goals simp only [List.length_drop, List.length_cons]; omega

end CypherPages.Html
