import CypherPages.Html.Tag
import CypherPages.Text.Punctuation

/-! # Escapes in Markdown

A backslash before a punctuation character of ASCII stands for that character, and character
references stand for characters. A reference needs its semicolon, and a numeric one has to
name a character that may occur in a text. -/

namespace CypherPages.Markdown

/-- Whether a number is the code point of a character that a reference may name. -/
def isReferable (n : Nat) : Bool :=
  !((0xd800 ≤ n && n ≤ 0xdfff) || (0xfdd0 ≤ n && n ≤ 0xfdef) || n % 0x10000 == 0xfffe ||
    n % 0x10000 == 0xffff || n ≤ 0x8 || n == 0xb || (0xe ≤ n && n ≤ 0x1f) ||
    (0x7f ≤ n && n ≤ 0x9f) || 0x10ffff < n)

def isAlphanumeric (c : Char) : Bool :=
  ('a' ≤ c && c ≤ 'z') || ('A' ≤ c && c ≤ 'Z') || Numeral.isDigit c

/-- The number that the text between `&#` and the semicolon denotes, if it has at most
`decimals` digits, or at most `hexadecimals` after an `x`. -/
def referenceNumber? (decimals hexadecimals : Nat) (name : Text) : Option Nat :=
  let decimal := !name.isEmpty && name.length ≤ decimals && name.all Numeral.isDigit
  match name with
  | x :: digits =>
    if decimal then some (Numeral.ofDigits name)
    else if (x == 'x' || x == 'X') && !digits.isEmpty && digits.length ≤ hexadecimals &&
        digits.all Hexadecimal.isDigit then
      some (Hexadecimal.ofDigits digits)
    else none
  | [] => none

/-- The text between the start of a reference and its semicolon. -/
def referenceName? (t : Text) : Option Text :=
  let name := t.takeWhile isAlphanumeric
  if (t.drop name.length).head? = some ';' then some name else none

/-- What a name of two to 32 characters with a semicolon stands for. -/
def namedReference? (name : Text) : Option Text :=
  if name.head?.any Html.isLetter && 2 ≤ name.length && name.length ≤ 32 then
    Html.named? name true
  else none

/-- The reference behind an ampersand in running text: what it stands for, and the number of
characters that it takes. A number that names no character stands for the replacement
character. -/
def runningReference? : Text → Option (Text × Nat)
  | '#' :: rest =>
    match referenceName? rest with
    | none => none
    | some name =>
      (referenceNumber? 7 6 name).map fun n =>
        ([if isReferable n then Char.ofNat n else '\ufffd'], name.length + 2)
  | t =>
    match referenceName? t with
    | none => none
    | some name => (namedReference? name).map fun characters => (characters, name.length + 1)

/-- The reference behind an ampersand in an attribute of an element: what it stands for, and
the number of characters that it takes. A number that names no character is no reference. -/
def attributeReference? : Text → Option (Text × Nat)
  | '#' :: rest =>
    match referenceName? rest with
    | none => none
    | some name =>
      match referenceNumber? 8 8 name with
      | none => none
      | some n => if isReferable n then some ([Char.ofNat n], name.length + 2) else none
  | t =>
    match referenceName? t with
    | none => none
    | some name => (namedReference? name).map fun characters => (characters, name.length + 1)

/-- A text with its backslash escapes and its references decoded. -/
def unescape : Text → Text
  | [] => []
  | '\\' :: c :: rest =>
    if isAsciiPunctuation c then c :: unescape rest else '\\' :: unescape (c :: rest)
  | '&' :: rest =>
    match attributeReference? rest with
    | some (characters, length) => characters ++ unescape (rest.drop length)
    | none => '&' :: unescape rest
  | c :: rest => c :: unescape rest
  termination_by t => t.length
  decreasing_by all_goals simp only [List.length_drop, List.length_cons]; omega

end CypherPages.Markdown
