import CypherPages.Number.Hexadecimal
import CypherPages.Text.Printable

/-! # Quoted text

A text between quotes on one line. Single quotes are used, unless the text holds single quotes
and no double ones. Backslashes, the quote in use and characters that cannot be shown are
escaped. -/

namespace CypherPages.Text

/-- A character by its code point, in the shortest of three forms. -/
def codePointEscape (c : Char) : Text :=
  let n := c.toNat
  if n < 0x100 then '\\' :: 'x' :: Hexadecimal.toDigits 2 n
  else if n < 0x10000 then '\\' :: 'u' :: Hexadecimal.toDigits 4 n
  else '\\' :: 'U' :: Hexadecimal.toDigits 8 n

/-- A character as it stands between quotes of a kind. -/
def quotedChar (quote c : Char) : Text :=
  match c with
  | '\n' => ['\\', 'n']
  | '\r' => ['\\', 'r']
  | '\t' => ['\\', 't']
  | c =>
    if c = '\\' || c = quote then ['\\', c]
    else if isPrintable c then [c]
    else codePointEscape c

/-- The quote that a text is put between. -/
def quoteFor (t : Text) : Char := if t.contains '\'' && !t.contains '"' then '"' else '\''

def quoted (t : Text) : Text :=
  quoteFor t :: t.flatMap (quotedChar (quoteFor t)) ++ [quoteFor t]

end CypherPages.Text
