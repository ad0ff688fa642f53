import CypherPages.Text.Encoding

/-! # Percent escapes

A character that may not stand for itself in an address is written as the octets of its UTF-8
form, each in two hexadecimal digits behind a percent sign. -/

namespace CypherPages.Percent

/-- The escape of an octet. -/
def octet (n : Nat) : Text := '%' :: (Hexadecimal.toDigits 2 n).map Char.toUpper

/-- The escape of a character. -/
def character (c : Char) : Text := (Encoding.utf8 [c]).flatMap fun b => octet b.toNat

/-- A text in which every character that is not plain is escaped. Escapes that are there already
stay. -/
def encode (isPlain : Char → Bool) : Text → Text
  | [] => []
  | '%' :: a :: b :: rest =>
    if Hexadecimal.isDigit a && Hexadecimal.isDigit b then '%' :: a :: b :: encode isPlain rest
    else (if isPlain '%' then ['%'] else character '%') ++ encode isPlain (a :: b :: rest)
  | c :: rest => (if isPlain c then [c] else character c) ++ encode isPlain rest

end CypherPages.Percent
