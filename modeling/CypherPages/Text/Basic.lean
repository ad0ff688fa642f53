/-! # Texts

A text is a list of characters: a position in a text counts characters, and a law about
texts is a law about lists. `lines` and `unlines` cut a text at line feeds and put it
together again; no other character ends a line. -/

namespace CypherPages

/-- A text, as the sequence of its characters. -/
abbrev Text := List Char

namespace Text

/-- The pieces of a text between line feeds; there is always at least one piece. -/
def lines (t : Text) : List Text := t.splitOn '\n'

/-- Pieces written one after the other with a line feed between neighbours. -/
def unlines (pieces : List Text) : Text := ['\n'].intercalate pieces

/-- The decimal numeral of a number. -/
def decimal (n : Nat) : Text := Nat.toDigits 10 n

/-- The decimal numeral of an integer, with a minus sign when it is negative. -/
def signedDecimal (n : Int) : Text :=
  if n < 0 then '-' :: decimal n.natAbs else decimal n.natAbs

def isAscii (c : Char) : Bool := c.toNat < 0x80

/-- A text without the characters of a class that it ends with. -/
def dropEndWhile (p : Char → Bool) (t : Text) : Text := (t.reverse.dropWhile p).reverse

/-- What stands before and after the first occurrence of `pattern`. -/
def cutAt? (pattern : Text) : Text → Option (Text × Text)
  | [] => if pattern.isEmpty then some ([], []) else none
  | c :: rest =>
    match pattern.isPrefixOf? (c :: rest) with
    | some after => some ([], after)
    | none => (cutAt? pattern rest).map fun (before, after) => (c :: before, after)

/-- Every carriage return becomes a line feed, one with a line feed after it together with
that line feed. -/
def normalizeNewlines : Text → Text
  | [] => []
  | '\r' :: '\n' :: rest => '\n' :: normalizeNewlines rest
  | '\r' :: rest => '\n' :: normalizeNewlines rest
  | c :: rest => c :: normalizeNewlines rest

end Text

end CypherPages
