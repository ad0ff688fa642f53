import CypherPages.Text.Basic

/-! # Blank characters

The white space of Unicode, and the wider class of blanks that also holds the four information
separators. Keys, values and class lists are trimmed and cut at blanks. -/

namespace CypherPages

/-- Whether a character has the Unicode property `White_Space`. -/
def isWhiteSpace (c : Char) : Bool :=
  let n := c.toNat
  (0x09 ≤ n && n ≤ 0x0d) || n == 0x20 || n == 0x85 || n == 0xa0 || n == 0x1680 ||
    (0x2000 ≤ n && n ≤ 0x200a) || n == 0x2028 || n == 0x2029 || n == 0x202f || n == 0x205f ||
    n == 0x3000

/-- Whether a character is white space or an information separator. -/
def isBlank (c : Char) : Bool :=
  (0x1c ≤ c.toNat && c.toNat ≤ 0x1f) || isWhiteSpace c

namespace Text

def isBlankText (t : Text) : Bool := t.all isBlank

def trimLeft (t : Text) : Text := t.dropWhile isBlank

def trimRight (t : Text) : Text := t.dropEndWhile isBlank

def trim (t : Text) : Text := t.trimLeft.trimRight

/-- A text without the white space at either end. -/
def trimWhiteSpace (t : Text) : Text := Text.dropEndWhile isWhiteSpace (t.dropWhile isWhiteSpace)

/-- The longest blank-free pieces of a text, in order. -/
def words (t : Text) : List Text := (t.splitOnP isBlank).filter fun piece => !piece.isEmpty

end Text

end CypherPages
