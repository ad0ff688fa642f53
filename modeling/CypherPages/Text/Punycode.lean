import CypherPages.Text.Basic

/-! # Punycode

A text in ASCII letters, digits and hyphens alone: the ASCII characters of the text come first,
and numbers after them tell which other characters go where. Each number is a run of digits in
base 36 whose thresholds adapt to the numbers before it. -/

namespace CypherPages.Punycode

/-- The threshold of the digit at an index. -/
def threshold (index bias : Nat) : Nat := min 26 (max 1 (36 * (index + 1) - bias))

/-- The bias for a damped number: a number that is too large is divided down in steps. -/
def settle (delta steps : Nat) : Nat :=
  if 455 < delta then settle (delta / 35) (steps + 36) else steps + 36 * delta / (delta + 38)
  termination_by delta
  decreasing_by omega

/-- The bias after a number. -/
def adapt (delta points : Nat) (isFirst : Bool) : Nat :=
  let damped := if isFirst then delta / 700 else delta / 2
  settle (damped + damped / points) 0

def digit (n : Nat) : Char :=
  if n < 26 then Char.ofNat ('a'.toNat + n) else Char.ofNat ('0'.toNat + (n - 26))

def digitValue? (c : Char) : Option Nat :=
  if 'a' ≤ c && c ≤ 'z' then some (c.toNat - 'a'.toNat)
  else if '0' ≤ c && c ≤ '9' then some (26 + (c.toNat - '0'.toNat))
  else none

/-- A number as digits, from a digit index on. -/
def digits (n index bias : Nat) : Text :=
  let t := threshold index bias
  if n < t then [digit n]
  else digit (t + (n - t) % (36 - t)) :: digits ((n - t) / (36 - t)) (index + 1) bias
  termination_by n
  decreasing_by
    have : 1 ≤ threshold index bias := by simp only [threshold]; omega
    exact Nat.lt_of_le_of_lt (Nat.div_le_self _ _) (by omega)

/-- Whether a character stands for itself. -/
def isBasic (c : Char) : Bool := c.toNat < 0x80

/-- The state between two characters: the number under way, the bias, how many characters are
placed, and the digits so far. -/
structure Progress where
  delta : Nat
  bias : Nat
  placed : Nat
  output : Text

/-- Pass a character while characters with the code point `n` are placed. -/
def Progress.pass (basics n : Nat) (progress : Progress) (c : Char) : Progress :=
  if c.toNat < n then { progress with delta := progress.delta + 1 }
  else if c.toNat = n then
    { delta := 0
      bias := adapt progress.delta (progress.placed + 1) (progress.placed = basics)
      placed := progress.placed + 1
      output := progress.output ++ digits progress.delta 0 progress.bias }
  else progress

/-- Place the characters with each of some code points, in ascending order, after those below
`n`. -/
def place (text : Text) (basics : Nat) : Nat → List Nat → Progress → Progress
  | _, [], progress => progress
  | n, code :: rest, progress =>
    let start := { progress with delta := progress.delta + (code - n) * (progress.placed + 1) }
    let next := text.foldl (Progress.pass basics code) start
    place text basics (code + 1) rest { next with delta := next.delta + 1 }

def encode (text : Text) : Text :=
  let basics := text.filter isBasic
  let codes := ((text.filter (!isBasic ·)).map Char.toNat).mergeSort.eraseDups
  let final := place text basics.length 0x80 codes ⟨0, 72, basics.length, []⟩
  if basics.isEmpty then final.output else basics ++ '-' :: final.output

/-- The number that a text starts with, from a digit index on, and the text after it. -/
def number? (index bias weight : Nat) : Text → Option (Nat × Text)
  | [] => none
  | c :: rest => do
    let value ← digitValue? c
    let t := threshold index bias
    if value < t then return (value * weight, rest)
    let (more, after) ← number? (index + 1) bias (weight * (36 - t)) rest
    return (value * weight + more, after)

/-- Insert the characters that the numbers of a text tell of. `code` is the last code point
inserted and `place` the place after it; the fuel is the length of the text. -/
def insertAll : Nat → Text → (code place bias : Nat) → (isFirst : Bool) → Text → Option Text
  | _, [], _, _, _, _, decoded => some decoded
  | 0, _, _, _, _, _, _ => none
  | fuel + 1, t, code, place, bias, isFirst, decoded => do
    let (delta, rest) ← number? 0 bias 1 t
    let points := decoded.length + 1
    let code := code + (place + delta) / points
    let place := (place + delta) % points
    if code < 0x110000 && !(0xd800 ≤ code && code ≤ 0xdfff) then
      insertAll fuel rest code (place + 1) (adapt delta points isFirst) false
        (decoded.take place ++ Char.ofNat code :: decoded.drop place)
    else none

def decode? (t : Text) : Option Text :=
  let numbers := (t.reverse.takeWhile (· != '-')).reverse
  let basics := (t.dropEndWhile (· != '-')).dropLast
  if basics.all isBasic then insertAll numbers.length numbers 0x80 0 72 true basics else none

/-- Whether a character stands between the labels of a domain name. -/
def isLabelSeparator (c : Char) : Bool := ['.', '\u3002', '\uff0e', '\uff61'].contains c

/-- What a label in ASCII starts with if it stands for one in another script. -/
def labelMark : Text := "xn--".toList

end CypherPages.Punycode
