import CypherPages.Number.Binary64
import CypherPages.Text.Basic

/-! # Shortest decimal text

The text of a double-precision number: the fewest digits that read back as the number, and of
those the nearest to it. `ShortestLayout` says how the digits are written. -/

namespace CypherPages

/-- How the digits of a number are written. -/
structure ShortestLayout where
  /-- Digits before the point, in positional writing, are at most this many. -/
  maxWhole : Int
  /-- Zeros between the point and the first digit, in positional writing, are at most this
  many. -/
  maxLeadingZeros : Int
  /-- The text of an infinity without its sign. -/
  infinity : Text
  /-- The text of what is not a number. -/
  notANumber : Text

namespace Binary64

/-- The least `k` with `num / den < 10 ^ k`, for positive `num` and `den`. -/
def decimalSize (num den : Nat) : Int :=
  let k : Int := (digitCount num : Int) - digitCount den
  let reaches :=
    if 0 ≤ k then den * Nat.pow 10 k.toNat ≤ num else den ≤ num * Nat.pow 10 (-k).toNat
  if reaches then k + 1 else k

/-- A quotient divided by a power of ten, as a quotient. -/
def scaleDown10 (num den : Nat) (exponent : Int) : Nat × Nat :=
  if 0 ≤ exponent then (num, den * Nat.pow 10 exponent.toNat)
  else (num * Nat.pow 10 (-exponent).toNat, den)

/-- The best multiple of `10 ^ exponent` that reads back as `mantissa * 2 ^ binary`, if one of
the two neighbours of the number on that grid does. -/
def onGrid? (mantissa : Nat) (binary exponent : Int) : Option Nat :=
  let (num, den) := ratio mantissa binary
  let (n, d) := scaleDown10 num den exponent
  let below := n / d
  let readsBack := fun digits => ofDecimal false digits exponent == .finite false mantissa binary
  let nearer := roundDiv n d
  let farther := if nearer = below then below + 1 else below
  if readsBack nearer then some nearer
  else if readsBack farther then some farther
  else none

/-- The digits `d` and the exponent `e` of the shortest decimal `d * 10 ^ e` that reads back
as a positive finite number. Seventeen digits always do. -/
def shortest (mantissa : Nat) (binary : Int) : Nat × Int :=
  let (num, den) := ratio mantissa binary
  let size := decimalSize num den
  let grids := (List.range 17).map fun (n : Nat) => size - (n + 1 : Int)
  (grids.findSome? fun exponent =>
    (onGrid? mantissa binary exponent).map fun digits => (digits, exponent)).getD (0, 0)

def zeros (n : Int) : Text := List.replicate n.toNat '0'

/-- Digits with the point after `whole` of them, in positional writing where the layout allows
it and else with an exponent of at least two digits. -/
def place (layout : ShortestLayout) (digits : Text) (whole : Int) : Text :=
  if -layout.maxLeadingZeros ≤ whole && whole ≤ layout.maxWhole then
    if whole ≤ 0 then "0.".toList ++ zeros (-whole) ++ digits
    else if (digits.length : Int) ≤ whole then
      digits ++ zeros (whole - digits.length) ++ ".0".toList
    else digits.take whole.toNat ++ '.' :: digits.drop whole.toNat
  else
    let fraction := if digits.length ≤ 1 then [] else '.' :: digits.drop 1
    let power := whole - 1
    let sign := if power < 0 then '-' else '+'
    let size := Text.decimal power.natAbs
    digits.take 1 ++ fraction ++ 'e' :: sign :: (zeros (2 - size.length) ++ size)

def write (layout : ShortestLayout) : Binary64 → Text
  | .nan => layout.notANumber
  | .infinite negative => if negative then '-' :: layout.infinity else layout.infinity
  | .finite negative mantissa binary =>
    let magnitude :=
      if mantissa = 0 then "0.0".toList
      else
        let (digits, exponent) := shortest mantissa binary
        let text := Text.decimal digits
        place layout (Text.dropEndWhile (· == '0') text) (text.length + exponent)
    if negative then '-' :: magnitude else magnitude

/-- Displayed numbers are positional from `0.0001` to below `10 ^ 16`. -/
def displayLayout : ShortestLayout := ⟨16, 3, "inf".toList, "nan".toList⟩

def display (x : Binary64) : Text := x.write displayLayout

end Binary64

end CypherPages
