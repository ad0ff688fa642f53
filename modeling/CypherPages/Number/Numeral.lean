import CypherPages.Number.Binary64
import CypherPages.Text.Blank

/-! # Numerals

Numbers as they are written by hand: an optional sign, digits, and for reals a fraction, an
exponent or the name of a special value. A strict reader allows single underscores between
digits. A lenient one trims white space and allows single underscores anywhere but at the ends,
and an integer may have loose zeros in front and a fraction of zeros. -/

namespace CypherPages.Numeral

/-- Whether a character is an ASCII digit. -/
def isDigit (c : Char) : Bool := '0' ≤ c && c ≤ '9'

def ofDigits (digits : Text) : Nat :=
  digits.foldl (fun n c => 10 * n + (c.toNat - '0'.toNat)) 0

/-- A sign, where one stands, and the text after it. -/
def sign : Text → Bool × Text
  | '-' :: rest => (true, rest)
  | '+' :: rest => (false, rest)
  | t => (false, t)

/-- A text without its underscores, if each stands between two digits. `afterDigit` says that
the text follows a digit. -/
def withoutUnderscores? (afterDigit : Bool) : Text → Option Text
  | [] => some []
  | '_' :: rest =>
    match rest with
    | d :: _ => if afterDigit && isDigit d then withoutUnderscores? false rest else none
    | [] => none
  | c :: rest => (withoutUnderscores? (isDigit c) rest).map (c :: ·)

/-- A text without its underscores, if it has any and none of them stands at an end or next to
another. -/
def withoutLooseUnderscores? (t : Text) : Option Text :=
  if t.head? == some '_' || t.getLast? == some '_' || !t.contains '_' ||
      (Text.cutAt? ['_', '_'] t).isSome then none
  else some (t.filter (· ≠ '_'))

/-- What a text that goes on with zeros and underscores after its first zero leaves: the text
from the first character on that is none, and a zero before a point. -/
def afterZeros? (last : Char) : Text → Option Text
  | [] => some [last]
  | c :: rest =>
    if c == '0' || c == '_' then afterZeros? c rest
    else if c == '.' then some (last :: c :: rest)
    else if c == '-' || isDigit c then some (c :: rest)
    else none

/-- A text without the zeros in front, which underscores may follow. Of nothing but zeros one
stays. -/
def withoutLooseZeros? : Text → Option Text
  | [] => none
  | c :: rest =>
    if c == '0' then afterZeros? c rest
    else if c == '-' || isDigit c then some (c :: rest)
    else none

/-- A text without a point and zeros that it ends with. -/
def withoutZeroFraction (t : Text) : Text :=
  match t.dropWhile (· ≠ '.') with
  | _ :: c :: zeros => if (c :: zeros).all (· == '0') then t.takeWhile (· ≠ '.') else t
  | _ => t

/-- The integer that a text denotes to a strict reader. -/
def integer? (t : Text) : Option Int :=
  let (negative, unsigned) := sign t
  (withoutUnderscores? false unsigned).bind fun digits =>
    if digits.isEmpty || !digits.all isDigit then none
    else some (if negative then -(ofDigits digits : Int) else ofDigits digits)

/-- The integer that digits behind an optional minus sign denote. No zero stands in front of
other digits. -/
def plainInteger? (t : Text) : Option Int :=
  let negative := t.head? == some '-'
  let digits := if negative then t.drop 1 else t
  if digits.isEmpty || !digits.all isDigit || (digits.head? == some '0' && 1 < digits.length) then
    none
  else some (if negative then -(ofDigits digits : Int) else ofDigits digits)

/-- The integer that a text denotes to a lenient reader. -/
def lenientInteger? (t : Text) : Option Int :=
  let stripped? := match t.trimWhiteSpace with
    | '+' :: '-' :: _ => none
    | '+' :: rest => withoutLooseZeros? rest
    | '-' :: rest => (withoutLooseZeros? rest).map ('-' :: ·)
    | t => withoutLooseZeros? t
  stripped?.bind fun stripped =>
    let whole := withoutZeroFraction stripped
    plainInteger? ((withoutLooseUnderscores? whole).getD whole)

/-- The power of ten that an exponent mark and digits after it denote; nothing stands for
zero. -/
def exponent? : Text → Option Int
  | [] => some 0
  | c :: rest =>
    let (negative, digits) := sign rest
    if (c == 'e' || c == 'E') && !digits.isEmpty && digits.all isDigit then
      some (if negative then -(ofDigits digits : Int) else ofDigits digits)
    else none

/-- The magnitude that a text without a sign and without underscores denotes, with the given
sign. -/
def magnitude? (negative : Bool) (t : Text) : Option Binary64 :=
  match String.ofList (t.map Char.toLower) with
  | "inf" | "infinity" => some (.infinite negative)
  | "nan" => some .nan
  | _ =>
    let whole := t.takeWhile isDigit
    let rest := t.dropWhile isDigit
    let (fraction, rest) := match rest with
      | '.' :: after => (after.takeWhile isDigit, after.dropWhile isDigit)
      | _ => ([], rest)
    if whole.isEmpty && fraction.isEmpty then none
    else
      (exponent? rest).map fun power =>
        .ofDecimal negative (ofDigits (whole ++ fraction)) (power - fraction.length)

/-- The real number that a text without underscores denotes, rounded to double precision. -/
def plainReal? (t : Text) : Option Binary64 :=
  let (negative, unsigned) := sign t
  magnitude? negative unsigned

/-- The real number that a text denotes to a strict reader. -/
def real? (t : Text) : Option Binary64 := (withoutUnderscores? false t).bind plainReal?

/-- The real number that a text denotes to a lenient reader. White space around a text with
underscores is not trimmed. -/
def lenientReal? (t : Text) : Option Binary64 :=
  (plainReal? t.trimWhiteSpace).or ((withoutLooseUnderscores? t).bind plainReal?)

end CypherPages.Numeral
