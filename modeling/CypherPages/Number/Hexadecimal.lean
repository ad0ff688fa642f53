import CypherPages.Text.Basic

/-! # Hexadecimal numerals

Digits in base 16, of either case when they are read and in lower case when they are written. -/

namespace CypherPages.Hexadecimal

def digitValue? (c : Char) : Option Nat :=
  if '0' ≤ c && c ≤ '9' then some (c.toNat - 48)
  else if 'a' ≤ c && c ≤ 'f' then some (c.toNat - 87)
  else if 'A' ≤ c && c ≤ 'F' then some (c.toNat - 55)
  else none

def isDigit (c : Char) : Bool := (digitValue? c).isSome

/-- The number that digits denote. -/
def ofDigits (digits : Text) : Nat :=
  digits.foldl (fun n c => 16 * n + (digitValue? c).getD 0) 0

/-- A number in at least so many digits. -/
def toDigits (width n : Nat) : Text := (Nat.toDigits 16 n).leftpad width '0'

end CypherPages.Hexadecimal
