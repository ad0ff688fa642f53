import CypherPages.Number.Hexadecimal
import CypherPages.Number.Numeral

/-! # Hosts by number

A host may be named by its number on the network: four numbers below 256 between full stops, or
up to eight hexadecimal groups between colons, of which a run of zeros may be left out once. -/

namespace CypherPages.HostNumber

/-- Whether a text is a number below 256 without loose zeros in front. -/
def isOctet (t : Text) : Bool :=
  !t.isEmpty && t.length ≤ 3 && t.all Numeral.isDigit && (t == ['0'] || t.head? != some '0') &&
    Numeral.ofDigits t ≤ 255

/-- Whether a text is four numbers below 256 between full stops. -/
def isDotted (t : Text) : Bool :=
  let parts := t.splitOn '.'
  parts.length == 4 && parts.all isOctet

/-- Whether a text is a group of at most four hexadecimal digits. -/
def isGroup (t : Text) : Bool := !t.isEmpty && t.length ≤ 4 && t.all Hexadecimal.isDigit

/-- The groups on one side of the zeros that are left out. A side without groups is an empty
text. -/
def side (parts : List Text) : List Text := if parts == [[]] then [] else parts

/-- Whether texts are the eight groups of an address, or fewer with one empty text between two
others in place of the zeros that are left out. -/
def areGroups (parts : List Text) : Bool :=
  let inner := (parts.drop 1).dropLast
  match inner.count [] with
  | 0 => parts.length == 8 && parts.all isGroup
  | 1 =>
    let before := parts.take 1 ++ inner.takeWhile fun part => !part.isEmpty
    let groups := side before ++ side (parts.drop (before.length + 1))
    groups.all isGroup && groups.length ≤ 7
  | _ => false

/-- Whether a text is hexadecimal groups between colons. The last two groups may be written as
four numbers, and a zone behind a percent sign may follow. -/
def isColoned (t : Text) : Bool :=
  let number : Text := t.takeWhile (· != '%')
  let zone := t.drop number.length
  let parts := number.splitOn ':'
  let last := parts.getLast?.getD []
  let groups? :=
    if !last.contains '.' then some parts
    else if isDotted last then some (parts.dropLast ++ [['0'], ['0']])
    else none
  !t.contains '/' && (zone.isEmpty || (2 ≤ zone.length && zone.count '%' == 1)) &&
    3 ≤ parts.length && groups?.any fun groups => groups.length ≤ 9 && areGroups groups

/-- A place in a text that looks like four numbers with a character between any two. -/
structure Place where
  /-- How many characters are still to come between numbers. -/
  toCome : Nat
  /-- Whether a digit stands before. -/
  afterDigit : Bool
  deriving DecidableEq

/-- The places behind a character that stands at a place. It may be part of a number, and it may
stand between two. -/
def Place.next (c : Char) (place : Place) : List Place :=
  (if Numeral.isDigit c then [⟨place.toCome, true⟩] else []) ++
    (if place.afterDigit && 0 < place.toCome then [⟨place.toCome - 1, false⟩] else [])

/-- Whether a text looks like four numbers with a character of any kind between any two. -/
def looksDotted (t : Text) : Bool :=
  let ends := t.foldl (fun places c => (places.flatMap (Place.next c)).eraseDups) [⟨3, false⟩]
  ends.contains ⟨0, true⟩

end CypherPages.HostNumber
