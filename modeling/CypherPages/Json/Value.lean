import CypherPages.Number.Binary64
import CypherPages.Entries
import CypherPages.Text.Basic

/-! # JSON values

JSON values with integers of any size apart from double-precision numbers. The fields of an
object are ordered, each name occurring once in an object that was read. An integer with too many
digits can neither be read nor written. -/

namespace CypherPages

inductive Json
  | null
  | bool (value : Bool)
  | int (value : Int)
  | float (value : Binary64)
  | string (value : Text)
  | array (items : List Json)
  | object (fields : List (Text × Json))
  deriving Inhabited

namespace Json

/-- How many digits an integer may have where it is read or written. -/
def digitLimit : Nat := 4300

/-- Whether an integer has more digits than can be read or written. -/
def isOverlong (n : Int) : Bool := digitLimit < Binary64.digitCount n.natAbs

/-- The number of digits of an integer with more of them than can be read or written. -/
def overlongDigits? : Json → Option Nat
  | .int n => if isOverlong n then some (Binary64.digitCount n.natAbs) else none
  | _ => none

mutual

/-- Whether every integer in a value can be read and written. -/
def fits : Json → Bool
  | .int n => !isOverlong n
  | .array items => fitsItems items
  | .object fields => fitsMembers fields
  | _ => true

def fitsItems : List Json → Bool
  | [] => true
  | item :: rest => item.fits && fitsItems rest

def fitsMembers : List (Text × Json) → Bool
  | [] => true
  | (_, value) :: rest => value.fits && fitsMembers rest

end

/-- The order of texts by code points. -/
def nameLe : Text → Text → Bool
  | [], _ => true
  | _ :: _, [] => false
  | a :: s, b :: t => a.toNat < b.toNat || (a.toNat == b.toNat && nameLe s t)

mutual

/-- A value with the fields of every object in order of their names. -/
def sortFields : Json → Json
  | .array items => .array (sortFieldsOfItems items)
  | .object fields =>
    .object ((sortFieldsOfMembers fields).mergeSort fun a b => nameLe a.1 b.1)
  | value => value

def sortFieldsOfItems : List Json → List Json
  | [] => []
  | item :: rest => item.sortFields :: sortFieldsOfItems rest

def sortFieldsOfMembers : List (Text × Json) → List (Text × Json)
  | [] => []
  | (name, value) :: rest => (name, value.sortFields) :: sortFieldsOfMembers rest

end

end Json

end CypherPages
