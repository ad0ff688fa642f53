/-! # Ordered entries

Keys with values in the order in which the keys first came. Setting a key that is present
changes its value and keeps its place; setting a new key puts it at the end. -/

namespace CypherPages

/-- Keys with their values, in order of first occurrence. -/
abbrev Entries (κ ν : Type) := List (κ × ν)

namespace Entries

variable {κ ν : Type} [BEq κ]

def get? (key : κ) (entries : Entries κ ν) : Option ν := entries.lookup key

def set (key : κ) (value : ν) : Entries κ ν → Entries κ ν
  | [] => [(key, value)]
  | (k, v) :: rest => if k == key then (k, value) :: rest else (k, v) :: set key value rest

/-- Set the keys of a list of pairs, from first to last. -/
def setAll (entries : Entries κ ν) (pairs : List (κ × ν)) : Entries κ ν :=
  pairs.foldl (fun acc (key, value) => acc.set key value) entries

/-- The entries that a list of pairs describes: a key given twice keeps its first place and
its last value. -/
def ofPairs (pairs : List (κ × ν)) : Entries κ ν := setAll [] pairs

end Entries

end CypherPages
