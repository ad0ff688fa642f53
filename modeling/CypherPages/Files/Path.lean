import CypherPages.Text.Basic

/-! # Paths

A path names a file or a directory: names that are followed one after the other, from the root
or from the current directory. Empty names and names of one dot lead nowhere and are left out;
two dots lead up and stay. -/

namespace CypherPages

structure Path where
  /-- How many slashes the path starts with: none if it starts in the current directory. -/
  slashes : Nat
  names : List Text
  deriving DecidableEq

namespace Path

/-- The slashes that a path keeps of the slashes it is written with. -/
def keptSlashes (written : Nat) : Nat := if written = 2 then 2 else min written 1

def ofText (t : Text) : Path :=
  ⟨keptSlashes (t.takeWhile (· == '/')).length,
    (t.splitOn '/').filter fun name => !(name.isEmpty || name == ['.'])⟩

/-- A path as text. The current directory is one dot. -/
def toText (path : Path) : Text :=
  if path.slashes = 0 && path.names.isEmpty then ['.']
  else List.replicate path.slashes '/' ++ ['/'].intercalate path.names

def isAbsolute (path : Path) : Bool := path.slashes != 0

/-- A name without its last dot and what follows it, if something stands on either side of that
dot. -/
def withoutExtension (name : Text) : Text :=
  match name.reverse.takeWhile (· != '.'), name.reverse.dropWhile (· != '.') with
  | _ :: _, _ :: c :: rest => (c :: rest).reverse
  | _, _ => name

def stem (path : Path) : Text := withoutExtension (path.names.getLast?.getD [])

end Path

end CypherPages
