import CypherPages.Entries
import CypherPages.Files.Path
import CypherPages.Text.Quoted

/-! # A tree of files

Files and directories by the names that lead to them from the root. A path is followed name by
name, and every name is looked up in a directory. Only `write` changes the tree, at one place. -/

namespace CypherPages

/-- The names that lead from the root to a file or a directory. -/
abbrev Place := List Text

/-- What keeps a file from being read or written. -/
inductive FileFault
  | absent
  | notADirectory
  | isADirectory
  | nameTooLong
  deriving DecidableEq

/-- The number of a fault among the errors of the system. -/
def FileFault.number : FileFault → Nat
  | .absent => 2
  | .notADirectory => 20
  | .isADirectory => 21
  | .nameTooLong => 36

def FileFault.message : FileFault → Text
  | .absent => "No such file or directory".toList
  | .notADirectory => "Not a directory".toList
  | .isADirectory => "Is a directory".toList
  | .nameTooLong => "File name too long".toList

/-- A fault with the path that was to be read or written. -/
structure FileError where
  fault : FileFault
  path : Path
  deriving DecidableEq

def FileError.message (error : FileError) : Text :=
  "[Errno ".toList ++ Text.decimal error.fault.number ++ "] ".toList ++ error.fault.message ++
    ": ".toList ++ error.path.toText.quoted

structure FileTree where
  current : Place
  files : Entries Place Text
  /-- Directories, those that hold something not necessarily among them. -/
  directories : List Place

namespace FileTree

/-- How many octets a name may have. -/
def nameLimit : Nat := 255

def octetCount (t : Text) : Nat := t.foldl (fun n c => n + c.utf8Size) 0

def isFile (tree : FileTree) (place : Place) : Bool := (tree.files.get? place).isSome

/-- Whether a directory is at a place: the root, a directory of the tree, or one that holds
something. -/
def isDirectory (tree : FileTree) (place : Place) : Bool :=
  place.isEmpty ||
    (tree.current :: tree.directories).any place.isPrefixOf ||
    tree.files.any fun (file, _) => place.isPrefixOf file && place != file

/-- The place that names lead to from a place. -/
def follow (tree : FileTree) (place : Place) : List Text → Except FileFault Place
  | [] => .ok place
  | name :: rest =>
    if tree.isFile place then .error .notADirectory
    else if !tree.isDirectory place then .error .absent
    else if name = "..".toList then follow tree place.dropLast rest
    else if nameLimit < octetCount name then .error .nameTooLong
    else follow tree (place ++ [name]) rest

def locate (tree : FileTree) (path : Path) : Except FileFault Place :=
  tree.follow (if path.isAbsolute then [] else tree.current) path.names

def read (tree : FileTree) (path : Path) : Except FileError Text :=
  match tree.locate path with
  | .error fault => .error ⟨fault, path⟩
  | .ok place =>
    match tree.files.get? place with
    | some text => .ok text
    | none => .error ⟨if tree.isDirectory place then .isADirectory else .absent, path⟩

/-- Make a text the content of the file that a path names. The file need not exist, but the
directory that it stands in must. -/
def write (tree : FileTree) (path : Path) (text : Text) : Except FileError FileTree :=
  match tree.locate path with
  | .error fault => .error ⟨fault, path⟩
  | .ok place =>
    if tree.isDirectory place then .error ⟨.isADirectory, path⟩
    else .ok { tree with files := tree.files.set place text }

end FileTree

end CypherPages
