import CypherPages.Markdown.Inline
import Std.Data.HashMap

/-! # Code in running text

Code stands between two runs of code marks of one length. A reader that searches for the closing
run remembers the runs that it passes. Once a search has come to the end of the text, a run opens
nothing unless a later one of its length was passed. -/

namespace CypherPages.Markdown

/-- The character that encloses code. -/
def codeMark : Char := Char.ofNat 0x60

/-- A piece of running text that is taken whole, and the number of characters behind its first
one that it takes. -/
abbrev Whole := Inline × Nat

/-- What a reader remembers of its searches for closing runs. -/
structure CodeMemory where
  /-- The places of the runs that were passed last, by their lengths. -/
  passed : Std.HashMap Nat Nat
  /-- Whether a search has come to the end of the text. -/
  complete : Bool

namespace CodeMemory

def start : CodeMemory := ⟨∅, false⟩

def pass (memory : CodeMemory) (length place : Nat) : CodeMemory :=
  { memory with passed := memory.passed.insert length place }

/-- Whether a run of a length at a place may open code, as far as is known. -/
def mayOpen (memory : CodeMemory) (length place : Nat) : Bool :=
  !memory.complete || (memory.passed[length]?).any fun last => place < last

/-- Search for a run of `size` marks in a text that starts at a place, with no mark before it:
the place of that run, and the memory after the search. -/
def find (memory : CodeMemory) (size place : Nat) (t : Text) : Option Nat × CodeMemory :=
  match t with
  | [] => (none, { memory with complete := true })
  | c :: rest =>
    if c == codeMark then
      let length := (rest.takeWhile (· == codeMark)).length + 1
      if length = size then (some place, memory)
      else (memory.pass length place).find size (place + length) (rest.drop (length - 1))
    else memory.find size (place + 1) rest
  termination_by t.length
  decreasing_by all_goals simp only [List.length_drop, List.length_cons]; omega

end CodeMemory

/-- Code with its line ends as spaces. One space is taken off at either end, unless the code is
nothing but spaces. -/
def trimCode (content : Text) : Text :=
  let line : Text := content.map fun c => if c == '\n' then ' ' else c
  if line.head? == some ' ' && line.getLast? == some ' ' && !line.all (· == ' ') then
    (line.drop 1).dropLast
  else line

/-- What a run of code marks starts whose first one stands at a place, with the text behind that:
code, or text. -/
def readCode (place : Nat) (rest : Text) : StateM CodeMemory Whole := fun memory =>
  let size := (rest.takeWhile (· == codeMark)).length + 1
  let marks : Whole := (.text (List.replicate size codeMark), size - 1)
  if memory.mayOpen size place then
    match memory.find size (place + size) (rest.drop (size - 1)) with
    | (some closing, memory) =>
      let content := (rest.drop (size - 1)).take (closing - (place + size))
      ((.code (trimCode content), closing - place + size - 1), memory)
    | (none, memory) => (marks, memory)
  else (marks, memory)

end CypherPages.Markdown
