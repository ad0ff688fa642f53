import CypherPages.Markdown.Inline
import CypherPages.Markdown.Space
import CypherPages.Text.Punctuation

/-! # Emphasis

Stars and underscores mark emphasis, depending on what stands around them. The marks of a
passage are matched from left to right: a mark that can close does so with the nearest earlier
mark that it fits, and marks between the two mean nothing. -/

namespace CypherPages.Markdown

/-- A run of equal marks with the characters before and after it. -/
structure MarkRun where
  marker : Char
  length : Nat
  before : Char
  after : Char

namespace MarkRun

/-- Whether a run leans on what follows it. -/
def leansRight (run : MarkRun) : Bool :=
  !(isMarkSpace run.after ||
    (isPunctuation run.after && !(isMarkSpace run.before || isPunctuation run.before)))

/-- Whether a run leans on what stands before it. -/
def leansLeft (run : MarkRun) : Bool :=
  !(isMarkSpace run.before ||
    (isPunctuation run.before && !(isMarkSpace run.after || isPunctuation run.after)))

/-- Whether a run can open emphasis. Underscores do not open it inside a word. -/
def canOpen (run : MarkRun) : Bool :=
  run.leansRight && (run.marker == '*' || !run.leansLeft || isPunctuation run.before)

/-- Whether a run can close emphasis. Underscores do not close it inside a word. -/
def canClose (run : MarkRun) : Bool :=
  run.leansLeft && (run.marker == '*' || !run.leansRight || isPunctuation run.after)

/-- Whether marks of two runs fit together. Where one of the runs can both open and close, the
lengths may not add up to a multiple of three unless both are multiples of three. -/
def fits (opener closer : MarkRun) : Bool :=
  opener.marker == closer.marker &&
    !((opener.canClose || closer.canOpen) && (opener.length + closer.length) % 3 == 0 &&
      (opener.length % 3 != 0 || closer.length % 3 != 0))

end MarkRun

/-- A passage whose emphasis is not resolved yet, in pieces. -/
inductive Fragment
  | piece (inline : Inline)
  | marks (run : MarkRun)

/-- An open mark of a run with what follows it, newest first. -/
structure OpenMark where
  run : MarkRun
  content : List Inline

/-- What has been read of a passage: what stands before the open marks, newest first, and the
open marks, newest first. -/
structure Passage where
  base : List Inline
  marks : List OpenMark

namespace Passage

def add (pieces : List Inline) (passage : Passage) : Passage :=
  match passage.marks with
  | [] => { passage with base := pieces ++ passage.base }
  | mark :: rest =>
    { passage with marks := { mark with content := pieces ++ mark.content } :: rest }

/-- Emphasis of a passage. Emphasis that holds nothing but emphasis of the same kind is strong
emphasis. -/
def emphasize (marker : Char) (content : List Inline) : Inline :=
  match content with
  | [.emphasis inner others] =>
    if inner == marker then .strong others else .emphasis marker content
  | _ => .emphasis marker content

/-- The content of open marks that mean nothing, newest first, with the marks as text. -/
def dissolve (marks : List OpenMark) : List Inline :=
  marks.flatMap fun mark => mark.content ++ [.text [mark.run.marker]]

/-- Close emphasis with the nearest open mark that a run fits. -/
def close? (run : MarkRun) (passage : Passage) : Option Passage :=
  let skipped := passage.marks.takeWhile fun mark => !mark.run.fits run
  match passage.marks.drop skipped.length with
  | [] => none
  | mark :: rest =>
    let content := (dissolve skipped ++ mark.content).reverse
    some ({ passage with marks := rest }.add [emphasize run.marker content])

/-- Close emphasis with as many of `count` marks of a run as possible: the marks left, and the
passage after it. -/
def closeAll (run : MarkRun) (passage : Passage) : Nat → Nat × Passage
  | 0 => (0, passage)
  | count + 1 =>
    match passage.close? run with
    | some closed => closed.closeAll run count
    | none => (count + 1, passage)

/-- Read a run of marks: they close what they can, and those left open emphasis or are text. -/
def read (run : MarkRun) (passage : Passage) : Passage :=
  let (left, closed) :=
    if run.canClose then passage.closeAll run run.length else (run.length, passage)
  if run.canOpen then
    { closed with marks := List.replicate left ⟨run, []⟩ ++ closed.marks }
  else if left = 0 then closed
  else closed.add [.text (List.replicate left run.marker)]

def step (passage : Passage) : Fragment → Passage
  | .piece inline => passage.add [inline]
  | .marks run => passage.read run

end Passage

/-- A passage with its emphasis resolved. -/
def resolveEmphasis (fragments : List Fragment) : List Inline :=
  let passage := fragments.foldl Passage.step ⟨[], []⟩
  (Passage.dissolve passage.marks ++ passage.base).reverse

end CypherPages.Markdown
