import CypherPages.Markdown.Emphasis
import CypherPages.Markdown.LinkText

/-! # Reading running text

Running text is read from left to right. A bracket that starts a link or an image encloses a text
that is read on its own; a link holds no other link. -/

namespace CypherPages.Markdown

/-- Pending text, newest character first, as fragments. -/
def pendingFragments (pending : Text) : List Fragment :=
  if pending.isEmpty then [] else [.piece (.text pending.reverse)]

/-- The fragments of the end of a line behind pending text. Two spaces make it a hard break. -/
def lineEnd (pending : Text) : List Fragment :=
  let spaces := (pending.takeWhile (· == ' ')).length
  pendingFragments (pending.drop spaces) ++
    [.piece (if 2 ≤ spaces then .hardBreak else .softBreak)]

/-- What is read of a text at its head. -/
inductive Head
  /-- Text, newest character first. -/
  | plain (characters : Text)
  | piece (piece : Inline)
  | marks (run : MarkRun)
  | lineEnd

/-- The head of a text that starts with `c` at a place and holds no bracket there, with `before`
before it, and the number of characters behind `c` that it takes. -/
def readHead (place : Nat) (before c : Char) (rest : Text) : StateM Memory (Head × Nat) :=
  if c == '\n' then pure (.lineEnd, (rest.takeWhile isSpace).length)
  else if c == codeMark then do
    match ← rememberingCode place rest with
    | (.text marks, length) => pure (.plain marks, length)
    | (piece, length) => pure (.piece piece, length)
  else if c == '*' || c == '_' then
    let more := (rest.takeWhile (· == c)).length
    pure (.marks ⟨c, more + 1, before, (rest.drop more).head?.getD ' '⟩, more)
  else
    match whole? c rest with
    | some (piece, length) => pure (.piece piece, length)
    | none => pure (.plain [c], 0)

/-- The fragments of a text that goes on at a place, with `before` before it and pending text,
newest character first. Texts may nest `levels` deep in it. -/
def readFragments (definitions : List Definition) (levels place : Nat) (before : Char)
    (pending t : Text) : StateM Memory (List Fragment) :=
  match t with
  | [] => pure (pendingFragments pending)
  | c :: rest => do
    let isImage := c == '!' && rest.head? == some '['
    let opening := if isImage then 2 else 1
    let inner := rest.drop (opening - 1)
    let found ←
      if isImage || c == '[' then
        bracket? definitions (skipper definitions levels) isImage (place + opening) inner
      else pure none
    match found with
    | some bracket =>
      let text := inner.take bracket.label
      let piece ←
        if isImage then
          let content := ((readFragments definitions maxLevels 0 ' ' [] text).run .start).1
          pure (.image bracket.target.address bracket.target.title (resolveEmphasis content))
        else
          let content ← readFragments definitions (levels - 1) (place + opening) '[' [] text
          pure (.link bracket.target.address bracket.target.title (resolveEmphasis content))
      let last := (inner.take bracket.size).getLast?.getD c
      let others ← readFragments definitions levels (place + opening + bracket.size) last []
        (inner.drop bracket.size)
      pure (pendingFragments pending ++ .piece piece :: others)
    | none =>
      let (head, length) ← readHead place before c rest
      let last := (rest.take length).getLast?.getD c
      let goOn := fun pending =>
        readFragments definitions levels (place + length + 1) last pending (rest.drop length)
      match head with
      | .plain characters => goOn (characters ++ pending)
      | .piece piece => return pendingFragments pending ++ .piece piece :: (← goOn [])
      | .marks run => return pendingFragments pending ++ .marks run :: (← goOn [])
      | .lineEnd => return lineEnd pending ++ (← goOn [])
  termination_by t.length
  decreasing_by
    all_goals simp only [List.length_drop, List.length_take, List.length_cons]; omega

/-- The pieces of a running text. -/
def inlines (definitions : List Definition) (t : Text) : List Inline :=
  resolveEmphasis ((readFragments definitions maxLevels 0 ' ' [] t).run .start).1

end CypherPages.Markdown
