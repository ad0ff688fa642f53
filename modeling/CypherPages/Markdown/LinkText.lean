import CypherPages.Markdown.Piece

/-! # Texts of links

The text of a link or of an image reaches to the closing bracket that belongs to its opening
one. To find it a reader skips over the text token by token, and a token may be a link with a
text of its own. Texts nest in each other to a certain depth only: a reader that is deeper skips
over all that is left. What it has skipped once it skips alike from then on, at every depth. -/

namespace CypherPages.Markdown

/-- What a reader remembers of a text. -/
structure Memory where
  /-- The numbers of characters that are skipped from the places where that is known. -/
  skips : Std.HashMap Nat Nat
  code : CodeMemory

def Memory.start : Memory := ⟨∅, .start⟩

/-- How many characters are skipped at a place from which a text goes on. -/
abbrev Skipper := Nat → Text → StateM Memory Nat

/-- Read what a run of code marks starts. -/
def rememberingCode (place : Nat) (rest : Text) : StateM Memory Whole := fun memory =>
  let (piece, code) := readCode place rest memory.code
  (piece, { memory with code })

/-- A bracket that starts a link or an image. -/
structure Bracket where
  /-- The number of characters of the text in brackets. -/
  label : Nat
  target : LinkTarget
  /-- The number of characters behind the opening bracket. -/
  size : Nat

/-- Whether a character may end a run of plain text. -/
def endsPlain (c : Char) : Bool :=
  c == codeMark || "\n!#$%&*+-:<=>@[\\]^_\x7b\x7d~".toList.contains c

/-- Skip as before at a place where that is known. -/
def remembering (skip : Skipper) : Skipper := fun place t => do
  match (← get).skips[place]? with
  | some size => pure size
  | none =>
    let size ← skip place t
    modify fun memory => { memory with skips := memory.skips.insert place size }
    pure size

/-- The number of characters before the bracket that closes the innermost of `depth` brackets
and all around it. A text that may hold no links has no closing bracket if it holds one. -/
def labelLength? (skip : Skipper) (mayHoldLinks : Bool) (depth place : Nat) (t : Text) :
    StateM Memory (Option Nat) :=
  match t with
  | [] => pure none
  | c :: rest =>
    if c == ']' && depth ≤ 1 then pure (some 0)
    else do
      let size ← skip place (c :: rest)
      let isLink := c == '[' && size != 1
      if isLink && !mayHoldLinks then pure none
      else
        let inner :=
          if c == ']' then depth - 1 else if c == '[' && !isLink then depth + 1 else depth
        let found ← labelLength? skip mayHoldLinks inner (place + size) (rest.drop (size - 1))
        pure (found.map (· + size))
  termination_by t.length
  decreasing_by simp only [List.length_drop, List.length_cons]; omega

/-- The target that a label in brackets refers to, and the number of characters that it takes
behind the text of the link. The label stands at the head of `behind`, which `passed` characters
separate from that text; if it is empty or missing, the text itself is the label. -/
def referredTarget? (definitions : List Definition) (skip : Skipper) (text : Text)
    (place passed : Nat) (behind : Text) : StateM Memory (Option (LinkTarget × Nat)) := do
  let byText := (Definition.target? definitions text).map fun target => (target, 0)
  match behind with
  | '[' :: inner =>
    match ← labelLength? skip true 1 (place + 1) inner with
    | none => pure byText
    | some length =>
      let label := if length = 0 then text else inner.take length
      pure ((Definition.target? definitions label).map fun target =>
        (target, passed + length + 2))
  | _ => pure byText

/-- The target of a link or an image, and the number of characters that it takes behind the
closing bracket of the text, which is at the place before `place`. What fails to be a target in
parentheses may have a label behind its first character, except behind an image. -/
def target? (definitions : List Definition) (skip : Skipper) (isImage : Bool) (text : Text)
    (place : Nat) (rest : Text) : StateM Memory (Option (LinkTarget × Nat)) :=
  let referred := fun (behind : Text) =>
    let passed := rest.length - behind.length
    if definitions.isEmpty then pure none
    else referredTarget? definitions skip text (place + passed) passed behind
  match rest with
  | '(' :: inner =>
    match Parenthesized.ofText inner with
    | .unfinished => pure none
    | .target target after => pure (some (target, rest.length - after.length))
    | .broken behind => if isImage then pure none else referred (behind.drop 1)
  | _ => referred rest

/-- The link or the image that a bracket starts, from the text behind it. -/
def bracket? (definitions : List Definition) (skip : Skipper) (isImage : Bool) (place : Nat)
    (t : Text) : StateM Memory (Option Bracket) := do
  match ← labelLength? skip isImage 1 place t with
  | none => pure none
  | some label =>
    let behind := place + label + 1
    match ← target? definitions skip isImage (t.take label) behind (t.drop (label + 1)) with
    | none => pure none
    | some (target, size) => pure (some ⟨label, target, label + 1 + size⟩)

/-- The number of characters of the token at the head of a text. -/
def tokenLength (definitions : List Definition) (skip : Skipper) : Skipper := fun place t => do
  match t with
  | [] => pure 0
  | '[' :: inner =>
    match ← bracket? definitions skip false (place + 1) inner with
    | some bracket => pure (bracket.size + 1)
    | none => pure 1
  | '!' :: '[' :: inner =>
    match ← bracket? definitions skip true (place + 2) inner with
    | some bracket => pure (bracket.size + 2)
    | none => pure 1
  | '\n' :: rest => pure ((rest.takeWhile isSpace).length + 1)
  | c :: rest =>
    if c == codeMark then return (← rememberingCode place rest).2 + 1
    else if endsPlain c then pure (((whole? c rest).map (·.2)).getD 0 + 1)
    else pure ((rest.takeWhile fun c => !endsPlain c).length + 1)

/-- The skipper of a reader above which texts may nest `levels` deep. -/
def skipper (definitions : List Definition) : Nat → Skipper
  | 0 => remembering fun _ t => pure (t.length + 1)
  | levels + 1 => remembering (tokenLength definitions (skipper definitions levels))

/-- How deep texts of links and images may nest. -/
def maxLevels : Nat := 20

end CypherPages.Markdown
