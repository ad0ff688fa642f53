import CypherPages.Markdown.Address
import CypherPages.Markdown.Space
import CypherPages.Markdown.Unescape
import CypherPages.Text.Fold

/-! # Targets of links

A link leads to an address and may have a title. Both stand behind the text of the link, or
behind the label of a definition. Every reader answers with what it found and the text that it
left. -/

namespace CypherPages.Markdown

/-- Where a link leads, and its title, which is empty if there is none. -/
structure LinkTarget where
  address : Text
  title : Text

/-- The destination in angle brackets whose text behind the first bracket is given. -/
def bracketedDestination? : Text → Option (Text × Text)
  | [] => none
  | '\\' :: c :: rest =>
    (bracketedDestination? rest).map fun (raw, after) => ('\\' :: c :: raw, after)
  | c :: rest =>
    if c == '>' then some ([], rest)
    else if c == '<' || c == '\n' then none
    else (bracketedDestination? rest).map fun (raw, after) => (c :: raw, after)

/-- The destination without brackets at the head of a text, inside `depth` parentheses. The
parentheses in it are balanced and at most 32 deep. -/
def bareDestination? (depth : Nat) : Text → Option (Text × Text)
  | [] => if depth = 0 then some ([], []) else none
  | c :: rest =>
    let stop := if depth = 0 then some ([], c :: rest) else none
    let more := fun (depth : Nat) =>
      (bareDestination? depth rest).map fun (raw, after) => (c :: raw, after)
    if c.toNat ≤ 0x20 || c.toNat = 0x7f then stop
    else if c == '\\' then
      match rest with
      | [] => more depth
      | d :: others =>
        if d == ' ' then stop
        else (bareDestination? depth others).map fun (raw, after) => (c :: d :: raw, after)
    else if c == '(' then
      if depth = 32 then none else more (depth + 1)
    else if c == ')' then
      if depth = 0 then some ([], c :: rest) else more (depth - 1)
    else more depth

def destination? (t : Text) : Option (Text × Text) :=
  match t with
  | '<' :: rest => (bracketedDestination? rest).map fun (raw, after) => (unescape raw, after)
  | _ =>
    match bareDestination? 0 t with
    | some (c :: raw, after) => some (unescape (c :: raw), after)
    | _ => none

/-- The characters of a title up to its closing mark. A title in parentheses holds none that
opens. -/
def titleBody? (closing : Char) : Text → Option (Text × Text)
  | [] => none
  | c :: rest =>
    if c == closing then some ([], rest)
    else if c == '(' && closing == ')' then none
    else if c == '\\' then
      match rest with
      | [] => none
      | d :: others =>
        (titleBody? closing others).map fun (raw, after) => (c :: d :: raw, after)
    else (titleBody? closing rest).map fun (raw, after) => (c :: raw, after)

/-- The title at the head of a text: in quotes of either kind or in parentheses. -/
def title? : Text → Option (Text × Text)
  | [] => none
  | c :: rest =>
    let closing := if c == '(' then ')' else c
    if c == '"' || c == '\'' || c == '(' then
      (titleBody? closing rest).map fun (raw, after) => (unescape raw, after)
    else none

/-- The title at the head of a text that starts with the space before it. -/
def spacedTitle? (t : Text) : Option (Text × Text) :=
  let trimmed := t.dropWhile isSpaceOrNewline
  if trimmed.length = t.length then none else title? trimmed

/-- What stands in the parentheses behind a link's text. -/
inductive Parenthesized
  /-- Nothing but spaces up to the end of the text. -/
  | unfinished
  /-- A target, with the text behind the closing parenthesis. -/
  | target (target : LinkTarget) (after : Text)
  /-- Something else than a target from the given text on. -/
  | broken (rest : Text)

/-- What the text behind an opening parenthesis holds. -/
def Parenthesized.ofText (t : Text) : Parenthesized :=
  let start := t.dropWhile isSpaceOrNewline
  let (address, afterAddress) :=
    match destination? start with
    | none => ([], start)
    | some (raw, after) =>
      match Address.ofText? raw with
      | some address => (address, after)
      | none => ([], start)
  let (title, afterTitle) := (spacedTitle? afterAddress).getD ([], afterAddress)
  match start, afterTitle.dropWhile isSpaceOrNewline with
  | [], _ => .unfinished
  | _, ')' :: after => .target ⟨address, title⟩ after
  | _, rest => .broken rest

/-- A definition of a link target, to which links refer by its label. -/
structure Definition where
  label : Text
  target : LinkTarget

/-- What labels are compared by: case and the amount of white space in a row do not matter. -/
def normalizeLabel (label : Text) : Text := Text.fold ([' '].intercalate (spaceWords label))

/-- The target that a label refers to: the first one defined. -/
def Definition.target? (definitions : List Definition) (label : Text) : Option LinkTarget :=
  (definitions.find? fun d => d.label == normalizeLabel label).map Definition.target

/-- The label whose text behind the opening bracket is given. It holds no opening bracket
without a backslash. -/
def label? : Text → Option (Text × Text)
  | [] => none
  | c :: rest =>
    if c == ']' then some ([], rest)
    else if c == '[' then none
    else if c == '\\' then
      match rest with
      | [] => none
      | d :: others => (label? others).map fun (raw, after) => (c :: d :: raw, after)
    else (label? rest).map fun (raw, after) => (c :: raw, after)

/-- Whether nothing but spaces stands before the end of the line at the head of a text. -/
def endsLine (t : Text) : Bool :=
  match t.dropWhile isSpace with
  | [] => true
  | c :: _ => c == '\n'

/-- The destination of a definition, which ends with its line: the address, and the text behind
it. A backslash at the end of the line is the last character of the destination, and then
nothing can follow it. -/
def definitionAddress? (t : Text) : Option (Text × Text × Bool) :=
  let line := t.takeWhile (· ≠ '\n')
  let others := t.drop line.length
  (destination? (line ++ others.take 1)).bind fun (raw, after) =>
    (Address.ofText? raw).map fun address =>
      if after.isEmpty then (address, others, false)
      else (address, after ++ others.drop 1, true)

/-- The definition at the head of a text, and the text behind it. What looks like a title but
has something behind it on its line is no title. -/
def definition? (t : Text) : Option (Definition × Text) := do
  let '[' :: inner := t | none
  let (label, ':' :: afterColon) ← label? inner | none
  let (address, afterAddress, mayHaveTitle) ←
    definitionAddress? (afterColon.dropWhile isSpaceOrNewline)
  let label := normalizeLabel label
  let untitled : Option (Definition × Text) :=
    if endsLine afterAddress && !label.isEmpty then
      some (⟨label, address, []⟩, afterAddress.dropWhile isSpace)
    else none
  match if mayHaveTitle then spacedTitle? afterAddress else none with
  | none => untitled
  | some (title, afterTitle) =>
    if endsLine afterTitle then
      if label.isEmpty then none
      else some (⟨label, address, title⟩, afterTitle.dropWhile isSpace)
    else if title.isEmpty then none
    else untitled

end CypherPages.Markdown
