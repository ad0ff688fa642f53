import CypherPages.Build.CodeBlock
import CypherPages.Html.Lexer
import CypherPages.Json.Reader
import CypherPages.Page.Basic

/-! # Reading a page

A page is read in one pass over its tokens. A query block opens with its start tag and closes
with the first end tag of its kind; a result region belongs to the block that it directly
follows. The configuration is the content of the last script element of its identifier that
holds a JSON object. One that cannot be read although it is JSON keeps the page from being read. -/

namespace CypherPages.Page

/-- A query block whose end is not reached yet. -/
structure OpenBlock where
  attributes : Entries Text Text
  startTagEnd : Nat
  /-- Just past the start tag of the block's control region. -/
  controlsAt : Option Nat
  hasRunButton : Bool
  /-- How many code elements are open. -/
  codeDepth : Nat
  /-- The text met so far inside code elements. -/
  query : Text

/-- An open block is closed by a tag that ends at `stop`. -/
def OpenBlock.close (block : OpenBlock) (stop : Nat) : QueryBlock :=
  { query := block.query
    attributes := block.attributes
    startTagEnd := block.startTagEnd
    stop := stop
    controls := block.controlsAt.map fun insertAt =>
      ⟨[], some ⟨insertAt, block.hasRunButton⟩⟩
    result := none }

/-- Where a reader stands with regard to query blocks. -/
inductive Place
  | outside
  | inBlock (block : OpenBlock)
  /-- After a block with nothing but blanks in between. -/
  | afterBlock (block : QueryBlock)
  /-- In the result region of a block; `depth` counts its open divisions. -/
  | inResult (block : QueryBlock) (start depth : Nat)

structure Reading where
  /-- The blocks that are complete with their result regions. -/
  complete : List QueryBlock
  place : Place
  /-- The text of the configuration that is being read. -/
  capture : Option Text
  /-- The configuration so far, or why it cannot be read. -/
  config : Except Json.Failure (List (Text × Json))

namespace Reading

def start : Reading := ⟨[], .outside, none, .ok []⟩

/-- All closed blocks in order. -/
def blocks (reading : Reading) : List QueryBlock :=
  match reading.place with
  | .afterBlock block | .inResult block _ _ => reading.complete ++ [block]
  | _ => reading.complete

/-- No result region can follow the last block any more. -/
def leaveBlock (reading : Reading) : Reading :=
  match reading.place with
  | .afterBlock block => { reading with complete := reading.complete ++ [block], place := .outside }
  | _ => reading

/-- A start tag inside an open block. -/
def openInside (block : OpenBlock) (name : Text) (classes : List Text) (stop : Nat) : OpenBlock :=
  if name == "code".toList then { block with codeDepth := block.codeDepth + 1 }
  else if name == "div".toList && classes.contains ControlRegion.elementClass &&
      block.controlsAt.isNone then
    { block with controlsAt := some stop }
  else if name == "button".toList && classes.contains Control.buttonClass &&
      block.controlsAt.isSome then
    { block with hasRunButton := true }
  else block

/-- A start tag that neither opens nor stands in a result region. -/
def openElement (reading : Reading) (name : Text) (attributes : Entries Text Text)
    (classes : List Text) (stop : Nat) : Reading :=
  if name == "script".toList && attributes.get? "id".toList == some Dependency.configId then
    { reading with capture := some [] }
  else
    match reading.place with
    | .inBlock block => { reading with place := .inBlock (openInside block name classes stop) }
    | _ =>
      if name == "pre".toList && classes.contains CodeBlock.publishedClass then
        { reading with place := .inBlock ⟨attributes, stop, none, false, 0, []⟩ }
      else reading

/-- A start tag that stands from `start` to `stop`. -/
def startTag (reading : Reading) (name : Text) (attributes : Entries Text Text)
    (start stop : Nat) : Reading :=
  let classes := Text.words ((attributes.get? "class".toList).getD [])
  match reading.place with
  | .inResult block regionStart depth =>
    if name == "div".toList then
      { reading with place := .inResult block regionStart (depth + 1) }
    else reading
  | .afterBlock block =>
    if name == "div".toList && classes.contains ResultRegion.elementClass then
      { reading with place := .inResult block start 1 }
    else reading.leaveBlock.openElement name attributes classes stop
  | _ => reading.openElement name attributes classes stop

/-- The configuration after one with this content. Content that is not a JSON object is
ignored. -/
def nextConfig (content : Text) (config : List (Text × Json)) :
    Except Json.Failure (List (Text × Json)) :=
  match Json.read content with
  | .ok (.object fields) => .ok fields
  | .ok _ | .error (.malformed _ _) => .ok config
  | .error failure => .error failure

/-- The end of the configuration. -/
def endCapture (reading : Reading) (content : Text) : Reading :=
  { reading with capture := none, config := reading.config.bind (nextConfig content) }

/-- An end tag outside every result region, with its bracket just before `stop`. -/
def closeElement (reading : Reading) (name : Text) (stop : Nat) : Reading :=
  match reading.capture, name == "script".toList with
  | some content, true => reading.endCapture content
  | _, _ =>
    match reading.place with
    | .inBlock block =>
      if name == "code".toList then
        { reading with place := .inBlock { block with codeDepth := block.codeDepth - 1 } }
      else if name == "pre".toList then
        { reading with place := .afterBlock (block.close stop) }
      else reading
    | _ => reading

/-- An end tag with its bracket just before `stop`. -/
def endTag (reading : Reading) (name : Text) (stop : Nat) : Reading :=
  match reading.place with
  | .inResult block start depth =>
    if name == "div".toList then
      if depth = 1 then
        { reading with
          complete := reading.complete ++
            [{ block with result := some { ResultRegion.empty with span := some (start, stop) } }]
          place := .outside }
      else { reading with place := .inResult block start (depth - 1) }
    else reading
  | _ => reading.leaveBlock.closeElement name stop

def text (reading : Reading) (decoded : Text) : Reading :=
  match reading.capture with
  | some content => { reading with capture := some (content ++ decoded) }
  | none =>
    match reading.place with
    | .inBlock block =>
      if block.codeDepth = 0 then reading
      else { reading with place := .inBlock { block with query := block.query ++ decoded } }
    | .afterBlock _ => if decoded.isBlankText then reading else reading.leaveBlock
    | _ => reading

/-- The attributes of a tag by name: a name given twice keeps its first place and its last
value, and a missing value is empty. -/
def byName (attributes : List (Text × Option Text)) : Entries Text Text :=
  Entries.ofPairs (attributes.map fun (name, value) => (name, value.getD []))

/-- A token that starts at `offset`. An element ends at the first closing bracket of its end
tag, or of its own tag if that ends it. -/
def token (reading : Reading) (offset : Nat) (token : Html.Token) : Reading :=
  let stop := offset + (token.lexeme.takeWhile (· ≠ '>')).length + 1
  match token.event with
  | .text decoded => reading.text decoded
  | .startTag name attributes selfClosing =>
    let opened := reading.startTag name (byName attributes) offset (offset + token.lexeme.length)
    if selfClosing then opened.endTag name stop else opened
  | .endTag name => reading.endTag name stop
  | .skipped => reading

/-- A sequence of tokens, the first of which starts at `offset`. -/
def tokens (reading : Reading) (offset : Nat) : List Html.Token → Reading
  | [] => reading
  | token :: rest => (reading.token offset token).tokens (offset + token.lexeme.length) rest

end Reading

/-- Why a page cannot be read. -/
inductive Refusal
  | markup (refusal : Html.Refusal)
  /-- A configuration is JSON, and cannot be read. -/
  | config (failure : Json.Failure)
  deriving DecidableEq

def read (source : Text) : Except Refusal Page :=
  ((Html.tokens source).mapError .markup).bind fun tokens =>
    let reading := Reading.start.tokens 0 tokens
    (reading.config.mapError .config).map fun config =>
      { source, blocks := reading.blocks, config, controlsAttached := false }

end CypherPages.Page
