import CypherPages.CommandLine.Word
import CypherPages.Number.Numeral
import CypherPages.Text.Blank

/-! # Commands

The words of a command line make a command, or end in help or in a usage error. Words are taken
from left to right, and the first of them that asks for help or makes no sense decides; a word
that is left over, and an operand that is missing, count only when all words are taken. -/

namespace CypherPages.CommandLine

structure BuildArguments where
  input : Text
  output : Option Text
  title : Option Text
  format : Text
  deriving DecidableEq

structure RunArguments where
  input : Text
  output : Option Text
  timeout : Option Binary64
  endpoint : Option Text
  deriving DecidableEq

/-- A command. -/
inductive Command
  /-- Make a page of a Markdown file. -/
  | build (arguments : BuildArguments)
  /-- Publish the document on standard input for an output format. -/
  | filter (format : Text)
  /-- Run the query blocks of a page. -/
  | run (arguments : RunArguments)
  deriving DecidableEq

/-- Why a command line makes no command. -/
inductive Halt
  | help
  | usage
  deriving DecidableEq

def Halt.status : Halt → Nat
  | .help => 0
  | .usage => 2

/-- The format of pages, which is the one unless another is asked for. -/
def pageFormat : Text := "html".toList

/-- The real number that a word denotes: its digits may be of any script, and white space may
stand at either end. -/
def realWord? (t : Text) : Option Binary64 :=
  Numeral.real? (Text.trimWhiteSpace (t.map asciiDigit))

def OptionName.accepts : OptionName → Text → Bool
  | .timeout, value => (realWord? value).isSome
  | _, _ => true

/-- What the words taken so far say. -/
structure Arguments where
  /-- The options with their values, the latest first. -/
  options : List (OptionName × Text)
  operand : Option Text
  /-- Whether a word was left over. -/
  leftOver : Bool

namespace Arguments

def empty : Arguments := ⟨[], none, false⟩

def leave (arguments : Arguments) : Arguments := { arguments with leftOver := true }

/-- Give an option a value. A request for help in the same word comes first. -/
def setOption (arguments : Arguments) (name : OptionName) (value : Text) (afterHelp : Bool) :
    Except Halt Arguments :=
  if afterHelp then .error .help
  else if name.accepts value then
    .ok { arguments with options := (name, value) :: arguments.options }
  else .error .usage

/-- Take words from left to right. The separator belongs to the operand that stands next to it,
on either side. -/
def take (arguments : Arguments) : List Word → Except Halt Arguments
  | [] => .ok arguments
  | .plain text :: .separator :: rest =>
    if arguments.operand.isNone then take { arguments with operand := some text } rest
    else take arguments.leave rest
  | .plain text :: rest =>
    if arguments.operand.isNone then take { arguments with operand := some text } rest
    else take arguments.leave rest
  | .separator :: rest =>
    if arguments.operand.isNone then take arguments rest else take arguments.leave rest
  | .help :: _ => .error .help
  | .option name (some value) afterHelp :: rest =>
    match arguments.setOption name value afterHelp with
    | .ok next => take next rest
    | .error halt => .error halt
  | .option name none afterHelp :: .plain value :: rest =>
    match arguments.setOption name value afterHelp with
    | .ok next => take next rest
    | .error halt => .error halt
  | .unknown :: rest => take arguments.leave rest
  | _ => .error .usage

/-- What the words of a command with these options say. -/
def read (options : List OptionName) (words : List Text) : Except Halt Arguments :=
  let words := wordsOf options words
  if words.contains .ambiguous then .error .usage else take empty words

/-- The value of an option that was given last. -/
def value? (arguments : Arguments) (name : OptionName) : Option Text :=
  arguments.options.lookup name

def complete (arguments : Arguments) : Except Halt Arguments :=
  if arguments.leftOver then .error .usage else .ok arguments

end Arguments

namespace Command

def readBuild (words : List Text) : Except Halt Command :=
  match (Arguments.read [.output, .title, .format] words).bind Arguments.complete with
  | .error halt => .error halt
  | .ok arguments =>
    match arguments.operand with
    | none => .error .usage
    | some input =>
      .ok (.build ⟨input, arguments.value? .output, arguments.value? .title,
        (arguments.value? .format).getD pageFormat⟩)

def readFilter (words : List Text) : Except Halt Command :=
  match (Arguments.read [] words).bind Arguments.complete with
  | .error halt => .error halt
  | .ok arguments => .ok (.filter (arguments.operand.getD pageFormat))

def readRun (words : List Text) : Except Halt Command :=
  match (Arguments.read [.output, .timeout, .endpoint] words).bind Arguments.complete with
  | .error halt => .error halt
  | .ok arguments =>
    match arguments.operand with
    | none => .error .usage
    | some input =>
      .ok (.run ⟨input, arguments.value? .output, (arguments.value? .timeout).bind realWord?,
        arguments.value? .endpoint⟩)

def name : Command → Text
  | .build _ => "build".toList
  | .filter _ => "filter".toList
  | .run _ => "run".toList

def readNamed (name : Text) (words : List Text) : Except Halt Command :=
  if name = "build".toList then readBuild words
  else if name = "filter".toList then readFilter words
  else if name = "run".toList then readRun words
  else .error .usage

/-- The command that a command line makes. Before the name of the command only a request for
help makes sense; an unknown option there is a usage error once the words of the command are
read. -/
def read : List Text → Except Halt Command
  | [] => .error .usage
  | text :: rest =>
    if text = separator then .error .usage
    else
      match wordOf [] text with
      | .plain name => readNamed name rest
      | .help => .error .help
      | .unknown =>
        match read rest with
        | .error halt => .error halt
        | .ok _ => .error .usage
      | _ => .error .usage

end Command

end CypherPages.CommandLine
