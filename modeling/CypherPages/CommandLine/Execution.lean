import CypherPages.Build.MarkdownPage
import CypherPages.CommandLine.Command
import CypherPages.Document.Publish
import CypherPages.Files.Tree
import CypherPages.Page.Reader
import CypherPages.Page.Writer
import CypherPages.Run.Runner

/-! # Executing commands

A command reads one source, makes one output of it and delivers that output to one place. The
output is complete before anything is delivered, so a command that fails before delivers nothing.
An output that cannot be encoded fails when its file is already open, and so empty. -/

namespace CypherPages.CommandLine

inductive Failure
  | settings (error : SettingsError)
  /-- A path holds a character that no path may hold. -/
  | unusablePath
  | file (error : FileError)
  | document (refusal : Document.Refusal)
  | publish (error : PublishError)
  | page (refusal : Page.Refusal)
  | config (error : ConfigError)
  /-- The output holds half a surrogate pair, which has no encoding. -/
  | unencodable
  deriving DecidableEq

/-- The line that is logged for a failure of a command, if it is one of the failures that are
expected of files and documents. -/
def Failure.logLine? (command : Command) : Failure → Option Text
  | .file error => some (command.name ++ ": ".toList ++ error.message)
  | .document (.format error) => some error.report.text
  | _ => none

/-- Where a command is executed. -/
structure Surroundings where
  environment : List (Text × Text)
  files : FileTree
  input : Text
  server : Request → Reply

/-- What a command has left to do once its source is read: to run a page, or nothing. -/
inductive Work
  | finished (output : Text)
  | run (runner : Runner) (page : Page)

namespace Work

/-- What is submitted, in the order of the blocks. -/
def submissions (server : Request → Reply) : Work → List Submission
  | .finished _ => []
  | .run runner page => (runner.runAll server page).2.1

/-- The requests that are made, in the order of the blocks. -/
def requests (server : Request → Reply) : Work → List Request
  | .finished _ => []
  | .run runner page => (submissions server (.run runner page)).flatMap runner.requests

/-- The times that queries may take, for every client that is made. -/
def timeouts : Work → List Binary64
  | .finished _ => []
  | .run runner _ => [runner.timeout]

def output (server : Request → Reply) : Work → Text
  | .finished output => output
  | .run runner page => (runner.runAll server page).2.2.toHtml

/-- The same work with another character for half a surrogate pair. -/
def readingHalfAs (c : Char) : Work → Work
  | .finished output => .finished output
  | .run runner page => .run { runner with decoder := { runner.decoder with half := c } } page

/-- Whether the output holds half a surrogate pair: it changes with the character that stands
for one. -/
def holdsHalf (server : Request → Reply) (work : Work) : Bool :=
  (work.readingHalfAs '\ufffe').output server != (work.readingHalfAs '\uffff').output server

/-- The output as it can be encoded. -/
def encoded (server : Request → Reply) (work : Work) : Except Failure Text :=
  if work.holdsHalf server then .error .unencodable else .ok (work.output server)

end Work

/-- How the responses to a run are read: with what its own calls leave of a stack of a thousand
calls. -/
def decoder : Json.Decoder := ⟨some 980, '\ufffd'⟩

/-- The timeout of a run: the one asked for, else the page's, else that of the settings. A
timeout of zero counts as none. -/
def RunArguments.resolveTimeout (arguments : RunArguments) (settings : Settings) (page : Page) :
    Except ConfigError Binary64 :=
  match arguments.timeout.filter (!·.isZero) with
  | some timeout => .ok timeout
  | none => page.timeout?.map fun stated => (stated.filter (!·.isZero)).getD settings.timeout

/-- The endpoint for blocks that neither themselves nor their page name one. -/
def RunArguments.resolveEndpoint (arguments : RunArguments) (settings : Settings) : Text :=
  CypherPages.resolveEndpoint arguments.endpoint settings.endpoint

/-- The title of a page that is built: the one asked for, else the name of the input. -/
def BuildArguments.resolveTitle (arguments : BuildArguments) : Text :=
  (nonEmpty? arguments.title).getD (Path.ofText arguments.input).stem

def usablePath (t : Text) : Except Failure Path :=
  if t.contains '\x00' then .error .unusablePath else .ok (.ofText t)

/-- The lines of the file that a text names, every line end written as a line feed. -/
def readFile (files : FileTree) (name : Text) : Except Failure Text := do
  let path ← usablePath name
  ((files.read path).mapError .file).map Text.normalizeNewlines

namespace Command

/-- The name of the file that a command reads, none for standard input. -/
def input? : Command → Option Text
  | .build arguments => some arguments.input
  | .filter _ => none
  | .run arguments => some arguments.input

/-- The name of the file that a command writes, none for standard output. -/
def output? : Command → Option Text
  | .build arguments => nonEmpty? arguments.output
  | .filter _ => none
  | .run arguments => nonEmpty? arguments.output

/-- What a command makes of its source. -/
def work (command : Command) (settings : Settings) (source : Text) : Except Failure Work :=
  match command with
  | .build arguments =>
    ((MarkdownPage.build settings source arguments.resolveTitle arguments.format).map
      Work.finished).mapError fun error => .publish (.assets error)
  | .filter format => do
    let document ← (Document.read source).mapError .document
    let published ← (document.publish format settings).mapError .publish
    return .finished published.write
  | .run arguments => do
    let page ← (Page.read source).mapError .page
    let timeout ← (arguments.resolveTimeout settings page).mapError .config
    return .run ⟨timeout, arguments.resolveEndpoint settings, decoder⟩ page

def settingsFile : Text := ".env".toList

def workIn (command : Command) (surroundings : Surroundings) : Except Failure Work := do
  let file := (surroundings.files.read (.ofText settingsFile)).toOption
  let settings ← (Settings.read surroundings.environment file).mapError .settings
  let source ← match command.input? with
    | some name => readFile surroundings.files name
    | none => .ok surroundings.input
  command.work settings source

/-- What a delivery leaves behind. -/
structure Delivery where
  failure : Option Failure
  printed : Text
  files : FileTree

/-- What is wrong with an output, if anything is. -/
def failure? : Except Failure Text → Option Failure
  | .ok _ => none
  | .error failure => some failure

/-- Deliver an output. Its file is opened first, which empties it. -/
def deliver (command : Command) (files : FileTree) (output : Except Failure Text) : Delivery :=
  let text := output.toOption.getD []
  match command.output? with
  | none => ⟨failure? output, text, files⟩
  | some name =>
    match (usablePath name).bind fun path => (files.write path text).mapError .file with
    | .error failure => ⟨some failure, [], files⟩
    | .ok written => ⟨failure? output, [], written⟩

/-- What the execution of a command leaves behind. -/
structure Outcome where
  failure : Option Failure
  printed : Text
  files : FileTree
  requests : List Request
  timeouts : List Binary64

def execute (command : Command) (surroundings : Surroundings) : Outcome :=
  match command.workIn surroundings with
  | .error failure => ⟨some failure, [], surroundings.files, [], []⟩
  | .ok work =>
    let delivery := command.deliver surroundings.files (work.encoded surroundings.server)
    ⟨delivery.failure, delivery.printed, delivery.files, work.requests surroundings.server,
      work.timeouts⟩

end Command

end CypherPages.CommandLine
