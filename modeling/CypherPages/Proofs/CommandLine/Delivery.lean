import CypherPages.CommandLine.Execution
import CypherPages.Proofs.Build.DataAttribute
import CypherPages.Proofs.Files.Tree
import CypherPages.Proofs.Page.Splice
import CypherPages.Proofs.Results

/-! # What a command leaves behind

A command makes one output, a complete page or document, and delivers it to one place: to the
file that was asked for, or to standard output. A command that fails on the way prints nothing
and leaves all files as they were, with one exception: an output that holds half a surrogate pair
cannot be encoded, and the file that it was to go to is left empty. -/

namespace CypherPages.CommandLine

/-- The settings for commands in these surroundings. -/
def Surroundings.Provides (surroundings : Surroundings) (settings : Settings) : Prop :=
  Settings.read surroundings.environment
    (surroundings.files.read (.ofText Command.settingsFile)).toOption = .ok settings

/-- The text of the file that a name leads to, with its line ends as line feeds. -/
def Surroundings.Holds (surroundings : Surroundings) (name text : Text) : Prop :=
  '\x00' ∉ name ∧ ∃ content, surroundings.files.read (.ofText name) = .ok content ∧
    text = content.normalizeNewlines

/-- An output that does not change with what stands for half a surrogate pair is encoded. -/
theorem Work.encoded_eq_ok {server : Request → Reply} {work : Work}
    (h : ∀ half, (work.readingHalfAs half).output server = work.output server) :
    work.encoded server = .ok (work.output server) := by
  rw [encoded, holdsHalf, h, h, bne_self_eq_false]
  rfl

namespace Command

/-- The complete output that a command makes in its surroundings: the page of a Markdown file, the
published form of the document on standard input, or a page with the outcomes of its queries. For
half a surrogate pair in a response there is `half`. -/
inductive Makes (surroundings : Surroundings) (half : Char) : Command → Text → Prop
  | build {arguments : BuildArguments} {settings : Settings} {source page : Text}
      (hsettings : surroundings.Provides settings)
      (hsource : surroundings.Holds arguments.input source)
      (hpage : MarkdownPage.build settings source arguments.resolveTitle arguments.format =
        .ok page) : Makes surroundings half (.build arguments) page
  | filter {format : Text} {settings : Settings} {document published : Document}
      (hsettings : surroundings.Provides settings)
      (hdocument : Document.read surroundings.input = .ok document)
      (hpublished : document.publish format settings = .ok published) :
      Makes surroundings half (.filter format) published.write
  | run {arguments : RunArguments} {settings : Settings} {source : Text} {page : Page}
      {timeout : Binary64} (hsettings : surroundings.Provides settings)
      (hsource : surroundings.Holds arguments.input source)
      (hpage : Page.read source = .ok page)
      (htimeout : arguments.resolveTimeout settings page = .ok timeout) :
      Makes surroundings half (.run arguments)
        (Runner.runAll ⟨timeout, arguments.resolveEndpoint settings, { decoder with half }⟩
          surroundings.server page).2.2.toHtml

/-- The output of a command holds half a surrogate pair: it changes with what stands for one. -/
def HoldsHalf (command : Command) (surroundings : Surroundings) : Prop :=
  ∃ output other, command.Makes surroundings '\ufffe' output ∧
    command.Makes surroundings '\uffff' other ∧ output ≠ other

/-- The name that was given for an output file. -/
def outputName? : Command → Option Text
  | .build arguments => arguments.output
  | .filter _ => none
  | .run arguments => arguments.output

/-- A delivery of an output: what is printed, and the files after it. An empty name for an output
file counts as none. -/
inductive Delivers (command : Command) (before : FileTree) (output : Text) :
    (printed : Text) → (after : FileTree) → Prop
  | toFile {name : Text} {after : FileTree} (hname : command.outputName? = some name)
      (hne : name ≠ []) (hafter : before.Written (.ofText name) output after) :
      Delivers command before output [] after
  | toStandardOutput (hname : ∀ name, command.outputName? = some name → name = []) :
      Delivers command before output output before

/-! ### Making an output -/

theorem usablePath_of_not_mem {name : Text} (h : '\x00' ∉ name) :
    usablePath name = .ok (.ofText name) := if_neg (by simpa using h)

theorem ne_unencodable_of_mapError {ε α : Type} {result : Except ε α} {change : ε → Failure}
    {failure : Failure} (h : result.mapError change = .error failure)
    (hchange : ∀ error, change error ≠ .unencodable) : failure ≠ .unencodable := by
  obtain ⟨error, -, rfl⟩ := exists_of_mapError_eq_error h
  exact hchange error

theorem ne_unencodable_of_usablePath {name : Text} {failure : Failure}
    (h : usablePath name = .error failure) : failure ≠ .unencodable := by
  rw [usablePath] at h
  split_ifs at h
  cases h
  exact nofun

theorem usablePath_eq_ok {name : Text} {path : Path} (h : usablePath name = .ok path) :
    '\x00' ∉ name ∧ path = .ofText name := by
  rw [usablePath] at h
  split_ifs at h with hnul
  exact ⟨by simpa using hnul, (Except.ok.inj h).symm⟩

theorem holds_of_readFile {surroundings : Surroundings} {name text : Text}
    (h : readFile surroundings.files name = .ok text) : surroundings.Holds name text := by
  obtain ⟨path, hpath, h⟩ := exists_of_bind_eq_ok h
  obtain ⟨hname, rfl⟩ := usablePath_eq_ok hpath
  obtain ⟨content, hcontent, rfl⟩ := exists_of_map_eq_ok h
  exact ⟨hname, content, eq_ok_of_mapError hcontent, rfl⟩

theorem makes_of_workIn {command : Command} {surroundings : Surroundings} {work : Work}
    (h : command.workIn surroundings = .ok work) (half : Char) :
    command.Makes surroundings half ((work.readingHalfAs half).output surroundings.server) := by
  obtain ⟨settings, hsettings, h⟩ := exists_of_bind_eq_ok h
  have hprovides : surroundings.Provides settings := eq_ok_of_mapError hsettings
  cases command with
  | build arguments =>
      have hfile : readFile surroundings.files arguments.input >>=
          (Command.build arguments).work settings = .ok work := h
      obtain ⟨source, hsource, h⟩ := exists_of_bind_eq_ok hfile
      obtain ⟨page, hpage, rfl⟩ := exists_of_map_eq_ok (eq_ok_of_mapError h)
      exact .build hprovides (holds_of_readFile hsource) hpage
  | filter format =>
      have hinput : (Command.filter format).work settings surroundings.input = .ok work := h
      rw [Command.work] at hinput
      obtain ⟨document, hdocument, h⟩ := exists_of_bind_eq_ok hinput
      obtain ⟨published, hpublished, h⟩ := exists_of_bind_eq_ok h
      cases h
      exact .filter hprovides (eq_ok_of_mapError hdocument) (eq_ok_of_mapError hpublished)
  | run arguments =>
      have hfile : readFile surroundings.files arguments.input >>=
          (Command.run arguments).work settings = .ok work := h
      obtain ⟨source, hsource, h⟩ := exists_of_bind_eq_ok hfile
      obtain ⟨page, hpage, h⟩ := exists_of_bind_eq_ok h
      obtain ⟨timeout, htimeout, h⟩ := exists_of_bind_eq_ok h
      cases h
      exact .run hprovides (holds_of_readFile hsource) (eq_ok_of_mapError hpage)
        (eq_ok_of_mapError htimeout)

theorem readFile_of_holds {surroundings : Surroundings} {name text : Text}
    (h : surroundings.Holds name text) : readFile surroundings.files name = .ok text := by
  obtain ⟨hname, content, hread, rfl⟩ := h
  rw [readFile, usablePath_of_not_mem hname]
  change ((surroundings.files.read (.ofText name)).mapError Failure.file).map _ = _
  rw [hread]
  rfl

theorem workIn_of_provides {command : Command} {surroundings : Surroundings} {settings : Settings}
    (h : surroundings.Provides settings) :
    command.workIn surroundings = match command.input? with
      | some name => readFile surroundings.files name >>= command.work settings
      | none => command.work settings surroundings.input := by
  rw [workIn, h]
  rfl

/-- The work of a run on a page that was read, if its timeout makes sense. -/
theorem workIn_run {arguments : RunArguments} {surroundings : Surroundings} {settings : Settings}
    {source : Text} {page : Page} (hsettings : surroundings.Provides settings)
    (hsource : surroundings.Holds arguments.input source) (hpage : Page.read source = .ok page) :
    (Command.run arguments).workIn surroundings =
      ((arguments.resolveTimeout settings page).mapError Failure.config).map fun timeout =>
        Work.run ⟨timeout, arguments.resolveEndpoint settings, decoder⟩ page := by
  rw [workIn_of_provides hsettings, input?]
  dsimp only
  rw [readFile_of_holds hsource]
  change ((Page.read source).mapError Failure.page >>= _) = _
  rw [hpage]
  rfl

theorem workIn_of_makes {command : Command} {surroundings : Surroundings} {half : Char}
    {output : Text} (h : command.Makes surroundings half output) :
    ∃ work, command.workIn surroundings = .ok work ∧
      (work.readingHalfAs half).output surroundings.server = output := by
  cases h with
  | @build arguments settings source _ hsettings hsource hpage =>
      refine ⟨.finished output, ?_, rfl⟩
      rw [workIn_of_provides hsettings, input?]
      dsimp only
      rw [readFile_of_holds hsource]
      change ((MarkdownPage.build _ _ _ _).map _).mapError _ = _
      rw [hpage]
      rfl
  | @filter format settings document published hsettings hdocument hpublished =>
      refine ⟨.finished published.write, ?_, rfl⟩
      rw [workIn_of_provides hsettings, input?, work, hdocument]
      change ((document.publish format settings).mapError Failure.publish >>= _) = _
      rw [hpublished]
      rfl
  | @run arguments settings source page timeout hsettings hsource hpage htimeout =>
      refine ⟨.run ⟨timeout, arguments.resolveEndpoint settings, decoder⟩ page, ?_, rfl⟩
      rw [workIn_run hsettings hsource hpage, htimeout]
      rfl

/-- A command makes one output at most. -/
theorem Makes.unique {command : Command} {surroundings : Surroundings} {half : Char}
    {output other : Text} (h : command.Makes surroundings half output)
    (hother : command.Makes surroundings half other) : other = output := by
  obtain ⟨work, hwork, rfl⟩ := workIn_of_makes h
  obtain ⟨otherWork, hotherWork, rfl⟩ := workIn_of_makes hother
  rw [Except.ok.inj (hotherWork.symm.trans hwork)]

/-- Whether there is an output does not depend on what stands for half a pair. -/
theorem Makes.exists_with {command : Command} {surroundings : Surroundings} {half : Char}
    {output : Text} (h : command.Makes surroundings half output) (other : Char) :
    ∃ output, command.Makes surroundings other output := by
  obtain ⟨work, hwork, -⟩ := workIn_of_makes h
  exact ⟨_, makes_of_workIn hwork other⟩

/-! ### Delivering an output -/

theorem Delivers.printed_eq_nil {command : Command} {before after : FileTree} {printed : Text}
    (h : command.Delivers before [] printed after) : printed = [] := by
  cases h <;> rfl

/-- The file that an output is to go to, if there is one, can be written. -/
def CanDeliver (command : Command) (files : FileTree) : Prop :=
  ∀ name, command.outputName? = some name → name ≠ [] →
    '\x00' ∉ name ∧ ∃ place, files.locate (.ofText name) = .ok place ∧
      files.isDirectory place = false

theorem canDeliver_of_locate {command : Command} {files : FileTree} {name : Text} {place : Place}
    (hname : command.outputName? = some name) (hnul : '\x00' ∉ name)
    (hlocate : files.locate (.ofText name) = .ok place) (hplace : files.isDirectory place = false) :
    command.CanDeliver files := by
  intro other hother _
  obtain rfl := Option.some.inj (hname.symm.trans hother)
  exact ⟨hnul, place, hlocate, hplace⟩

theorem output?_cases (command : Command) :
    (∃ name, name ≠ [] ∧ command.outputName? = some name ∧ command.output? = some name) ∨
      ((∀ name, command.outputName? = some name → name = []) ∧ command.output? = none) := by
  cases command with
  | build arguments => exact nonEmpty?_cases arguments.output
  | filter format => exact nonEmpty?_cases none
  | run arguments => exact nonEmpty?_cases arguments.output

theorem delivers_of_usablePath {command : Command} {before after : FileTree} {name text : Text}
    (hname : command.outputName? = some name) (hne : name ≠ [])
    (h : ((usablePath name).bind fun path => (before.write path text).mapError .file) =
      .ok after) : command.CanDeliver before ∧ command.Delivers before text [] after := by
  obtain ⟨path, hpath, h⟩ := exists_of_bind_eq_ok h
  obtain ⟨hnul, rfl⟩ := usablePath_eq_ok hpath
  have hwrite := eq_ok_of_mapError h
  obtain ⟨place, hlocate, hplace, -⟩ := FileTree.write_eq_ok hwrite
  exact ⟨canDeliver_of_locate hname hnul hlocate hplace,
    .toFile hname hne (FileTree.written_of_write hwrite)⟩

theorem not_canDeliver_of_usablePath {command : Command} {files : FileTree} {name text : Text}
    (hname : command.outputName? = some name) (hne : name ≠ []) {failure : Failure}
    (h : ((usablePath name).bind fun path => (files.write path text).mapError .file) =
      .error failure) : ¬ command.CanDeliver files ∧ failure ≠ .unencodable := by
  refine ⟨fun hcan => ?_, ?_⟩
  · obtain ⟨hnul, place, hlocate, hplace⟩ := hcan name hname hne
    rw [usablePath_of_not_mem hnul] at h
    obtain ⟨error, herror, -⟩ := exists_of_mapError_eq_error h
    cases herror.symm.trans (FileTree.write_of_locate hlocate hplace text)
  · rcases error_of_bind h with hpath | ⟨path, -, hfile⟩
    · exact ne_unencodable_of_usablePath hpath
    · exact ne_unencodable_of_mapError hfile nofun

/-- An output is delivered, what is left of it if it is none, or cannot be delivered at all. -/
theorem deliver_cases (command : Command) (files : FileTree) (output : Except Failure Text) :
    (∃ failure, failure ≠ .unencodable ∧ ¬ command.CanDeliver files ∧
      command.deliver files output = ⟨some failure, [], files⟩) ∨
    ∃ printed after, command.CanDeliver files ∧
      command.Delivers files (output.toOption.getD []) printed after ∧
      command.deliver files output = ⟨failure? output, printed, after⟩ := by
  rcases command.output?_cases with ⟨name, hne, hname, houtput⟩ | ⟨hname, houtput⟩
  · cases hwrite : (usablePath name).bind fun path =>
        (files.write path (output.toOption.getD [])).mapError Failure.file with
    | error failure =>
        obtain ⟨hcannot, hencodable⟩ := not_canDeliver_of_usablePath hname hne hwrite
        exact .inl ⟨failure, hencodable, hcannot, by simp only [deliver, houtput, hwrite]⟩
    | ok after =>
        obtain ⟨hcan, hdelivers⟩ := delivers_of_usablePath hname hne hwrite
        exact .inr ⟨[], after, hcan, hdelivers, by simp only [deliver, houtput, hwrite]⟩
  · refine .inr ⟨output.toOption.getD [], files, fun name hgiven hne => ?_,
      .toStandardOutput hname, by simp only [deliver, houtput]⟩
    exact absurd (hname name hgiven) hne

end Command

/-! ### Command lines -/

/-- How a command line ends that makes a command. -/
inductive Ending
  | returns (status : ℕ)
  /-- A failure that is not expected of files and documents comes through. -/
  | escapes (failure : Failure)
  deriving DecidableEq

/-- What a command line leaves behind. -/
structure Invocation where
  ending : Ending
  printed : Text
  files : FileTree

/-- The ending of a command with a failure or without one. A failure that is logged makes the
command return. -/
def Command.ending (command : Command) : Option Failure → Ending
  | none => .returns 0
  | some failure => if (failure.logLine? command).isSome then .returns 1 else .escapes failure

/-- Make a command of words and execute it. -/
def invoke (words : List Text) (surroundings : Surroundings) : Except Halt Invocation :=
  (Command.read words).map fun command =>
    let outcome := command.execute surroundings
    ⟨command.ending outcome.failure, outcome.printed, outcome.files⟩

/-- What a command line leaves behind: an output, or nothing, or an empty file. -/
structure Invocation.LeavesBehind (command : Command) (surroundings : Surroundings)
    (invocation : Invocation) : Prop where
  /-- A command that fails prints nothing and keeps all files, if its output can be encoded. -/
  nothing : invocation.ending = .returns 1 ∨
      (∃ failure, failure ≠ .unencodable ∧ invocation.ending = .escapes failure) →
    invocation.printed = [] ∧ invocation.files = surroundings.files
  /-- An output that cannot be encoded leaves its file empty, whatever was in it. -/
  emptied : invocation.ending = .escapes .unencodable →
    invocation.printed = [] ∧ command.Delivers surroundings.files [] [] invocation.files
  /-- A command that succeeds makes one output, which goes to one place. -/
  all : invocation.ending = .returns 0 → ∃ output,
    command.Makes surroundings decoder.half output ∧
    (∀ other, command.Makes surroundings decoder.half other → other = output) ∧
      command.Delivers surroundings.files output invocation.printed invocation.files
  /-- There is no other status. -/
  status : ∀ status, invocation.ending = .returns status → status = 0 ∨ status = 1
  succeeds_iff : invocation.ending = .returns 0 ↔
    (∃ output, command.Makes surroundings decoder.half output) ∧
      command.CanDeliver surroundings.files ∧ ¬ command.HoldsHalf surroundings
  unencodable_iff : invocation.ending = .escapes .unencodable ↔
    command.CanDeliver surroundings.files ∧ command.HoldsHalf surroundings

namespace Command

theorem ending_eq_returns_zero_iff {command : Command} {failure : Option Failure} :
    command.ending failure = .returns 0 ↔ failure = none := by
  cases failure with
  | none => exact iff_of_true rfl rfl
  | some failure =>
      rw [ending]
      split <;> simp

theorem ending_eq_returns (command : Command) (failure : Option Failure) {status : ℕ}
    (h : command.ending failure = .returns status) : status = 0 ∨ status = 1 := by
  cases failure with
  | none => exact .inl (Ending.returns.inj h).symm
  | some failure =>
      rw [ending] at h
      split at h
      · exact .inr (Ending.returns.inj h).symm
      · cases h

theorem ending_eq_escapes {command : Command} {failure other : Failure}
    (h : command.ending (some failure) = .escapes other) : other = failure := by
  rw [ending] at h
  split at h
  · cases h
  · exact (Ending.escapes.inj h).symm

/-- What the execution of a command comes to: its failure, what it prints and the files after
it. -/
inductive ComesTo (command : Command) (surroundings : Surroundings) :
    Option Failure → Text → FileTree → Prop
  /-- There is no output, or it cannot be delivered. -/
  | fails {failure : Failure} (hne : failure ≠ .unencodable)
      (hnot : (∃ output, command.Makes surroundings decoder.half output) →
        ¬ command.CanDeliver surroundings.files) :
      ComesTo command surroundings (some failure) [] surroundings.files
  /-- The output cannot be encoded, and none of it is delivered. -/
  | empties {printed : Text} {after : FileTree} (hcan : command.CanDeliver surroundings.files)
      (hhalf : command.HoldsHalf surroundings)
      (hdelivers : command.Delivers surroundings.files [] printed after) :
      ComesTo command surroundings (some .unencodable) printed after
  | delivers {output printed : Text} {after : FileTree}
      (hmakes : command.Makes surroundings decoder.half output)
      (hcan : command.CanDeliver surroundings.files) (hhalf : ¬ command.HoldsHalf surroundings)
      (hdelivers : command.Delivers surroundings.files output printed after) :
      ComesTo command surroundings none printed after

/-- A command takes its settings, then its source, and then works on it. -/
theorem workIn_eq (command : Command) (surroundings : Surroundings) :
    command.workIn surroundings =
      ((Settings.read surroundings.environment
        (surroundings.files.read (.ofText settingsFile)).toOption).mapError .settings >>=
          fun settings => (match command.input? with
            | some name => readFile surroundings.files name
            | none => .ok surroundings.input) >>= command.work settings) := by
  cases command <;> rfl

/-- Work on a page reads responses as all work does. -/
theorem decoder_of_workIn {command : Command} {surroundings : Surroundings} {runner : Runner}
    {page : Page} (h : command.workIn surroundings = .ok (.run runner page)) :
    runner.decoder = decoder := by
  rw [workIn_eq] at h
  obtain ⟨settings, -, h⟩ := exists_of_bind_eq_ok h
  obtain ⟨source, -, hwork⟩ := exists_of_bind_eq_ok h
  cases command with
  | build arguments =>
      obtain ⟨page, -, hfinished⟩ := exists_of_map_eq_ok (eq_ok_of_mapError hwork)
      cases hfinished
  | filter format =>
      obtain ⟨document, -, hwork⟩ := exists_of_bind_eq_ok hwork
      obtain ⟨published, -, hfinished⟩ := exists_of_bind_eq_ok hwork
      cases hfinished
  | run arguments =>
      obtain ⟨page, -, hwork⟩ := exists_of_bind_eq_ok hwork
      obtain ⟨timeout, -, hrun⟩ := exists_of_bind_eq_ok hwork
      cases hrun
      rfl

theorem readingHalfAs_half {command : Command} {surroundings : Surroundings} {work : Work}
    (h : command.workIn surroundings = .ok work) : work.readingHalfAs decoder.half = work := by
  cases work with
  | finished output => rfl
  | run runner page =>
      obtain ⟨timeout, endpoint, found⟩ := runner
      obtain rfl : found = decoder := decoder_of_workIn h
      rfl

theorem ne_unencodable_of_readFile {files : FileTree} {name : Text} {failure : Failure}
    (h : readFile files name = .error failure) : failure ≠ .unencodable := by
  rcases error_of_bind h with hpath | ⟨path, -, hread⟩
  · exact ne_unencodable_of_usablePath hpath
  · exact ne_unencodable_of_mapError (error_of_map hread) nofun

theorem ne_unencodable_of_work {command : Command} {settings : Settings} {source : Text}
    {failure : Failure} (h : command.work settings source = .error failure) :
    failure ≠ .unencodable := by
  cases command with
  | build arguments => exact ne_unencodable_of_mapError h nofun
  | filter format =>
      rcases error_of_bind h with hread | ⟨document, -, h⟩
      · exact ne_unencodable_of_mapError hread nofun
      · rcases error_of_bind h with hpublish | ⟨published, -, hfinished⟩
        · exact ne_unencodable_of_mapError hpublish nofun
        · cases hfinished
  | run arguments =>
      rcases error_of_bind h with hread | ⟨page, -, h⟩
      · exact ne_unencodable_of_mapError hread nofun
      · rcases error_of_bind h with htimeout | ⟨timeout, -, hrun⟩
        · exact ne_unencodable_of_mapError htimeout nofun
        · cases hrun

/-- Before there is an output nothing is encoded. -/
theorem ne_unencodable_of_workIn {command : Command} {surroundings : Surroundings}
    {failure : Failure} (h : command.workIn surroundings = .error failure) :
    failure ≠ .unencodable := by
  rw [workIn_eq] at h
  rcases error_of_bind h with hsettings | ⟨settings, -, h⟩
  · exact ne_unencodable_of_mapError hsettings nofun
  · rcases error_of_bind h with hsource | ⟨source, -, hwork⟩
    · split at hsource
      · exact ne_unencodable_of_readFile hsource
      · cases hsource
    · exact ne_unencodable_of_work hwork

theorem holdsHalf_iff {command : Command} {surroundings : Surroundings} {work : Work}
    (h : command.workIn surroundings = .ok work) :
    command.HoldsHalf surroundings ↔ work.holdsHalf surroundings.server = true := by
  rw [Work.holdsHalf, bne_iff_ne]
  constructor
  · rintro ⟨output, other, hmakes, hother, hne⟩
    rwa [(makes_of_workIn h _).unique hmakes, (makes_of_workIn h _).unique hother] at hne
  · exact fun hne => ⟨_, _, makes_of_workIn h _, makes_of_workIn h _, hne⟩

/-- A command fails and leaves nothing behind, or leaves its file empty, or delivers its
output. -/
theorem comesTo_execute (command : Command) (surroundings : Surroundings) :
    let outcome := command.execute surroundings
    command.ComesTo surroundings outcome.failure outcome.printed outcome.files := by
  intro outcome
  cases hwork : command.workIn surroundings with
  | error failure =>
      have houtcome : outcome = ⟨some failure, [], surroundings.files, [], []⟩ := by
        simp only [outcome, execute, hwork]
      rw [houtcome]
      refine .fails (ne_unencodable_of_workIn hwork) ?_
      rintro ⟨output, hmakes⟩
      obtain ⟨work, hmade, -⟩ := workIn_of_makes hmakes
      cases hwork.symm.trans hmade
  | ok work =>
      have houtcome : outcome =
          let delivery := command.deliver surroundings.files (work.encoded surroundings.server)
          ⟨delivery.failure, delivery.printed, delivery.files,
            work.requests surroundings.server, work.timeouts⟩ := by
        simp only [outcome, execute, hwork]
      have hmakes := makes_of_workIn hwork decoder.half
      have hhalf := holdsHalf_iff hwork
      rw [readingHalfAs_half hwork] at hmakes
      rw [houtcome]
      rcases command.deliver_cases surroundings.files (work.encoded surroundings.server) with
        ⟨failure, hne, hcannot, hdeliver⟩ | ⟨printed, after, hcan, hdelivers, hdeliver⟩
      · rw [hdeliver]
        exact .fails hne fun _ => hcannot
      · rw [hdeliver]
        rw [Work.encoded] at hdelivers ⊢
        cases hholds : work.holdsHalf surroundings.server with
        | true =>
            rw [hholds] at hdelivers
            exact .empties hcan (hhalf.mpr hholds) hdelivers
        | false =>
            rw [hholds] at hdelivers
            exact .delivers hmakes hcan (by rw [hhalf, hholds]; exact Bool.false_ne_true) hdelivers

theorem ending_ne_escapes_unencodable {command : Command} {failure : Failure}
    (h : failure ≠ .unencodable) : command.ending (some failure) ≠ .escapes .unencodable :=
  fun hescapes => h (ending_eq_escapes hescapes).symm

theorem ComesTo.leavesBehind {command : Command} {surroundings : Surroundings}
    {failure : Option Failure} {printed : Text} {after : FileTree}
    (h : command.ComesTo surroundings failure printed after) :
    (Invocation.mk (command.ending failure) printed after).LeavesBehind command surroundings := by
  cases h with
  | @fails failure hne hnot =>
      have hsome : command.ending (some failure) ≠ .returns 0 := fun h =>
        nomatch ending_eq_returns_zero_iff.mp h
      exact {
        nothing := fun _ => ⟨rfl, rfl⟩
        emptied := fun h => absurd h (ending_ne_escapes_unencodable hne)
        all := fun h => absurd h hsome
        status := fun _ h => command.ending_eq_returns (some failure) h
        succeeds_iff := iff_of_false hsome fun ⟨hmakes, hcan, _⟩ => hnot hmakes hcan
        unencodable_iff := iff_of_false (ending_ne_escapes_unencodable hne)
          fun ⟨hcan, output, _, hmakes, _⟩ => hnot (hmakes.exists_with _) hcan }
  | empties hcan hhalf hdelivers =>
      obtain rfl := hdelivers.printed_eq_nil
      exact {
        nothing := by
          rintro (hreturns | ⟨failure, hne, hescapes⟩)
          · cases hreturns
          · exact absurd (Ending.escapes.inj hescapes).symm hne
        emptied := fun _ => ⟨rfl, hdelivers⟩
        all := fun h => nomatch h
        status := fun _ h => nomatch h
        succeeds_iff := iff_of_false nofun fun ⟨_, _, hnot⟩ => hnot hhalf
        unencodable_iff := iff_of_true rfl ⟨hcan, hhalf⟩ }
  | delivers hmakes hcan hhalf hdelivers =>
      exact {
        nothing := by rintro (h | ⟨_, _, h⟩) <;> cases h
        emptied := fun h => nomatch h
        all := fun _ => ⟨_, hmakes, fun _ => hmakes.unique, hdelivers⟩
        status := fun _ h => command.ending_eq_returns none h
        succeeds_iff := iff_of_true rfl ⟨⟨_, hmakes⟩, hcan, hhalf⟩
        unencodable_iff := iff_of_false nofun fun ⟨_, hholds⟩ => hhalf hholds }

end Command

/-- A command that words make leaves something behind. -/
theorem exists_invocation {words : List Text} {command : Command}
    (h : Command.read words = .ok command) (surroundings : Surroundings) :
    ∃ invocation, invoke words surroundings = .ok invocation ∧
      invocation.LeavesBehind command surroundings :=
  ⟨_, congrArg (Except.map _) h, (command.comesTo_execute surroundings).leavesBehind⟩

end CypherPages.CommandLine
