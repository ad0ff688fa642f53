import CypherPages.Proofs.Build.Options
import CypherPages.Proofs.CommandLine.Delivery
import CypherPages.Proofs.Run.Calls

/-! # Options of a run

The timeout and the endpoint of a run come from several places: the options of the command line,
the page, its blocks and the settings. An option for the timeout goes before the page, unless it
is zero. One for the endpoint does not: it stands in for the endpoint of the settings, and a page
that names an endpoint goes before it. -/

namespace CypherPages.CommandLine
open Html

/-- Words that ask for a run: the name of the command, and then one operand and options in any
order. The last value of an option counts. -/
inductive AsksToRun : List Text → RunArguments → Prop
  | intro {words : List Text} {said : Arguments} {input : Text} {timeout : Option Binary64}
    (hsaid : Arguments.read [.output, .timeout, .endpoint] words = .ok said)
    (hcomplete : said.leftOver = false) (hinput : said.operand = some input)
    (htimeout : Option.Rel (fun word number => realWord? word = some number)
      (said.value? .timeout) timeout) :
    AsksToRun ("run".toList :: words)
      ⟨input, said.value? .output, timeout, said.value? .endpoint⟩

/-- The timeout of a run: the one asked for, else the page's, else that of the settings. A timeout
of zero counts as none, wherever it comes from. -/
inductive TimeoutOf (page : Page) (settings : Settings) : Option Binary64 → Binary64 → Prop
  | asked {timeout : Binary64} (h : timeout.isZero = false) :
      TimeoutOf page settings (some timeout) timeout
  | ofPage {asked : Option Binary64} {timeout : Binary64}
      (hasked : ∀ other ∈ asked, other.isZero = true)
      (hpage : page.timeout? = .ok (some timeout)) (h : timeout.isZero = false) :
      TimeoutOf page settings asked timeout
  | ofSettings {asked stated : Option Binary64} (hasked : ∀ other ∈ asked, other.isZero = true)
      (hpage : page.timeout? = .ok stated) (hstated : ∀ other ∈ stated, other.isZero = true) :
      TimeoutOf page settings asked settings.timeout

/-- What an option for the endpoint promises for a block: its query goes to the endpoint that it
names itself, and to the one of the option if it names none. -/
inductive Promised (asked : Text) (block : QueryBlock) : Submission → Prop
  | own {endpoint : Text} (hblock : block.endpoint? = some endpoint) :
      Promised asked block ⟨endpoint, block.query⟩
  | asked (hblock : block.endpoint? = none) : Promised asked block ⟨asked, block.query⟩

/-- What a run of a page comes to: its timeout, the endpoint for blocks that neither themselves
nor their page name one, and the submissions, in the order of the blocks. -/
structure RunOf (arguments : RunArguments) (settings : Settings) (page : Page)
    (outcome : Command.Outcome) (timeout : Binary64) (endpoint : Text)
    (submissions : List Submission) : Prop where
  timeoutOf : TimeoutOf page settings arguments.timeout timeout
  endpointOf : EndpointOf arguments.endpoint settings.endpoint endpoint
  /-- One client is made. -/
  timeouts : outcome.timeouts = [timeout]
  submits : List.Forall₂ (Runner.Submits ⟨timeout, endpoint, decoder⟩ page) page.blocks submissions
  requests : outcome.requests =
    submissions.flatMap (Runner.requests ⟨timeout, endpoint, decoder⟩)

/-! ### The words of a run -/

theorem afterHelpLetter_ne_plain (options : List OptionName) (letters text : Text) :
    afterHelpLetter options letters ≠ .plain text := by
  induction letters with
  | nil => exact nofun
  | cons c rest ih =>
      rw [afterHelpLetter]
      split
      · exact ih
      · split <;> exact nofun

theorem eq_of_unnamed_eq_plain {afterDash text : Text} (h : unnamed afterDash = .plain text) :
    text = '-' :: afterDash := by
  rw [unnamed] at h
  split at h
  · exact (Word.plain.inj h).symm
  · cases h

/-- A word is taken as an operand only as it stands. -/
theorem eq_of_wordOf_eq_plain {options : List OptionName} {word text : Text}
    (h : wordOf options word = .plain text) : text = word := by
  unfold wordOf at h
  split at h
  · next rest =>
      simp only [longWord] at h
      split at h
      · split at h <;> cases h
      · cases h
      · exact eq_of_unnamed_eq_plain h
      · cases h
  · next c rest _ =>
      simp only [shortWord] at h
      split at h
      · split at h
        · cases h
        · cases h
        · exact absurd h (afterHelpLetter_ne_plain _ _ _)
      · split at h
        · cases h
        · exact eq_of_unnamed_eq_plain h
  · exact (Word.plain.inj h).symm

namespace Arguments

/-- All options have values that make sense. -/
def Accepted (arguments : Arguments) : Prop :=
  ∀ option ∈ arguments.options, option.1.accepts option.2 = true

theorem accepted_setOption {arguments next : Arguments} {name : OptionName} {value : Text}
    {afterHelp : Bool} (h : arguments.setOption name value afterHelp = .ok next)
    (hall : arguments.Accepted) : next.Accepted := by
  unfold setOption at h
  split_ifs at h with hhelp haccepts
  obtain rfl := Except.ok.inj h
  intro option hoption
  rcases List.mem_cons.mp hoption with rfl | hoption
  · exact haccepts
  · exact hall option hoption

theorem accepted_take {arguments said : Arguments} {words : List Word}
    (h : arguments.take words = .ok said) (hall : arguments.Accepted) : said.Accepted := by
  fun_induction take arguments words with
  | case1 arguments =>
      obtain rfl := Except.ok.inj h
      exact hall
  | case2 arguments text rest _ ih => exact ih h hall
  | case3 arguments text rest _ ih => exact ih h hall
  | case4 arguments text rest _ _ ih => exact ih h hall
  | case5 arguments text rest _ _ ih => exact ih h hall
  | case6 arguments rest _ ih => exact ih h hall
  | case7 arguments rest _ ih => exact ih h hall
  | case8 => cases h
  | case9 arguments name value afterHelp rest next hset ih =>
      exact ih h (accepted_setOption hset hall)
  | case10 => cases h
  | case11 arguments name afterHelp value rest next hset ih =>
      exact ih h (accepted_setOption hset hall)
  | case12 => cases h
  | case13 arguments rest ih => exact ih h hall
  | case14 => cases h

theorem accepted_read {options : List OptionName} {words : List Text} {said : Arguments}
    (h : read options words = .ok said) : said.Accepted := by
  rw [read] at h
  split at h
  · cases h
  · exact accepted_take h nofun

/-- The value of an option that is given is accepted. -/
theorem accepts_of_value? {arguments : Arguments} (h : arguments.Accepted) {name : OptionName}
    {value : Text} (hvalue : arguments.value? name = some value) : name.accepts value = true := by
  rw [value?, List.lookup_eq_some_iff] at hvalue
  obtain ⟨before, after, hoptions, -⟩ := hvalue
  exact h (name, value) (by simp [hoptions])

end Arguments

namespace Command

theorem asksToRun_of_readRun {words : List Text} {arguments : RunArguments}
    (h : readRun words = .ok (.run arguments)) :
    AsksToRun ("run".toList :: words) arguments := by
  rw [readRun] at h
  split at h
  · cases h
  · next said hsaid =>
      obtain ⟨first, hfirst, hcomplete⟩ := exists_of_bind_eq_ok hsaid
      rw [Arguments.complete] at hcomplete
      split at hcomplete
      · cases hcomplete
      · next hleft =>
          obtain rfl := Except.ok.inj hcomplete
          split at h
          · cases h
          · next input hinput =>
              obtain rfl := Command.run.inj (Except.ok.inj h)
              refine .intro hfirst (by simpa using hleft) hinput ?_
              cases hvalue : first.value? .timeout with
              | none => exact .none
              | some word =>
                  have haccepts :=
                    Arguments.accepts_of_value? (Arguments.accepted_read hfirst) hvalue
                  obtain ⟨number, hnumber⟩ := Option.isSome_iff_exists.mp haccepts
                  rw [Option.bind_some, hnumber]
                  exact .some hnumber

theorem name_of_readNamed {name : Text} {words : List Text} {arguments : RunArguments}
    (h : readNamed name words = .ok (.run arguments)) :
    name = "run".toList ∧ readRun words = .ok (.run arguments) := by
  unfold readNamed at h
  split_ifs at h with hbuild hfilter hrun
  · unfold readBuild at h
    split at h
    · cases h
    · split at h <;> cases h
  · unfold readFilter at h
    split at h <;> cases h
  · exact ⟨hrun, h⟩

theorem asksToRun_of_read {words : List Text} {arguments : RunArguments}
    (h : read words = .ok (.run arguments)) : AsksToRun words arguments := by
  cases words with
  | nil => cases h
  | cons text rest =>
      rw [read] at h
      split at h
      · cases h
      · split at h
        · next name hname =>
            obtain ⟨rfl, hrun⟩ := name_of_readNamed h
            rw [← eq_of_wordOf_eq_plain hname]
            exact asksToRun_of_readRun hrun
        · cases h
        · split at h <;> cases h
        · cases h

end Command

/-! ### The timeout -/

theorem filter_of_isZero {stated : Option Binary64} (h : ∀ other ∈ stated, other.isZero = true) :
    stated.filter (!·.isZero) = none := by
  cases stated with
  | none => rfl
  | some timeout => simp [Option.filter, h timeout rfl]

theorem filter_of_not_isZero {timeout : Binary64} (h : timeout.isZero = false) :
    (some timeout).filter (!·.isZero) = some timeout := by
  simp [Option.filter, h]

theorem isZero_or_exists (stated : Option Binary64) :
    (∀ other ∈ stated, other.isZero = true) ∨
      ∃ timeout, stated = some timeout ∧ timeout.isZero = false := by
  cases stated with
  | none => exact .inl nofun
  | some timeout =>
      cases hzero : timeout.isZero with
      | true => exact .inl fun other hother => Option.some.inj hother ▸ hzero
      | false => exact .inr ⟨timeout, rfl, hzero⟩

namespace TimeoutOf

variable {page : Page} {settings : Settings} {timeout other : Binary64}

theorem of_resolveTimeout {arguments : RunArguments}
    (h : arguments.resolveTimeout settings page = .ok timeout) :
    TimeoutOf page settings arguments.timeout timeout := by
  rw [RunArguments.resolveTimeout] at h
  rcases isZero_or_exists arguments.timeout with hnone | ⟨asked, hasked, hzero⟩
  · rw [filter_of_isZero hnone] at h
    obtain ⟨stated, hstated, rfl⟩ := exists_of_map_eq_ok h
    rcases isZero_or_exists stated with hnever | ⟨ofPage, rfl, hzero⟩
    · rw [filter_of_isZero hnever]
      exact .ofSettings hnone hstated hnever
    · rw [filter_of_not_isZero hzero]
      exact .ofPage hnone hstated hzero
  · rw [hasked, filter_of_not_isZero hzero] at h
    obtain rfl := Except.ok.inj h
    rw [hasked]
    exact .asked hzero

theorem resolveTimeout {asked : Option Binary64} (h : TimeoutOf page settings asked timeout)
    {arguments : RunArguments} (harguments : arguments.timeout = asked) :
    arguments.resolveTimeout settings page = .ok timeout := by
  rw [RunArguments.resolveTimeout, harguments]
  cases h with
  | asked hzero => rw [filter_of_not_isZero hzero]
  | ofPage hasked hpage hzero =>
      simp only [filter_of_isZero hasked, hpage, Except.map, filter_of_not_isZero hzero,
        Option.getD_some]
  | ofSettings hasked hpage hstated =>
      simp only [filter_of_isZero hasked, hpage, Except.map, filter_of_isZero hstated,
        Option.getD_none]

/-- There is no timeout only if the page's is too large and none is asked for. -/
theorem of_resolveTimeout_error {arguments : RunArguments} {error : ConfigError}
    (h : arguments.resolveTimeout settings page = .error error) :
    page.timeout? = .error error ∧ ∀ other ∈ arguments.timeout, other.isZero = true := by
  rw [RunArguments.resolveTimeout] at h
  rcases isZero_or_exists arguments.timeout with hnone | ⟨asked, hasked, hzero⟩
  · rw [filter_of_isZero hnone] at h
    cases hpage : page.timeout? with
    | error other =>
        rw [hpage] at h
        exact ⟨congrArg Except.error (Except.error.inj h), hnone⟩
    | ok stated =>
        rw [hpage] at h
        cases h
  · rw [hasked, filter_of_not_isZero hzero] at h
    cases h

theorem unique {asked : Option Binary64} (h : TimeoutOf page settings asked timeout)
    (hother : TimeoutOf page settings asked other) : other = timeout := by
  let arguments : RunArguments := ⟨[], none, asked, none⟩
  have hfirst : arguments.resolveTimeout settings page = .ok timeout := h.resolveTimeout rfl
  have hsecond : arguments.resolveTimeout settings page = .ok other := hother.resolveTimeout rfl
  exact Except.ok.inj (hsecond.symm.trans hfirst)

/-- An option of zero is no option. -/
theorem of_isZero {asked : Binary64} (hzero : asked.isZero = true)
    (h : TimeoutOf page settings (some asked) timeout) : TimeoutOf page settings none timeout := by
  cases h with
  | asked h => cases h.symm.trans hzero
  | ofPage _ hpage h => exact .ofPage nofun hpage h
  | ofSettings _ hpage hstated => exact .ofSettings nofun hpage hstated

theorem to_isZero {asked : Binary64} (hzero : asked.isZero = true)
    (h : TimeoutOf page settings none timeout) : TimeoutOf page settings (some asked) timeout := by
  have hasked : ∀ other ∈ some asked, other.isZero = true :=
    fun other hother => Option.some.inj hother ▸ hzero
  cases h with
  | ofPage _ hpage h => exact .ofPage hasked hpage h
  | ofSettings _ hpage hstated => exact .ofSettings hasked hpage hstated

/-- A run has the timeout that is asked for, unless that is zero, and then if it would have the
same timeout anyway. -/
theorem asked_iff {asked : Binary64} : TimeoutOf page settings (some asked) asked ↔
    asked.isZero = false ∨ TimeoutOf page settings none asked := by
  cases hzero : asked.isZero with
  | false => exact iff_of_true (.asked hzero) (.inl rfl)
  | true =>
      exact ⟨fun h => .inr (h.of_isZero hzero), fun h => (h.resolve_left nofun).to_isZero hzero⟩

end TimeoutOf

/-! ### The endpoint -/

theorem promised_submission_iff {asked : Text} {runner : Runner}
    (hrunner : runner.defaultEndpoint = asked) {block : QueryBlock} {pageEndpoint : Option Text} :
    Promised asked block (runner.submission block pageEndpoint) ↔
      (block.endpoint? = none → ∀ other ∈ pageEndpoint, other = asked) := by
  rw [Runner.submission, Runner.resolveEndpoint, hrunner]
  cases hblock : block.endpoint? with
  | some own => exact iff_of_true (.own hblock) (fun hnone => by cases hnone)
  | none =>
      rw [Option.none_or]
      cases pageEndpoint with
      | none => exact iff_of_true (.asked hblock) (fun _ other hother => by cases hother)
      | some endpoint =>
          rw [Option.getD_some]
          constructor
          · rintro h - other hother
            obtain rfl := Option.some.inj hother
            cases h with
            | own hown => cases hblock.symm.trans hown
            | asked _ => rfl
          · intro h
            rw [h rfl endpoint rfl]
            exact .asked hblock

namespace Command

theorem timeouts_execute {command : Command} {surroundings : Surroundings} {work : Work}
    (h : command.workIn surroundings = .ok work) :
    (command.execute surroundings).timeouts = work.timeouts := by
  simp only [execute, h]

theorem requests_execute {command : Command} {surroundings : Surroundings} {work : Work}
    (h : command.workIn surroundings = .ok work) :
    (command.execute surroundings).requests = work.requests surroundings.server := by
  simp only [execute, h]

/-- A run that starts makes one client and one submission for each block. -/
theorem runOf_execute {arguments : RunArguments} {surroundings : Surroundings} {settings : Settings}
    {page : Page} {timeout : Binary64} (hfresh : page.Fresh)
    (htimeout : TimeoutOf page settings arguments.timeout timeout)
    (hwork : (Command.run arguments).workIn surroundings =
      .ok (.run ⟨timeout, arguments.resolveEndpoint settings, decoder⟩ page)) :
    RunOf arguments settings page ((Command.run arguments).execute surroundings) timeout
      (arguments.resolveEndpoint settings) (page.blocks.map fun block =>
        Runner.submission ⟨timeout, arguments.resolveEndpoint settings, decoder⟩ block
          page.defaultEndpoint?) where
  timeoutOf := htimeout
  endpointOf := endpointOf_resolveEndpoint _ _
  timeouts := timeouts_execute hwork
  submits := List.forall₂_map_right_iff.mpr
    (List.forall₂_same.mpr fun block _ => Runner.submits_submission _ page block)
  requests := by
    rw [requests_execute hwork, Work.requests, Work.submissions,
      Runner.submissions_runAll_of_equipped (Page.equipped_of_fresh hfresh)]

/-- The endpoint that is asked for is that of the runner. -/
theorem resolveEndpoint_of_asked {arguments : RunArguments} {asked : Text}
    (hasked : asked ∈ arguments.endpoint) (hne : asked ≠ []) (settings : Settings) :
    arguments.resolveEndpoint settings = asked := by
  rw [RunArguments.resolveEndpoint, Option.mem_def.mp hasked, CypherPages.resolveEndpoint]
  rcases nonEmpty?_cases (some asked) with ⟨text, -, hsome, htext⟩ | ⟨hempty, -⟩
  · rw [htext]
    exact (Option.some.inj hsome).symm
  · exact absurd (hempty asked rfl) hne

end Command

/-- A run of a page has the timeout that is asked for whenever that is not zero, whatever the page
and the settings say. If it is zero, the timeout is that of the page or else that of the settings,
and if the page's is too large there is no run. The endpoint that is asked for is that of the
blocks that name none if the page names none either; a block that names its own endpoint keeps
it. -/
theorem execute_run_resolves_options {words : List Text} {arguments : RunArguments}
    {surroundings : Surroundings} {settings : Settings} {source : Text} {page : Page}
    (hcommand : Command.read words = .ok (.run arguments))
    (hsettings : surroundings.Provides settings)
    (hsource : surroundings.Holds arguments.input source) (hpage : Page.read source = .ok page) :
    let outcome := (Command.run arguments).execute surroundings
    AsksToRun words arguments ∧
      (∀ asked ∈ arguments.timeout, outcome.timeouts = [asked] ↔
        asked.isZero = false ∨ TimeoutOf page settings none asked) ∧
      ((∃ timeout endpoint submissions,
          RunOf arguments settings page outcome timeout endpoint submissions ∧
            ∀ asked ∈ arguments.endpoint, asked ≠ [] →
              (List.Forall₂ (Promised asked) page.blocks submissions ↔
                ∀ block ∈ page.blocks, block.endpoint? = none →
                  ∀ other ∈ page.defaultEndpoint?, other = asked)) ∨
        ∃ error, page.timeout? = .error error ∧
          (∀ other ∈ arguments.timeout, other.isZero = true) ∧
            outcome.failure = some (.config error) ∧ outcome.timeouts = [] ∧
              outcome.requests = []) := by
  intro outcome
  refine ⟨Command.asksToRun_of_read hcommand, ?_⟩
  have hwork := Command.workIn_run hsettings hsource hpage
  cases htimeout : arguments.resolveTimeout settings page with
  | error error =>
      rw [htimeout] at hwork
      have hnone := TimeoutOf.of_resolveTimeout_error htimeout
      have houtcome : outcome =
          ⟨some (.config error), [], surroundings.files, [], []⟩ := by
        simp only [outcome, Command.execute, hwork, Except.mapError, Except.map]
      rw [houtcome]
      refine ⟨fun asked hasked => iff_of_false (List.cons_ne_nil asked []).symm ?_,
        .inr ⟨error, hnone.1, hnone.2, rfl, rfl, rfl⟩⟩
      rintro (hzero | hother)
      · cases hzero.symm.trans (hnone.2 asked hasked)
      · cases hother with
        | ofPage _ htimeout => cases htimeout.symm.trans hnone.1
        | ofSettings _ htimeout => cases htimeout.symm.trans hnone.1
  | ok timeout =>
      rw [htimeout] at hwork
      have hresolved := TimeoutOf.of_resolveTimeout htimeout
      have hrun := Command.runOf_execute (Page.fresh_of_read hpage) hresolved hwork
      refine ⟨?_, .inl ⟨timeout, _, _, hrun, ?_⟩⟩
      · intro asked hasked
        rw [Option.mem_def.mp hasked] at hresolved
        rw [hrun.timeouts, List.singleton_inj, ← TimeoutOf.asked_iff]
        exact ⟨fun h => h ▸ hresolved, fun h => (h.unique hresolved)⟩
      · intro asked hasked hne
        rw [List.forall₂_map_right_iff, List.forall₂_same]
        exact forall₂_congr fun block _ => promised_submission_iff
          (Command.resolveEndpoint_of_asked hasked hne settings)

/-- A page that names an endpoint and a timeout is run with options for both. The timeout is zero,
so that of the page counts, and the endpoint is not that of the block that names none. -/
theorem execute_run_resolves_options_of_configured_page :
    let words := ["run", "a.html", "--endpoint", "http://cli:1", "--timeout", "0"].map String.toList
    let source := ("<script type=\"application/json\" id=\"ladybug-query-config\">" ++
      "\x7b\"endpoint\": \"http://page:1\", \"timeout_ms\": 2500\x7d</script>" ++
      "<pre class=\"ladybug-query\"><code>RETURN 1</code></pre>").toList
    let surroundings : Surroundings :=
      ⟨[], ⟨[], [(["a.html".toList], source)], []⟩, [], fun _ => .gaveUp⟩
    ∃ arguments settings page timeout endpoint submissions,
      Command.read words = .ok (.run arguments) ∧ AsksToRun words arguments ∧
      Page.read source = .ok page ∧
      let outcome := (Command.run arguments).execute surroundings
      RunOf arguments settings page outcome timeout endpoint submissions ∧
      outcome.timeouts = [.ofIntDiv 2500 1000] ∧
      ¬ List.Forall₂ (Promised "http://cli:1".toList) page.blocks submissions := by
  intro words source surroundings
  let arguments : RunArguments :=
    ⟨"a.html".toList, none, some (.ofInt 0), some "http://cli:1".toList⟩
  let settings : Settings := ⟨none, .ofInt 10, "INFO".toList⟩
  have hcommand : Command.read words = .ok (.run arguments) := by decide +kernel
  have hsettings : surroundings.Provides settings := rfl
  have hfile : surroundings.Holds arguments.input source :=
    ⟨by decide, source, rfl, by decide +kernel⟩
  have hviews : (Page.read source).toOption.map (fun page =>
      (page.blocks.map QueryBlock.endpoint?, page.defaultEndpoint?, page.timeout?)) =
      some ([none], some "http://page:1".toList, .ok (some (.ofIntDiv 2500 1000))) := by
    decide +kernel
  obtain ⟨page, hpage, hview⟩ := exists_of_toOption_map hviews
  simp only [Prod.mk.injEq] at hview
  obtain ⟨hblocks, hendpoint, hseconds⟩ := hview
  obtain ⟨hasks, -, ⟨timeout, endpoint, submissions, hrun, hpromised⟩ | ⟨error, herror, -⟩⟩ :=
    execute_run_resolves_options hcommand hsettings hfile hpage
  · refine ⟨arguments, settings, _, timeout, endpoint, submissions, hcommand, hasks, hpage, hrun,
      ?_, ?_⟩
    · have hpageTimeout : TimeoutOf page settings arguments.timeout (.ofIntDiv 2500 1000) :=
        .ofPage (by decide) hseconds (by decide +kernel)
      rw [hrun.timeouts, hpageTimeout.unique hrun.timeoutOf]
    · rw [hpromised _ rfl (by decide)]
      intro hsame
      obtain ⟨block, hblock, hnone⟩ := List.mem_map.mp (hblocks ▸ List.mem_singleton_self none)
      exact absurd (hsame block hblock hnone _ hendpoint) (by decide)
  · cases herror.symm.trans hseconds

end CypherPages.CommandLine
