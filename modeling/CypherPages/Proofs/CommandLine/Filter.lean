import CypherPages.Proofs.CommandLine.Delivery
import CypherPages.Proofs.Document.Faults
import CypherPages.Proofs.Json.ReadBack

/-! # How the filter ends

The filter answers a JSON value that is no document with a failure that is logged. A document
whose code block elements are well-formed is published. One with an element that is not ends the
filter with a failure that nothing catches. -/

namespace CypherPages.CommandLine
open Document (nodes)

/-- How the filter ends for a JSON value on standard input, with its failure if it has one. -/
inductive FilterEnds (settings : Settings) (format : Text) (value : Json) :
    Option Failure → Ending → Prop
  /-- All code block elements are well-formed. -/
  | published {document result : Document} (hdocument : Document.ofJson? value = some document)
    (hnodes : ∀ node ∈ (nodes (.array document.blocks)).map Prod.snd,
      node.WellFormed (isPageFormat format))
    (hresult : document.publish format settings = .ok result) :
    FilterEnds settings format value none (.returns 0)
  | notADocument (hvalue : Document.ofJson? value = none) :
    FilterEnds settings format value (some (.document (.format .notADocument)))
      (.returns 1)
  /-- A code block element is not well-formed, and it is the first one. -/
  | malformed {document : Document} {before after : List Json} {node : Json} {fault : ElementFault}
    (hdocument : Document.ofJson? value = some document)
    (hnodes : (nodes (.array document.blocks)).map Prod.snd = before ++ node :: after)
    (hbefore : ∀ other ∈ before, other.WellFormed (isPageFormat format))
    (hfault : node.fault? (isPageFormat format) = some fault)
    (hresult : document.publish format settings = .error (.element fault)) :
    FilterEnds settings format value (some (.publish (.element fault)))
      (.escapes (.publish (.element fault)))

/-- There is one way for the filter to end. -/
theorem FilterEnds.unique {settings : Settings} {format : Text} {value : Json}
    {failure other : Option Failure} {ending last : Ending}
    (h : FilterEnds settings format value failure ending)
    (hother : FilterEnds settings format value other last) : other = failure ∧ last = ending := by
  cases h with
  | published hdocument _ hresult =>
      cases hother with
      | published => exact ⟨rfl, rfl⟩
      | notADocument hvalue => cases hvalue.symm.trans hdocument
      | malformed hfound _ _ _ hfails =>
          obtain rfl := Option.some.inj (hfound.symm.trans hdocument)
          cases hfails.symm.trans hresult
  | notADocument hvalue =>
      cases hother with
      | published hdocument => cases hvalue.symm.trans hdocument
      | notADocument => exact ⟨rfl, rfl⟩
      | malformed hdocument => cases hvalue.symm.trans hdocument
  | malformed hdocument _ _ _ hfails =>
      cases hother with
      | published hfound _ hresult =>
          obtain rfl := Option.some.inj (hfound.symm.trans hdocument)
          cases hfails.symm.trans hresult
      | notADocument hvalue => cases hvalue.symm.trans hdocument
      | malformed hfound _ _ _ hother =>
          obtain rfl := Option.some.inj (hfound.symm.trans hdocument)
          cases hother.symm.trans hfails
          exact ⟨rfl, rfl⟩

namespace Command

theorem failure_execute_of_error {command : Command} {surroundings : Surroundings}
    {failure : Failure} (h : command.workIn surroundings = .error failure) :
    (command.execute surroundings).failure = some failure := by
  rw [execute, h]

/-- Nothing can go wrong with what goes to standard output. -/
theorem failure_execute_filter {format output : Text} {surroundings : Surroundings}
    (h : (Command.filter format).workIn surroundings = .ok (.finished output)) :
    ((Command.filter format).execute surroundings).failure = none := by
  have hencoded : (Work.finished output).encoded surroundings.server = .ok output :=
    Work.encoded_eq_ok fun _ => rfl
  simp only [execute, h, hencoded]
  rfl

end Command

/-- The filter ends in one of these ways. -/
theorem filterEnds_execute {settings : Settings} {ms : ℤ} {surroundings : Surroundings}
    {value : Json} (hsettings : surroundings.Provides settings)
    (hms : milliseconds settings.timeout = .ok ms)
    (hinput : Json.read surroundings.input = .ok value) (format : Text) :
    FilterEnds settings format value
      ((Command.filter format).execute surroundings).failure
      ((Command.filter format).ending ((Command.filter format).execute surroundings).failure) := by
  have hwork : (Command.filter format).workIn surroundings =
      (Command.filter format).work settings surroundings.input :=
    Command.workIn_of_provides hsettings
  cases hvalue : Document.ofJson? value with
  | none =>
      have hread : Document.read surroundings.input = .error (.format .notADocument) := by
        simp only [Document.read, hinput, hvalue]
      have hfails : (Command.filter format).workIn surroundings =
          .error (.document (.format .notADocument)) := by
        rw [hwork, Command.work, hread]
        rfl
      rw [Command.failure_execute_of_error hfails]
      exact .notADocument hvalue
  | some document =>
      have hread : Document.read surroundings.input = .ok document := by
        simp only [Document.read, hinput, hvalue]
      have hpublish : (Command.filter format).workIn surroundings =
          ((document.publish format settings).mapError Failure.publish).bind fun published =>
            .ok (.finished published.write) := by
        rw [hwork, Command.work, hread]
        rfl
      rcases Document.publish_cases hms document format with
        ⟨fault, hfault, hresult⟩ | ⟨hnone, result, hresult⟩
      · have hfails : (Command.filter format).workIn surroundings =
            .error (.publish (.element fault)) := by
          rw [hpublish, hresult]
          rfl
        rw [Command.failure_execute_of_error hfails]
        obtain ⟨before, node, after, hnodes, hnode, hbefore⟩ :=
          List.findSome?_eq_some_iff.mp hfault
        exact .malformed hvalue hnodes
          (fun other hother => Json.fault?_eq_none_iff.mp (hbefore other hother)) hnode hresult
      · have hsucceeds : (Command.filter format).workIn surroundings =
            .ok (.finished result.write) := by
          rw [hpublish, hresult]
          rfl
        rw [Command.failure_execute_filter hsucceeds]
        exact .published hvalue (Document.firstFault?_eq_none_iff.mp hnone) hresult

/-- The filter returns unless a code block element is not well-formed. -/
theorem FilterEnds.returns_iff {settings : Settings} {format : Text} {value : Json}
    {failure : Option Failure} {ending : Ending}
    (h : FilterEnds settings format value failure ending) :
    (ending = .returns 0 ∨ ending = .returns 1) ↔
      ∀ document, Document.ofJson? value = some document →
        ∀ node ∈ (nodes (.array document.blocks)).map Prod.snd,
          node.WellFormed (isPageFormat format) := by
  cases h with
  | published hdocument hnodes =>
      apply iff_of_true (.inl rfl)
      intro other hother
      obtain rfl := Option.some.inj (hdocument.symm.trans hother)
      exact hnodes
  | notADocument hvalue =>
      apply iff_of_true (.inr rfl)
      intro other hother
      cases hvalue.symm.trans hother
  | @malformed document before after node fault hdocument hnodes hbefore hfault =>
      apply iff_of_false (by simp)
      intro hall
      have hnode := hall document hdocument node (by rw [hnodes]; simp)
      cases (Json.fault?_eq_none_iff.mpr hnode).symm.trans hfault

/-- The filter answers every JSON value in one way, whatever the format, with settings whose
timeout can be written in milliseconds. It returns for values that are no documents and for
documents with well-formed code block elements; for any other document the fault of the first
element that is not well-formed comes through. -/
theorem filter_ends {words : List Text} {surroundings : Surroundings} {settings : Settings}
    {format : Text} {ms : ℤ} {value : Json} (hcommand : Command.read words = .ok (.filter format))
    (hsettings : surroundings.Provides settings) (hms : milliseconds settings.timeout = .ok ms)
    (hinput : Json.read surroundings.input = .ok value) :
    ∃ invocation, invoke words surroundings = .ok invocation ∧
      (∀ failure ending, FilterEnds settings format value failure ending ↔
        failure = ((Command.filter format).execute surroundings).failure ∧
          ending = invocation.ending) ∧
      ((invocation.ending = .returns 0 ∨ invocation.ending = .returns 1) ↔
        ∀ document, Document.ofJson? value = some document →
          ∀ node ∈ (nodes (.array document.blocks)).map Prod.snd,
            node.WellFormed (isPageFormat format)) := by
  have hends := filterEnds_execute hsettings hms hinput format
  refine ⟨_, by rw [invoke, hcommand]; rfl, ?_, hends.returns_iff⟩
  intro failure ending
  constructor
  · intro h
    exact hends.unique h
  · rintro ⟨rfl, rfl⟩
    exact hends

/-- A code block element without content, in a document that has nothing else. -/
theorem filter_ends_no_content :
    let words := ["filter", "html"].map String.toList
    let surroundings : Surroundings := ⟨[], ⟨[], [], []⟩,
      "\x7b\"blocks\": [\x7b\"t\": \"CodeBlock\"\x7d]\x7d".toList, fun _ => .gaveUp⟩
    ∃ invocation, invoke words surroundings = .ok invocation ∧
      invocation.ending = .escapes (.publish (.element .noContent)) := by
  intro words surroundings
  let settings : Settings := ⟨none, .ofInt 10, "INFO".toList⟩
  let block := Json.object [("t".toList, .string "CodeBlock".toList)]
  let document : Document := ⟨[], [block], []⟩
  have hcommand : Command.read words = .ok (.filter "html".toList) := by decide +kernel
  have hsettings : surroundings.Provides settings := rfl
  have hms : milliseconds settings.timeout = .ok 10000 := by decide +kernel
  have hexact : Json.Exact document.toJson := by
    refine .object (by decide) fun field hfield => ?_
    rw [List.mem_singleton.mp hfield]
    refine .array fun item hitem => ?_
    rw [List.mem_singleton.mp hitem]
    refine .object (by decide) fun tag htag => ?_
    rw [List.mem_singleton.mp htag]
    exact .string _
  have hwritten : Dependency.guardEndTags (document.toJson.write .spaced) =
      surroundings.input := by
    decide +kernel
  have hinput : Json.read surroundings.input = .ok document.toJson := by
    rw [← hwritten]
    exact hexact.read_guardEndTags (by decide +kernel)
  obtain ⟨invocation, hinvoke, hends, -⟩ := filter_ends hcommand hsettings hms hinput
  have hdocument : Document.ofJson? document.toJson = some document := rfl
  have hnodes : (nodes (.array document.blocks)).map Prod.snd = [.array [block]] ++ [block] := rfl
  have hlist : ∀ other ∈ [Json.array [block]], other.WellFormed (isPageFormat "html".toList) := by
    intro other hother
    rw [List.mem_singleton.mp hother]
    rintro fields ⟨⟩
  obtain ⟨-, hending⟩ := (hends _ _).mp (.malformed hdocument hnodes hlist rfl rfl)
  exact ⟨invocation, hinvoke, hending.symm⟩

end CypherPages.CommandLine
