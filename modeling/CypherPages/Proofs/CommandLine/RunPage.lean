import CypherPages.Proofs.CommandLine.RunOptions
import CypherPages.Proofs.Page.Discovery
import CypherPages.Proofs.Run.WrittenPage
import CypherPages.Proofs.Text.Lines

/-! # What a run makes of a file

A run reads its file with every line end as a line feed, and delivers what it read, with the run
controls and the results of the blocks put in at their places. Carriage returns are lost on the
way. -/

namespace CypherPages.CommandLine
open Page (Outline occurrences)

/-- What a run makes of the text of its file. -/
structure MadeOfFile (arguments : RunArguments) (surroundings : Surroundings) (content : Text)
    (page : Page) (output : Text) : Prop where
  file : surroundings.files.read (.ofText arguments.input) = .ok content
  read : Page.read content.normalizeNewlines = .ok page
  /-- The query of a block is the text of its code. -/
  outline : ∃ found, Html.tokens content.normalizeNewlines = .ok found ∧
    Outline (occurrences 0 found) page.blocks
  /-- The output is what was read, with the changes of the blocks. -/
  changes : ∃ (runner : Runner) (submissions : List Submission) (changes : List (List Edit)),
    List.Forall₂ (runner.Submits page) page.blocks submissions ∧
    ((Command.run arguments).execute surroundings).requests =
      submissions.flatMap runner.requests ∧
    List.Forall₂ (runner.Changes surroundings.server page) page.blocks changes ∧
    output = Edit.applyAll content.normalizeNewlines changes.flatten ∧
    (page.ResultsBehind → ∃ sorted, sorted.Perm changes.flatten ∧ Edit.InPlace 0 sorted ∧
      (∀ edit ∈ sorted, edit.stop ≤ content.normalizeNewlines.length) ∧
        output = Edit.splice 0 sorted content.normalizeNewlines)

theorem MadeOfFile.of_blocks_eq_nil {arguments : RunArguments} {surroundings : Surroundings}
    {content : Text} {page : Page} {output : Text}
    (h : MadeOfFile arguments surroundings content page output) (hblocks : page.blocks = []) :
    output = content.normalizeNewlines := by
  obtain ⟨runner, submissions, changes, -, -, hchanges, rfl, -⟩ := h.changes
  rw [hblocks, List.forall₂_nil_left_iff] at hchanges
  simp [hchanges, Edit.applyAll]

theorem madeOfFile_of_makes {arguments : RunArguments} {surroundings : Surroundings} {output : Text}
    (h : (Command.run arguments).Makes surroundings decoder.half output) :
    ∃ content page, MadeOfFile arguments surroundings content page output := by
  cases h with
  | @run _ settings source page timeout hsettings hsource hpage htimeout =>
      obtain ⟨-, content, hcontent, rfl⟩ := id hsource
      have hwork := Command.workIn_run hsettings hsource hpage
      rw [htimeout] at hwork
      have hrun := Command.runOf_execute (Page.fresh_of_read hpage)
        (TimeoutOf.of_resolveTimeout htimeout) hwork
      obtain ⟨changes, hchanges, hwritten, hplaces⟩ := Runner.exists_changes
        ⟨timeout, arguments.resolveEndpoint settings, decoder⟩ surroundings.server hpage
      exact ⟨content, page, hcontent, hpage, Page.outline_of_read hpage, _, _, changes,
        hrun.submits, hrun.requests, hchanges, hwritten, hplaces⟩

/-- A run that returns 0 delivers what it read of its file, with the controls and the results of
the blocks put in at their places and nothing else changed, whatever the page holds and the
servers answer. What it read is the text of the file unless that holds a carriage return. -/
theorem invoke_run_rewrites_file {words : List Text} {arguments : RunArguments}
    {surroundings : Surroundings} {invocation : Invocation}
    (hcommand : Command.read words = .ok (.run arguments))
    (hinvoke : invoke words surroundings = .ok invocation)
    (hending : invocation.ending = .returns 0) :
    ∃ content page output, MadeOfFile arguments surroundings content page output ∧
      (Command.run arguments).Delivers surroundings.files output invocation.printed
        invocation.files ∧
      (page.blocks = [] → output = content.normalizeNewlines) ∧
      (content.normalizeNewlines = content ↔ '\r' ∉ content) := by
  obtain ⟨command, hread, rfl⟩ := exists_of_map_eq_ok hinvoke
  obtain rfl := Except.ok.inj (hcommand.symm.trans hread)
  have hcomes := (Command.run arguments).comesTo_execute surroundings
  dsimp only at hcomes
  rw [Command.ending_eq_returns_zero_iff.mp hending] at hcomes
  cases hcomes with
  | @delivers output _ _ hmakes _ _ hdelivers =>
      obtain ⟨content, page, hmade⟩ := madeOfFile_of_makes hmakes
      exact ⟨content, page, output, hmade, hdelivers, hmade.of_blocks_eq_nil,
        Text.normalizeNewlines_eq_self_iff⟩

/-- A page whose lines end with carriage returns, inside the code of a block and outside. -/
theorem invoke_run_rewrites_file_with_carriage_returns :
    let words := ["run", "in.html", "-o", "out.html"].map String.toList
    let content : Text := ("<p>a</p>\r\n" ++
      "<pre class=\"ladybug-query\"><code>RETURN\r1</code></pre>\r\n" ++
      "<div class=\"ladybug-result\">old</div>").toList
    let surroundings : Surroundings :=
      ⟨[], ⟨[], [(["in.html".toList], content)], []⟩, [], fun _ => .gaveUp⟩
    ∃ arguments invocation page output,
      Command.read words = .ok (.run arguments) ∧ invoke words surroundings = .ok invocation ∧
      invocation.ending = .returns 0 ∧
      MadeOfFile arguments surroundings content page output ∧
      (Command.run arguments).Delivers surroundings.files output invocation.printed
        invocation.files ∧
      page.ResultsBehind ∧ page.blocks.map QueryBlock.query = ["RETURN\n1".toList] ∧
      content.normalizeNewlines ≠ content := by
  intro words content surroundings
  let arguments : RunArguments := ⟨"in.html".toList, some "out.html".toList, none, none⟩
  let settings : Settings := ⟨none, .ofInt 10, "INFO".toList⟩
  have hcommand : Command.read words = .ok (.run arguments) := by decide +kernel
  have hsettings : surroundings.Provides settings := rfl
  have hsource : surroundings.Holds arguments.input content.normalizeNewlines :=
    ⟨by decide, content, rfl, rfl⟩
  have hviews : (Page.read content.normalizeNewlines).toOption.map (fun page =>
      (page.blocks.map QueryBlock.query,
        page.blocks.all (fun block =>
          block.resultRegion.span.all fun span => block.startTagEnd < span.1),
        arguments.resolveTimeout settings page)) =
      some (["RETURN\n1".toList], true, .ok (.ofInt 10)) := by
    decide +kernel
  obtain ⟨page, hpage, hview⟩ := exists_of_toOption_map hviews
  simp only [Prod.mk.injEq, List.all_eq_true, Option.all_eq_true, decide_eq_true_eq] at hview
  obtain ⟨hquery, hbehind, htimeout⟩ := hview
  have hcan : (Command.run arguments).CanDeliver surroundings.files :=
    Command.canDeliver_of_locate rfl (by decide) rfl rfl
  -- no response is read, so nothing of one is in the output
  have hwhole : ¬ (Command.run arguments).HoldsHalf surroundings := by
    rintro ⟨_, _, hmakes, hother, hne⟩
    obtain ⟨work, hwork, rfl⟩ := Command.workIn_of_makes hmakes
    obtain ⟨same, hsame, rfl⟩ := Command.workIn_of_makes hother
    obtain rfl := Except.ok.inj (hwork.symm.trans hsame)
    cases work <;> exact hne rfl
  obtain ⟨invocation, hinvoke, hleaves⟩ := exists_invocation hcommand surroundings
  have hending : invocation.ending = .returns 0 :=
    hleaves.succeeds_iff.mpr ⟨⟨_, .run hsettings hsource hpage htimeout⟩, hcan, hwhole⟩
  obtain ⟨found, other, output, hmade, hdelivers, -, hcarriage⟩ :=
    invoke_run_rewrites_file hcommand hinvoke hending
  have hfound : found = content := Except.ok.inj (hmade.file.symm.trans rfl)
  rw [hfound] at hmade hcarriage
  obtain rfl : other = page := Except.ok.inj (hmade.read.symm.trans hpage)
  exact ⟨arguments, invocation, other, output, hcommand, hinvoke, hending, hmade, hdelivers,
    hbehind, hquery, fun hsame => hcarriage.mp hsame (by decide +kernel)⟩

end CypherPages.CommandLine
