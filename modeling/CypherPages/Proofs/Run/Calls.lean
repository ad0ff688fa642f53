import CypherPages.Proofs.Build.DataAttribute
import CypherPages.Proofs.Results
import CypherPages.Proofs.Run.Shown
import CypherPages.Proofs.Session.FullRun

/-! # Calls on a page

Run controls may be attached to a page any number of times, its blocks may be run one at a time,
by their controls or without them, and all of them at once. Whatever was called before, a run of
all blocks submits the query of each block once, and each block shows what became of its own
submission. -/

namespace CypherPages

/-- A page to which calls lead, each of which came to its end before the next one. `attached`
says whether one of them attached run controls. A single block may be run with its page or
without it, so the endpoint of the page may be any. -/
inductive Runner.Reaches (runner : Runner) (page : Page) : (attached : Bool) → Page → Prop
  | start : Reaches runner page false page
  | attachControls {attached : Bool} {next : Page} :
      Reaches runner page attached next → Reaches runner page true next.attachControls
  | run {attached : Bool} {next : Page} (index : ℕ) (endpoint : Option Text)
      (server : Request → Reply) : Reaches runner page attached next →
      Reaches runner page attached (next.updateBlock index (runner.run server endpoint))
  | activate {attached : Bool} {next : Page} {index place : ℕ} {block : QueryBlock}
      {control : Control} (server : Request → Reply) : Reaches runner page attached next →
      next.blocks[index]? = some block → block.controlRegion.controls[place]? = some control →
      Reaches runner page attached (next.updateBlock index fun block =>
        (runner.activate server next.defaultEndpoint? block control).2.2)
  | runAll {attached : Bool} {next : Page} {replies : ℕ → Reply} {steps : List Session.Step} :
      Reaches runner page attached next → next.attachControls.FullRun replies steps →
      Reaches runner page true ((Session.ofPage next.attachControls).after runner steps).page

/-- A block after calls on its page: its query and its attributes are as they were found, and it
has one run control if controls were attached, and otherwise none. -/
structure QueryBlock.Equipped (attached : Bool) (found block : QueryBlock) : Prop where
  query : block.query = found.query
  attributes : block.attributes = found.attributes
  controls : block.controlRegion.controls = if attached then [.run] else []

/-- A page after calls on it. -/
structure Page.Equipped (page : Page) (attached : Bool) (next : Page) : Prop where
  config : next.config = page.config
  controlsAttached : next.controlsAttached = attached
  blocks : List.Forall₂ (QueryBlock.Equipped attached) page.blocks next.blocks

/-- What a block of a page submits: its query, as it is, to the endpoint that it names itself, or
to the one that its page is configured for, or to that of the runner. -/
inductive Runner.Submits (runner : Runner) (page : Page) (block : QueryBlock) : Submission → Prop
  | own {endpoint : Text} (hne : endpoint ≠ [])
      (hblock : block.attributes.get? DataAttribute.endpoint = some endpoint) :
      Submits runner page block ⟨endpoint, block.query⟩
  | ofPage {endpoint : Text} (hne : endpoint ≠ [])
      (hblock : ∀ other, block.attributes.get? DataAttribute.endpoint = some other → other = [])
      (hpage : page.config.lookup Dependency.endpointField = some (.string endpoint)) :
      Submits runner page block ⟨endpoint, block.query⟩
  | fallback
      (hblock : ∀ other, block.attributes.get? DataAttribute.endpoint = some other → other = [])
      (hpage : ∀ other, page.config.lookup Dependency.endpointField = some (.string other) →
        other = []) :
      Submits runner page block ⟨runner.defaultEndpoint, block.query⟩

/-- What a full run, in which run number `n` meets with the reply `replies n`, does to the page
`before` that calls led to from `page`. -/
structure Runner.ServesBlocks (runner : Runner) (page before : Page) (replies : ℕ → Reply)
    (session : Session) : Prop where
  /-- There is one submission for each block, in the order of the page, and no other. -/
  submits : List.Forall₂ (runner.Submits page) page.blocks (session.runs.map Run.submission)
  /-- Every run came to its end. -/
  arrived : ∀ run ∈ session.runs, run.arrived = true
  /-- One region is returned for each block, in the order of the page: its own. -/
  returned : session.returned = session.page.blocks.map fun block => some block.resultRegion
  equipped : page.Equipped true session.page
  /-- A block shows what became of its own submission, and nothing else was opened for it. -/
  shows : ∀ (index : ℕ) (found block : QueryBlock), page.blocks[index]? = some found →
    before.blocks[index]? = some block → ∃ after, session.page.blocks[index]? = some after ∧
      after.resultRegion.content = Render.outcome (runner.outcome page found (replies index)) ∧
      after.resultRegion.generation = block.resultRegion.generation + 1

/-! ### What calls change -/

namespace QueryBlock.Equipped

variable {attached : Bool} {found block : QueryBlock}

/-- A block stays equipped when nothing but its result changes. -/
theorem updateResult (h : Equipped attached found block)
    (change : ResultRegion → ResultRegion) : Equipped attached found (block.updateResult change) :=
  ⟨h.query, h.attributes, h.controls⟩

theorem run (h : Equipped attached found block) (runner : Runner) (server : Request → Reply)
    (endpoint : Option Text) : Equipped attached found (runner.run server endpoint block) :=
  (h.updateResult _).updateResult _

theorem activate (h : Equipped attached found block) (runner : Runner)
    (server : Request → Reply) (endpoint : Option Text) (control : Control) :
    Equipped attached found (runner.activate server endpoint block control).2.2 := by
  rw [Runner.activate]
  cases control.action with
  | runBlock => exact h.run runner server endpoint
  | inert => exact h

theorem insertControl (h : Equipped false found block) :
    Equipped true found (block.insertControl .run) :=
  ⟨h.query, h.attributes, congrArg (List.cons Control.run) h.controls⟩

end QueryBlock.Equipped

namespace Page

variable {page next : Page} {attached : Bool}

theorem equipped_of_fresh (h : page.Fresh) : page.Equipped false page :=
  ⟨rfl, h.controlsAttached, List.forall₂_same.mpr fun block hblock =>
    ⟨rfl, rfl, (h.blocks block hblock).controls⟩⟩

namespace Equipped

theorem defaultEndpoint? (h : page.Equipped attached next) :
    next.defaultEndpoint? = page.defaultEndpoint? := by
  rw [Page.defaultEndpoint?, h.config, Page.defaultEndpoint?]

/-- Only the first attaching adds a control to each block. -/
theorem attachControls (h : page.Equipped attached next) :
    page.Equipped true next.attachControls := by
  rw [Page.attachControls, h.controlsAttached]
  cases attached with
  | true => exact h
  | false =>
      exact ⟨h.config, rfl, List.forall₂_map_right_iff.mpr
        (h.blocks.imp fun _ _ hblock => hblock.insertControl)⟩

theorem updateBlock (h : page.Equipped attached next) (index : ℕ)
    {change : QueryBlock → QueryBlock} (hchange : ∀ found block,
      QueryBlock.Equipped attached found block →
        QueryBlock.Equipped attached found (change block)) :
    page.Equipped attached (next.updateBlock index change) :=
  ⟨h.config, h.controlsAttached, forall₂_modify hchange h.blocks index⟩

theorem step {session : Session} (h : page.Equipped true session.page) (runner : Runner)
    (step : Session.Step) : page.Equipped true (session.step runner step).page := by
  cases step with
  | start index =>
      simp only [Session.step, Session.start]
      split
      · exact h
      · exact h.updateBlock index fun _ _ hblock => hblock.updateResult _
  | arrive index reply =>
      simp only [Session.step, Session.arrive]
      split
      · exact h
      · split
        · exact h
        · exact h.updateBlock _ fun _ _ hblock => hblock.updateResult _
  | attachControls => exact h.attachControls

theorem after {session : Session} (h : page.Equipped true session.page) (runner : Runner)
    (steps : List Session.Step) : page.Equipped true (session.after runner steps).page := by
  induction steps generalizing session with
  | nil => exact h
  | cons step steps ih => exact ih (h.step runner step)

theorem equipped_of_getElem? (h : page.Equipped attached next) {index : ℕ}
    {found block : QueryBlock} (hfound : page.blocks[index]? = some found)
    (hblock : next.blocks[index]? = some block) : found.Equipped attached block :=
  related_of_getElem? h.blocks hfound hblock

theorem controls_of_mem (h : page.Equipped attached next) {block : QueryBlock}
    (hblock : block ∈ next.blocks) :
    block.controlRegion.controls = if attached then [.run] else [] := by
  obtain ⟨found, -, hequipped⟩ := exists_of_mem_right h.blocks hblock
  exact hequipped.controls

/-- The control at the front of every block runs it. -/
theorem frontRuns_eq (h : page.Equipped true next) :
    next.frontRuns = List.range next.blocks.length := by
  rw [frontRuns, List.filter_eq_self]
  intro index hindex
  have hlt := List.mem_range.mp hindex
  have hcontrols := h.controls_of_mem (List.getElem_mem hlt)
  rw [if_pos rfl] at hcontrols
  simp [hcontrols, hlt, Control.run]

end Equipped

end Page

theorem Runner.Reaches.equipped {runner : Runner} {page next : Page} {attached : Bool}
    (h : runner.Reaches page attached next) (hfresh : page.Fresh) :
    page.Equipped attached next := by
  induction h with
  | start => exact Page.equipped_of_fresh hfresh
  | attachControls _ ih => exact ih.attachControls
  | run index endpoint server _ ih =>
      exact ih.updateBlock index fun _ _ hblock => hblock.run runner server endpoint
  | activate server _ _ _ ih =>
      exact ih.updateBlock _ fun _ _ hblock => hblock.activate runner server _ _
  | runAll _ _ ih => exact ih.attachControls.after runner _

/-! ### What is submitted -/

theorem Page.defaultEndpoint?_cases (page : Page) :
    (∃ text, text ≠ [] ∧ page.config.lookup Dependency.endpointField = some (.string text) ∧
      page.defaultEndpoint? = some text) ∨
    ((∀ text, page.config.lookup Dependency.endpointField = some (.string text) → text = []) ∧
      page.defaultEndpoint? = none) := by
  rw [Page.defaultEndpoint?]
  split
  · next endpoint hlookup =>
      rcases nonEmpty?_cases (some endpoint) with ⟨text, hne, hsome, htext⟩ | ⟨hempty, hnone⟩
      · exact .inl ⟨text, hne, by rw [hlookup, Option.some.inj hsome], htext⟩
      · refine .inr ⟨fun text htext => hempty text ?_, hnone⟩
        rw [hlookup, Option.some.injEq, Json.string.injEq] at htext
        rw [htext]
  · next hother => exact .inr ⟨fun text htext => absurd htext (hother text), rfl⟩

theorem Runner.submits_submission (runner : Runner) (page : Page) (block : QueryBlock) :
    runner.Submits page block (runner.submission block page.defaultEndpoint?) := by
  rw [submission, resolveEndpoint, QueryBlock.endpoint?]
  rcases nonEmpty?_cases (block.attributes.get? DataAttribute.endpoint) with
    ⟨own, hne, hblock, hown⟩ | ⟨hblock, hown⟩
  · rw [hown]
    exact .own hne hblock
  · rw [hown, Option.none_or]
    rcases page.defaultEndpoint?_cases with ⟨endpoint, hne, hpage, hendpoint⟩ | ⟨hpage, hnone⟩
    · rw [hendpoint]
      exact .ofPage hne hblock hpage
    · rw [hnone]
      exact .fallback hblock hpage

/-! ### A run of all blocks -/

theorem Page.getElem?_attachControls (page : Page) (index : ℕ) :
    page.attachControls.blocks[index]? = page.blocks[index]?.map (page.ready true) := by
  unfold attachControls ready
  cases page.controlsAttached <;> simp

namespace Runner

variable {runner : Runner} {page before : Page} {attached : Bool} {replies : ℕ → Reply}
  {steps : List Session.Step}

/-- Equipping a block does not change what it submits. -/
theorem submission_of_equipped (h : page.Equipped attached before) {found block : QueryBlock}
    (hblock : found.Equipped attached block) :
    runner.submission block before.defaultEndpoint? =
      runner.submission found page.defaultEndpoint? := by
  rw [h.defaultEndpoint?]
  exact runner.submission_congr hblock.query hblock.attributes _

/-- The submissions of a full run, block by block. -/
theorem submissions_eq (h : page.Equipped true before) (hsteps : before.FullRun replies steps) :
    ((Session.ofPage before).after runner steps).runs.map Run.submission =
      before.blocks.map fun block => runner.submission block before.defaultEndpoint? := by
  refine List.ext_getElem? fun index => ?_
  rw [List.getElem?_map, List.getElem?_map]
  cases hblock : before.blocks[index]? with
  | none =>
      have hindex := List.getElem?_eq_none_iff.mp hblock
      rw [List.getElem?_eq_none (by rwa [hsteps.length_session runner h.frontRuns_eq])]
      rfl
  | some block =>
      obtain ⟨run, hrun, -, hsubmission, -⟩ := hsteps.run runner h.frontRuns_eq hblock
      rw [hrun, Option.map_some, Option.map_some, hsubmission]

/-- A run returns the region of its own block. -/
theorem returned_eq (h : page.Equipped true before) (hsteps : before.FullRun replies steps) :
    ((Session.ofPage before).after runner steps).returned =
      ((Session.ofPage before).after runner steps).page.blocks.map fun block =>
        some block.resultRegion := by
  have hpage := hsteps.getElem?_page runner h.frontRuns_eq h.controlsAttached
  refine List.ext_getElem? fun index => ?_
  rw [Session.returned, List.getElem?_map, List.getElem?_map]
  cases hblock : before.blocks[index]? with
  | none =>
      have hindex := List.getElem?_eq_none_iff.mp hblock
      rw [List.getElem?_eq_none (by rwa [hsteps.length_session runner h.frontRuns_eq]), hpage,
        hblock]
      rfl
  | some block =>
      obtain ⟨run, hrun, hown, -⟩ := hsteps.run runner h.frontRuns_eq hblock
      rw [hrun, Option.map_some, hown, hpage, hblock]
      rfl

theorem servesBlocks (h : page.Equipped attached before)
    (hsteps : before.attachControls.FullRun replies steps) :
    runner.ServesBlocks page before replies
      ((Session.ofPage before.attachControls).after runner steps) := by
  have hready := h.attachControls
  refine ⟨?_, ?_, returned_eq hready hsteps, hready.after runner steps, ?_⟩
  · rw [submissions_eq hready hsteps]
    refine List.forall₂_map_right_iff.mpr (hready.blocks.imp fun found block hblock => ?_)
    rw [submission_of_equipped hready hblock]
    exact runner.submits_submission page found
  · intro run hrun
    obtain ⟨index, hindex, rfl⟩ := List.getElem_of_mem hrun
    have hlt : index < before.attachControls.blocks.length := by
      rwa [← hsteps.length_session runner hready.frontRuns_eq]
    obtain ⟨found, hfound, -, -, harrived⟩ := hsteps.run runner hready.frontRuns_eq
      (List.getElem?_eq_getElem hlt)
    rw [List.getElem?_eq_getElem hindex, Option.some.injEq] at hfound
    rw [hfound, harrived]
  · intro index found block hfound hblock
    have hnow : before.attachControls.blocks[index]? = some (before.ready true block) := by
      rw [Page.getElem?_attachControls, hblock, Option.map_some]
    have hequipped := hready.equipped_of_getElem? hfound hnow
    refine ⟨_, by rw [hsteps.getElem?_page runner hready.frontRuns_eq hready.controlsAttached,
      hnow, Option.map_some], ?_, ?_⟩
    · rw [QueryBlock.content_afterRuns rfl, outcome, ← submission_of_equipped hready hequipped]
      rfl
    · rw [QueryBlock.generation_afterRuns, Page.resultRegion_ready]
      rfl

/-! ### A run of all blocks against a server -/

/-- The reply of a server to a submission, where a request is made at all. -/
def replyTo (runner : Runner) (server : Request → Reply) (submission : Submission) : Reply :=
  ((runner.requests submission).head?.map server).getD .silence

/-- The replies of a server to the runs of a full run of a page. -/
def repliesTo (runner : Runner) (server : Request → Reply) (page : Page) (index : ℕ) : Reply :=
  (page.blocks[index]?.map fun block =>
    runner.replyTo server (runner.submission block page.defaultEndpoint?)).getD .silence

theorem content_replyTo (runner : Runner) (server : Request → Reply) (submission : Submission) :
    runner.content (fun _ => runner.replyTo server submission) submission =
      runner.content server submission := by
  refine content_congr fun request hrequest => ?_
  obtain ⟨first, hfirst⟩ : ∃ first, runner.requests submission = [first] := by
    have hlength := runner.length_requests_le submission
    exact List.length_eq_one_iff.mp (by have := List.length_pos_of_mem hrequest; omega)
  rw [hfirst, List.mem_singleton] at hrequest
  simp [replyTo, hfirst, hrequest]

theorem activateFirst_of_front {block : QueryBlock}
    (h : block.controlRegion.controls = [.run]) (server : Request → Reply)
    (endpoint : Option Text) : runner.activateFirst server endpoint block =
      ([(runner.run server endpoint block).resultRegion.content],
        [runner.submission block endpoint], runner.run server endpoint block) := by
  rw [activateFirst, h]
  rfl

/-- A run of all blocks submits the query of each block once, in the order of the page. -/
theorem submissions_runAll_of_equipped (h : page.Equipped attached before)
    (server : Request → Reply) :
    (runner.runAll server before).2.1 =
      page.blocks.map fun found => runner.submission found page.defaultEndpoint? := by
  have hready := h.attachControls
  have hstep : ∀ block ∈ before.attachControls.blocks,
      (runner.activateFirst server before.attachControls.defaultEndpoint? block).2.1 =
        [runner.submission block before.attachControls.defaultEndpoint?] := by
    intro block hblock
    rw [activateFirst_of_front (hready.controls_of_mem hblock)]
  have hsame : before.attachControls.blocks.map
        (fun block => runner.submission block before.attachControls.defaultEndpoint?) =
      page.blocks.map fun found => runner.submission found page.defaultEndpoint? := by
    rw [eq_comm, ← List.forall₂_eq_eq_eq, List.forall₂_map_left_iff, List.forall₂_map_right_iff]
    exact hready.blocks.imp fun found block hblock => (submission_of_equipped hready hblock).symm
  rw [← hsame]
  simp only [runAll, List.flatMap_map]
  rw [List.map_eq_flatMap]
  exact List.flatMap_congr hstep

/-- Running all blocks against a server is the full run in which every run meets with the reply
of that server to its own request, in whatever order the replies arrive. -/
theorem runAll_eq (h : page.Equipped attached before) (server : Request → Reply)
    (hsteps : before.attachControls.FullRun (runner.repliesTo server before.attachControls) steps) :
    let session := (Session.ofPage before.attachControls).after runner steps
    runner.runAll server before = (session.page.blocks.map fun block => block.resultRegion.content,
      session.runs.map Run.submission, session.page) := by
  intro session
  have hready := h.attachControls
  have hrun : before.attachControls.blocks.map
        (runner.activateFirst server before.attachControls.defaultEndpoint?) =
      before.attachControls.blocks.map fun block =>
        ([(runner.run server before.attachControls.defaultEndpoint? block).resultRegion.content],
          [runner.submission block before.attachControls.defaultEndpoint?],
          runner.run server before.attachControls.defaultEndpoint? block) := by
    exact List.map_congr_left fun block hblock =>
      activateFirst_of_front (hready.controls_of_mem hblock) server _
  have hblocks : session.page.blocks = before.attachControls.blocks.map
      (runner.run server before.attachControls.defaultEndpoint?) := by
    refine List.ext_getElem? fun index => ?_
    rw [hsteps.getElem?_page runner hready.frontRuns_eq hready.controlsAttached, List.getElem?_map]
    cases hblock : before.attachControls.blocks[index]? with
    | none => rfl
    | some block =>
        rw [Option.map_some, Option.map_some, repliesTo, hblock, run_eq,
          ← content_replyTo runner server]
        rfl
  have hpage : session.page =
      { before.attachControls with blocks := session.page.blocks } := by
    have htracks := (Session.tracks_after runner before.attachControls steps).page_eq
    have hsame : before.attachControls.attachControls = before.attachControls :=
      if_pos hready.controlsAttached
    simp only [session, htracks, History.page, hsame, ite_self]
  rw [runAll, hrun, submissions_eq hready hsteps, hpage, hblocks]
  simp [List.flatMap_map, List.map_map, Function.comp_def, ← List.map_eq_flatMap]

/-- Whatever was called on a page that was read, each block has exactly one run control once run
controls were attached, and a run of all blocks submits each query once, to the endpoint of its
block, and shows in each block what became of its own submission, in whatever order the replies
arrive. -/
theorem runAll_serves_blocks (runner : Runner) {source : Text} {page : Page}
    (hpage : Page.read source = .ok page) {attached : Bool} {before : Page}
    (hbefore : runner.Reaches page attached before) :
    (attached = true → ∀ block ∈ before.blocks, block.controlRegion.controls = [.run]) ∧
      (∀ (replies : ℕ → Reply) (steps : List Session.Step),
        before.attachControls.FullRun replies steps →
          runner.ServesBlocks page before replies
            ((Session.ofPage before.attachControls).after runner steps)) ∧
      ∀ (server : Request → Reply) (steps : List Session.Step),
        before.attachControls.FullRun (runner.repliesTo server before.attachControls) steps →
          let session := (Session.ofPage before.attachControls).after runner steps
          runner.runAll server before =
            (session.page.blocks.map fun block => block.resultRegion.content,
              session.runs.map Run.submission, session.page) := by
  have h := hbefore.equipped (Page.fresh_of_read hpage)
  refine ⟨?_, fun replies steps => servesBlocks h, fun server steps => runAll_eq h server⟩
  rintro rfl block hblock
  exact h.controls_of_mem hblock

/-- Two blocks with the same query and the same endpoint. Controls are attached twice, and a run
of the first block comes between. In the run of all blocks the reply to the second block is the
first to arrive. -/
theorem runAll_serves_blocks_with_one_query :
    let source := ("<pre class=\"ladybug-query\" data-ladybug-endpoint=\"http://db\"><code>" ++
      "RETURN 1</code></pre><pre class=\"ladybug-query\" data-ladybug-endpoint=\"http://db\">" ++
      "<code>RETURN 1</code></pre>").toList
    let runner : Runner := ⟨.ofInt 30, CypherPages.defaultEndpoint, .standard⟩
    let replies : ℕ → Reply := fun run =>
      if run = 0 then .failed "ReadError".toList [] else .gaveUp
    ∃ page before : Page, Page.read source = .ok page ∧ page.blocks.length = 2 ∧
      runner.Reaches page true before ∧
      (∀ block ∈ before.blocks, block.controlRegion.controls = [.run]) ∧
      runner.ServesBlocks page before replies ((Session.ofPage before.attachControls).after runner
        (before.attachControls.frontRuns.map .start ++
          (List.range before.attachControls.frontRuns.length).reverse.map fun run =>
            .arrive run (replies run))) := by
  intro source runner replies
  have hread : (Page.read source).toOption.map (fun page => page.blocks.length) = some 2 := by
    decide +kernel
  obtain ⟨page, hpage, hlength⟩ := exists_of_toOption_map hread
  have hstart : runner.Reaches page false page := .start
  have hbefore := (hstart.attachControls.run 0 page.defaultEndpoint? fun _ =>
    .gaveUp).attachControls
  have hserves := runAll_serves_blocks runner hpage hbefore
  exact ⟨page, _, hpage, hlength, hbefore, hserves.1 rfl,
    hserves.2.1 replies _ (Page.fullRun_of_perm _ replies (List.reverse_perm _))⟩

end Runner

end CypherPages
