import CypherPages.Proofs.Page.Fresh
import CypherPages.Proofs.Page.ReadAgain
import CypherPages.Proofs.Query.Rendering
import CypherPages.Proofs.Session.Invariant

/-! # Uses of a page

A session, a run of all blocks and the mere attaching of run controls use a page in the same
way: they add a run control to each block, or to none, and give some of the blocks a result that
is plain markup. -/

namespace CypherPages
open Html

/-! ### What is shown -/

namespace Page.Content

/-- The pieces of a text as the content of a region. -/
def ofMakes {pieces : List Piece} {text : Text} (h : Render.Makes pieces text) : Content :=
  ⟨pieces, h.solid.plain, h.nested⟩

/-- What is shown for a submission to a server. -/
def ofSubmission (runner : Runner) (server : Request → Reply) (submission : Submission) : Content :=
  ofMakes (Render.makes_outcome
    (queryOutcome runner.timeout runner.decoder submission.endpoint submission.query server))

theorem writeAll_ofSubmission (runner : Runner) (server : Request → Reply)
    (submission : Submission) :
    Piece.writeAll (ofSubmission runner server submission).pieces =
      runner.content server submission :=
  (Render.makes_outcome _).writeAll

/-- What is shown for a run on a block that met with a reply, or did not yet. -/
def ofReply (runner : Runner) (page : Page) (block : QueryBlock) : Option Reply → Content
  | none => ofMakes Render.makes_runningNotice
  | some reply =>
    ofSubmission runner (fun _ => reply) (runner.submission block page.defaultEndpoint?)

theorem writeAll_ofReply (runner : Runner) (page : Page) (block : QueryBlock)
    (reply : Option Reply) : Piece.writeAll (ofReply runner page block reply).pieces =
      (reply.map (runner.shown page block)).getD Render.runningNotice := by
  cases reply with
  | none => exact Render.makes_runningNotice.writeAll
  | some reply => exact writeAll_ofSubmission runner _ _

end Page.Content

open Page (Content)

/-! ### Sessions -/

/-- What the blocks of a page show after a history. -/
def History.contents (runner : Runner) (page : Page) (history : History) :
    List (Option Content) :=
  page.blocks.mapIdx fun index block =>
    (PastRun.replies history.runs index).getLast?.map (Content.ofReply runner page block)

theorem Page.ready_of_not_attached {page : Page} (h : page.controlsAttached = false)
    (attached : Bool) (block : QueryBlock) :
    page.ready attached block = if attached then block.insertControl .run else block := by
  rw [ready, h]
  cases attached <;> rfl

/-- A block after runs shows the reply to the latest of them. -/
theorem QueryBlock.carries_afterRuns (runner : Runner) {page : Page}
    (hpage : page.controlsAttached = false) (attached : Bool) (found : QueryBlock)
    (replies : List (Option Reply)) :
    found.Carries attached (replies.getLast?.map (Content.ofReply runner page found))
      ((page.ready attached found).afterRuns (runner.shown page found) replies) := by
  rw [Page.ready_of_not_attached hpage]
  cases h : replies.getLast? with
  | none =>
      obtain rfl := List.getLast?_eq_none_iff.mp h
      rw [afterRuns_nil]
      cases attached <;> exact ⟨rfl, rfl, rfl, rfl, rfl, rfl⟩
  | some latest =>
      have hlength : replies.length ≠ 0 := by
        rintro hzero
        rw [List.length_eq_zero_iff.mp hzero] at h
        cases h
      have hgeneration : found.resultRegion.generation + replies.length ≠ 0 := by omega
      rw [afterRuns_of_getLast? h, ← Content.writeAll_ofReply]
      cases attached <;> exact ⟨rfl, rfl, rfl, rfl, rfl, _, hgeneration, rfl⟩

/-- A history uses the page that it starts from. -/
theorem History.uses (runner : Runner) {page : Page} (h : page.Fresh) (history : History) :
    page.Uses history.attached (history.contents runner page) (history.page runner page) where
  source := history.source_page runner page
  config := history.config_page runner page
  controlsAttached := by rw [controlsAttached_page, h.controlsAttached, Bool.or_false]
  contents_length := List.length_mapIdx
  length := history.length_page runner page
  carries := by
    intro index found content? block hfound hcontent hblock
    rw [contents, List.getElem?_mapIdx, hfound, Option.map_some, Option.some.injEq] at hcontent
    rw [getElem?_page, hfound, Option.map_some, Option.some.injEq] at hblock
    rw [← hcontent, ← hblock]
    exact QueryBlock.carries_afterRuns runner h.controlsAttached history.attached found _

/-! ### Running all blocks -/

theorem Page.attachControls_of_fresh {page : Page} (h : page.Fresh) :
    page.attachControls = { page with
      blocks := page.blocks.map fun block => block.insertControl .run
      controlsAttached := true } := by
  rw [attachControls, if_neg (by simp [h.controlsAttached])]

theorem Page.uses_attachControls {page : Page} (h : page.Fresh) :
    page.Uses true (page.blocks.map fun _ => none) page.attachControls := by
  rw [attachControls_of_fresh h]
  refine ⟨rfl, rfl, rfl, List.length_map _, List.length_map _, ?_⟩
  intro index found content? block hfound hcontent hblock
  rw [List.getElem?_map, hfound, Option.map_some, Option.some.injEq] at hcontent hblock
  subst hcontent hblock
  exact ⟨rfl, rfl, rfl, rfl, rfl, rfl⟩

/-- What the blocks of a page show after all of them were run. -/
def Runner.contents (runner : Runner) (server : Request → Reply) (page : Page) :
    List (Option Content) :=
  page.blocks.map fun block =>
    some (Content.ofSubmission runner server (runner.submission block page.defaultEndpoint?))

/-- A block that is run to its end shows the outcome of its submission. -/
theorem Runner.carries_run (runner : Runner) (server : Request → Reply) (endpoint : Option Text)
    (found : QueryBlock) :
    found.Carries true
      (some (Content.ofSubmission runner server (runner.submission found endpoint)))
      (runner.run server endpoint (found.insertControl .run)) := by
  have hsubmission : runner.submission (found.insertControl .run) endpoint =
      runner.submission found endpoint := rfl
  refine ⟨rfl, rfl, rfl, rfl, rfl, found.resultRegion.generation + 1, Nat.succ_ne_zero _, ?_⟩
  rw [Content.writeAll_ofSubmission, ← hsubmission]
  simp [run, QueryBlock.settleRun, QueryBlock.beginRun, QueryBlock.updateResult,
    QueryBlock.resultRegion, QueryBlock.insertControl, ResultRegion.begin, ResultRegion.settle,
    ResultRegion.accepts]

/-- Running all blocks runs each of them with its run control. -/
theorem Runner.runAll_of_fresh (runner : Runner) (server : Request → Reply) {page : Page}
    (h : page.Fresh) :
    (runner.runAll server page).2.2 = { page with
      blocks := page.blocks.map fun block =>
        runner.run server page.defaultEndpoint? (block.insertControl .run)
      controlsAttached := true } := by
  have hendpoint : page.attachControls.defaultEndpoint? = page.defaultEndpoint? := by
    rw [Page.attachControls_of_fresh h]
    rfl
  simp only [runAll, hendpoint]
  rw [Page.attachControls_of_fresh h, List.map_map, List.map_map]
  rfl

theorem Runner.uses_runAll (runner : Runner) (server : Request → Reply) {page : Page}
    (h : page.Fresh) :
    page.Uses true (runner.contents server page) (runner.runAll server page).2.2 := by
  rw [runner.runAll_of_fresh server h]
  refine ⟨rfl, rfl, rfl, List.length_map _, List.length_map _, ?_⟩
  intro index found content? block hfound hcontent hblock
  rw [contents, List.getElem?_map, hfound, Option.map_some, Option.some.injEq] at hcontent
  rw [List.getElem?_map, hfound, Option.map_some, Option.some.injEq] at hblock
  subst hcontent hblock
  exact runner.carries_run server _ found

end CypherPages
