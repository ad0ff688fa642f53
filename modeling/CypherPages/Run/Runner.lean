import CypherPages.Page.Basic
import CypherPages.Query.Client
import CypherPages.Query.Render

/-! # Running query blocks

A runner submits the query of a block to the block's endpoint and renders the outcome into the
block's result region. Whatever happens becomes content of the region. -/

namespace CypherPages

/-- What is shown for the outcome of a query. -/
def Render.outcome : Except QueryError QueryResult → Text
  | .ok result => Render.result result
  | .error error => Render.report error.report

/-- A query and the endpoint that it goes to. -/
structure Submission where
  endpoint : Text
  query : Text
  deriving DecidableEq

namespace QueryBlock

/-- Open the block's result region for a run. -/
def beginRun (block : QueryBlock) : QueryBlock :=
  block.updateResult fun region => region.begin Render.runningNotice

/-- Write the outcome of the run with this token, unless a newer run was started. -/
def settleRun (block : QueryBlock) (token : Nat) (content : Text) : QueryBlock :=
  block.updateResult fun region => region.settle token content

end QueryBlock

/-- What runs the blocks of pages: the time that a query may take, in seconds, the endpoint for
queries that neither their block nor their page sends elsewhere, and how responses are read. -/
structure Runner where
  timeout : Binary64
  defaultEndpoint : Text
  decoder : Json.Decoder

namespace Runner

/-- The endpoint for a block: its own, else its page's, else the runner's. -/
def resolveEndpoint (runner : Runner) (block : QueryBlock) (pageEndpoint : Option Text) : Text :=
  (block.endpoint?.or pageEndpoint).getD runner.defaultEndpoint

/-- What a run of a block submits. -/
def submission (runner : Runner) (block : QueryBlock) (pageEndpoint : Option Text) : Submission :=
  ⟨runner.resolveEndpoint block pageEndpoint, block.query⟩

/-- The requests that a submission makes. -/
def requests (runner : Runner) (submission : Submission) : List Request :=
  requestsFor runner.timeout submission.endpoint submission.query

/-- What is shown for a submission to a server. -/
def content (runner : Runner) (server : Request → Reply) (submission : Submission) : Text :=
  Render.outcome
    (queryOutcome runner.timeout runner.decoder submission.endpoint submission.query server)

/-- Run a block to its end. -/
def run (runner : Runner) (server : Request → Reply) (pageEndpoint : Option Text)
    (block : QueryBlock) : QueryBlock :=
  let begun := block.beginRun
  begun.settleRun begun.resultRegion.generation
    (runner.content server (runner.submission block pageEndpoint))

/-- What the use of a control shows, what it submits, and the block after it. A control that
leaves the block alone shows nothing. -/
def activate (runner : Runner) (server : Request → Reply) (pageEndpoint : Option Text)
    (block : QueryBlock) (control : Control) : Text × List Submission × QueryBlock :=
  match control.action with
  | .runBlock =>
    let after := runner.run server pageEndpoint block
    (after.resultRegion.content, [runner.submission block pageEndpoint], after)
  | .inert => ([], [], block)

/-- The use of the control at the front of a block's controls, if it has any. -/
def activateFirst (runner : Runner) (server : Request → Reply) (pageEndpoint : Option Text)
    (block : QueryBlock) : List Text × List Submission × QueryBlock :=
  match block.controlRegion.controls with
  | [] => ([], [], block)
  | control :: _ =>
    let (content, submissions, after) := runner.activate server pageEndpoint block control
    ([content], submissions, after)

/-- Use the control at the front of every block of a page, which gets its run controls first:
what is shown, what is submitted, and the page after it. -/
def runAll (runner : Runner) (server : Request → Reply) (page : Page) :
    List Text × List Submission × Page :=
  let ready := page.attachControls
  let steps := ready.blocks.map (runner.activateFirst server ready.defaultEndpoint?)
  (steps.flatMap (·.1), steps.flatMap (·.2.1), { ready with blocks := steps.map (·.2.2) })

end Runner

end CypherPages
