import CypherPages.Run.Runner

/-! # Sessions

Runs on the blocks of one page may overlap and end in any order. A session is the page with the
runs that were started on it; a run that was overtaken by a newer one on its block ends without
a trace. -/

namespace CypherPages

/-- A run that was started on a block of a page. -/
structure Run where
  /-- The index of the block. -/
  block : Nat
  token : Nat
  submission : Submission
  /-- Whether the outcome has arrived. -/
  arrived : Bool

/-- A page with the runs started on it, oldest first. -/
structure Session where
  page : Page
  runs : List Run

namespace Session

/-- A page before any run. -/
def ofPage (page : Page) : Session := ⟨page, []⟩

def start (runner : Runner) (session : Session) (index : Nat) : Session :=
  match session.page.blocks[index]? with
  | none => session
  | some block =>
    let begun := block.beginRun
    let run := ⟨index, begun.resultRegion.generation,
      runner.submission block session.page.defaultEndpoint?, false⟩
    ⟨session.page.updateBlock index QueryBlock.beginRun, session.runs ++ [run]⟩

/-- Let the outcome of a run arrive. It arrives once. -/
def arrive (runner : Runner) (session : Session) (index : Nat) (reply : Reply) : Session :=
  match session.runs[index]? with
  | none => session
  | some run =>
    if run.arrived then session
    else
      ⟨session.page.updateBlock run.block fun block =>
          block.settleRun run.token (runner.content (fun _ => reply) run.submission),
        session.runs.modify index fun run => { run with arrived := true }⟩

def attachControls (session : Session) : Session :=
  { session with page := session.page.attachControls }

/-- What can happen in a session. -/
inductive Step
  | start (block : Nat)
  | arrive (run : Nat) (reply : Reply)
  | attachControls

def step (runner : Runner) (session : Session) : Step → Session
  | .start block => session.start runner block
  | .arrive run reply => session.arrive runner run reply
  | .attachControls => session.attachControls

end Session

end CypherPages
