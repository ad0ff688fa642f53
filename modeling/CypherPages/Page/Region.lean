import CypherPages.Html.Escape

/-! # Regions of a query block

A block may have two regions: its controls, which stand inside it, and the result of its last
run, which stands after it. A result region counts the runs that it was opened for; only the
latest of them may settle it. -/

namespace CypherPages

/-- What the use of a control does. -/
inductive ControlAction
  /-- It runs the block. -/
  | runBlock
  /-- It leaves the block alone. -/
  | inert
  deriving DecidableEq

structure Control where
  title : Text
  action : ControlAction
  deriving DecidableEq

namespace Control

/-- The class by which a run button is found on a page. -/
def buttonClass : Text := "run-ladybug-button".toList

def runTitle : Text := "Run Cypher query against ladybug-rs".toList

def run : Control := ⟨runTitle, .runBlock⟩

def toHtml (control : Control) : Text :=
  let title := Html.escape control.title
  "<button class=\"".toList ++ buttonClass ++ " play-button\" title=\"".toList ++ title ++
    "\" aria-label=\"".toList ++ title ++ "\"></button>".toList

end Control

/-- A control region that a page already has. -/
structure ExistingControls where
  /-- Just past the region's start tag. -/
  insertAt : Nat
  /-- Whether the region holds a run button. -/
  hasRunButton : Bool
  deriving DecidableEq

/-- The controls of a block, front to back. -/
structure ControlRegion where
  controls : List Control
  existing : Option ExistingControls
  deriving DecidableEq

namespace ControlRegion

/-- The class of the element that holds the controls. -/
def elementClass : Text := "buttons".toList

/-- A region that a page does not have yet, without controls. -/
def empty : ControlRegion := ⟨[], none⟩

/-- Whether the page already has the region with a run button in it. -/
def hasRunButton (region : ControlRegion) : Bool :=
  region.existing.any ExistingControls.hasRunButton

/-- Put a control at the front. -/
def insert (region : ControlRegion) (control : Control) : ControlRegion :=
  { region with controls := control :: region.controls }

/-- The controls that the page does not have yet. Where a run button is present it stands for
the control at the front. -/
def pending (region : ControlRegion) : List Control :=
  if region.hasRunButton then region.controls.drop 1 else region.controls

def pendingHtml (region : ControlRegion) : Text := region.pending.flatMap Control.toHtml

def toHtml (region : ControlRegion) : Text :=
  "<div class=\"".toList ++ elementClass ++ "\">".toList ++ region.pendingHtml ++
    "</div>".toList

end ControlRegion

/-- The result of a block's runs. -/
structure ResultRegion where
  content : Text
  /-- How many runs the region was opened for. -/
  generation : Nat
  /-- Where the page already has the region, from its start to just past its end. -/
  span : Option (Nat × Nat)
  deriving DecidableEq

namespace ResultRegion

/-- The class by which a result region is found on a page. -/
def elementClass : Text := "ladybug-result".toList

/-- A region that the page does not have yet, before any run. -/
def empty : ResultRegion := ⟨[], 0, none⟩

/-- Open the region for a run. The run's token is the new generation. -/
def begin (region : ResultRegion) (notice : Text) : ResultRegion :=
  { region with content := notice, generation := region.generation + 1 }

/-- Whether a token belongs to the latest run. -/
def accepts (region : ResultRegion) (token : Nat) : Bool := token == region.generation

/-- Write the outcome of the run with this token, unless a newer run was started. -/
def settle (region : ResultRegion) (token : Nat) (content : Text) : ResultRegion :=
  if region.accepts token then { region with content } else region

def toHtml (region : ResultRegion) : Text :=
  "<div class=\"".toList ++ elementClass ++ "\">".toList ++ region.content ++ "</div>".toList

end ResultRegion

end CypherPages
