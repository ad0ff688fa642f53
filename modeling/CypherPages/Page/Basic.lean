import CypherPages.Build.Assets
import CypherPages.CellOptions
import CypherPages.DataAttribute
import CypherPages.Page.Region

/-! # Pages

A published page: its source, the query blocks found in it, and its configuration. Places in
the source are offsets in characters. -/

namespace CypherPages

structure QueryBlock where
  /-- The text of the block's code. -/
  query : Text
  attributes : Entries Text Text
  /-- Just past the block's start tag. -/
  startTagEnd : Nat
  /-- Just past the tag that ends the block. -/
  stop : Nat
  controls : Option ControlRegion
  result : Option ResultRegion

namespace QueryBlock

/-- The number under which the block was published. -/
def id? (block : QueryBlock) : Option Text := block.attributes.get? DataAttribute.id

/-- The endpoint that the block names. An empty one is none. -/
def endpoint? (block : QueryBlock) : Option Text :=
  nonEmpty? (block.attributes.get? DataAttribute.endpoint)

/-- The block's controls, none if it has no control region. -/
def controlRegion (block : QueryBlock) : ControlRegion := block.controls.getD .empty

/-- The block's result region, a fresh one if it has none. -/
def resultRegion (block : QueryBlock) : ResultRegion := block.result.getD .empty

/-- Give the block a control region if it has none. -/
def ensureControls (block : QueryBlock) : QueryBlock :=
  { block with controls := some block.controlRegion }

/-- Give the block a result region if it has none. -/
def ensureResult (block : QueryBlock) : QueryBlock :=
  { block with result := some block.resultRegion }

/-- Put a control at the front of the block's controls. -/
def insertControl (block : QueryBlock) (control : Control) : QueryBlock :=
  { block with controls := some (block.controlRegion.insert control) }

/-- Change the block's result region, which is made if need be. -/
def updateResult (block : QueryBlock) (change : ResultRegion → ResultRegion) : QueryBlock :=
  { block with result := some (change block.resultRegion) }

end QueryBlock

structure Page where
  source : Text
  blocks : List QueryBlock
  config : List (Text × Json)
  /-- Whether run controls were attached to the blocks. -/
  controlsAttached : Bool

/-- What can be wrong with a page's configuration. -/
inductive ConfigError
  /-- The timeout is too large for a double-precision number. -/
  | timeoutTooLarge
  deriving DecidableEq

/-- The time in seconds of a timeout in milliseconds. -/
def secondsOf (milliseconds : Int) : Except ConfigError Binary64 :=
  match Binary64.ofIntDiv milliseconds 1000 with
  | .infinite _ => .error .timeoutTooLarge
  | seconds => .ok seconds

namespace Page

/-- The endpoint that the configuration names, if that is a text that is not empty. -/
def defaultEndpoint? (page : Page) : Option Text :=
  match page.config.lookup Dependency.endpointField with
  | some (.string endpoint) => nonEmpty? (some endpoint)
  | _ => none

/-- The timeout that the configuration names, in seconds, if it is a positive number. A boolean
counts as a number. -/
def timeout? (page : Page) : Except ConfigError (Option Binary64) :=
  match page.config.lookup Dependency.timeoutField with
  | some (.bool true) => (secondsOf 1).map some
  | some (.int n) => if 0 < n then (secondsOf n).map some else .ok none
  | some (.float x) => .ok (if x.isPositive then some (x.divNat 1000) else none)
  | _ => .ok none

/-- Attach a run control to every block, the first time only. -/
def attachControls (page : Page) : Page :=
  if page.controlsAttached then page
  else { page with
    blocks := page.blocks.map fun block => block.insertControl .run
    controlsAttached := true }

/-- How many controls `attachControls` adds. -/
def newControls (page : Page) : Nat := if page.controlsAttached then 0 else page.blocks.length

def updateBlock (page : Page) (index : Nat) (change : QueryBlock → QueryBlock) : Page :=
  { page with blocks := page.blocks.modify index change }

end Page

end CypherPages
