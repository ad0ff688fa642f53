import CypherPages.Build.Assets
import CypherPages.Text.Lower

/-! # Build passes

The state of one build of one document: the numbers given to its query blocks, and its assets,
which are registered at most once. -/

namespace CypherPages

def pageFormats : List Text :=
  ["html".toList, "html4".toList, "html5".toList, "revealjs".toList, "slidy".toList,
    "s5".toList, "dzslides".toList, "slideous".toList]

/-- Whether an output format is a page. Extensions, which follow a plus or a minus sign, and
case do not matter. -/
def isPageFormat (format : Text) : Bool :=
  let base : Text := (format.takeWhile (· ≠ '+')).takeWhile (· ≠ '-')
  pageFormats.contains base.lower

/-- The state of one build. -/
structure BuildPass where
  format : Text
  /-- The endpoint that the environment names. -/
  environment : Option Text
  /-- The time that a query may take, in seconds. -/
  timeout : Binary64
  blockCount : Nat
  assetsRegistered : Bool
  dependencies : List Dependency

namespace BuildPass

def start (format : Text) (environment : Option Text) (timeout : Binary64) : BuildPass :=
  ⟨format, environment, timeout, 0, false, []⟩

/-- Issue the next block number, which is the new block count. -/
def issue (pass : BuildPass) : BuildPass := { pass with blockCount := pass.blockCount + 1 }

/-- Attach assets unless assets are registered already. -/
def register (pass : BuildPass) (dependency : Dependency) : BuildPass :=
  if pass.assetsRegistered then pass
  else { pass with
    assetsRegistered := true
    dependencies := pass.dependencies ++ [dependency] }

/-- The assets of the build as elements of its page, empty when none are registered. -/
def renderAssets (pass : BuildPass) : Except AssetError Text :=
  (pass.dependencies.mapM Dependency.render).map Text.unlines

end BuildPass

end CypherPages
