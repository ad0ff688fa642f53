import CypherPages.Http.Url
import CypherPages.Number.Shortest

/-! # Failures of a query

Why a query has no result, and how that is reported to the reader of a page. -/

namespace CypherPages

/-- A message with a label that says where it comes from. -/
structure Report where
  source : Text
  message : Text
  deriving DecidableEq

def Report.text (report : Report) : Text := report.source ++ ": ".toList ++ report.message

/-- The label of what the query service does or fails to do. -/
def serviceLabel : Text := "ladybug-rs".toList

/-- The label of what is wrong with a document. -/
def documentLabel : Text := "pandoc-filter".toList

/-- Why the body of a response is no result. -/
inductive ShapeProblem
  | unreadable (detail : Text)
  | notAnObject (kind : Text)
  /-- The object has so many faults. -/
  | faults (count : Nat)
  deriving DecidableEq

def ShapeProblem.message : ShapeProblem → Text
  | .unreadable detail => "invalid JSON in response: ".toList ++ detail
  | .notAnObject kind => "expected a JSON object, got ".toList ++ kind
  | .faults count => "unexpected response shape (".toList ++ Text.decimal count ++
      " error(s))".toList

/-- Why a query has no result. -/
inductive QueryError
  /-- No response came within the time allowed, in seconds. -/
  | timeout (seconds : Binary64)
  /-- The response reports a failure. -/
  | status (code : Int) (reason : Text)
  /-- The request brought no response. -/
  | transport (message : Text)
  /-- The body of the response is no result. -/
  | shape (problem : ShapeProblem)
  /-- The endpoint makes no address. -/
  | address (problem : Url.Problem)
  /-- The host of the address cannot be called. -/
  | host (problem : Url.HostProblem)
  /-- There is a response, but to an address that does not name its host. -/
  | unknownHost (url : Text)
  /-- Something else went wrong; `kind` names it. -/
  | unexpected (kind message : Text)
  deriving DecidableEq

/-- A message, or the kind of a failure whose message is empty. -/
def messageOrKind (kind message : Text) : Text := if message.isEmpty then kind else message

def QueryError.message : QueryError → Text
  | .timeout _ => "timeout".toList
  | .status code reason => "HTTP ".toList ++ Text.signedDecimal code ++ ": ".toList ++ reason
  | .transport message => message
  | .shape problem => problem.message
  | .address problem => problem.message
  | .host problem => problem.message
  | .unknownHost url => "unknown url type: ".toList ++ url.quoted
  | .unexpected kind message => messageOrKind kind message

def QueryError.report (error : QueryError) : Report := ⟨serviceLabel, error.message⟩

end CypherPages
