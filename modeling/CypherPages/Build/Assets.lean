import CypherPages.Build.Stylesheet
import CypherPages.Json.Writer

/-! # Companion assets

A page with query blocks carries a stylesheet and a script element that holds the page's
configuration as JSON. Inside the script no `</` may occur, since it would end the element; a
backslash between the two characters keeps the JSON the same. -/

namespace CypherPages

/-- Why assets cannot be described or written. -/
inductive AssetError
  /-- The timeout is infinite, or becomes so in milliseconds. -/
  | infiniteTimeout
  | undefinedTimeout
  | missingStylesheet (name : Text)
  /-- The configuration holds an integer with too many digits. -/
  | overlongInteger
  deriving DecidableEq

/-- Assets to attach to a page. -/
structure Dependency where
  name : Text
  version : Text
  stylesheets : List Text
  config : Json

/-- The number of whole milliseconds in a time given in seconds. -/
def milliseconds (seconds : Binary64) : Except AssetError Int :=
  match seconds.mulNat 1000 with
  | .nan => .error .undefinedTimeout
  | .infinite _ => .error .infiniteTimeout
  | finite => .ok (finite.truncate?.getD 0)

namespace Dependency

def configId : Text := "ladybug-query-config".toList

def timeoutField : Text := "timeout_ms".toList

def endpointField : Text := "endpoint".toList

/-- The assets of a page built with a timeout, in seconds, and an endpoint from the
environment. An empty endpoint is none. -/
def forQueries (timeout : Binary64) (environment : Option Text) : Except AssetError Dependency :=
  (milliseconds timeout).map fun ms =>
    let endpoint := match environment with
      | some (c :: rest) => [(endpointField, Json.string (c :: rest))]
      | _ => []
    { name := "ladybug-query".toList
      version := "0.1.0".toList
      stylesheets := ["ladybug-query.css".toList]
      config := .object ((timeoutField, .int ms) :: endpoint) }

/-- JSON text in which no `</` occurs and that denotes the same value: inside strings, the only
place where `<` can stand, a slash may be written with a backslash before it. -/
def guardEndTags : Text → Text
  | '<' :: '/' :: rest => '<' :: '\\' :: '/' :: guardEndTags rest
  | c :: rest => c :: guardEndTags rest
  | [] => []

def styleElement (dependency : Dependency) (stylesheet : Text) : Except AssetError Text :=
  match packagedStylesheets.lookup stylesheet with
  | none => .error (.missingStylesheet stylesheet)
  | some text =>
    .ok ("<style data-dependency=\"".toList ++ dependency.name ++ '-' :: dependency.version ++
      "\">\n".toList ++ text ++ "</style>".toList)

/-- The configuration as a script element of the page, its fields in order of name. -/
def configElement (dependency : Dependency) : Except AssetError Text :=
  if dependency.config.fits then
    .ok ("<script type=\"application/json\" id=\"".toList ++ configId ++ "\">".toList ++
      guardEndTags (dependency.config.sortFields.write .spaced) ++ "</script>".toList)
  else .error .overlongInteger

/-- The elements of a dependency on lines of their own. -/
def render (dependency : Dependency) : Except AssetError Text := do
  let styles ← dependency.stylesheets.mapM dependency.styleElement
  let config ← dependency.configElement
  return Text.unlines (styles ++ [config])

end Dependency

end CypherPages
