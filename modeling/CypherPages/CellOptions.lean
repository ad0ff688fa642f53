import CypherPages.Text.Basic
import CypherPages.Entries

/-! # Cell options

The options of a query block: built-in defaults, overridden by the block's directives. The
endpoint is never empty: the block decides, then the environment, then the built-in one. -/

namespace CypherPages

/-- The endpoint when neither a block nor the environment names one. -/
def defaultEndpoint : Text := "http://127.0.0.1:8080".toList

/-- The value of an option that counts as unset when it is empty. -/
def nonEmpty? : Option Text → Option Text
  | some (c :: rest) => some (c :: rest)
  | _ => none

def resolveEndpoint (block environment : Option Text) : Text :=
  ((nonEmpty? block).or (nonEmpty? environment)).getD defaultEndpoint

namespace CellOptions

def contextKey : Text := "context".toList

def endpointKey : Text := "endpoint".toList

def defaults (environment : Option Text) : Entries Text Text :=
  [(contextKey, "interactive".toList), (endpointKey, resolveEndpoint none environment)]

/-- The directives over the defaults. Keys that have no meaning here are passed on. -/
def resolve (directives : Entries Text Text) (environment : Option Text) : Entries Text Text :=
  ((defaults environment).setAll directives).set endpointKey
    (resolveEndpoint (directives.get? endpointKey) environment)

end CellOptions

end CypherPages
