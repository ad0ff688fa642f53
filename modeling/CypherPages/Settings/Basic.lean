import CypherPages.Number.Numeral
import CypherPages.Settings.EnvFile
import CypherPages.Text.Lower

/-! # Settings

The settings come from environment variables and from an environment file, which the variables
override. The names of variables are read without regard to case. -/

namespace CypherPages

/-- What the environment decides. -/
structure Settings where
  /-- The endpoint for queries that name none. -/
  endpoint : Option Text
  /-- The time that a query may take, in seconds. -/
  timeout : Binary64
  logLevel : Text

/-- Why settings cannot be read: the timeout is not a number. -/
inductive SettingsError
  | timeoutNotANumber
  deriving DecidableEq

namespace Settings

/-- Variables by their names in lower case. -/
def ignoringCase (entries : Entries Text (Option Text)) : Entries Text (Option Text) :=
  Entries.ofPairs (entries.map fun (name, value) => (Text.lower name, value))

/-- The settings for environment variables and the text of an environment file. -/
def read (environment : List (Text × Text)) (file : Option Text) :
    Except SettingsError Settings :=
  let given := ignoringCase (environment.map fun (name, value) => (name, some value))
  let stated : Entries Text (Option Text) := match file with
    | none => []
    | some text =>
      ignoringCase (EnvFile.resolve environment (EnvFile.bindings text.normalizeNewlines))
  let setting := fun (name : String) =>
    ((given.get? name.toList).join).or ((stated.get? name.toList).join)
  let withTimeout := fun timeout =>
    ⟨setting "ladybug_endpoint", timeout, (setting "ladybug_log_level").getD "INFO".toList⟩
  match setting "ladybug_timeout_seconds" with
  | none => .ok (withTimeout (.ofInt 10))
  | some text =>
    match Numeral.lenientReal? text with
    | some timeout => .ok (withTimeout timeout)
    | none => .error .timeoutNotANumber

end Settings

end CypherPages
