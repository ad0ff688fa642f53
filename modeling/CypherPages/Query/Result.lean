import CypherPages.Json.Value
import CypherPages.Number.Numeral
import CypherPages.Query.Error
import CypherPages.Text.Blank

/-! # Query results

The result of a query, and its shape check. The check is lenient with numbers, which may come
as booleans, whole doubles or numerals, and with missing fields; it counts every fault. -/

namespace CypherPages

/-- A time in milliseconds, as it was given. -/
inductive Elapsed
  | whole (milliseconds : Int)
  | real (milliseconds : Binary64)
  deriving DecidableEq

/-- What the service reports about the execution of a query. -/
structure QueryStats where
  nodesCreated : Option Int
  relationshipsCreated : Option Int
  propertiesSet : Option Int
  executionTime : Option Elapsed
  deriving DecidableEq

structure QueryResult where
  columns : List Text
  /-- The rows, each with its values by column. -/
  rows : List (List (Text × Json))
  stats : Option QueryStats
  /-- The error that the service reports. -/
  error : Option Text

namespace QueryResult

/-- Whether the service reports an error. -/
def hasError (result : QueryResult) : Bool := result.error.any fun message => !message.isEmpty

/-- Whether there is nothing to show in a table. -/
def isEmpty (result : QueryResult) : Bool := result.columns.isEmpty || result.rows.isEmpty

end QueryResult

/-- A value that passed the shape check, or the number of its faults. -/
abbrev Checked (α : Type) := Except Nat α

namespace Checked

/-- Check two values and count the faults of both. -/
def both {α β : Type} : Checked α → Checked β → Checked (α × β)
  | .ok a, .ok b => .ok (a, b)
  | .ok _, .error n => .error n
  | .error m, .ok _ => .error m
  | .error m, .error n => .error (m + n)

/-- Check every item of a list and count the faults of all. -/
def each {α β : Type} (check : α → Checked β) : List α → Checked (List β)
  | [] => .ok []
  | item :: rest => (both (check item) (each check rest)).map fun (first, others) => first :: others

/-- Check a field that may be missing or null. -/
def optional {β : Type} (check : Json → Checked β) : Option Json → Checked (Option β)
  | none | some .null => .ok none
  | some value => (check value).map some

def text : Json → Checked Text
  | .string s => .ok s
  | _ => .error 1

def fields : Json → Checked (List (Text × Json))
  | .object fields => .ok fields
  | _ => .error 1

/-- A list of checked items; nothing and null stand for the empty one. -/
def list {β : Type} (check : Json → Checked β) : Option Json → Checked (List β)
  | none | some .null => .ok []
  | some (.array items) => each check items
  | some _ => .error 1

/-- The integer that a value stands for. A double has to be whole and below `2 ^ 63` in
magnitude. -/
def integer? : Json → Option Int
  | .bool b => some (if b then 1 else 0)
  | .int n => some n
  | .float x => x.toInt?.filter fun n => n.natAbs < Nat.pow 2 63
  | .string s => (Numeral.lenientInteger? s).filter fun n => !Json.isOverlong n
  | _ => none

def integer (value : Json) : Checked Int :=
  match integer? value with
  | some n => .ok n
  | none => .error 1

/-- A time. It may be an integer or a real number, so a value that is neither has two
faults. -/
def elapsed (value : Json) : Checked Elapsed :=
  match value with
  | .float x => .ok (.real x)
  | value =>
    match integer? value with
    | some n => .ok (.whole n)
    | none =>
      match value with
      | .string s =>
        match Numeral.lenientReal? s with
        | some x => .ok (.real x)
        | none => .error 2
      | _ => .error 2

def stats (value : Json) : Checked QueryStats :=
  match value with
  | .object fields =>
    let field := fun (name : String) => fields.lookup name.toList
    let counts := both (optional integer (field "nodes_created"))
      (both (optional integer (field "relationships_created"))
        (optional integer (field "properties_set")))
    (both counts (optional elapsed (field "execution_time_ms"))).map
      fun ((nodes, relationships, properties), time) => ⟨nodes, relationships, properties, time⟩
  | _ => .error 1

end Checked

namespace QueryResult

/-- The result that the fields of an object describe. Fields of other names do not count. -/
def ofFields (fields : List (Text × Json)) : Checked QueryResult :=
  let field := fun (name : String) => fields.lookup name.toList
  (Checked.both
    (Checked.both (Checked.list Checked.text (field "columns"))
      (Checked.list Checked.fields (field "rows")))
    (Checked.both (Checked.optional Checked.stats (field "stats"))
      (Checked.optional Checked.text (field "error")))).map
    fun ((columns, rows), (stats, error)) => ⟨columns, rows, stats, error⟩

/-- The name of the kind of a value that is not an object. -/
def kindName : Json → String
  | .null => "NoneType"
  | .bool _ => "bool"
  | .int _ => "int"
  | .float _ => "float"
  | .string _ => "str"
  | .array _ => "list"
  | .object _ => "dict"

/-- The result that a decoded body describes. -/
def ofPayload : Json → Except ShapeProblem QueryResult
  | .object fields =>
    match ofFields fields with
    | .ok result => .ok result
    | .error count => .error (.faults count)
  | value => .error (.notAnObject (kindName value).toList)

end QueryResult

end CypherPages
