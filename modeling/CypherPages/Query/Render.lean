import CypherPages.Html.Escape
import CypherPages.Json.Writer
import CypherPages.Query.Result

/-! # Rendering of results

A result as markup: a table with a line of statistics, or an error. Every text that comes from
the service is escaped. -/

namespace CypherPages.Render

/-- What a null shows as. -/
def nullMarker : Text := "<span class=\"null\">null</span>".toList

/-- What a result without columns or rows shows as. -/
def emptyNotice : Text := "<p class=\"ladybug-empty\">No results</p>".toList

/-- What a region shows while its query runs. -/
def runningNotice : Text := "<p class=\"ladybug-running\">Running query...</p>".toList

/-- The text under which a value is displayed. -/
def valueText : Json → Text
  | .null => "None".toList
  | .bool true => "true".toList
  | .bool false => "false".toList
  | .int n => Text.signedDecimal n
  | .float x => x.display
  | .string s => s
  | .array items => (Json.array items).write .compact
  | .object fields => (Json.object fields).write .compact

/-- A value as the content of a table cell; a missing one shows as null. -/
def cell : Option Json → Text
  | none | some .null => nullMarker
  | some value => Html.escape (valueText value)

/-- A row of a table, one cell for each column. -/
def row (columns : List Text) (fields : List (Text × Json)) : Text :=
  "<tr>".toList ++
    (columns.flatMap fun column =>
      "<td>".toList ++ cell (fields.lookup column) ++ "</td>".toList) ++
    "</tr>".toList

/-- The columns and rows of a result as a table, or the notice that there are none. -/
def table (result : QueryResult) : Text :=
  if result.isEmpty then emptyNotice
  else
    "<table class=\"ladybug-result-table\"><thead><tr>".toList ++
      (result.columns.flatMap fun column =>
        "<th>".toList ++ Html.escape column ++ "</th>".toList) ++
      "</tr></thead><tbody>".toList ++ result.rows.flatMap (row result.columns) ++
      "</tbody></table>".toList

/-- A count that is not zero, with what it counts. -/
def countPart (count : Option Int) (unit : String) : List Text :=
  match count with
  | some n => if n = 0 then [] else [Text.signedDecimal n ++ ' ' :: unit.toList]
  | none => []

/-- A time in milliseconds. A double that is whole shows as an integer. -/
def elapsedText : Elapsed → Text
  | .whole n => Text.signedDecimal n
  | .real x =>
    match x.toInt? with
    | some n => Text.signedDecimal n
    | none => x.display

/-- The parts of the line of statistics. -/
def statsParts (stats : QueryStats) : List Text :=
  countPart stats.nodesCreated "nodes created" ++
    countPart stats.relationshipsCreated "rels created" ++
    countPart stats.propertiesSet "props set" ++
    (stats.executionTime.map fun time => elapsedText time ++ " ms".toList).toList

/-- The line of statistics, nothing when there is nothing to report. -/
def statsLine : Option QueryStats → Text
  | none => []
  | some stats =>
    match statsParts stats with
    | [] => []
    | parts =>
      "<div class=\"ladybug-stats\">".toList ++ Html.escape (" | ".toList.intercalate parts) ++
        "</div>".toList

/-- An error as markup. A label that is not empty stands before the message. -/
def error (message : Text) (source : Option Text) : Text :=
  let text := match source with
    | some (c :: label) => c :: label ++ ": ".toList ++ message
    | _ => message
  "<div class=\"ladybug-error\">".toList ++ Html.escape text ++ "</div>".toList

def report (report : Report) : Text := error report.message (some report.source)

/-- A result as markup: the error that the service reports, or the table and the statistics. -/
def result (result : QueryResult) : Text :=
  if result.hasError then error (result.error.getD []) none
  else table result ++ statsLine result.stats

end CypherPages.Render
