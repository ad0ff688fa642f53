import CypherPages.Proofs.Html.Fragment
import CypherPages.Run.Runner

/-! # Rendered results are plain markup

Whatever a region shows is put together from elements and escaped texts. The values of a result
decide about texts only. -/

namespace CypherPages.Render
open Html

/-- A tag with a class. -/
def classTag (name cls : String) : WrittenTag :=
  .ofValues name.toList [("class".toList, cls.toList)]

def bareTag (name : String) : WrittenTag := .ofValues name.toList []

/-! ### The pieces of what is rendered -/

/-- What a null shows as. -/
def nullPieces : List Piece := Piece.element (classTag "span" "null") [.text "null".toList]

/-- A text as the content of a paragraph. -/
def noticePieces (cls text : String) : List Piece :=
  Piece.element (classTag "p" cls) [.text text.toList]

/-- A value as the content of a table cell. -/
def cellPieces : Option Json → List Piece
  | none | some .null => nullPieces
  | some value => Piece.ofText (escape (valueText value))

def rowPieces (columns : List Text) (fields : List (Text × Json)) : List Piece :=
  Piece.element (bareTag "tr") <| columns.flatMap fun column =>
    Piece.element (bareTag "td") (cellPieces (fields.lookup column))

def headPieces (columns : List Text) : List Piece :=
  Piece.element (bareTag "thead") <| Piece.element (bareTag "tr") <|
    columns.flatMap fun column => Piece.element (bareTag "th") (Piece.ofText (escape column))

def tablePieces (result : QueryResult) : List Piece :=
  if result.isEmpty then noticePieces "ladybug-empty" "No results"
  else
    Piece.element (classTag "table" "ladybug-result-table") <|
      headPieces result.columns ++
        Piece.element (bareTag "tbody") (result.rows.flatMap (rowPieces result.columns))

/-- The line of statistics. -/
def statsPieces : Option QueryStats → List Piece
  | none => []
  | some stats =>
    match statsParts stats with
    | [] => []
    | parts =>
      Piece.element (classTag "div" "ladybug-stats")
        (Piece.ofText (escape (" | ".toList.intercalate parts)))

/-- The text of an error with its label. -/
def errorText (message : Text) (source : Option Text) : Text :=
  match source with
  | some (c :: label) => c :: label ++ ": ".toList ++ message
  | _ => message

/-- An error with its label. -/
def errorPieces (message : Text) (source : Option Text) : List Piece :=
  Piece.element (classTag "div" "ladybug-error") (Piece.ofText (escape (errorText message source)))

def resultPieces (result : QueryResult) : List Piece :=
  if result.hasError then errorPieces (result.error.getD []) none
  else tablePieces result ++ statsPieces result.stats

def outcomePieces : Except QueryError QueryResult → List Piece
  | .ok result => resultPieces result
  | .error error => errorPieces error.report.message (some error.report.source)

/-! ### Fragments -/

/-- Pieces that make up a text, can stand anywhere in plain markup, and are properly nested. -/
structure Makes (pieces : List Piece) (text : Text) : Prop where
  writeAll : Piece.writeAll pieces = text
  solid : Piece.Solid pieces
  nested : Piece.Nested pieces

theorem Makes.append {first rest : List Piece} {text after : Text} (h : Makes first text)
    (hrest : Makes rest after) : Makes (first ++ rest) (text ++ after) :=
  ⟨by rw [Piece.writeAll_append, h.writeAll, hrest.writeAll], h.solid.append hrest.solid,
    h.nested.append hrest.nested⟩

theorem Makes.nil : Makes [] [] := ⟨rfl, Piece.solid_nil, .nil⟩

theorem Makes.flatMap {α : Type} {pieces : α → List Piece} {text : α → Text} {items : List α}
    (h : ∀ item ∈ items, Makes (pieces item) (text item)) :
    Makes (items.flatMap pieces) (items.flatMap text) := by
  induction items with
  | nil => exact .nil
  | cons item items ih =>
      rw [List.flatMap_cons, List.flatMap_cons]
      exact (h item List.mem_cons_self).append
        (ih fun other hother => h other (List.mem_cons_of_mem _ hother))

/-- An element with nested content. -/
theorem Makes.element {tag : WrittenTag} {opening closing : Text} {content : List Piece}
    {text : Text} (htag : (Piece.start tag).isLawful = true) (hopening : tag.write = opening)
    (hclosing : Piece.endTag tag.name = closing) (h : Makes content text) :
    Makes (Piece.element tag content) (opening ++ text ++ closing) :=
  ⟨by rw [Piece.writeAll_element, h.writeAll, hopening, hclosing],
    Piece.Plain.element htag h.solid.plain, .singleton tag h.nested⟩

/-- An element with escaped text. -/
theorem Makes.ofText {tag : WrittenTag} {opening closing : Text}
    (htag : (Piece.start tag).isLawful = true) (hopening : tag.write = opening)
    (hclosing : Piece.endTag tag.name = closing) (t : Text) :
    Makes (Piece.element tag (Piece.ofText (escape t))) (opening ++ escape t ++ closing) :=
  ⟨by rw [Piece.writeAll_element, Piece.writeAll_ofText, hopening, hclosing],
    Piece.Plain.element htag (Piece.plain_ofText (not_mem_escape (.inl rfl) t)),
    .singleton tag (.ofText _)⟩

/-! ### What is rendered -/

theorem makes_nullPieces : Makes nullPieces nullMarker :=
  ⟨by decide, Piece.Plain.element (by decide) (Piece.plain_singleton (by decide)),
    .singleton _ (.text _ .nil)⟩

theorem makes_runningNotice :
    Makes (noticePieces "ladybug-running" "Running query...") runningNotice :=
  ⟨by decide, Piece.Plain.element (by decide) (Piece.plain_singleton (by decide)),
    .singleton _ (.text _ .nil)⟩

theorem makes_emptyNotice : Makes (noticePieces "ladybug-empty" "No results") emptyNotice :=
  ⟨by decide, Piece.Plain.element (by decide) (Piece.plain_singleton (by decide)),
    .singleton _ (.text _ .nil)⟩

/-- A table cell is an element with a text or with the sign of a null. -/
theorem makes_cell (value : Option Json) :
    Makes (Piece.element (bareTag "td") (cellPieces value))
      ("<td>".toList ++ cell value ++ "</td>".toList) := by
  have htag : (Piece.start (bareTag "td")).isLawful = true := by decide
  have hopening : (bareTag "td").write = "<td>".toList := by decide
  have hclosing : Piece.endTag (bareTag "td").name = "</td>".toList := by decide
  cases value with
  | none => exact makes_nullPieces.element htag hopening hclosing
  | some value =>
      cases value with
      | null => exact makes_nullPieces.element htag hopening hclosing
      | bool b => exact .ofText htag hopening hclosing (valueText (.bool b))
      | int n => exact .ofText htag hopening hclosing (valueText (.int n))
      | float x => exact .ofText htag hopening hclosing (valueText (.float x))
      | string s => exact .ofText htag hopening hclosing (valueText (.string s))
      | array items => exact .ofText htag hopening hclosing (valueText (.array items))
      | object fields => exact .ofText htag hopening hclosing (valueText (.object fields))

theorem makes_row (columns : List Text) (fields : List (Text × Json)) :
    Makes (rowPieces columns fields) (row columns fields) :=
  Makes.element (by decide) (by decide) (by decide)
    (.flatMap fun column _ => makes_cell (fields.lookup column))

theorem makes_head (columns : List Text) : Makes (headPieces columns)
    ("<thead>".toList ++ ("<tr>".toList ++ (columns.flatMap fun column =>
      "<th>".toList ++ escape column ++ "</th>".toList) ++ "</tr>".toList) ++
        "</thead>".toList) :=
  Makes.element (by decide) (by decide) (by decide) <|
    Makes.element (by decide) (by decide) (by decide) <|
      .flatMap fun column _ => .ofText (by decide) (by decide) (by decide) column

theorem makes_table (result : QueryResult) : Makes (tablePieces result) (table result) := by
  unfold tablePieces table
  split
  · exact makes_emptyNotice
  · have hbody : Makes
        (Piece.element (bareTag "tbody") (result.rows.flatMap (rowPieces result.columns)))
        ("<tbody>".toList ++ result.rows.flatMap (row result.columns) ++ "</tbody>".toList) :=
      Makes.element (by decide) (by decide) (by decide)
        (.flatMap fun fields _ => makes_row result.columns fields)
    have hopening : (classTag "table" "ladybug-result-table").write =
        "<table class=\"ladybug-result-table\">".toList := by decide
    have hclosing : Piece.endTag (classTag "table" "ladybug-result-table").name =
        "</table>".toList := by decide
    have htable := ((makes_head result.columns).append hbody).element (by decide)
      hopening hclosing
    convert htable using 1
    simp

theorem makes_stats (stats : Option QueryStats) : Makes (statsPieces stats) (statsLine stats) := by
  cases stats with
  | none => exact .nil
  | some stats =>
      have hopening : (classTag "div" "ladybug-stats").write =
          "<div class=\"ladybug-stats\">".toList := by decide
      have hclosing : Piece.endTag (classTag "div" "ladybug-stats").name = "</div>".toList := by
        decide
      cases hparts : statsParts stats with
      | nil =>
          simp only [statsPieces, statsLine, hparts]
          exact .nil
      | cons part parts =>
          simp only [statsPieces, statsLine, hparts]
          exact .ofText (by decide) hopening hclosing _

theorem makes_error (message : Text) (source : Option Text) :
    Makes (errorPieces message source) (error message source) :=
  .ofText (by decide) (by decide) (by decide) (errorText message source)

theorem makes_result (result : QueryResult) :
    Makes (resultPieces result) (Render.result result) := by
  unfold resultPieces Render.result
  split
  · exact makes_error _ none
  · exact (makes_table result).append (makes_stats result.stats)

/-- What is shown for the outcome of a query is plain markup, properly nested. -/
theorem makes_outcome (outcome : Except QueryError QueryResult) :
    Makes (outcomePieces outcome) (Render.outcome outcome) := by
  cases outcome with
  | ok result => exact makes_result result
  | error error => exact makes_error _ _

end CypherPages.Render
