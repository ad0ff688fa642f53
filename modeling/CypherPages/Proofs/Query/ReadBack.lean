import CypherPages.Proofs.Html.Tree
import CypherPages.Proofs.Query.Rendering

/-! # Reading a rendered result

The markup of a result is a tree of elements in which the values of the result are texts. A
reader has the columns and the values back from it, and the tags tell no more than the shape of
the result. -/

namespace CypherPages
namespace Render
open Html

/-! ### The nodes of what is rendered -/

def classNode (name cls : String) (content : List Node) : Node :=
  .element name.toList [("class".toList, some cls.toList)] content

def bareNode (name : String) (content : List Node) : Node := .element name.toList [] content

theorem inside?_classNode (name cls : String) (content : List Node) :
    (classNode name cls content).inside? name = some content :=
  Node.inside?_element ..

theorem inside?_bareNode (name : String) (content : List Node) :
    (bareNode name content).inside? name = some content :=
  Node.inside?_element ..

/-- The sign of a null. -/
def nullNode : Node := classNode "span" "null" [.text "null".toList]

def cellNodes : Option Json → List Node
  | none | some .null => [nullNode]
  | some value => Node.ofText (valueText value)

def rowNode (columns : List Text) (fields : List (Text × Json)) : Node :=
  bareNode "tr" (columns.map fun column => bareNode "td" (cellNodes (fields.lookup column)))

def headNode (columns : List Text) : Node :=
  bareNode "thead" [bareNode "tr" (columns.map fun column => bareNode "th" (Node.ofText column))]

def tableNode (result : QueryResult) : Node :=
  if result.isEmpty then classNode "p" "ladybug-empty" [.text "No results".toList]
  else
    classNode "table" "ladybug-result-table"
      [headNode result.columns, bareNode "tbody" (result.rows.map (rowNode result.columns))]

def statsNodes : Option QueryStats → List Node
  | none => []
  | some stats =>
    match statsParts stats with
    | [] => []
    | parts => [classNode "div" "ladybug-stats" (Node.ofText (" | ".toList.intercalate parts))]

def errorNode (message : Text) (source : Option Text) : Node :=
  classNode "div" "ladybug-error" (Node.ofText (errorText message source))

def resultNodes (result : QueryResult) : List Node :=
  if result.hasError then [errorNode (result.error.getD []) none]
  else tableNode result :: statsNodes result.stats

/-! ### Pieces and nodes -/

variable {name cls : String} {pieces : List Piece} {nodes : List Node}

theorem tells_classNode (hname : Text.lower name.toList = name.toList)
    (h : Piece.Tells pieces nodes) :
    Piece.Tells (Piece.element (classTag name cls) pieces) [classNode name cls nodes] := by
  refine .element ?_ h
  rw [classTag, WrittenTag.event, WrittenTag.read_ofValues]
  exact congrArg (Event.startTag · _ false) hname

theorem tells_bareNode (hname : Text.lower name.toList = name.toList)
    (h : Piece.Tells pieces nodes) :
    Piece.Tells (Piece.element (bareTag name) pieces) [bareNode name nodes] := by
  refine .element ?_ h
  exact congrArg (Event.startTag · _ false) hname

theorem tells_cell (value : Option Json) : Piece.Tells (cellPieces value) (cellNodes value) := by
  have hnull : Piece.Tells nullPieces [nullNode] :=
    tells_classNode (by decide) (.ofText "null".toList)
  cases value with
  | none => exact hnull
  | some value =>
      cases value with
      | null => exact hnull
      | bool b => exact .ofText (valueText (.bool b))
      | int n => exact .ofText (valueText (.int n))
      | float x => exact .ofText (valueText (.float x))
      | string s => exact .ofText (valueText (.string s))
      | array items => exact .ofText (valueText (.array items))
      | object fields => exact .ofText (valueText (.object fields))

theorem tells_row (columns : List Text) (fields : List (Text × Json)) :
    Piece.Tells (rowPieces columns fields) [rowNode columns fields] := by
  have hcell (column : Text) :
      Piece.Tells (Piece.element (bareTag "td") (cellPieces (fields.lookup column)))
        [bareNode "td" (cellNodes (fields.lookup column))] :=
    tells_bareNode (by decide) (tells_cell (fields.lookup column))
  exact tells_bareNode (by decide) (.flatMap hcell columns)

theorem tells_head (columns : List Text) :
    Piece.Tells (headPieces columns) [headNode columns] := by
  have hcell (column : Text) :
      Piece.Tells (Piece.element (bareTag "th") (Piece.ofText (escape column)))
        [bareNode "th" (Node.ofText column)] :=
    tells_bareNode (by decide) (.ofText column)
  exact tells_bareNode (by decide) (tells_bareNode (by decide) (.flatMap hcell columns))

theorem tells_table (result : QueryResult) :
    Piece.Tells (tablePieces result) [tableNode result] := by
  unfold tablePieces tableNode
  split
  · exact tells_classNode (by decide) (.ofText "No results".toList)
  · have hbody : Piece.Tells
        (Piece.element (bareTag "tbody") (result.rows.flatMap (rowPieces result.columns)))
        [bareNode "tbody" (result.rows.map (rowNode result.columns))] :=
      tells_bareNode (by decide) (.flatMap (tells_row result.columns) result.rows)
    exact tells_classNode (by decide) ((tells_head result.columns).append hbody)

theorem tells_stats (stats : Option QueryStats) :
    Piece.Tells (statsPieces stats) (statsNodes stats) := by
  cases stats with
  | none => exact .nil
  | some stats =>
      cases hparts : statsParts stats with
      | nil =>
          simp only [statsPieces, statsNodes, hparts]
          exact .nil
      | cons part parts =>
          simp only [statsPieces, statsNodes, hparts]
          exact tells_classNode (by decide) (.ofText _)

theorem tells_error (message : Text) (source : Option Text) :
    Piece.Tells (errorPieces message source) [errorNode message source] :=
  tells_classNode (by decide) (.ofText (errorText message source))

theorem tells_result (result : QueryResult) :
    Piece.Tells (resultPieces result) (resultNodes result) := by
  unfold resultPieces resultNodes
  split
  · exact tells_error _ none
  · exact (tells_table result).append (tells_stats result.stats)

theorem Makes.readNodes? {text : Text}
    (h : Makes pieces text) (htells : Piece.Tells pieces nodes) :
    Html.readNodes? text = some nodes :=
  h.writeAll ▸ htells.readNodes? h.solid.plain

theorem readNodes?_result (result : QueryResult) :
    readNodes? (Render.result result) = some (resultNodes result) :=
  (makes_result result).readNodes? (tells_result result)

end Render

/-! ### The shape of a result -/

/-- What the tags of a rendered result tell. -/
structure ResultShape where
  hasError : Bool
  isEmpty : Bool
  columns : ℕ
  /-- For each row, which of its cells are null or missing. -/
  nulls : List (List Bool)
  hasStats : Bool
  deriving DecidableEq

def Json.isNullOrMissing : Option Json → Bool
  | none | some .null => true
  | some _ => false

def QueryResult.shape (result : QueryResult) : ResultShape where
  hasError := result.hasError
  isEmpty := result.isEmpty
  columns := result.columns.length
  nulls := result.rows.map fun fields =>
    result.columns.map fun column => Json.isNullOrMissing (fields.lookup column)
  hasStats := !(Render.statsLine result.stats).isEmpty

namespace ResultShape
open Html

def classTags (name cls : String) (inner : List Event) : List Event :=
  .startTag name.toList [("class".toList, some cls.toList)] false ::
    (inner ++ [.endTag name.toList])

def bareTags (name : String) (inner : List Event) : List Event :=
  .startTag name.toList [] false :: (inner ++ [.endTag name.toList])

def rowTags (nulls : List Bool) : List Event :=
  bareTags "tr" <| nulls.flatMap fun isNull =>
    bareTags "td" (if isNull then classTags "span" "null" [] else [])

def tableTags (columns : ℕ) (nulls : List (List Bool)) : List Event :=
  classTags "table" "ladybug-result-table" <|
    bareTags "thead" (bareTags "tr" (List.replicate columns (bareTags "th" [])).flatten) ++
      bareTags "tbody" (nulls.flatMap rowTags)

/-- The tags of all results of a shape. -/
def tags (shape : ResultShape) : List Event :=
  if shape.hasError then classTags "div" "ladybug-error" []
  else
    (if shape.isEmpty then classTags "p" "ladybug-empty" []
      else tableTags shape.columns shape.nulls) ++
      if shape.hasStats then classTags "div" "ladybug-stats" [] else []

end ResultShape

/-! ### A table that is read -/

/-- The texts of a table. A cell with the sign of a null has none. -/
structure TableTexts where
  header : List Text
  body : List (List (Option Text))
  deriving DecidableEq

namespace TableTexts
open Html

/-- Whether the sign of a null is all that stands in a cell. -/
def isNullSign : List Node → Bool
  | [.element name attributes [.text decoded]] =>
    name == "span".toList && attributes == [("class".toList, some "null".toList)] &&
      decoded == "null".toList
  | _ => false

/-- What a cell with the given content shows. -/
def shown? (content : List Node) : Option Text :=
  if isNullSign content then none else some (Node.shownTextAll content)

/-- The texts of the cells of a row. -/
def readRow? {α : Type} (cell : String) (read : List Node → α) (row : Node) : Option (List α) := do
  let cells ← row.inside? "tr"
  cells.mapM fun node => (node.inside? cell).map read

/-- The names of the columns, which stand in one row. -/
def readHeader? (head : Node) : Option (List Text) :=
  match head.inside? "thead" with
  | some [row] => readRow? "th" Node.shownTextAll row
  | _ => none

/-- What the rows of values show. -/
def readBody? (body : Node) : Option (List (List (Option Text))) := do
  let rows ← body.inside? "tbody"
  rows.mapM (readRow? "td" shown?)

def read? (table : Node) : Option TableTexts :=
  match table.inside? "table" with
  | some [head, body] => do return ⟨← readHeader? head, ← readBody? body⟩
  | _ => none

/-- What a cell is to show: the text of its value, nothing where that is null or missing. -/
def ofValue : Option Json → Option Text
  | none | some .null => none
  | some value => some (Render.valueText value)

/-- What the table of a result is to show: the columns, and for each row what it has for each
of them. -/
def ofResult (result : QueryResult) : TableTexts where
  header := result.columns
  body := result.rows.map fun fields =>
    result.columns.map fun column => ofValue (fields.lookup column)

end TableTexts

/-! ### What is read -/

namespace ResultShape
open Html Render

theorem tagsAll_classNode (name cls : String) (content : List Node) :
    Node.tagsAll [classNode name cls content] = classTags name cls (Node.tagsAll content) := by
  rw [classNode, Node.tagsAll_cons_element, Node.tagsAll_nil, classTags]

theorem tagsAll_bareNode (name : String) (content : List Node) :
    Node.tagsAll [bareNode name content] = bareTags name (Node.tagsAll content) := by
  rw [bareNode, Node.tagsAll_cons_element, Node.tagsAll_nil, bareTags]

theorem tagsAll_cellNodes (value : Option Json) : Node.tagsAll (cellNodes value) =
    if Json.isNullOrMissing value then classTags "span" "null" [] else [] := by
  have hnull : Node.tagsAll [nullNode] = classTags "span" "null" [] := tagsAll_classNode ..
  cases value with
  | none => exact hnull
  | some value =>
      cases value with
      | null => exact hnull
      | bool | int | float | string | array | object => exact Node.tagsAll_ofText _

theorem tagsAll_rowNode (columns : List Text) (fields : List (Text × Json)) :
    Node.tagsAll [rowNode columns fields] =
      rowTags (columns.map fun column => Json.isNullOrMissing (fields.lookup column)) := by
  simp only [rowNode, rowTags, tagsAll_bareNode, Node.tagsAll_map, tagsAll_cellNodes,
    List.flatMap_map]

theorem tagsAll_headNode (columns : List Text) : Node.tagsAll [headNode columns] =
    bareTags "thead"
      (bareTags "tr" (List.replicate columns.length (bareTags "th" [])).flatten) := by
  simp only [headNode, tagsAll_bareNode, Node.tagsAll_map, Node.tagsAll_ofText]
  rw [List.flatMap_def, List.map_const']

theorem tagsAll_tableNode (result : QueryResult) : Node.tagsAll [tableNode result] =
    if result.isEmpty then classTags "p" "ladybug-empty" []
    else tableTags result.shape.columns result.shape.nulls := by
  unfold tableNode
  split
  · exact tagsAll_classNode ..
  · rw [tagsAll_classNode, ← List.singleton_append, Node.tagsAll_append, tagsAll_headNode,
      tagsAll_bareNode, Node.tagsAll_map, tableTags]
    simp only [tagsAll_rowNode, QueryResult.shape, List.flatMap_map]

theorem tagsAll_statsNodes (stats : Option QueryStats) : Node.tagsAll (statsNodes stats) =
    if !(statsLine stats).isEmpty then classTags "div" "ladybug-stats" [] else [] := by
  cases stats with
  | none => rfl
  | some stats =>
      cases hparts : statsParts stats with
      | nil => simp [statsNodes, statsLine, hparts]
      | cons part parts =>
          simp [statsNodes, statsLine, hparts, tagsAll_classNode]

theorem tagsAll_resultNodes (result : QueryResult) :
    Node.tagsAll (resultNodes result) = result.shape.tags := by
  unfold resultNodes tags
  rw [show result.shape.hasError = result.hasError from rfl]
  split
  · rw [errorNode, tagsAll_classNode, Node.tagsAll_ofText]
  · rw [← List.singleton_append, Node.tagsAll_append, tagsAll_tableNode, tagsAll_statsNodes]
    rfl

theorem tags_result (result : QueryResult) :
    Html.tags (Render.result result) = .ok result.shape.tags := by
  rw [tags_of_readNodes? (readNodes?_result result), tagsAll_resultNodes]

end ResultShape

namespace TableTexts
open Html Render

theorem shown?_cellNodes (value : Option Json) : shown? (cellNodes value) = ofValue value := by
  have htext (t : Text) : shown? (Node.ofText t) = some t := by
    have hsign : isNullSign (Node.ofText t) = false := by cases t <;> rfl
    rw [shown?, hsign, if_neg Bool.false_ne_true, Node.shownTextAll_ofText]
  cases value with
  | none => rfl
  | some value =>
      cases value with
      | null => rfl
      | bool | int | float | string | array | object => exact htext _

/-- Reading every node of a list that is made from items. -/
theorem mapM_map_eq_some {α β γ : Type} {make : α → β} {read? : β → Option γ} {found : α → γ}
    (h : ∀ item, read? (make item) = some (found item)) (items : List α) :
    (items.map make).mapM read? = some (items.map found) := by
  induction items with
  | nil => rfl
  | cons item items ih =>
      rw [List.map_cons, List.mapM_cons, h, ih]
      rfl

theorem readRow?_bareNode {α β : Type} {cell : String} {read : List Node → β}
    {content : α → List Node} (items : List α) :
    readRow? cell read (bareNode "tr" (items.map fun item => bareNode cell (content item))) =
      some (items.map fun item => read (content item)) := by
  rw [readRow?, inside?_bareNode]
  refine mapM_map_eq_some (fun item => ?_) items
  rw [inside?_bareNode, Option.map_some]

theorem readHeader?_headNode (columns : List Text) :
    readHeader? (headNode columns) = some columns := by
  simp only [readHeader?, headNode, inside?_bareNode, readRow?_bareNode, Node.shownTextAll_ofText,
    List.map_id']

theorem readBody?_bareNode (columns : List Text) (rows : List (List (Text × Json))) :
    readBody? (bareNode "tbody" (rows.map (rowNode columns))) =
      some (rows.map fun fields => columns.map fun column => ofValue (fields.lookup column)) := by
  rw [readBody?, inside?_bareNode]
  refine mapM_map_eq_some (fun fields => ?_) rows
  rw [rowNode, readRow?_bareNode]
  simp only [shown?_cellNodes]

/-- A table is read as what its result is to show. -/
theorem read?_tableNode {result : QueryResult} (h : result.isEmpty = false) :
    read? (tableNode result) = some (ofResult result) := by
  rw [tableNode, h, if_neg Bool.false_ne_true, read?, inside?_classNode]
  simp only [readHeader?_headNode, readBody?_bareNode]
  rfl

end TableTexts

/-! ### The markup of a result -/

namespace Render
open Html

theorem hasError_iff {result : QueryResult} :
    result.hasError = true ↔ ∃ message, result.error = some message ∧ message ≠ [] := by
  simp [QueryResult.hasError, Option.any_eq_true]

/-- The markup of a result is a properly nested fragment. The result can be read back from it:
the columns and the text of every value from a table, and an error from its only element. The
tags depend on no more than the shape of the result. -/
theorem result_reads_back (result : QueryResult) :
    ∃ nodes, readNodes? (Render.result result) = some nodes ∧
      (∀ other : QueryResult, other.shape = result.shape →
        tags (Render.result other) = tags (Render.result result)) ∧
      (result.hasError = false → result.isEmpty = false →
        nodes.head?.bind TableTexts.read? = some (TableTexts.ofResult result)) ∧
      (∀ message, result.error = some message → message ≠ [] →
        nodes = [.element "div".toList [("class".toList, some "ladybug-error".toList)]
          [.text message]]) := by
  refine ⟨resultNodes result, readNodes?_result result, fun other hother => ?_,
    fun herror hempty => ?_, fun message hmessage hne => ?_⟩
  · rw [ResultShape.tags_result, ResultShape.tags_result, hother]
  · rw [resultNodes, herror, if_neg Bool.false_ne_true, List.head?_cons, Option.bind_some,
      TableTexts.read?_tableNode hempty]
  · have herror : result.hasError = true := hasError_iff.mpr ⟨message, hmessage, hne⟩
    have htext : Node.ofText message = [.text message] := if_neg (by simpa using hne)
    rw [resultNodes, herror, if_pos rfl, hmessage, Option.getD_some]
    show [classNode "div" "ladybug-error" (Node.ofText message)] = _
    rw [htext, classNode]

/-- A text that spells the sign of a null is read as that text, and the null beside it as none.
A number beside a missing value has the same tags. Markup in an error is text. -/
theorem result_reads_back_spelled_null :
    let spelled : QueryResult := ⟨["a".toList, "b".toList],
      [[("a".toList, .string nullMarker), ("b".toList, .null)]], none, none⟩
    let counted : QueryResult := ⟨["n".toList, "m".toList], [[("n".toList, .int 1)]], none, none⟩
    let refused : QueryResult := ⟨[], [], none, some "<b>no</b>".toList⟩
    (∃ nodes, readNodes? (Render.result spelled) = some nodes ∧
      nodes.head?.bind TableTexts.read? =
        some ⟨["a".toList, "b".toList], [[some nullMarker, none]]⟩) ∧
      tags (Render.result counted) = tags (Render.result spelled) ∧
      readNodes? (Render.result refused) = some [.element "div".toList
        [("class".toList, some "ladybug-error".toList)] [.text "<b>no</b>".toList]] := by
  intro spelled counted refused
  obtain ⟨nodes, hnodes, htags, htable, -⟩ := result_reads_back spelled
  obtain ⟨others, hothers, -, -, herror⟩ := result_reads_back refused
  refine ⟨⟨nodes, hnodes, htable rfl rfl⟩, htags counted (by decide), ?_⟩
  rw [hothers, herror "<b>no</b>".toList rfl (by decide)]

end Render
end CypherPages
