import CypherPages.Document.Publish
import CypherPages.Proofs.Build.Pass
import CypherPages.Proofs.Json.Place

/-! # The nodes of a document

The values in a document in preorder, each with its place. A code block element is a node without
nodes below it. A walk takes the nodes in this order: it goes through the values below a value
that is no code block element, one after the other. -/

namespace CypherPages

/-- Whether a value is tagged as a code block element. -/
def Json.isElement : Json → Bool
  | .object fields => CodeElement.isTagged fields
  | _ => false

namespace CodeElement

/-- The code block element that a value is. -/
def ofNode? : Json → Option CodeElement
  | .object fields => if isTagged fields then (ofFields fields).toOption else none
  | _ => none

/-- Whether an element has the class that makes it a query block. -/
def isQuery (element : CodeElement) : Bool :=
  element.classes.contains (BlockValue.ofText CodeBlock.marker)

end CodeElement

/-- The element of a code block. -/
def CodeBlock.element (block : CodeBlock Json) : CodeElement :=
  ⟨block.identifier, block.classes, block.attributes, .string block.text⟩

namespace Document

mutual

/-- A value and all values in it with their places, in preorder. What stands inside a code block
element is left out. -/
def nodes : Json → List (Json.Place × Json)
  | .array items => ([], .array items) :: nodesOfItems 0 items
  | .object fields =>
    ([], .object fields) ::
      if CodeElement.isTagged fields then [] else nodesOfMembers 0 fields
  | value => [([], value)]

/-- The nodes of values side by side, the first of which has this index. -/
def nodesOfItems (index : ℕ) : List Json → List (Json.Place × Json)
  | [] => []
  | item :: rest =>
    (nodes item).map (fun node => (index :: node.1, node.2)) ++ nodesOfItems (index + 1) rest

def nodesOfMembers (index : ℕ) : List (Text × Json) → List (Json.Place × Json)
  | [] => []
  | (_, value) :: rest =>
    (nodes value).map (fun node => (index :: node.1, node.2)) ++ nodesOfMembers (index + 1) rest

end

/-- The query block that a node is, at its place. -/
def queryAt? (node : Json.Place × Json) : Option (Json.Place × CodeElement) :=
  ((CodeElement.ofNode? node.2).filter CodeElement.isQuery).map (node.1, ·)

/-- The query blocks in a value with their places, in preorder. -/
def queryElements (value : Json) : List (Json.Place × CodeElement) :=
  (nodes value).filterMap queryAt?

def queryElementsOfItems (index : ℕ) (items : List Json) : List (Json.Place × CodeElement) :=
  (nodesOfItems index items).filterMap queryAt?

/-! ### Nodes -/

theorem nodesOfMembers_eq (index : ℕ) (fields : List (Text × Json)) :
    nodesOfMembers index fields = nodesOfItems index (fields.map Prod.snd) := by
  induction fields generalizing index with
  | nil => rw [List.map_nil, nodesOfMembers, nodesOfItems]
  | cons field fields ih => rw [List.map_cons, nodesOfMembers, nodesOfItems, ih]

theorem nodes_of_isElement {value : Json} (h : value.isElement = true) :
    nodes value = [([], value)] := by
  cases value with
  | object fields =>
      rw [Json.isElement] at h
      rw [nodes, h, if_pos rfl]
  | _ => cases h

theorem nodes_of_not_isElement {value : Json} (h : value.isElement = false) :
    nodes value = ([], value) :: nodesOfItems 0 value.children := by
  cases value with
  | array items => rw [nodes, Json.children]
  | object fields =>
      rw [Json.isElement] at h
      rw [nodes, h, if_neg Bool.false_ne_true, nodesOfMembers_eq, Json.children]
  | _ => simp only [nodes, Json.children, nodesOfItems]

theorem map_snd_nodesOfItems (index : ℕ) (items : List Json) :
    (nodesOfItems index items).map Prod.snd =
      items.flatMap fun item => (nodes item).map Prod.snd := by
  induction items generalizing index with
  | nil => rw [nodesOfItems, List.map_nil, List.flatMap_nil]
  | cons item items ih =>
      rw [nodesOfItems, List.map_append, ih, List.flatMap_cons, List.map_map]
      rfl

/-! ### Query blocks -/

theorem ofNode?_of_not_isElement {value : Json} (h : value.isElement = false) :
    CodeElement.ofNode? value = none := by
  cases value with
  | object fields =>
      rw [Json.isElement] at h
      rw [CodeElement.ofNode?, h, if_neg Bool.false_ne_true]
  | _ => rfl

theorem queryElements_of_not_isElement {value : Json} (h : value.isElement = false) :
    queryElements value = queryElementsOfItems 0 value.children := by
  have hnone : queryAt? ([], value) = none := by
    rw [queryAt?, ofNode?_of_not_isElement h]
    rfl
  rw [queryElements, nodes_of_not_isElement h, List.filterMap_cons_none hnone]
  rfl

theorem queryElementsOfItems_cons (index : ℕ) (item : Json) (rest : List Json) :
    queryElementsOfItems index (item :: rest) =
      (queryElements item).map (fun query => (index :: query.1, query.2)) ++
        queryElementsOfItems (index + 1) rest := by
  rw [queryElementsOfItems, nodesOfItems, List.filterMap_append, List.filterMap_map,
    queryElements, List.map_filterMap]
  congr 2
  funext node
  simp only [Function.comp_apply, queryAt?, Option.map_map]
  rfl

/-! ### Walks -/

theorem walkMembers_eq (fields : List (Text × Json)) (pass : BuildPass) :
    walkMembers fields pass =
      (walkItems (fields.map Prod.snd) pass).map fun (values, next) =>
        (fields.zipWith (fun field value => (field.1, value)) values, next) := by
  induction fields generalizing pass with
  | nil => rw [walkMembers, List.map_nil, walkItems]; rfl
  | cons field fields ih =>
      obtain ⟨name, value⟩ := field
      rw [walkMembers, List.map_cons, walkItems]
      cases walk value pass with
      | error error => rfl
      | ok found =>
          simp only [ih]
          cases walkItems (fields.map Prod.snd) found.2 <;> rfl

/-- A walk goes on below what is no code block element. -/
theorem walk_of_not_isElement {value : Json} (h : value.isElement = false) (pass : BuildPass) :
    walk value pass =
      (walkItems value.children pass).map fun (children, next) =>
        (value.withChildren children, next) := by
  cases value with
  | array items =>
      rw [walk, Json.children]
      cases walkItems items pass <;> rfl
  | object fields =>
      rw [Json.isElement] at h
      rw [walk, h, if_neg Bool.false_ne_true, walkMembers_eq, Json.children]
      cases walkItems (fields.map Prod.snd) pass <;> rfl
  | _ => simp only [walk, Json.children, walkItems, Except.map, Json.withChildren]

theorem walk_of_isTagged {fields : List (Text × Json)} (h : CodeElement.isTagged fields = true)
    (pass : BuildPass) : walk (.object fields) pass = walkElement fields pass := by
  rw [walk, if_pos h]

theorem walkItems_cons_eq_ok {item : Json} {rest results : List Json} {pass final : BuildPass}
    (h : walkItems (item :: rest) pass = .ok (results, final)) :
    ∃ result next others, walk item pass = .ok (result, next) ∧
      walkItems rest next = .ok (others, final) ∧ results = result :: others := by
  rw [walkItems] at h
  cases hitem : walk item pass with
  | error error => rw [hitem] at h; cases h
  | ok found =>
      obtain ⟨result, next⟩ := found
      cases hrest : walkItems rest next with
      | error error => simp only [hitem, hrest] at h; cases h
      | ok others =>
          simp only [hitem, hrest, Except.ok.injEq, Prod.mk.injEq] at h
          obtain ⟨rfl, rfl⟩ := h
          exact ⟨result, next, others.1, rfl, hrest, rfl⟩

/-- What a walk makes of a code block element: it leaves it alone, or it publishes it. -/
theorem walkElement_eq_ok {fields : List (Text × Json)} {pass next : BuildPass} {result : Json}
    (h : walkElement fields pass = .ok (result, next)) :
    ∃ element, CodeElement.ofFields fields = .ok element ∧
      (pass.publishes element.classes = false ∧ result = .object fields ∧ next = pass ∨
        pass.publishes element.classes = true ∧
          ∃ (block : CodeBlock Json) (dependency : Dependency), element = block.element ∧
          Dependency.forQueries pass.timeout pass.environment = .ok dependency ∧
          next = (pass.register dependency).issue ∧
          result = (block.publish (pass.blockCount + 1) pass.environment).toElement) := by
  rw [walkElement] at h
  cases hfields : CodeElement.ofFields fields with
  | error fault => rw [hfields] at h; cases h
  | ok element =>
      refine ⟨element, rfl, ?_⟩
      obtain ⟨identifier, classes, attributes, text⟩ := element
      cases hpublishes : pass.publishes classes with
      | false =>
          simp only [hfields, hpublishes, Bool.false_eq_true, ite_false, Except.ok.injEq,
            Prod.mk.injEq] at h
          exact .inl ⟨rfl, h.1.symm, h.2.symm⟩
      | true =>
          right
          refine ⟨rfl, ?_⟩
          simp only [hfields, hpublishes, ite_true] at h
          cases text with
          | string text =>
              let block : CodeBlock Json := ⟨text, classes, attributes, identifier⟩
              have hblock : pass.publishes block.classes = true := hpublishes
              cases hdependency : Dependency.forQueries pass.timeout pass.environment with
              | error error =>
                  have hprocess := BuildPass.process_of_error hblock hdependency
                  simp only [block, hprocess] at h
                  cases h
              | ok dependency =>
                  have hprocess := BuildPass.process_of_ok hblock hdependency
                  simp only [block, hprocess] at h
                  cases h
                  exact ⟨block, dependency, rfl, rfl, rfl, rfl⟩
          | _ =>
              cases hdependency : Dependency.forQueries pass.timeout pass.environment <;>
                simp only [hdependency] at h <;> cases h

end Document

end CypherPages
