import CypherPages.Proofs.Build.PublishedPage
import CypherPages.Proofs.Document.Nodes
import CypherPages.Proofs.Entries
import CypherPages.Proofs.Related
import CypherPages.Proofs.Results

/-! # Walks through documents

A walk in a build for pages publishes the query blocks in preorder and changes nothing else. It
leaves nothing behind that another walk would publish, whatever that one is for. -/

namespace CypherPages
open Json (Changes Differ DifferFrom)

/-! ### Elements -/

namespace CodeElement

theorem canBeName_of_nameAndValue {value name other : Json}
    (h : nameAndValue value = .ok (name, other)) : name.canBeName = true := by
  rw [nameAndValue] at h
  split at h
  · split at h
    · next hname => cases h; exact hname
    · cases h
  · cases h

theorem canBeName_of_mapM {values : List Json} {pairs : List (Json × Json)}
    (h : values.mapM nameAndValue = .ok pairs) :
    ∀ name ∈ pairs.map Prod.fst, name.canBeName = true := by
  intro name hname
  obtain ⟨pair, hpair, rfl⟩ := List.mem_map.mp hname
  obtain ⟨value, -, hvalue⟩ := exists_of_mem_right (mapM_eq_ok_iff.mp h) hpair
  exact canBeName_of_nameAndValue hvalue

/-- The attributes of an element have names that attributes may have. -/
theorem canBeName_of_ofFields {fields : List (Text × Json)} {element : CodeElement}
    (h : ofFields fields = .ok element) :
    ∀ name ∈ element.attributes.map Prod.fst, name.canBeName = true := by
  rw [ofFields] at h
  split at h
  · obtain ⟨⟨header, text⟩, -, h⟩ := exists_of_bind_eq_ok h
    obtain ⟨⟨identifier, classes, attributes⟩, -, h⟩ := exists_of_bind_eq_ok h
    obtain ⟨members, -, h⟩ := exists_of_bind_eq_ok h
    obtain ⟨values, -, h⟩ := exists_of_bind_eq_ok h
    obtain ⟨pairs, hpairs, h⟩ := exists_of_bind_eq_ok h
    cases h
    intro name hname
    rcases Entries.mem_keys_setAll hname with hname | hname
    · cases hname
    · exact canBeName_of_mapM hpairs name hname
  · cases h

theorem mapM_nameAndValue {pairs : List (Json × Json)}
    (h : ∀ name ∈ pairs.map Prod.fst, name.canBeName = true) :
    (pairs.map fun (name, value) => Json.array [name, value]).mapM nameAndValue = .ok pairs := by
  induction pairs with
  | nil => rfl
  | cons pair pairs ih =>
      rw [List.map_cons, List.forall_mem_cons] at h
      have hpair : nameAndValue (.array [pair.1, pair.2]) = .ok pair := if_pos h.1
      rw [List.map_cons, List.mapM_cons, hpair, ih h.2]
      rfl

/-- The element that a code block is written as reads as the code block. -/
theorem ofNode?_toElement {block : CodeBlock Json}
    (h : ∀ name ∈ block.attributes.map Prod.fst, name.canBeName = true) :
    ofNode? block.toElement =
      some { block.element with attributes := .ofPairs block.attributes } := by
  have htagged : ∀ content, isTagged [(tagField, .string tag), (contentField, content)] = true :=
    fun _ => rfl
  have hcontent : ∀ pairs : List Json, ofFields [(tagField, .string tag), (contentField,
      .array [.array [block.identifier, .array block.classes, .array pairs],
        .string block.text])] =
      pairs.mapM nameAndValue >>= fun attributes =>
        .ok ⟨block.identifier, block.classes, .ofPairs attributes, .string block.text⟩ :=
    fun _ => rfl
  rw [CodeBlock.toElement, ofNode?, if_pos (htagged _), hcontent, mapM_nameAndValue h]
  rfl

end CodeElement

namespace Document

/-! ### Nothing left to publish -/

/-- Nothing in a value is left to publish: every code block element in it can be read and is no
query block. -/
def Settled (value : Json) : Prop :=
  ∀ node ∈ (nodes value).map Prod.snd, node.isElement = true →
    ∃ element, CodeElement.ofNode? node = some element ∧ element.isQuery = false

theorem settled_iff_children {value : Json} (h : value.isElement = false) :
    Settled value ↔ ∀ child ∈ value.children, Settled child := by
  simp only [Settled, nodes_of_not_isElement h, List.map_cons, map_snd_nodesOfItems,
    List.forall_mem_cons, List.forall_mem_flatMap, h, Bool.false_eq_true, false_implies,
    true_and]

theorem Settled.queryElements_eq_nil {value : Json} (h : Settled value) :
    queryElements value = [] := by
  rw [queryElements, List.filterMap_eq_nil_iff]
  intro node hnode
  rw [queryAt?]
  cases helement : node.2.isElement with
  | false => rw [ofNode?_of_not_isElement helement]; rfl
  | true =>
      obtain ⟨element, hread, hquery⟩ := h node.2 (List.mem_map_of_mem hnode) helement
      rw [hread, Option.filter_some, hquery]
      rfl

theorem walkItems_eq_self {items : List Json} {pass : BuildPass}
    (h : ∀ item ∈ items, walk item pass = .ok (item, pass)) :
    walkItems items pass = .ok (items, pass) := by
  induction items with
  | nil => rw [walkItems]
  | cons item items ih =>
      obtain ⟨hitem, hitems⟩ := List.forall_mem_cons.mp h
      simp only [walkItems, hitem, ih hitems]

theorem exists_of_ofNode? {node : Json} {element : CodeElement}
    (h : CodeElement.ofNode? node = some element) :
    ∃ fields, node = .object fields ∧ CodeElement.isTagged fields = true ∧
      CodeElement.ofFields fields = .ok element := by
  cases node with
  | object fields =>
      rw [CodeElement.ofNode?] at h
      split at h
      · next htagged =>
          cases hfields : CodeElement.ofFields fields with
          | error fault => rw [hfields] at h; cases h
          | ok found =>
              rw [hfields] at h
              cases h
              exact ⟨fields, rfl, htagged, hfields⟩
      · cases h
  | _ => cases h

/-- A walk leaves a value alone in which nothing is left to publish. -/
theorem Settled.walk_eq {value : Json} (h : Settled value) (pass : BuildPass) :
    walk value pass = .ok (value, pass) := by
  induction value using Json.induction_children with
  | step value ih =>
      cases helement : value.isElement with
      | false =>
          rw [settled_iff_children helement] at h
          have hchildren : walkItems value.children pass = .ok (value.children, pass) :=
            walkItems_eq_self fun child hchild => ih child hchild (h child hchild)
          simp only [walk_of_not_isElement helement, hchildren, Except.map,
            Json.withChildren_children]
      | true =>
          have hnode : value ∈ (nodes value).map Prod.snd := by
            rw [nodes_of_isElement helement]
            exact List.mem_singleton_self value
          obtain ⟨element, hread, hquery⟩ := h value hnode helement
          obtain ⟨fields, rfl, htagged, hfields⟩ := exists_of_ofNode? hread
          have hpublishes : pass.publishes element.classes = false := by
            rw [BuildPass.publishes, ← CodeElement.isQuery, hquery, Bool.false_and]
          rw [walk_of_isTagged htagged, walkElement, hfields]
          simp only [hpublishes, Bool.false_eq_true, ite_false]

/-! ### What a walk publishes -/

/-- The published forms of query blocks that are numbered from a block count on. -/
def published (count : ℕ) (environment : Option Text)
    (queries : List (Json.Place × CodeBlock Json)) :
    Changes :=
  queries.mapIdx fun index query =>
    (query.1, (query.2.publish (count + index + 1) environment).toElement)

theorem published_append (count : ℕ) (environment : Option Text)
    (first rest : List (Json.Place × CodeBlock Json)) :
    published count environment (first ++ rest) =
      published count environment first ++ published (count + first.length) environment rest := by
  simp only [published, List.mapIdx_append, Nat.add_assoc, Nat.add_comm first.length]

theorem published_below (count : ℕ) (environment : Option Text) (index : ℕ)
    (queries : List (Json.Place × CodeBlock Json)) :
    published count environment (queries.map fun query => (index :: query.1, query.2)) =
      Changes.below index (published count environment queries) := by
  simp only [published, Changes.below, List.mapIdx_eq_zipIdx_map, List.zipIdx_map, List.map_map]
  rfl

theorem settled_of_isElement {value : Json} (h : value.isElement = true) {element : CodeElement}
    (hread : CodeElement.ofNode? value = some element) (hquery : element.isQuery = false) :
    Settled value := by
  intro node hnode _
  rw [nodes_of_isElement h, List.map_singleton, List.mem_singleton] at hnode
  exact ⟨element, hnode ▸ hread, hquery⟩

/-- A published block does not have the class that makes a block a query block. -/
theorem settled_publish {fields : List (Text × Json)} {block : CodeBlock Json}
    (h : CodeElement.ofFields fields = .ok block.element) (number : ℕ)
    (environment : Option Text) : Settled (block.publish number environment).toElement := by
  have hnames : ∀ name ∈ (block.publish number environment).attributes.map Prod.fst,
      name.canBeName = true := by
    intro name hname
    rcases Entries.mem_keys_setAll hname with hname | hname
    · exact CodeElement.canBeName_of_ofFields h name hname
    · obtain ⟨pair, hpair, rfl⟩ := List.mem_map.mp hname
      obtain ⟨data, -, rfl⟩ := List.mem_map.mp hpair
      rfl
  exact settled_of_isElement rfl (CodeElement.ofNode?_toElement hnames) rfl

theorem queryElements_of_isElement {value : Json} (h : value.isElement = true) :
    queryElements value = (queryAt? ([], value)).toList := by
  rw [queryElements, nodes_of_isElement h]
  cases hquery : queryAt? ([], value) <;> simp [hquery]

/-- What a walk in a build for pages makes of a value: these query blocks of the value are
published in preorder, nothing else is changed, and nothing is left to publish. -/
structure Publishes (pass : BuildPass) (value : Json) (queries : List (Json.Place × CodeBlock Json))
    (out : Json) (next : BuildPass) : Prop where
  elements : queryElements value = queries.map fun query => (query.1, query.2.element)
  advances : pass.Advances queries.length next
  differ : Differ (published pass.blockCount pass.environment queries) value out
  settled : Settled out

theorem walkElement_publishes {fields : List (Text × Json)} {out : Json} {pass next : BuildPass}
    (htagged : CodeElement.isTagged fields = true) (hformat : isPageFormat pass.format = true)
    (h : walkElement fields pass = .ok (out, next)) :
    ∃ queries, Publishes pass (.object fields) queries out next := by
  obtain ⟨element, hfields, hcases⟩ := walkElement_eq_ok h
  have helement : (Json.object fields).isElement = true := htagged
  have hread : CodeElement.ofNode? (.object fields) = some element := by
    rw [CodeElement.ofNode?, if_pos htagged, hfields]
    rfl
  have hpublishes : pass.publishes element.classes = element.isQuery := by
    rw [BuildPass.publishes, hformat, Bool.and_true]
    rfl
  have hquery : queryElements (.object fields) =
      ((some element).filter CodeElement.isQuery |>.map (([] : Json.Place), ·)).toList := by
    rw [queryElements_of_isElement helement, queryAt?, hread]
  rw [hpublishes] at hcases
  rcases hcases with ⟨hother, rfl, rfl⟩ | ⟨hown, block, dependency, rfl, hdependency, rfl, rfl⟩
  · refine ⟨[], ?_, .refl _, .refl _, settled_of_isElement helement hread hother⟩
    rw [hquery, Option.filter_some, hother]
    rfl
  · refine ⟨[([], block)], ?_, .one hdependency, .root _ _, settled_publish hfields _ _⟩
    rw [hquery, Option.filter_some, hown]
    rfl

theorem walkItems_publishes {items outs : List Json} {pass next : BuildPass}
    (hformat : isPageFormat pass.format = true) (h : walkItems items pass = .ok (outs, next))
    (ih : ∀ item ∈ items, ∀ (pass next : BuildPass) (out : Json),
      isPageFormat pass.format = true → walk item pass = .ok (out, next) →
      ∃ queries, Publishes pass item queries out next)
    (index : ℕ) :
    ∃ queries : List (Json.Place × CodeBlock Json),
      queryElementsOfItems index items =
          queries.map (fun query => (query.1, query.2.element)) ∧
        pass.Advances queries.length next ∧
        DifferFrom index (published pass.blockCount pass.environment queries) items outs ∧
        ∀ out ∈ outs, Settled out := by
  induction items generalizing outs pass index with
  | nil =>
      rw [walkItems] at h
      cases h
      refine ⟨[], ?_, .refl _, .nil index, by simp⟩
      rw [queryElementsOfItems, nodesOfItems]
      rfl
  | cons item items ihItems =>
      obtain ⟨out, middle, others, hitem, hitems, rfl⟩ := walkItems_cons_eq_ok h
      obtain ⟨first, hfirst, hadvances, hdiffer, hsettled⟩ :=
        ih item List.mem_cons_self pass middle out hformat hitem
      obtain ⟨rest, hrest, hadvances', hdiffer', hsettled'⟩ :=
        ihItems (hadvances.format ▸ hformat) hitems
          (fun other hother => ih other (List.mem_cons_of_mem _ hother)) (index + 1)
      rw [hadvances.blockCount, hadvances.environment] at hdiffer'
      refine ⟨first.map (fun query => (index :: query.1, query.2)) ++ rest, ?_, ?_, ?_,
        List.forall_mem_cons.mpr ⟨hsettled, hsettled'⟩⟩
      · simp [queryElementsOfItems_cons, hfirst, hrest]
      · rw [List.length_append, List.length_map]
        exact hadvances.trans hadvances'
      · rw [published_append, published_below, List.length_map]
        exact .cons hdiffer hdiffer'

/-- A walk makes a string of nothing but that string. -/
theorem eq_of_walk_eq_string {value : Json} {s : Text} {pass next : BuildPass}
    (h : walk value pass = .ok (.string s, next)) : value = .string s := by
  cases value with
  | array items =>
      rw [walk_of_not_isElement rfl] at h
      cases hitems : walkItems (Json.array items).children pass <;> rw [hitems] at h <;> cases h
  | object fields =>
      cases htagged : CodeElement.isTagged fields with
      | true =>
          rw [walk_of_isTagged htagged] at h
          obtain ⟨element, -, ⟨-, hout, -⟩ | ⟨-, block, dependency, -, -, -, hout⟩⟩ :=
            walkElement_eq_ok h
          · cases hout
          · cases hout
      | false =>
          have hother : (Json.object fields).isElement = false := htagged
          rw [walk_of_not_isElement hother] at h
          cases hitems : walkItems (Json.object fields).children pass <;> rw [hitems] at h <;>
            cases h
  | string t =>
      rw [walk] at h
      · cases h
        rfl
      · exact fun _ h => by cases h
      · exact fun _ h => by cases h
  | _ => simp only [walk] at h; cases h

/-- A walk below a value that is no code block element does not make it one. -/
theorem isElement_of_walkItems {value : Json} {outs : List Json} {pass next : BuildPass}
    (hvalue : value.isElement = false) (h : walkItems value.children pass = .ok (outs, next)) :
    (value.withChildren outs).isElement = false := by
  cases value with
  | object fields =>
      rw [Json.isElement, CodeElement.isTagged] at hvalue
      rw [Json.withChildren, Json.isElement, CodeElement.isTagged]
      rw [Json.children] at h
      induction fields generalizing outs pass with
      | nil => rfl
      | cons field fields ih =>
          rw [List.map_cons] at h
          obtain ⟨out, middle, others, hfield, hfields, rfl⟩ := walkItems_cons_eq_ok h
          rw [List.lookup_cons] at hvalue
          rw [List.zipWith_cons_cons, List.lookup_cons]
          cases hname : CodeElement.tagField == field.1 with
          | false =>
              rw [hname] at hvalue
              exact ih hvalue hfields
          | true =>
              rw [hname] at hvalue
              cases out with
              | string s =>
                  rw [eq_of_walk_eq_string hfield] at hvalue
                  exact hvalue
              | _ => rfl
  | _ => rfl

/-- A walk in a build for pages publishes the query blocks in preorder and changes nothing else. -/
theorem walk_publishes {value out : Json} {pass next : BuildPass}
    (hformat : isPageFormat pass.format = true) (h : walk value pass = .ok (out, next)) :
    ∃ queries, Publishes pass value queries out next := by
  induction value using Json.induction_children generalizing out pass next with
  | step value ih =>
      cases helement : value.isElement with
      | true =>
          cases value with
          | object fields =>
              rw [walk_of_isTagged helement] at h
              exact walkElement_publishes helement hformat h
          | _ => cases helement
      | false =>
          rw [walk_of_not_isElement helement] at h
          cases hchildren : walkItems value.children pass with
          | error error => rw [hchildren] at h; cases h
          | ok found =>
              rw [hchildren] at h
              cases h
              obtain ⟨queries, hqueries, hadvances, hdiffer, hsettled⟩ :=
                walkItems_publishes hformat hchildren
                  (fun child hchild pass next out => ih child hchild) 0
              refine ⟨queries, ?_, hadvances, hdiffer.differ, ?_⟩
              · rw [queryElements_of_not_isElement helement, hqueries]
              · rw [settled_iff_children (isElement_of_walkItems helement hchildren),
                  Json.children_withChildren hdiffer.length_eq]
                exact hsettled

theorem walkItems_of_other_format {items outs : List Json} {pass next : BuildPass}
    (h : walkItems items pass = .ok (outs, next))
    (ih : ∀ item ∈ items, ∀ {out : Json} {next : BuildPass},
      walk item pass = .ok (out, next) → out = item ∧ next = pass) :
    outs = items ∧ next = pass := by
  induction items generalizing outs next with
  | nil =>
      rw [walkItems] at h
      cases h
      exact ⟨rfl, rfl⟩
  | cons item items ihItems =>
      obtain ⟨out, middle, others, hitem, hitems, rfl⟩ := walkItems_cons_eq_ok h
      obtain ⟨rfl, rfl⟩ := ih item List.mem_cons_self hitem
      obtain ⟨rfl, rfl⟩ := ihItems hitems fun other hother =>
        ih other (List.mem_cons_of_mem _ hother)
      exact ⟨rfl, rfl⟩

/-- In a build for another format a walk changes nothing. -/
theorem walk_of_other_format {value out : Json} {pass next : BuildPass}
    (hformat : isPageFormat pass.format = false) (h : walk value pass = .ok (out, next)) :
    out = value ∧ next = pass := by
  induction value using Json.induction_children generalizing out next with
  | step value ih =>
      cases helement : value.isElement with
      | true =>
          cases value with
          | object fields =>
              rw [walk_of_isTagged helement] at h
              obtain ⟨element, -, ⟨-, rfl, rfl⟩ | ⟨hpublishes, -⟩⟩ := walkElement_eq_ok h
              · exact ⟨rfl, rfl⟩
              · rw [BuildPass.publishes, hformat, Bool.and_false] at hpublishes
                cases hpublishes
          | _ => cases helement
      | false =>
          rw [walk_of_not_isElement helement] at h
          cases hchildren : walkItems value.children pass with
          | error error => rw [hchildren] at h; cases h
          | ok found =>
              rw [hchildren] at h
              cases h
              obtain ⟨hvalues, hnext⟩ := walkItems_of_other_format hchildren ih
              rw [hvalues, Json.withChildren_children]
              exact ⟨rfl, hnext⟩

end Document

end CypherPages
