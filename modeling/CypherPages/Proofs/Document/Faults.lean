import CypherPages.Proofs.Document.Hosts

/-! # Faults of code block elements

A document is taken for one if it has a list of blocks; nothing is asked of the blocks. Whether
its code block elements can be read is seen in the walk: it ends at the first one, in preorder,
that cannot, and goes through if there is none. -/

namespace CypherPages

/-! ### Elements that can be read -/

/-- A value is a sequence: a list, a string with its characters, or an object with its names. -/
inductive Json.IsSequence : Json → List Json → Prop
  | array (items : List Json) : IsSequence (.array items) items
  | string (s : Text) : IsSequence (.string s) (s.map fun c => .string [c])
  | object (fields : List (Text × Json)) :
    IsSequence (.object fields) (fields.map fun field => .string field.1)

namespace CodeElement

/-- A value is a pair that can be an attribute, with its name and its value. -/
def IsAttribute (value : Json) (found : Json × Json) : Prop :=
  value.IsSequence [found.1, found.2] ∧ found.1.canBeName = true

/-- The content of a code block element. -/
inductive IsContent : Json → CodeElement → Prop
  | intro {content header text identifier classes attributes : Json} {names values : List Json}
    {pairs : List (Json × Json)} (hcontent : content.IsSequence [header, text])
    (hheader : header.IsSequence [identifier, classes, attributes])
    (hclasses : classes.IsSequence names) (hattributes : attributes.IsSequence values)
    (hpairs : List.Forall₂ IsAttribute values pairs) :
    IsContent content ⟨identifier, names, .ofPairs pairs, text⟩

theorem members_eq_ok_iff {value : Json} {items : List Json} :
    members value = .ok items ↔ value.IsSequence items := by
  constructor
  · intro h
    cases value with
    | array found =>
        cases h
        exact .array _
    | string s =>
        cases h
        exact .string s
    | object fields =>
        cases h
        exact .object fields
    | null | bool | int | float => cases h
  · rintro ⟨⟩ <;> rfl

theorem pair_eq_ok_iff {value first second : Json} :
    pair value = .ok (first, second) ↔ value.IsSequence [first, second] := by
  rw [← members_eq_ok_iff, pair]
  cases members value with
  | error fault => simp
  | ok items => rcases items with _ | ⟨a, _ | ⟨b, _ | ⟨c, rest⟩⟩⟩ <;> simp

theorem triple_eq_ok_iff {value first second third : Json} :
    triple value = .ok (first, second, third) ↔ value.IsSequence [first, second, third] := by
  rw [← members_eq_ok_iff, triple]
  cases members value with
  | error fault => simp
  | ok items => rcases items with _ | ⟨a, _ | ⟨b, _ | ⟨c, _ | ⟨d, rest⟩⟩⟩⟩ <;> simp

theorem nameAndValue_eq_ok_iff {value : Json} {found : Json × Json} :
    nameAndValue value = .ok found ↔ IsAttribute value found := by
  rw [IsAttribute, ← pair_eq_ok_iff, nameAndValue]
  cases pair value with
  | error fault => simp
  | ok pair =>
      obtain ⟨name, value⟩ := pair
      by_cases hname : name.canBeName = true
      · simp only [if_pos hname]
        constructor
        · rintro ⟨⟩
          exact ⟨rfl, hname⟩
        · exact And.left
      · simp only [if_neg hname]
        constructor
        · rintro ⟨⟩
        · rintro ⟨⟨⟩, hfound⟩
          exact absurd hfound hname

theorem ofContent_eq_ok_iff {content : Json} {element : CodeElement} :
    ofContent content = .ok element ↔ IsContent content element := by
  constructor
  · intro h
    obtain ⟨⟨header, text⟩, hcontent, h⟩ := exists_of_bind_eq_ok h
    obtain ⟨⟨identifier, classes, attributes⟩, hheader, h⟩ := exists_of_bind_eq_ok h
    obtain ⟨names, hclasses, h⟩ := exists_of_bind_eq_ok h
    obtain ⟨values, hattributes, h⟩ := exists_of_bind_eq_ok h
    obtain ⟨pairs, hpairs, h⟩ := exists_of_bind_eq_ok h
    obtain rfl := Except.ok.inj h
    exact .intro (pair_eq_ok_iff.mp hcontent) (triple_eq_ok_iff.mp hheader)
      (members_eq_ok_iff.mp hclasses) (members_eq_ok_iff.mp hattributes)
      ((mapM_eq_ok_iff.mp hpairs).imp fun _ _ => nameAndValue_eq_ok_iff.mp)
  · rintro ⟨hcontent, hheader, hclasses, hattributes, hpairs⟩
    have hpairs := mapM_eq_ok_iff.mpr (hpairs.imp fun _ _ => nameAndValue_eq_ok_iff.mpr)
    apply bind_eq_ok (pair_eq_ok_iff.mpr hcontent)
    apply bind_eq_ok (triple_eq_ok_iff.mpr hheader)
    apply bind_eq_ok (members_eq_ok_iff.mpr hclasses)
    apply bind_eq_ok (members_eq_ok_iff.mpr hattributes)
    exact bind_eq_ok hpairs rfl

/-- The fields of a code block element hold its content. -/
def IsElement (fields : List (Text × Json)) (element : CodeElement) : Prop :=
  ∃ content, fields.lookup contentField = some content ∧ IsContent content element

theorem ofFields_eq_ok_iff {fields : List (Text × Json)} {element : CodeElement} :
    ofFields fields = .ok element ↔ IsElement fields element := by
  rw [IsElement, ofFields]
  cases fields.lookup contentField with
  | none => simp
  | some content => simp [ofContent_eq_ok_iff]

/-- A query block for pages has to have a text. -/
def textFault? (pages : Bool) (element : CodeElement) : Option ElementFault :=
  match element.text with
  | .string _ => none
  | _ => if pages && element.isQuery then some .textNotString else none

end CodeElement

/-! ### Faults -/

/-- What is wrong with a node of a document, if anything. -/
def Json.fault? (pages : Bool) : Json → Option ElementFault
  | .object fields =>
    if CodeElement.isTagged fields then
      match CodeElement.ofFields fields with
      | .ok element => element.textFault? pages
      | .error fault => some fault
    else none
  | _ => none

/-- A node that is tagged as a code block element is one, and has a text if it is a query block
for pages. -/
def Json.WellFormed (pages : Bool) (node : Json) : Prop :=
  ∀ fields, node = .object fields → CodeElement.isTagged fields = true →
    ∃ element, CodeElement.IsElement fields element ∧
      (pages = true → element.isQuery = true → ∃ text, element.text = .string text)

theorem CodeElement.textFault?_eq_none_iff {pages : Bool} {element : CodeElement} :
    element.textFault? pages = none ↔
      (pages = true → element.isQuery = true → ∃ text, element.text = .string text) := by
  rw [textFault?]
  cases element.text with
  | string text => simp
  | null | bool | int | float | array | object => simp

theorem Json.fault?_eq_none_iff {pages : Bool} {node : Json} :
    node.fault? pages = none ↔ node.WellFormed pages := by
  cases node with
  | object fields =>
      simp only [WellFormed, Json.object.injEq, forall_eq', fault?]
      cases htagged : CodeElement.isTagged fields with
      | false => simp
      | true =>
          simp only [if_true, forall_const, ← CodeElement.ofFields_eq_ok_iff]
          cases CodeElement.ofFields fields with
          | error fault => simp
          | ok element => simp [CodeElement.textFault?_eq_none_iff]
  | null | bool | int | float | string | array => simp [WellFormed, fault?]

namespace Document

variable {pages : Bool} {value : Json} {items : List Json} {pass next : BuildPass}

/-- The first fault in a value, in preorder. -/
def firstFault? (pages : Bool) (value : Json) : Option ElementFault :=
  ((nodes value).map Prod.snd).findSome? (Json.fault? pages)

theorem firstFault?_of_isElement (h : value.isElement = true) :
    firstFault? pages value = value.fault? pages := by
  rw [firstFault?, nodes_of_isElement h]
  simp

/-- A value that is no code block element has the first fault of the values below it. -/
theorem firstFault?_of_not_isElement (h : value.isElement = false) :
    firstFault? pages value = value.children.findSome? (firstFault? pages) := by
  have hnone : value.fault? pages = none := by
    rw [Json.fault?_eq_none_iff]
    rintro fields rfl htagged
    exact (Bool.false_ne_true (h.symm.trans htagged)).elim
  rw [firstFault?, nodes_of_not_isElement h, List.map_cons, List.findSome?_cons, hnone]
  change List.findSome? _ ((nodesOfItems 0 value.children).map Prod.snd) = _
  rw [map_snd_nodesOfItems]
  induction value.children with
  | nil => rfl
  | cons child rest ih =>
      rw [List.flatMap_cons, List.findSome?_append, ih, List.findSome?_cons, firstFault?]
      cases List.findSome? (Json.fault? pages) ((nodes child).map Prod.snd) <;> rfl

theorem firstFault?_eq_none_iff : firstFault? pages value = none ↔
    ∀ node ∈ (nodes value).map Prod.snd, node.WellFormed pages := by
  simp only [firstFault?, List.findSome?_eq_none_iff, Json.fault?_eq_none_iff]

/-! ### Walks -/

/-- What a walk comes to: it ends with the fault that it meets first, or goes through. -/
inductive Meets {α : Type} : Option ElementFault → Except PublishError (α × BuildPass) → Prop
  | fault (fault : ElementFault) : Meets (some fault) (.error (.element fault))
  | through (result : α) (next : BuildPass) : Meets none (.ok (result, next))

theorem Meets.cases {α : Type} {fault? : Option ElementFault}
    {outcome : Except PublishError (α × BuildPass)} (h : Meets fault? outcome) :
    (∃ fault, fault? = some fault ∧ outcome = .error (.element fault)) ∨
      fault? = none ∧ ∃ result next, outcome = .ok (result, next) := by
  cases h with
  | fault fault => exact .inl ⟨fault, rfl, rfl⟩
  | through result next => exact .inr ⟨rfl, result, next, rfl⟩

theorem Meets.map {α β : Type} {fault? : Option ElementFault}
    {outcome : Except PublishError (α × BuildPass)} (h : Meets fault? outcome) (change : α → β) :
    Meets fault? (outcome.map fun (result, next) => (change result, next)) := by
  cases h with
  | fault fault => exact .fault fault
  | through result next => exact .through (change result) next

/-- A walk stays in the build that it started in. -/
theorem exists_advances_of_walk {out : Json} (h : walk value pass = .ok (out, next)) :
    ∃ count, pass.Advances count next := by
  cases hformat : isPageFormat pass.format with
  | true =>
      obtain ⟨queries, hpublishes⟩ := walk_publishes hformat h
      exact ⟨queries.length, hpublishes.advances⟩
  | false =>
      obtain ⟨-, rfl⟩ := walk_of_other_format hformat h
      exact ⟨0, .refl _⟩

section

variable {dependency : Dependency}

theorem walkElement_meets {fields : List (Text × Json)}
    (hdependency : Dependency.forQueries pass.timeout pass.environment = .ok dependency)
    (htagged : CodeElement.isTagged fields = true) :
    Meets ((Json.object fields).fault? (isPageFormat pass.format)) (walkElement fields pass) := by
  rw [Json.fault?, htagged, if_pos rfl, walkElement]
  cases CodeElement.ofFields fields with
  | error fault => exact .fault fault
  | ok element =>
      obtain ⟨identifier, classes, attributes, text⟩ := element
      have hpublishes : pass.publishes classes = (isPageFormat pass.format &&
          CodeElement.isQuery ⟨identifier, classes, attributes, text⟩) := Bool.and_comm _ _
      cases hquery : pass.publishes classes with
      | false =>
          have hfault : CodeElement.textFault? (isPageFormat pass.format)
              ⟨identifier, classes, attributes, text⟩ = none := by
            rw [CodeElement.textFault?, ← hpublishes, hquery]
            cases text <;> rfl
          simp only [hfault, hquery, Bool.false_eq_true, ite_false]
          exact .through _ _
      | true =>
          simp only [CodeElement.textFault?, ← hpublishes, hquery, ite_true]
          cases text with
          | string text =>
              let block : CodeBlock Json := ⟨text, classes, attributes, identifier⟩
              have hblock : pass.publishes block.classes = true := hquery
              have hprocess := BuildPass.process_of_ok hblock hdependency
              simp only [block, hprocess]
              exact .through _ _
          | null | bool | int | float | array | object =>
              simp only [hdependency]
              exact .fault _

theorem walkItems_meets
    (hdependency : Dependency.forQueries pass.timeout pass.environment = .ok dependency)
    (ih : ∀ item ∈ items, ∀ pass : BuildPass,
      Dependency.forQueries pass.timeout pass.environment = .ok dependency →
      Meets (firstFault? (isPageFormat pass.format) item) (walk item pass)) :
    Meets (items.findSome? (firstFault? (isPageFormat pass.format))) (walkItems items pass) := by
  induction items generalizing pass with
  | nil =>
      rw [walkItems]
      exact .through [] pass
  | cons item rest ihItems =>
      have hitem := ih item List.mem_cons_self pass hdependency
      rw [walkItems, List.findSome?_cons]
      generalize firstFault? (isPageFormat pass.format) item = fault? at hitem ⊢
      generalize hwalk : walk item pass = outcome at hitem ⊢
      cases hitem with
      | fault fault => exact .fault fault
      | through out next =>
          obtain ⟨count, hadvances⟩ := exists_advances_of_walk hwalk
          have hnext : Dependency.forQueries next.timeout next.environment = .ok dependency := by
            rw [hadvances.timeout, hadvances.environment, hdependency]
          have hrest := ihItems hnext fun other hother => ih other (List.mem_cons_of_mem _ hother)
          rw [hadvances.format] at hrest
          dsimp only
          generalize rest.findSome? (firstFault? (isPageFormat pass.format)) = restFault?
            at hrest ⊢
          generalize walkItems rest next = others at hrest ⊢
          cases hrest with
          | fault fault => exact .fault fault
          | through outs final => exact .through (out :: outs) final

/-- A walk ends with the first fault, or goes through if there is none. -/
theorem walk_meets
    (hdependency : Dependency.forQueries pass.timeout pass.environment = .ok dependency)
    (value : Json) :
    Meets (firstFault? (isPageFormat pass.format) value) (walk value pass) := by
  induction value using Json.induction_children generalizing pass with
  | step value ih =>
      cases helement : value.isElement with
      | true =>
          rw [firstFault?_of_isElement helement]
          cases value with
          | object fields =>
              rw [walk_of_isTagged helement]
              exact walkElement_meets hdependency helement
          | null | bool | int | float | string | array => cases helement
      | false =>
          rw [firstFault?_of_not_isElement helement, walk_of_not_isElement helement]
          apply Meets.map (walkItems_meets hdependency _) (value.withChildren ·)
          intro child hchild pass hdependency
          exact ih child hchild hdependency

end

/-! ### Publishing -/

/-- Publishing a document ends with the first fault of its blocks, or goes through if there is
none. Nothing else can go wrong when the timeout can be written in milliseconds. -/
theorem publish_cases {settings : Settings} {ms : ℤ}
    (hms : milliseconds settings.timeout = .ok ms) (document : Document) (format : Text) :
    (∃ fault, firstFault? (isPageFormat format) (.array document.blocks) = some fault ∧
      document.publish format settings = .error (.element fault)) ∨
    firstFault? (isPageFormat format) (.array document.blocks) = none ∧
      ∃ result, document.publish format settings = .ok result := by
  have hdependency := MarkdownPage.forQueries_eq hms settings.endpoint
  have hmeets : Meets (firstFault? (isPageFormat format) (.array document.blocks))
      (walkItems document.blocks (.start format settings.endpoint settings.timeout)) := by
    rw [firstFault?_of_not_isElement rfl]
    let pass := BuildPass.start format settings.endpoint settings.timeout
    change Meets (document.blocks.findSome? (firstFault? (isPageFormat pass.format))) _
    apply walkItems_meets hdependency
    intro item _ next hnext
    exact walk_meets hnext item
  rcases hmeets.cases with ⟨fault, hfault, hwalk⟩ | ⟨hnone, blocks, next, hwalk⟩
  · refine .inl ⟨fault, hfault, ?_⟩
    rw [publish, hwalk]
  · have hblocks : walk (.array document.blocks)
        (.start format settings.endpoint settings.timeout) = .ok (.array blocks, next) := by
      rw [walk, hwalk]
    obtain ⟨count, hadvances⟩ := exists_advances_of_walk hblocks
    obtain ⟨assets, hassets⟩ := exists_renderAssets hms hadvances
    refine .inr ⟨hnone, { document with
      blocks := if assets.isEmpty then blocks else rawBlock assets :: blocks }, ?_⟩
    simp only [publish, hwalk, hassets]

end Document

end CypherPages
