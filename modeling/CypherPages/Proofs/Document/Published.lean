import CypherPages.Proofs.Document.Walk

/-! # Published documents

A document that is published for pages is the document that went in, but for its query blocks,
which are numbered in preorder, and for the assets in front. Publishing it once more, for
whatever format and under whatever settings, leaves it as it is. -/

namespace CypherPages.Document
open Json (Changes Differ)

/-! ### Documents and their JSON -/

theorem ofFields?_cons_of_ne {name : Text} (h : name ≠ blocksField) (value : Json)
    (rest : List (Text × Json)) :
    ofFields? ((name, value) :: rest) = (ofFields? rest).map fun document =>
      { document with fieldsBefore := (name, value) :: document.fieldsBefore } := by
  conv_lhs => unfold ofFields?
  exact if_neg h

theorem ofFields?_eq_some {fields : List (Text × Json)} {document : Document}
    (h : ofFields? fields = some document) :
    fields = document.fieldsBefore ++ (blocksField, .array document.blocks) ::
        document.fieldsAfter ∧
      ∀ field ∈ document.fieldsBefore, field.1 ≠ blocksField := by
  induction fields generalizing document with
  | nil => cases h
  | cons field fields ih =>
      obtain ⟨name, value⟩ := field
      by_cases hname : name = blocksField
      · unfold ofFields? at h
        rw [if_pos hname] at h
        cases value with
        | array blocks =>
            cases h
            rw [hname]
            exact ⟨rfl, List.forall_mem_nil _⟩
        | _ => cases h
      · rw [ofFields?_cons_of_ne hname] at h
        obtain ⟨rest, hrest, rfl⟩ := Option.map_eq_some_iff.mp h
        obtain ⟨hfields, hbefore⟩ := ih hrest
        refine ⟨?_, List.forall_mem_cons.mpr ⟨hname, hbefore⟩⟩
        rw [hfields]
        rfl

theorem ofFields?_append {fieldsBefore : List (Text × Json)}
    (h : ∀ field ∈ fieldsBefore, field.1 ≠ blocksField) (blocks : List Json)
    (fieldsAfter : List (Text × Json)) :
    ofFields? (fieldsBefore ++ (blocksField, .array blocks) :: fieldsAfter) =
      some ⟨fieldsBefore, blocks, fieldsAfter⟩ := by
  induction fieldsBefore with
  | nil => rw [List.nil_append, ofFields?, if_pos rfl]
  | cons field fields ih =>
      obtain ⟨hname, hfields⟩ := List.forall_mem_cons.mp h
      rw [List.cons_append, ofFields?_cons_of_ne hname, ih hfields]
      rfl

theorem ofJson?_eq_some {input : Json} {document : Document}
    (h : ofJson? input = some document) :
    input = document.toJson ∧ ∀ field ∈ document.fieldsBefore, field.1 ≠ blocksField := by
  cases input with
  | object fields =>
      obtain ⟨hfields, hbefore⟩ := ofFields?_eq_some h
      exact ⟨congrArg Json.object hfields, hbefore⟩
  | _ => cases h

/-! ### Publishing -/

theorem renderAssets_of_dependencies_nil {pass : BuildPass} (h : pass.dependencies = []) :
    pass.renderAssets = .ok [] := by
  rw [BuildPass.renderAssets, h]
  rfl

theorem renderAssets_of_dependencies_singleton {pass : BuildPass} {dependency : Dependency}
    (h : pass.dependencies = [dependency]) : pass.renderAssets = dependency.render := by
  rw [BuildPass.renderAssets, h, List.mapM_cons, List.mapM_nil]
  cases dependency.render with
  | error error => rfl
  | ok assets => exact congrArg Except.ok (List.append_nil assets)

theorem publish_eq_ok {document result : Document} {format : Text} {settings : Settings}
    (h : document.publish format settings = .ok result) :
    ∃ blocks pass assets,
      walk (.array document.blocks) (.start format settings.endpoint settings.timeout) =
          .ok (.array blocks, pass) ∧
        pass.renderAssets = .ok assets ∧
        result = { document with
          blocks := if assets.isEmpty then blocks else rawBlock assets :: blocks } := by
  rw [publish] at h
  cases hblocks : walkItems document.blocks
      (.start format settings.endpoint settings.timeout) with
  | error error => rw [hblocks] at h; cases h
  | ok found =>
      obtain ⟨blocks, pass⟩ := found
      simp only [hblocks] at h
      cases hassets : pass.renderAssets with
      | error error => rw [hassets] at h; cases h
      | ok assets =>
          rw [hassets] at h
          cases h
          refine ⟨blocks, pass, assets, ?_, hassets, rfl⟩
          rw [walk, hblocks]

theorem render_ne_nil {dependency : Dependency} {assets : Text}
    (h : dependency.render = .ok assets) : assets ≠ [] := by
  obtain ⟨styles, -, h⟩ := exists_of_bind_eq_ok h
  obtain ⟨config, hconfig, h⟩ := exists_of_bind_eq_ok h
  obtain rfl := Except.ok.inj h
  cases styles with
  | nil =>
      rw [Dependency.configElement] at hconfig
      split_ifs at hconfig
      obtain rfl := Except.ok.inj hconfig
      exact List.cons_ne_nil _ _
  | cons style styles =>
      simp only [List.cons_append, Text.unlines]
      rw [List.intercalate_cons_of_ne_nil (List.append_ne_nil_of_right_ne_nil _ (by simp))]
      simp

/-- The assets of a build that published a number of blocks. -/
theorem renderAssets_of_advances {format : Text} {environment : Option Text}
    {timeout : Binary64} {count : ℕ} {pass : BuildPass} {assets : Text}
    (hadvances : (BuildPass.start format environment timeout).Advances count pass)
    (h : pass.renderAssets = .ok assets) :
    count = 0 ∧ assets = [] ∨
      count ≠ 0 ∧ assets ≠ [] ∧ ∃ dependency,
        Dependency.forQueries timeout environment = .ok dependency ∧
          dependency.render = .ok assets := by
  by_cases hcount : count = 0
  · obtain rfl := hadvances.idle hcount
    rw [renderAssets_of_dependencies_nil rfl] at h
    exact .inl ⟨hcount, (Except.ok.inj h).symm⟩
  · obtain ⟨-, dependency, hdependency, hdependencies⟩ := hadvances.registered hcount
    rw [renderAssets_of_dependencies_singleton hdependencies] at h
    exact .inr ⟨hcount, render_ne_nil h, dependency, hdependency, h⟩

/-- Nothing is left to publish in the assets. -/
theorem settled_rawBlock (markup : Text) : Settled (rawBlock markup) := by
  rintro node hnode helement
  have hnodes : (nodes (rawBlock markup)).map Prod.snd =
      [rawBlock markup, .string "RawBlock".toList,
        .array [.string "html".toList, .string markup], .string "html".toList,
        .string markup] := by
    rfl
  rw [hnodes] at hnode
  simp only [List.mem_cons, List.not_mem_nil, or_false] at hnode
  rcases hnode with rfl | rfl | rfl | rfl | rfl <;> cases helement

/-- What is published of a document for pages, and what stays as it is. -/
theorem publish_for_pages {document result : Document} {format : Text} {settings : Settings}
    (hformat : isPageFormat format = true) (h : document.publish format settings = .ok result) :
    ∃ (queries : List (Json.Place × CodeBlock Json)) (blocks : List Json),
      queryElements (.array document.blocks) =
          queries.map (fun query => (query.1, query.2.element)) ∧
        Differ (published 0 settings.endpoint queries) (.array document.blocks) (.array blocks) ∧
        (queries = [] ∧ result = { document with blocks := blocks } ∨
          queries ≠ [] ∧ ∃ dependency assets,
            Dependency.forQueries settings.timeout settings.endpoint = .ok dependency ∧
              dependency.render = .ok assets ∧
              result = { document with blocks := rawBlock assets :: blocks }) ∧
        Settled (.array result.blocks) := by
  obtain ⟨blocks, pass, assets, hwalk, hassets, rfl⟩ := publish_eq_ok h
  obtain ⟨queries, hqueries, hadvances, hdiffer, hsettled⟩ := walk_publishes hformat hwalk
  refine ⟨queries, blocks, hqueries, hdiffer, ?_⟩
  rcases renderAssets_of_advances hadvances hassets with
    ⟨hcount, rfl⟩ | ⟨hcount, hne, dependency, hdependency, hrender⟩
  · exact ⟨.inl ⟨List.eq_nil_of_length_eq_zero hcount, rfl⟩, hsettled⟩
  · have hsome : assets.isEmpty = false := List.isEmpty_eq_false_iff.mpr hne
    have hled : (if assets.isEmpty then blocks else rawBlock assets :: blocks) =
        rawBlock assets :: blocks := by rw [hsome, if_neg Bool.false_ne_true]
    refine ⟨.inr ⟨?_, dependency, assets, hdependency, hrender, ?_⟩, ?_⟩
    · exact fun hnil => hcount (congrArg List.length hnil)
    · rw [hled]
    · rw [hled]
      refine (settled_iff_children rfl).mpr (List.forall_mem_cons.mpr ⟨settled_rawBlock _, ?_⟩)
      exact (settled_iff_children rfl).mp hsettled

/-- For another format than pages a document comes back as it is. -/
theorem publish_for_others {document result : Document} {format : Text} {settings : Settings}
    (hformat : isPageFormat format = false) (h : document.publish format settings = .ok result) :
    result = document := by
  obtain ⟨blocks, pass, assets, hwalk, hassets, rfl⟩ := publish_eq_ok h
  obtain ⟨hblocks, rfl⟩ := walk_of_other_format hformat hwalk
  cases hblocks
  rw [renderAssets_of_dependencies_nil rfl] at hassets
  cases hassets
  rfl

/-! ### What publishing changes -/

theorem exists_of_isSome {document : Document} {format : Text} {settings : Settings}
    (h : (document.publish format settings).toOption.isSome = true) :
    ∃ result, document.publish format settings = .ok result := by
  cases hresult : document.publish format settings with
  | error error => rw [hresult] at h; cases h
  | ok result => exact ⟨result, rfl⟩

/-- A document that is published keeps its other fields, in their order. For another format than
pages it keeps its blocks, too. For pages its query blocks, wherever they are nested, are
published at their places and numbered in preorder, the assets stand in front if there is a query
block, and nothing is left to publish. -/
theorem publish_replaces {input : Json} {document result : Document} {format : Text}
    {settings : Settings} (hinput : ofJson? input = some document)
    (h : document.publish format settings = .ok result) :
    input = .object (document.fieldsBefore ++
        (blocksField, .array document.blocks) :: document.fieldsAfter) ∧
      result.toJson = .object (document.fieldsBefore ++
        (blocksField, .array result.blocks) :: document.fieldsAfter) ∧
      (isPageFormat format = false → result.toJson = input) ∧
      (isPageFormat format = true →
        ∃ (queries : List (Json.Place × CodeBlock Json)) (blocks : List Json),
          queryElements (.array document.blocks) =
              queries.map (fun query => (query.1, query.2.element)) ∧
            Differ (published 0 settings.endpoint queries) (.array document.blocks)
              (.array blocks) ∧
            (queries = [] → result.blocks = blocks) ∧
            (queries ≠ [] → ∃ dependency assets,
              Dependency.forQueries settings.timeout settings.endpoint = .ok dependency ∧
                dependency.render = .ok assets ∧ result.blocks = rawBlock assets :: blocks) ∧
            queryElements (.array result.blocks) = [] ∧ Settled (.array result.blocks)) := by
  obtain ⟨hjson, -⟩ := ofJson?_eq_some hinput
  refine ⟨hjson, ?_, ?_, ?_⟩
  · obtain ⟨blocks, pass, assets, -, -, rfl⟩ := publish_eq_ok h
    rfl
  · intro hformat
    rw [publish_for_others hformat h, hjson]
  · intro hformat
    obtain ⟨queries, blocks, hqueries, hdiffer, hcases, hsettled⟩ := publish_for_pages hformat h
    refine ⟨queries, blocks, hqueries, hdiffer, ?_, ?_, hsettled.queryElements_eq_nil, hsettled⟩
    · intro hnone
      rcases hcases with ⟨-, rfl⟩ | ⟨hsome, -⟩
      · rfl
      · exact absurd hnone hsome
    · intro hsome
      rcases hcases with ⟨hnone, -⟩ | ⟨-, dependency, assets, hdependency, hrender, rfl⟩
      · exact absurd hnone hsome
      · exact ⟨dependency, assets, hdependency, hrender, rfl⟩

/-- A query block in a division and one behind it: the first one is numbered first. -/
theorem publish_replaces_division :
    let settings : Settings := ⟨some "http://h/".toList, .ofInt 10, "INFO".toList⟩
    let query := fun text => CodeBlock.toElement
      ⟨text, [.string CodeBlock.marker], [], .string "a".toList⟩
    let division := fun blocks => Json.object [("t".toList, .string "Div".toList),
      ("c".toList, .array [.array [.string [], .array [], .array []], .array blocks])]
    let document : Document := ⟨[("meta".toList, .object [])],
      [division [rawBlock [], query "RETURN 1".toList], query "RETURN 2".toList],
      [("pandoc-api-version".toList, .array [.int 1, .int 23])]⟩
    ∃ (result : Document) (first second : CodeBlock Json),
      document.publish "html".toList settings = .ok result ∧
        (Json.array result.blocks).at? [1, 1, 1, 1] =
          some (first.publish 1 settings.endpoint).toElement ∧
        first.text = "RETURN 1".toList ∧
        (Json.array result.blocks).at? [2] =
          some (second.publish 2 settings.endpoint).toElement ∧
        second.text = "RETURN 2".toList := by
  intro settings query division document
  have hreturns : (document.publish "html".toList settings).toOption.isSome = true := by
    decide +kernel
  obtain ⟨result, h⟩ := exists_of_isSome hreturns
  have hinput : ofJson? document.toJson = some document := rfl
  obtain ⟨-, -, -, hpages⟩ := publish_replaces hinput h
  obtain ⟨queries, blocks, hqueries, hdiffer, -, hassets, -⟩ := hpages (by decide +kernel)
  have hfound : queryElements (.array document.blocks) =
      [([0, 1, 1, 1],
          ⟨.string "a".toList, [.string CodeBlock.marker], [], .string "RETURN 1".toList⟩),
        ([1], ⟨.string "a".toList, [.string CodeBlock.marker], [],
          .string "RETURN 2".toList⟩)] := rfl
  rw [hfound] at hqueries
  obtain ⟨first, hfirst, second, hsecond, rfl⟩ : ∃ first : CodeBlock Json,
      first.text = "RETURN 1".toList ∧ ∃ second : CodeBlock Json,
        second.text = "RETURN 2".toList ∧ queries = [([0, 1, 1, 1], first), ([1], second)] := by
    obtain _ | ⟨⟨place, ⟨text, classes, attributes, identifier⟩⟩,
      _ | ⟨⟨place', ⟨text', classes', attributes', identifier'⟩⟩, _ | _⟩⟩ := queries <;>
      cases hqueries
    exact ⟨_, rfl, _, rfl, rfl⟩
  obtain ⟨dependency, assets, -, -, hblocks⟩ := hassets (List.cons_ne_nil _ _)
  refine ⟨result, first, second, h, ?_, hfirst, ?_, hsecond⟩
  · rw [hblocks]
    exact hdiffer.changed _ List.mem_cons_self
  · rw [hblocks]
    exact hdiffer.changed _ (List.mem_cons_of_mem _ List.mem_cons_self)

/-- What is published for pages is a document again, which comes back as it is however it is
published once more. -/
theorem publish_publish {input : Json} {document result : Document} {format : Text}
    {settings : Settings} (hinput : ofJson? input = some document)
    (hformat : isPageFormat format = true) (h : document.publish format settings = .ok result)
    (format' : Text) (settings' : Settings) :
    ofJson? result.toJson = some result ∧ result.publish format' settings' = .ok result := by
  obtain ⟨-, hbefore⟩ := ofJson?_eq_some hinput
  obtain ⟨-, blocks, -, -, -, hsettled⟩ := publish_for_pages hformat h
  constructor
  · obtain ⟨blocks, pass, assets, -, -, rfl⟩ := publish_eq_ok h
    exact ofFields?_append hbefore _ _
  · have hwalk : ∀ block ∈ result.blocks, Settled block :=
      (settled_iff_children rfl).mp hsettled
    have hitems := walkItems_eq_self fun item hitem => (hwalk item hitem).walk_eq
      (.start format' settings'.endpoint settings'.timeout)
    have hassets : (BuildPass.start format' settings'.endpoint settings'.timeout).renderAssets =
        .ok [] := renderAssets_of_dependencies_nil rfl
    have hnone : ([] : Text).isEmpty = true := rfl
    rw [publish, hitems]
    simp only [hassets, hnone, ite_true]

/-- A query block in a quotation, published for two formats one after the other. -/
theorem publish_publish_quotation :
    let first : Settings := ⟨some "http://h/".toList, .ofInt 10, "INFO".toList⟩
    let second : Settings := ⟨none, .ofInt 20, "DEBUG".toList⟩
    let query := CodeBlock.toElement ⟨"//| mode: graph\nRETURN 1".toList,
      [.string CodeBlock.marker], [(.string "k".toList, .null)], .string []⟩
    let document : Document := ⟨[], [.object [("t".toList, .string "BlockQuote".toList),
      ("c".toList, .array [query])]], []⟩
    ∃ result, document.publish "revealjs".toList first = .ok result ∧
      result.blocks.length = 2 ∧ ofJson? result.toJson = some result ∧
      result.publish "html5+smart".toList second = .ok result := by
  intro first second query document
  have hreturns : (document.publish "revealjs".toList first).toOption.isSome = true := by
    decide +kernel
  obtain ⟨result, h⟩ := exists_of_isSome hreturns
  have hinput : ofJson? document.toJson = some document := rfl
  have hpages : isPageFormat "revealjs".toList = true := by decide +kernel
  have hlength : ((document.publish "revealjs".toList first).toOption.map
      (·.blocks.length)) = some 2 := by
    decide +kernel
  rw [h] at hlength
  exact ⟨result, h, Option.some.inj hlength,
    publish_publish hinput hpages h "html5+smart".toList second⟩

end CypherPages.Document
