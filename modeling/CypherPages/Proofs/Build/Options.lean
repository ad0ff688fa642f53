import CypherPages.Proofs.Build.DataAttribute
import CypherPages.Proofs.Build.Pass
import CypherPages.Proofs.Directive.Scan

/-! # Options of a published block

A published block carries its options as data attributes. Several options can have one attribute,
and the block may have brought it along; the last option decides. Two attributes are out of reach
of all options: the number of the block, and its endpoint. -/

namespace CypherPages

/-- The endpoint of a block: its own, else that of the environment, else the built-in one. An empty
endpoint is none. -/
inductive EndpointOf : (own environment : Option Text) → Text → Prop
  | own {environment : Option Text} {endpoint : Text} (h : endpoint ≠ []) :
      EndpointOf (some endpoint) environment endpoint
  | environment {own : Option Text} {endpoint : Text} (hown : ∀ text ∈ own, text = [])
      (h : endpoint ≠ []) : EndpointOf own (some endpoint) endpoint
  | builtIn {own environment : Option Text} (hown : ∀ text ∈ own, text = [])
      (h : ∀ text ∈ environment, text = []) : EndpointOf own environment defaultEndpoint

/-- The options of a block. The defaults come first, the other keys in the order in which they
first came; a directive overrides a default, and only the endpoint is resolved. -/
structure OptionsOf (directives : List Directive) (endpoint : Text)
    (options : Entries Text Text) : Prop where
  keys : options.map Prod.fst = CellOptions.contextKey :: CellOptions.endpointKey ::
    (directives.map Directive.key).eraseDups.filter fun key =>
      !([CellOptions.contextKey, CellOptions.endpointKey].contains key)
  endpoint : options.get? CellOptions.endpointKey = some endpoint
  context : options.get? CellOptions.contextKey =
    some ((Directive.lastValue? directives CellOptions.contextKey).getD "interactive".toList)
  other : ∀ key, key ≠ CellOptions.contextKey → key ≠ CellOptions.endpointKey →
    options.get? key = Directive.lastValue? directives key

/-- The value of the last option that an attribute is named for. -/
def lastOption? (options : Entries Text Text) (name : Text) : Option Text :=
  ((options.filter fun option => DataAttribute.name? option.1 == some name).getLast?).map Prod.snd

/-- The attributes of a published block that brought along attributes of its own. -/
structure PublishedAttributes (own : Entries Text Text) (number : ℕ) (endpoint : Text)
    (options attributes : Entries Text Text) : Prop where
  id : attributes.get? DataAttribute.id = some (Text.decimal number)
  endpoint : attributes.get? DataAttribute.endpoint = some endpoint
  option : ∀ name, name ≠ DataAttribute.id → name ≠ DataAttribute.endpoint →
    attributes.get? name = (lastOption? options name).or (own.get? name)
  other : ∀ name, ¬ DataAttribute.stem <+: name → attributes.get? name = own.get? name
  /-- New attributes stand behind those of the block, which keep their order. -/
  keys : own.map Prod.fst <+: attributes.map Prod.fst

/-! ### The endpoint -/

theorem endpointOf_resolveEndpoint (own environment : Option Text) :
    EndpointOf own environment (resolveEndpoint own environment) := by
  unfold resolveEndpoint
  rcases nonEmpty?_cases own with ⟨endpoint, hne, rfl, hown⟩ | ⟨hunset, hown⟩
  · rw [hown]
    exact .own hne
  · rw [hown]
    rcases nonEmpty?_cases environment with ⟨endpoint, hne, rfl, henv⟩ | ⟨hnone, henv⟩
    · rw [henv]
      exact .environment hunset hne
    · rw [henv]
      exact .builtIn hunset hnone

theorem EndpointOf.ne_nil {own environment : Option Text} {endpoint : Text}
    (h : EndpointOf own environment endpoint) : endpoint ≠ [] := by
  cases h with
  | own h => exact h
  | environment _ h => exact h
  | builtIn _ _ => decide

/-! ### The options -/

theorem optionsOf_resolve {directives : List Directive} {entries : Entries Text Text}
    (h : Directive.ByKey directives entries) (hnodup : (entries.map Prod.fst).Nodup)
    (environment : Option Text) :
    OptionsOf directives
      (resolveEndpoint (Directive.lastValue? directives CellOptions.endpointKey) environment)
      (CellOptions.resolve entries environment) := by
  have hlast : ∀ key, Entries.last? key entries = Directive.lastValue? directives key := by
    intro key
    have hget := Entries.get?_setAll key [] entries
    rw [show Entries.setAll [] entries = entries from Entries.ofPairs_of_nodup hnodup,
      h.value] at hget
    exact (hget.trans (Option.or_none)).symm
  have hget (key : Text) (hkey : key ≠ CellOptions.endpointKey) :
      (CellOptions.resolve entries environment).get? key =
        (Directive.lastValue? directives key).or ((CellOptions.defaults environment).get? key) := by
    rw [CellOptions.resolve, Entries.get?_set, if_neg (by simpa using Ne.symm hkey),
      Entries.get?_setAll, hlast]
  have hdefault (key : Text) (hcontext : key ≠ CellOptions.contextKey)
      (hendpoint : key ≠ CellOptions.endpointKey) :
      (CellOptions.defaults environment).get? key = none := by
    have hcontext' : (key == CellOptions.contextKey) = false := by simpa using hcontext
    have hendpoint' : (key == CellOptions.endpointKey) = false := by simpa using hendpoint
    simp [CellOptions.defaults, Entries.get?, List.lookup_cons, hcontext', hendpoint']
  have hnew : ((entries.map Prod.fst).filter fun key =>
      !([CellOptions.contextKey, CellOptions.endpointKey].contains key)).Nodup := hnodup.filter _
  have hkeys : ((CellOptions.defaults environment).setAll entries).map Prod.fst =
      [CellOptions.contextKey, CellOptions.endpointKey] ++
        (directives.map Directive.key).eraseDups.filter fun key =>
          !([CellOptions.contextKey, CellOptions.endpointKey].contains key) := by
    rw [Entries.keys_setAll, ← h.keys, ← Entries.eraseDups_of_nodup hnew]
    rfl
  refine ⟨?_, ?_, ?_, ?_⟩
  · rw [CellOptions.resolve, Entries.keys_set_of_mem, hkeys]
    · rfl
    · rw [hkeys]
      simp
  · rw [CellOptions.resolve, Entries.get?_set, if_pos (beq_self_eq_true _), h.value]
  · rw [hget _ (by decide)]
    cases Directive.lastValue? directives CellOptions.contextKey <;> rfl
  · intro key hcontext hendpoint
    rw [hget key hendpoint, hdefault key hcontext hendpoint, Option.or_none]

/-! ### The attributes -/

namespace CodeBlock

/-- Of the attributes that are set, those of one name come from the options it is named for. -/
theorem filter_dataAttributes (number : ℕ) (environment : Option Text) (source : Text)
    {name : Text} (hid : name ≠ DataAttribute.id) (hendpoint : name ≠ DataAttribute.endpoint) :
    (dataAttributes number environment source).filter (fun pair => pair.1 == name) =
      ((CellOptions.resolve (Directive.byKey source) environment).filter fun option =>
        DataAttribute.name? option.1 == some name).map fun option => (name, option.2) := by
  unfold dataAttributes
  dsimp only
  generalize CellOptions.resolve (Directive.byKey source) environment = options
  rw [List.filter_cons, if_neg (by simpa using Ne.symm hid), List.filter_cons,
    if_neg (by simpa using Ne.symm hendpoint)]
  induction options with
  | nil => rfl
  | cons option options ih =>
      cases hkey : DataAttribute.name? option.1 with
      | none => simpa [hkey] using ih
      | some found =>
          by_cases hfound : found = name
          · subst hfound
            simpa [hkey, hid, hendpoint] using ih
          · by_cases hheld : found = DataAttribute.id ∨ found = DataAttribute.endpoint
            · simpa [hkey, hfound, hheld] using ih
            · simpa [hkey, hfound, hheld] using ih

theorem last?_dataAttributes (number : ℕ) (environment : Option Text) (source : Text)
    {name : Text} (hid : name ≠ DataAttribute.id) (hendpoint : name ≠ DataAttribute.endpoint) :
    Entries.last? name (dataAttributes number environment source) =
      lastOption? (CellOptions.resolve (Directive.byKey source) environment) name := by
  rw [Entries.last?, filter_dataAttributes number environment source hid hendpoint,
    List.getLast?_map, Option.map_map]
  rfl

theorem publish_attributes (block : CodeBlock Text) (number : ℕ) (environment : Option Text) :
    (block.publish number environment).attributes =
      block.attributes.setAll (dataAttributes number environment block.text) := by
  simp only [publish, BlockValue.ofText, List.map_id']

theorem lastOption?_of_not_stem {options : Entries Text Text} {name : Text}
    (h : ¬ DataAttribute.stem <+: name) : lastOption? options name = none := by
  have hnone : options.filter (fun option => DataAttribute.name? option.1 == some name) = [] := by
    refine List.filter_eq_nil_iff.mpr fun option _ hname => h ?_
    exact (DataAttribute.isName_of_name? (beq_iff_eq.mp hname)).stem
  rw [lastOption?, hnone]
  rfl

theorem attributes_publish_options (block : CodeBlock Text) (number : ℕ)
    (environment : Option Text) :
    PublishedAttributes block.attributes number (builtEndpoint environment block.text)
      (CellOptions.resolve (Directive.byKey block.text) environment)
      (block.publish number environment).attributes := by
  obtain ⟨others, hothers, hnames⟩ := dataAttributes_eq number environment block.text
  have hget (name : Text) : (block.publish number environment).attributes.get? name =
      (Entries.last? name (dataAttributes number environment block.text)).or
        (block.attributes.get? name) := by
    rw [publish_attributes, Entries.get?_setAll]
  have hoption (name : Text) (hid : name ≠ DataAttribute.id)
      (hendpoint : name ≠ DataAttribute.endpoint) :
      (block.publish number environment).attributes.get? name =
        (lastOption? (CellOptions.resolve (Directive.byKey block.text) environment) name).or
          (block.attributes.get? name) := by
    rw [hget, last?_dataAttributes number environment block.text hid hendpoint]
  have hnone (name : Text) (hname : name = DataAttribute.id ∨ name = DataAttribute.endpoint) :
      Entries.last? name others = none := by
    refine Entries.last?_of_not_mem fun hmem => ?_
    obtain ⟨-, hid, hendpoint⟩ := hnames name hmem
    exact hname.elim hid hendpoint
  have hne : (DataAttribute.endpoint == DataAttribute.id) = false := by decide
  refine ⟨?_, ?_, hoption, ?_, ?_⟩
  · rw [hget, hothers, Entries.last?_cons, Entries.last?_cons, hnone _ (.inl rfl)]
    simp [hne]
  · rw [hget, hothers, Entries.last?_cons, Entries.last?_cons, hnone _ (.inr rfl)]
    simp
  · intro name hname
    rw [hoption name, lastOption?_of_not_stem hname, Option.none_or]
    · rintro rfl
      exact hname DataAttribute.isName_id.stem
    · rintro rfl
      exact hname DataAttribute.isName_endpoint.stem
  · rw [publish_attributes, Entries.keys_setAll]
    exact List.prefix_append _ _

end CodeBlock

namespace BuildPass

/-- A block that is published carries the number that was issued for it, its endpoint and its
options. It fails to be published only if the time of the build is no number of milliseconds. -/
theorem process_carries_options {pass : BuildPass} {block : CodeBlock Text}
    (h : pass.publishes block.classes = true) :
    (∀ error, milliseconds pass.timeout = .error error →
      pass.process block = (.error error, pass)) ∧
    ∀ ms, milliseconds pass.timeout = .ok ms →
      ∃ out next lines code directives options endpoint,
        pass.process block = (.ok out, next) ∧ next.blockCount = pass.blockCount + 1 ∧
        Directive.LinesOf block.text lines ∧ Directive.Divides lines code directives ∧
        EndpointOf (Directive.lastValue? directives CellOptions.endpointKey) pass.environment
          endpoint ∧ endpoint ≠ [] ∧ OptionsOf directives endpoint options ∧
        PublishedAttributes block.attributes next.blockCount endpoint options out.attributes ∧
        out.classes = CodeBlock.publishedClasses ∧ out.identifier = block.identifier := by
  refine ⟨fun error herror => ?_, fun ms hms => ?_⟩
  · refine process_of_error h ?_
    unfold Dependency.forQueries
    rw [herror]
    rfl
  · obtain ⟨dependency, hdependency⟩ : ∃ dependency,
        Dependency.forQueries pass.timeout pass.environment = .ok dependency := by
      unfold Dependency.forQueries
      rw [hms]
      exact ⟨_, rfl⟩
    have hcount : (pass.register dependency).issue.blockCount = pass.blockCount + 1 :=
      congrArg (· + 1) (pass.register_frame dependency).2.2.2
    have hbyKey : Directive.ByKey (Directive.all block.text) (Directive.byKey block.text) :=
      Directive.byKey_ofPairs (Directive.all block.text)
    have hnodup : ((Directive.byKey block.text).map Prod.fst).Nodup :=
      Entries.nodup_keys_setAll (by simp) _
    have hendpoint : CodeBlock.builtEndpoint pass.environment block.text = resolveEndpoint
        (Directive.lastValue? (Directive.all block.text) CellOptions.endpointKey)
        pass.environment := by
      rw [CodeBlock.builtEndpoint, hbyKey.value]
    have hattributes :=
      block.attributes_publish_options (pass.blockCount + 1) pass.environment
    have hresolved := endpointOf_resolveEndpoint
      (Directive.lastValue? (Directive.all block.text) CellOptions.endpointKey) pass.environment
    rw [hendpoint] at hattributes
    refine ⟨_, _, _, _, _, _, _, process_of_ok h hdependency, hcount,
      Directive.linesOf_sourceLines block.text, Directive.divides_filter _, hresolved,
      hresolved.ne_nil, optionsOf_resolve hbyKey hnodup pass.environment, ?_,
      List.map_id _, rfl⟩
    rw [hcount]
    exact hattributes

/-- Keys that fold to one name, to the name of the number and to that of the endpoint. -/
theorem process_carries_options_of_colliding_keys :
    let pass := BuildPass.start "html".toList (some "http://h".toList) (.ofInt 10)
    let block : CodeBlock Text :=
      { text :=
          "//| Mode: a\n//| ID: 7\n//| endpoint: http://b\n//| -mode: c\n//| End.point: d".toList
        classes := [CodeBlock.marker]
        attributes := [("title".toList, "t".toList), ("data-ladybug-mode".toList, "own".toList)]
        identifier := [] }
    pass.publishes block.classes = true ∧ milliseconds pass.timeout = .ok 10000 ∧
      ∃ out next directives options endpoint, pass.process block = (.ok out, next) ∧
        OptionsOf directives endpoint options ∧
        PublishedAttributes block.attributes next.blockCount endpoint options out.attributes ∧
        out.attributes = [("title".toList, "t".toList), ("data-ladybug-mode".toList, "c".toList),
          (DataAttribute.id, "1".toList), (DataAttribute.endpoint, "http://b".toList),
          ("data-ladybug-context".toList, "interactive".toList),
          ("data-ladybug-end-point".toList, "d".toList)] := by
  intro pass block
  have hpublishes : pass.publishes block.classes = true := by decide +kernel
  have hms : milliseconds pass.timeout = .ok 10000 := by decide +kernel
  obtain ⟨out, next, _, _, directives, options, endpoint, hprocess, -, -, -, -, -, hoptions,
    hattributes, -, -⟩ := (process_carries_options hpublishes).2 10000 hms
  have hout : (pass.process block).1.toOption.map CodeBlock.attributes = some
      [("title".toList, "t".toList), ("data-ladybug-mode".toList, "c".toList),
        (DataAttribute.id, "1".toList), (DataAttribute.endpoint, "http://b".toList),
        ("data-ladybug-context".toList, "interactive".toList),
        ("data-ladybug-end-point".toList, "d".toList)] := by
    decide +kernel
  rw [hprocess] at hout
  exact ⟨hpublishes, hms, out, next, directives, options, endpoint, hprocess, hoptions,
    hattributes, Option.some.inj hout⟩

end BuildPass

end CypherPages
