import CypherPages.Build.MarkdownPage
import CypherPages.Proofs.Build.DataAttribute
import CypherPages.Proofs.Build.Pass
import CypherPages.Proofs.Html.Fragment
import CypherPages.Proofs.Json.Limits
import CypherPages.Proofs.Json.Strings
import CypherPages.Proofs.Page.Layout
import CypherPages.Run.Runner

/-! # The pieces of a published page

A build makes a page of query blocks line by line: a head with the title and the assets, and one
element for each block. -/

namespace CypherPages
open Html

/-! ### Builds of many blocks -/

/-- Take blocks through a build, one after the other. -/
def BuildPass.processAll (pass : BuildPass) :
    List (CodeBlock Text) → Except AssetError (List (CodeBlock Text) × BuildPass)
  | [] => .ok ([], pass)
  | block :: rest =>
    match pass.process block with
    | (.error error, _) => .error error
    | (.ok published, next) =>
      (next.processAll rest).map fun (others, final) => (published :: others, final)

/-- The page whose body is the published forms of blocks. -/
def MarkdownPage.ofBlocks (settings : Settings) (title format : Text)
    (blocks : List (CodeBlock Text)) : Except AssetError Text :=
  match (BuildPass.ofSettings settings format).processAll blocks with
  | .error error => .error error
  | .ok (published, pass) =>
    pass.renderAssets.map fun assets => assemble title assets (published.flatMap CodeBlock.render)

/-- A query block as a Markdown document gives it: nothing but its text and its classes. -/
structure CodeBlock.FromMarkdown (block : CodeBlock Text) : Prop where
  marker : CodeBlock.marker ∈ block.classes
  attributes : block.attributes = []
  identifier : block.identifier = []

namespace BuildPass

variable {pass : BuildPass} {dependency : Dependency}

theorem process_of_marker (hformat : isPageFormat pass.format = true)
    (hdependency : Dependency.forQueries pass.timeout pass.environment = .ok dependency)
    {block : CodeBlock Text} (hmarker : CodeBlock.marker ∈ block.classes) :
    pass.process block = (.ok (block.publish (pass.blockCount + 1) pass.environment),
      (pass.register dependency).issue) := by
  have hpublishes : pass.publishes block.classes = true := by
    simpa [publishes, hformat, BlockValue.ofText] using hmarker
  exact process_of_ok hpublishes hdependency

/-- The blocks are numbered from the block count on, and the assets are registered once. -/
theorem processAll_eq (hformat : isPageFormat pass.format = true)
    (hdependency : Dependency.forQueries pass.timeout pass.environment = .ok dependency)
    {blocks : List (CodeBlock Text)}
    (hblocks : ∀ block ∈ blocks, CodeBlock.marker ∈ block.classes) :
    ∃ final : BuildPass, pass.processAll blocks =
        .ok (blocks.mapIdx fun index block =>
          block.publish (pass.blockCount + index + 1) pass.environment, final) ∧
      final.dependencies =
        if blocks = [] then pass.dependencies else (pass.register dependency).dependencies := by
  induction blocks generalizing pass with
  | nil => exact ⟨pass, rfl, rfl⟩
  | cons block rest ih =>
      obtain ⟨hformat', henvironment, htimeout, hcount⟩ := pass.register_frame dependency
      obtain ⟨final, hfinal, hassets⟩ := @ih (pass.register dependency).issue
        (by rwa [issue, hformat']) (by rwa [issue, htimeout, henvironment])
        (fun other hother => hblocks other (List.mem_cons_of_mem _ hother))
      have hnext : (pass.register dependency).issue.blockCount = pass.blockCount + 1 ∧
          (pass.register dependency).issue.environment = pass.environment :=
        ⟨congrArg (· + 1) hcount, henvironment⟩
      refine ⟨final, ?_, ?_⟩
      · simp only [processAll, process_of_marker hformat hdependency
          (hblocks block List.mem_cons_self), hfinal, hnext, Except.map, List.mapIdx_cons,
          Nat.add_assoc, Nat.add_comm 1]
      · have hregistered := @register_eq_self (pass.register dependency).issue
          (pass.register_registered dependency) dependency
        rw [hassets, hregistered]
        simp [issue]

end BuildPass

/-! ### The pieces of a published page -/

namespace MarkdownPage

def blockTag (block : CodeBlock Text) : WrittenTag :=
  .ofValues "pre".toList (("class".toList, [' '].intercalate block.classes) :: block.attributes)

/-- The start tag of a published block's code. -/
def codeTag : WrittenTag :=
  .ofValues "code".toList [("class".toList, "language-cypher".toList)]

def codePieces (block : CodeBlock Text) : List Piece :=
  Piece.element codeTag (Piece.ofText (escape block.text))

def blockLine (block : CodeBlock Text) : List Piece :=
  Piece.element (blockTag block) (codePieces block)

/-- The start of a page up to its title. -/
def frontLines : List (List Piece) :=
  [[.declaration "doctype html".toList],
    [.start (.ofValues "html".toList [("lang".toList, "en".toList)])],
    [.start (.ofValues "head".toList [])],
    [.start (.ofValues "meta".toList [("charset".toList, "utf-8".toList)])]]

def titleLine (title : Text) : List Piece :=
  Piece.element (.ofValues "title".toList []) (Piece.ofText (escape title))

def styleTag : WrittenTag :=
  .ofValues "style".toList [("data-dependency".toList, "ladybug-query-0.1.0".toList)]

def configTag : WrittenTag :=
  .ofValues "script".toList
    [("type".toList, "application/json".toList), ("id".toList, Dependency.configId)]

/-- The packaged stylesheet and a configuration. -/
def assetLines (payload : Text) : List (List Piece) :=
  [[.raw styleTag ('\n' :: StyleRule.writeAll StyleRule.queryBlockRules) "style".toList],
    [.raw configTag (Dependency.guardEndTags payload) "script".toList]]

/-- What stands between the head and the blocks of a page. -/
def bodyLines : List (List Piece) :=
  [[.close "head".toList], [.start (.ofValues "body".toList [])]]

def endLines : List (List Piece) := [[.close "body".toList], [.close "html".toList]]

/-- The lines of a page up to its blocks, with its configuration if it has one. -/
def headLines (title : Text) (payload : Option Text) : List (List Piece) :=
  frontLines ++ titleLine title :: (payload.map assetLines).getD [] ++ bodyLines

def linePieces (lines : List (List Piece)) : List Piece :=
  lines.flatMap fun line => line ++ [.text ['\n']]

def pagePieces (title : Text) (payload : Option Text) (blocks : List (CodeBlock Text)) :
    List Piece :=
  linePieces (headLines title payload ++ blocks.map blockLine ++ endLines)

/-! ### The text of a published page -/

theorem writeAll_assetLines (payload : Text) :
    Piece.writeAll (linePieces (assetLines payload)) =
      "<style data-dependency=\"ladybug-query-0.1.0\">\n".toList ++
        StyleRule.writeAll StyleRule.queryBlockRules ++ "</style>\n".toList ++
        "<script type=\"application/json\" id=\"ladybug-query-config\">".toList ++
        Dependency.guardEndTags payload ++ "</script>\n".toList := by
  have hstyle : styleTag.write = "<style data-dependency=\"ladybug-query-0.1.0\">".toList := by
    decide
  have hconfig : configTag.write =
      "<script type=\"application/json\" id=\"ladybug-query-config\">".toList := by decide
  simp [assetLines, linePieces, Piece.write, hstyle, hconfig, Piece.endTag]

/-- The assets of pages with query blocks, for a configuration. -/
def queryAssets (config : Json) : Dependency :=
  ⟨"ladybug-query".toList, "0.1.0".toList, ["ladybug-query.css".toList], config⟩

/-- A time in milliseconds is a double's integer part, so it can be written. -/
theorem isOverlong_milliseconds {timeout : Binary64} {ms : Int}
    (h : milliseconds timeout = .ok ms) : Json.isOverlong ms = false := by
  unfold milliseconds at h
  cases hproduct : timeout.mulNat 1000 with
  | finite negative mantissa exponent =>
      rw [hproduct] at h
      refine Json.isOverlong_of_truncate? (x := timeout) (k := 1000) ?_
      rw [hproduct, ← Except.ok.inj h]
      rfl
  | _ =>
      rw [hproduct] at h
      cases h

/-- The configuration of a build: its timeout, and the endpoint of its environment. -/
def queryConfig (ms : ℤ) (environment : Option Text) : List (Text × Json) :=
  (Dependency.timeoutField, .int ms) ::
    match environment with
    | some (c :: rest) => [(Dependency.endpointField, Json.string (c :: rest))]
    | _ => []

theorem forQueries_eq {timeout : Binary64} {ms : Int} (h : milliseconds timeout = .ok ms)
    (environment : Option Text) :
    Dependency.forQueries timeout environment =
      .ok (queryAssets (.object (queryConfig ms environment))) := by
  unfold Dependency.forQueries
  rw [h]
  rfl

theorem exact_queryConfig (ms : ℤ) (environment : Option Text) :
    Json.Exact (.object (queryConfig ms environment)) := by
  have hnames : [Dependency.timeoutField].Nodup ∧
      [Dependency.timeoutField, Dependency.endpointField].Nodup := by decide
  unfold queryConfig
  split
  · exact .object hnames.2
      (List.forall_mem_cons.mpr ⟨.int ms, List.forall_mem_singleton.mpr (.string _)⟩)
  · exact .object hnames.1 (List.forall_mem_singleton.mpr (.int ms))

theorem fits_queryConfig {timeout : Binary64} {ms : Int} (h : milliseconds timeout = .ok ms)
    (environment : Option Text) : (Json.object (queryConfig ms environment)).fits = true := by
  have htimeout : (Json.int ms).fits = true := Json.fits_int_iff.mpr (isOverlong_milliseconds h)
  rw [Json.fits_object_iff]
  unfold queryConfig
  split
  · exact List.forall_mem_cons.mpr ⟨htimeout, List.forall_mem_singleton.mpr rfl⟩
  · exact List.forall_mem_singleton.mpr htimeout

theorem styleElement_queryAssets (config : Json) {sheet : Text}
    (h : packagedStylesheets.lookup "ladybug-query.css".toList = some sheet) :
    (queryAssets config).styleElement "ladybug-query.css".toList =
      .ok ("<style data-dependency=\"ladybug-query-0.1.0\">\n".toList ++ sheet ++
        "</style>".toList) := by
  have hname : (queryAssets config).name = "ladybug-query".toList := rfl
  have hversion : (queryAssets config).version = "0.1.0".toList := rfl
  rw [Dependency.styleElement, h]
  simp [hname, hversion]

theorem render_of_styleElement {config : Json} {style element : Text}
    (h : (queryAssets config).styleElement "ladybug-query.css".toList = .ok style)
    (helement : (queryAssets config).configElement = .ok element) :
    (queryAssets config).render = .ok (style ++ '\n' :: element) := by
  have hstyles : (queryAssets config).stylesheets.mapM (queryAssets config).styleElement =
      .ok [style] := by
    have hone : (queryAssets config).stylesheets = ["ladybug-query.css".toList] := rfl
    rw [hone, List.mapM_cons, h, List.mapM_nil]
    rfl
  rw [Dependency.render, hstyles, helement]
  exact congrArg Except.ok (by simp [Text.unlines])

/-- The assets of a build are the packaged stylesheet and the configuration. -/
theorem render_queryAssets {config : Json} (hfits : config.fits = true) :
    ∃ assets : Text, (queryAssets config).render = .ok assets ∧ assets ≠ [] ∧
      assets ++ ['\n'] =
        Piece.writeAll (linePieces (assetLines (config.sortFields.write .spaced))) := by
  have hsheet : packagedStylesheets.lookup "ladybug-query.css".toList =
      some (StyleRule.writeAll StyleRule.queryBlockRules) := by
    rw [packagedStylesheets, List.lookup_cons_self]
  have helement : (queryAssets config).configElement =
      .ok ("<script type=\"application/json\" id=\"".toList ++ Dependency.configId ++
        "\">".toList ++ Dependency.guardEndTags (config.sortFields.write .spaced) ++
        "</script>".toList) := if_pos hfits
  have hid : Dependency.configId = "ladybug-query-config".toList := rfl
  refine ⟨_, render_of_styleElement (styleElement_queryAssets config hsheet) helement,
    by simp, ?_⟩
  rw [writeAll_assetLines]
  generalize StyleRule.writeAll StyleRule.queryBlockRules = sheet
  simp [hid]

theorem intercalate_space {words : List Text} (h : words ≠ []) :
    ' ' :: [' '].intercalate words = words.flatMap (' ' :: ·) := by
  induction words with
  | nil => exact absurd rfl h
  | cons word words ih =>
      cases words with
      | nil => simp
      | cons next words =>
          rw [List.intercalate_cons_cons, List.flatMap_cons, ← ih (by simp)]
          simp

theorem write_ofValues_intercalate (name : Text) {values : List (Text × Text)} (h : values ≠ []) :
    (WrittenTag.ofValues name values).write =
      '<' :: name ++ ' ' :: [' '].intercalate
        (values.map fun (key, value) => key ++ "=\"".toList ++ escape value ++ ['"']) ++ ['>'] := by
  rw [WrittenTag.write_ofValues, intercalate_space (by simpa using h), List.flatMap_map]
  simp

theorem render_eq {block : CodeBlock Text} (hidentifier : block.identifier = []) :
    block.render = "<pre ".toList ++ [' '].intercalate
      ((("class".toList, escape ([' '].intercalate block.classes)) ::
        block.attributes.map fun (name, value) => (escape name, escape value)).map
          fun (name, value) => name ++ "=\"".toList ++ value ++ ['"']) ++
      "><code class=\"language-cypher\">".toList ++ escape block.text ++
        "</code></pre>\n".toList := by
  obtain ⟨text, classes, attributes, identifier⟩ := block
  obtain rfl : identifier = [] := hidentifier
  rfl

theorem writeAll_blockLine {block : CodeBlock Text} (hidentifier : block.identifier = [])
    (hnames : ∀ name ∈ block.attributes.map Prod.fst, escape name = name) :
    Piece.writeAll (blockLine block) ++ ['\n'] = block.render := by
  have hcode : codeTag.write = "<code class=\"language-cypher\">".toList := by decide
  have hattributes : (block.attributes.map fun (name, value) => (escape name, escape value)) =
      block.attributes.map fun (name, value) => (name, escape value) :=
    List.map_congr_left fun pair hmem =>
      congrArg (·, escape pair.2) (hnames pair.1 (List.mem_map_of_mem hmem))
  have htag : (blockTag block).write = _ :=
    write_ofValues_intercalate "pre".toList (List.cons_ne_nil _ _)
  have hname : (blockTag block).name = "pre".toList ∧ codeTag.name = "code".toList := ⟨rfl, rfl⟩
  rw [render_eq hidentifier, hattributes, blockLine, codePieces, Piece.writeAll_element,
    Piece.writeAll_element, Piece.writeAll_ofText, htag, hcode, hname.1, hname.2]
  simp [Piece.endTag, Function.comp_def]

theorem linePieces_append (first rest : List (List Piece)) :
    linePieces (first ++ rest) = linePieces first ++ linePieces rest :=
  List.flatMap_append

theorem linePieces_cons (line : List Piece) (rest : List (List Piece)) :
    linePieces (line :: rest) = line ++ .text ['\n'] :: linePieces rest := by
  simp [linePieces]

/-- The text of a page whose blocks make up `body`. -/
theorem writeAll_pagePieces (title : Text) (payload : Option Text)
    {blocks : List (CodeBlock Text)} {body : Text}
    (hbody : Piece.writeAll (linePieces (blocks.map blockLine)) = body) :
    Piece.writeAll (pagePieces title payload blocks) =
      "<!doctype html>\n<html lang=\"en\">\n<head>\n<meta charset=\"utf-8\">\n<title>".toList ++
        escape title ++ "</title>\n".toList ++
        Piece.writeAll (linePieces ((payload.map assetLines).getD [])) ++
        "</head>\n<body>\n".toList ++ body ++ "</body>\n</html>\n".toList := by
  have hfront : Piece.writeAll (linePieces frontLines) =
      "<!doctype html>\n<html lang=\"en\">\n<head>\n<meta charset=\"utf-8\">\n".toList := by decide
  have htitle : (WrittenTag.ofValues "title".toList []).write = "<title>".toList := by decide
  have hname : (WrittenTag.ofValues "title".toList []).name = "title".toList := rfl
  have hmiddle : Piece.writeAll (linePieces bodyLines) = "</head>\n<body>\n".toList := by decide
  have hend : Piece.writeAll (linePieces endLines) = "</body>\n</html>\n".toList := by decide
  simp only [pagePieces, headLines, titleLine, linePieces_append, linePieces_cons,
    Piece.writeAll_append, Piece.writeAll_cons, Piece.writeAll_element, Piece.writeAll_ofText,
    hfront, htitle, hname, hmiddle, hend, hbody]
  simp [Piece.endTag, Piece.write]

theorem assemble_nil (title body : Text) {blocks : List (CodeBlock Text)}
    (hbody : Piece.writeAll (linePieces (blocks.map blockLine)) = body) :
    assemble title [] body = Piece.writeAll (pagePieces title none blocks) := by
  rw [writeAll_pagePieces title none hbody]
  rfl

theorem assemble_assets (title body : Text) {payload assets : Text} (hne : assets ≠ [])
    (hassets : assets ++ ['\n'] = Piece.writeAll (linePieces (assetLines payload)))
    {blocks : List (CodeBlock Text)}
    (hbody : Piece.writeAll (linePieces (blocks.map blockLine)) = body) :
    assemble title assets body = Piece.writeAll (pagePieces title (some payload) blocks) := by
  rw [writeAll_pagePieces title (some payload) hbody, Option.map_some, Option.getD_some, ← hassets]
  cases assets with
  | nil => exact absurd rfl hne
  | cons c assets => rfl

/-! ### Published pages are plain markup -/

theorem plain_linePieces {lines : List (List Piece)}
    (h : ∀ line ∈ lines, Piece.Solid line ∧ line ≠ []) :
    Piece.Plain (linePieces lines) ∧
      ∀ piece ∈ (linePieces lines).head?, piece.isText = false := by
  induction lines with
  | nil => exact ⟨Piece.plain_nil, by simp [linePieces]⟩
  | cons line rest ih =>
      obtain ⟨hrest, hhead⟩ := ih fun other hother => h other (List.mem_cons_of_mem _ hother)
      obtain ⟨hsolid, hne⟩ := h line List.mem_cons_self
      have hnewline : Piece.Plain [.text ['\n']] := Piece.plain_singleton (by decide)
      have hline : Piece.Plain (line ++ [.text ['\n']]) :=
        hsolid.plain.append hnewline fun a ha _ _ hboth => by simp [hsolid.last a ha] at hboth
      refine ⟨hline.append hrest fun _ _ b hb hboth => by simp [hhead b hb] at hboth, ?_⟩
      intro piece hp
      rw [linePieces_cons, List.head?_append_of_ne_nil _ hne] at hp
      exact hsolid.head piece hp

/-- No end tag is left in a configuration. -/
theorem rawContent?_guardEndTags (name payload : Text) :
    rawContent? name (Dependency.guardEndTags payload) = none := by
  fun_induction Dependency.guardEndTags payload with
  | case1 rest ih =>
      refine rawContent?_cons (closesRaw?_of_ne (.inr (by simp))) ?_
      refine rawContent?_cons (closesRaw?_of_ne (.inl (by decide))) ?_
      exact rawContent?_cons (closesRaw?_of_ne (.inl (by decide))) ih
  | case2 c rest hguard ih =>
      refine rawContent?_cons (closesRaw?_of_ne ?_) ih
      by_cases hc : c = '<'
      · right
        intro hslash
        rw [Json.head?_guardEndTags] at hslash
        obtain ⟨after, rfl⟩ := List.head?_eq_some_iff.mp hslash
        exact hguard after hc rfl
      · exact .inl hc
  | case3 => rfl

/-- A line that is one piece, neither text nor the start of a block. -/
def isTagLine : List Piece → Bool
  | [piece] => piece.isLawful && !piece.isText && !Page.opensBlock piece
  | _ => false

theorem solid_of_isTagLine {line : List Piece} (h : isTagLine line = true) :
    (Piece.Solid line ∧ line ≠ []) ∧ line.all (!Page.opensBlock ·) = true := by
  unfold isTagLine at h
  split at h
  · simp only [Bool.and_eq_true, Bool.not_eq_true'] at h
    exact ⟨⟨Piece.solid_singleton h.1.1 h.1.2, by simp⟩, by simpa using h.2⟩
  · cases h

theorem isTagLine_assetLines (payload : Text) : (assetLines payload).all isTagLine = true := by
  have hsheet : (rawContent? "style".toList
      ('\n' :: StyleRule.writeAll StyleRule.queryBlockRules)).isNone = true := by
    rw [rawContent?_of_not_mem (by decide +kernel)]
    rfl
  have hpayload :
      (rawContent? "script".toList (Dependency.guardEndTags payload)).isNone = true := by
    rw [rawContent?_guardEndTags]
    rfl
  have hstyle : styleTag.isLawful = true ∧ styleTag.name.lower = "style".toList := by decide
  have hconfig : configTag.isLawful = true ∧ configTag.name.lower = "script".toList := by
    decide
  simp only [assetLines, List.all_cons, List.all_nil, isTagLine, Piece.isLawful, hstyle, hconfig,
    hsheet, hpayload]
  rfl

theorem opensBlock_ofText (t : Text) : (Piece.ofText t).all (!Page.opensBlock ·) = true := by
  cases t <;> rfl

theorem solid_titleLine (title : Text) :
    Piece.Solid (titleLine title) ∧ (titleLine title).all (!Page.opensBlock ·) = true := by
  have htext : '<' ∉ escape title := not_mem_escape (.inl rfl) title
  refine ⟨Piece.Plain.element (by decide) (Piece.plain_ofText htext), ?_⟩
  rw [titleLine, Piece.element, List.cons_append, List.all_cons, List.all_append,
    opensBlock_ofText]
  decide

/-- What stands before the blocks of a page opens no block. -/
theorem solid_headLines (title : Text) (payload : Option Text) {line : List Piece}
    (h : line ∈ headLines title payload) :
    (Piece.Solid line ∧ line ≠ []) ∧ line.all (!Page.opensBlock ·) = true := by
  have hfront : frontLines.all isTagLine = true := by decide
  have hbody : bodyLines.all isTagLine = true := by decide
  simp only [headLines, List.mem_append, List.mem_cons] at h
  rcases h with (h | rfl | h) | h
  · exact solid_of_isTagLine (List.all_eq_true.mp hfront line h)
  · exact ⟨⟨(solid_titleLine title).1, Piece.element_ne_nil _ _⟩, (solid_titleLine title).2⟩
  · cases payload with
    | none => cases h
    | some payload =>
        exact solid_of_isTagLine (List.all_eq_true.mp (isTagLine_assetLines payload) line h)
  · exact solid_of_isTagLine (List.all_eq_true.mp hbody line h)

/-! ### The configuration of a published page -/

theorem isRaw_ofText (t : Text) : (Piece.ofText t).all (!Page.isRaw ·) = true := by
  cases t <;> rfl

theorem isRaw_element {tag : WrittenTag} {pieces : List Piece}
    (h : pieces.all (!Page.isRaw ·) = true) :
    (Piece.element tag pieces).all (!Page.isRaw ·) = true := by
  rw [Piece.element, List.cons_append, List.all_cons, List.all_append, h]
  rfl

/-- The only configuration of a published page is the one of its assets. -/
theorem readableConfig_pagePieces (title : Text) {payload : Option Text}
    (hpayload : ∀ text ∈ payload, ∃ value, Json.read (Dependency.guardEndTags text) = .ok value)
    (blocks : List (CodeBlock Text)) {piece : Piece} (h : piece ∈ pagePieces title payload blocks) :
    Page.ReadableConfig piece := by
  have hfront : frontLines.all (fun line => line.all (!Page.isRaw ·)) = true := by decide
  have hbody : bodyLines.all (fun line => line.all (!Page.isRaw ·)) = true := by decide
  have hend : endLines.all (fun line => line.all (!Page.isRaw ·)) = true := by decide
  obtain ⟨line, hline, hpiece⟩ := List.mem_flatMap.mp h
  rcases List.mem_append.mp hpiece with hpiece | hpiece
  · simp only [headLines, List.mem_append, List.mem_cons] at hline
    rcases hline with ((((hline | rfl | hline) | hline) | hline) | hline)
    · exact Page.readableConfig_of_all (List.all_eq_true.mp hfront line hline) hpiece
    · exact Page.readableConfig_of_all (isRaw_element (isRaw_ofText _)) hpiece
    · cases payload with
      | none => cases hline
      | some text =>
          simp only [Option.map_some, Option.getD_some, assetLines, List.mem_cons,
            List.not_mem_nil, or_false] at hline
          rcases hline with rfl | rfl
          · obtain rfl := List.mem_singleton.mp hpiece
            have hstyle : Page.opensConfig styleTag = false := by decide
            exact fun hconfig => absurd hconfig (by rw [hstyle]; exact Bool.false_ne_true)
          · obtain rfl := List.mem_singleton.mp hpiece
            exact fun _ => hpayload text rfl
    · exact Page.readableConfig_of_all (List.all_eq_true.mp hbody line hline) hpiece
    · obtain ⟨block, -, rfl⟩ := List.mem_map.mp hline
      exact Page.readableConfig_of_all (isRaw_element (isRaw_element (isRaw_ofText _))) hpiece
    · exact Page.readableConfig_of_all (List.all_eq_true.mp hend line hline) hpiece
  · obtain rfl := List.mem_singleton.mp hpiece
    trivial

end MarkdownPage

end CypherPages
