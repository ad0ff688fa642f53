import CypherPages.Proofs.Build.PublishedPage
import CypherPages.Proofs.Json.ReadBack

/-! # Published pages are read back

Reading a page that a build made of query blocks gives the blocks back: the queries and the
attributes under which they were published, and no regions. -/

namespace CypherPages
open Html

/-- A block of a page is a published block, its code and its attributes unchanged. -/
structure QueryBlock.Shows (published : CodeBlock Text) (found : QueryBlock) : Prop where
  query : found.query = published.text
  attributes : found.attributes =
    ("class".toList, [' '].intercalate published.classes) :: published.attributes
  controls : found.controls = none
  result : found.result = none

/-- What makes a published block readable. -/
structure CodeBlock.Readable (published : CodeBlock Text) : Prop where
  classes : published.classes = CodeBlock.publishedClasses
  identifier : published.identifier = []
  isName : ∀ name ∈ published.attributes.map Prod.fst, DataAttribute.IsName name
  nodup : (published.attributes.map Prod.fst).Nodup

theorem CodeBlock.FromMarkdown.readable {block : CodeBlock Text} (h : block.FromMarkdown)
    (number : ℕ) (environment : Option Text) :
    (block.publish number environment).Readable := by
  have hpublished := publish_published h.attributes number environment
  refine ⟨?_, h.identifier, hpublished.isName, hpublished.nodup⟩
  exact List.map_id' _

theorem CodeBlock.readable_of_mem_mapIdx {blocks : List (CodeBlock Text)}
    (h : ∀ block ∈ blocks, block.FromMarkdown) (environment : Option Text) :
    ∀ published ∈ blocks.mapIdx (fun index block => block.publish (index + 1) environment),
      published.Readable := by
  intro published hmem
  obtain ⟨index, hlt, rfl⟩ := List.mem_mapIdx.mp hmem
  exact (h _ (List.getElem_mem hlt)).readable _ _

namespace MarkdownPage

variable {block : CodeBlock Text}

/-! ### The tag of a block -/

/-- A published block has the attributes under which it was published. -/
theorem tagAttributes_blockTag (h : block.Readable) :
    Page.tagAttributes (blockTag block) =
      ("class".toList, [' '].intercalate block.classes) :: block.attributes := by
  have hclass : Text.lower "class".toList = "class".toList :=
    DataAttribute.lower_of_all_isSlugChar (by decide)
  have hlower : ∀ pair ∈ ("class".toList, [' '].intercalate block.classes) :: block.attributes,
      Text.lower pair.1 = pair.1 := by
    intro pair hpair
    rcases List.mem_cons.mp hpair with rfl | hpair
    · exact hclass
    · exact DataAttribute.lower_of_all_isSlugChar
        (h.isName pair.1 (List.mem_map_of_mem hpair)).all_isSlugChar
  have hnodup : ((("class".toList, [' '].intercalate block.classes) ::
      block.attributes).map Prod.fst).Nodup := by
    rw [List.map_cons, List.nodup_cons]
    exact ⟨fun hmem => (h.isName _ hmem).ne_class rfl, h.nodup⟩
  rw [Page.tagAttributes, Page.Reading.byName, blockTag, WrittenTag.read_ofValues, List.map_map]
  have hread : ((("class".toList, [' '].intercalate block.classes) ::
      block.attributes).map fun pair => (Text.lower pair.1, pair.2)) =
      ("class".toList, [' '].intercalate block.classes) :: block.attributes :=
    (List.map_congr_left fun pair hpair => by rw [hlower pair hpair, id]).trans (List.map_id _)
  exact (congrArg Entries.ofPairs hread).trans (Entries.ofPairs_of_nodup hnodup)

theorem isLawful_blockTag (h : block.Readable) :
    (Piece.start (blockTag block)).isLawful = true := by
  have hclass : "class".toList ≠ [] ∧ "class".toList.all isAttributeNameChar = true := by decide
  have hvalues : ∀ key ∈ (("class".toList, [' '].intercalate block.classes) ::
      block.attributes).map Prod.fst, key ≠ [] ∧ key.all isAttributeNameChar = true := by
    intro key hkey
    rw [List.map_cons, List.mem_cons] at hkey
    rcases hkey with rfl | hkey
    · exact hclass
    · refine ⟨(h.isName key hkey).ne_nil, List.all_eq_true.mpr fun c hc => ?_⟩
      exact DataAttribute.isAttributeNameChar_of_isSlugChar
        (List.all_eq_true.mp (h.isName key hkey).all_isSlugChar c hc)
  have hraw : isRawElement (blockTag block).name.lower = false := by
    show isRawElement (Text.lower "pre".toList) = false
    decide
  rw [Piece.isLawful, hraw, blockTag, WrittenTag.isLawful_ofValues (by decide) hvalues]
  rfl

theorem opensBlock_blockTag (h : block.Readable) :
    Page.opensBlock (.start (blockTag block)) = true := by
  have hclasses : Page.tagClasses (blockTag block) =
      Text.words ([' '].intercalate CodeBlock.publishedClasses) := by
    rw [Page.tagClasses, tagAttributes_blockTag h, Entries.get?_cons, if_pos (by simp),
      Option.getD_some, h.classes]
  have hname : (blockTag block).name.lower = "pre".toList := by
    show Text.lower "pre".toList = _
    decide
  rw [Page.opensBlock, Page.isTagged, hclasses, hname]
  decide

/-! ### One block -/

theorem plain_codePieces (block : CodeBlock Text) : Piece.Plain (codePieces block) :=
  (Piece.Plain.element (by decide)
    (Piece.plain_ofText (not_mem_escape (.inl rfl) block.text))).plain

theorem closes_codePieces (block : CodeBlock Text) :
    (codePieces block).all (!Page.closes "pre".toList ·) = true := by
  have htext : (Piece.ofText (escape block.text)).all (!Page.closes "pre".toList ·) = true := by
    cases escape block.text <;> rfl
  rw [codePieces, Piece.element, List.cons_append, List.all_cons, List.all_append, htext]
  decide

/-- A published block as a block of a page, behind other pieces. -/
def blockLayout (h : block.Readable) (before : List Piece)
    (hbefore : before.all (!Page.opensBlock ·) = true) : Page.BlockLayout where
  before := before
  opening := blockTag block
  inner := codePieces block
  closing := (blockTag block).name
  region := none
  opensBlock_before := hbefore
  opensBlock_opening := opensBlock_blockTag h
  closes_inner := closes_codePieces block
  closes_closing := by
    show (Text.lower "pre".toList == "pre".toList) = true
    decide

theorem query_codePieces (tag : WrittenTag) (start offset : ℕ) :
    ((Page.OpenBlock.opened tag start).pieces offset (codePieces block)).query = block.text := by
  have hname : codeTag.name.lower = "code".toList := by decide
  cases htext : escape block.text with
  | nil =>
      rw [escape_eq_nil_iff.mp htext]
      simp [codePieces, Piece.element, Piece.ofText, Page.OpenBlock.pieces, Page.OpenBlock.piece,
        Page.Reading.openInside, Page.OpenBlock.opened, htext, hname]
  | cons c t =>
      have hunescape : unescape (c :: t) = block.text := by rw [← htext, unescape_escape]
      simp [codePieces, Piece.element, Piece.ofText, Page.OpenBlock.pieces, Page.OpenBlock.piece,
        Page.Reading.openInside, Page.OpenBlock.opened, Page.OpenBlock.text, htext, hname,
        hunescape]

theorem opensControls_codePieces (block : CodeBlock Text) :
    (codePieces block).all (!Page.opensControls ·) = true := by
  have htext : (Piece.ofText (escape block.text)).all (!Page.opensControls ·) = true := by
    cases escape block.text <;> rfl
  rw [codePieces, Piece.element, List.cons_append, List.all_cons, List.all_append, htext]
  decide

/-- A published block is read with its code and its attributes. -/
theorem shows_blockLayout (h : block.Readable) {before : List Piece}
    (hbefore : before.all (!Page.opensBlock ·) = true) (offset : ℕ) :
    QueryBlock.Shows block ((blockLayout h before hbefore).block offset) := by
  obtain ⟨-, hattributes⟩ := Page.OpenBlock.frame_pieces
    (Page.OpenBlock.opened (blockTag block) ((blockLayout h before hbefore).startTagEnd offset))
    ((blockLayout h before hbefore).startTagEnd offset) (codePieces block)
  obtain ⟨hcontrols, -⟩ := @Page.OpenBlock.controls_pieces_of_none
    (Page.OpenBlock.opened (blockTag block) ((blockLayout h before hbefore).startTagEnd offset))
    _ (opensControls_codePieces block) rfl ((blockLayout h before hbefore).startTagEnd offset)
  refine ⟨query_codePieces _ _ _, hattributes.trans (tagAttributes_blockTag h), ?_, rfl⟩
  show Option.map _ _ = none
  rw [Option.map_eq_none_iff]
  exact hcontrols

/-! ### All blocks -/

/-- No piece of the published blocks opens a result region. -/
theorem opensRegion_blockLines (blocks : List (CodeBlock Text)) :
    (linePieces (blocks.map blockLine)).all (!Page.opensRegion ·) = true := by
  have htext : ∀ t : Text, (Piece.ofText t).all (!Page.opensRegion ·) = true := by
    intro t
    cases t <;> rfl
  have hcode : Page.opensRegion (.start codeTag) = false := by decide
  have hpre : (Text.lower "pre".toList == "div".toList) = false := by decide
  have htag : ∀ block, Page.opensRegion (.start (blockTag block)) = false := by
    intro block
    have hname : (blockTag block).name.lower = Text.lower "pre".toList := rfl
    rw [Page.opensRegion, Page.isTagged, hname, hpre, Bool.false_and]
  induction blocks with
  | nil => rfl
  | cons block rest ih =>
      simp only [List.map_cons, linePieces_cons, blockLine, codePieces, Piece.element,
        List.cons_append, List.all_cons, List.all_append, htext, hcode, htag, ih]
      rfl

theorem leavesBlock_of_all {pieces : List Piece} (h : pieces.all (!Page.opensRegion ·) = true) :
    Page.LeavesBlock pieces := by
  intro next hnext
  have hmem := (List.dropWhile_sublist _).subset (List.mem_of_mem_head? hnext)
  simpa using List.all_eq_true.mp h next hmem

/-- Published blocks between pieces that open neither a block nor a region are the blocks of
the layout. -/
theorem exists_layouts {blocks : List (CodeBlock Text)} (hblocks : ∀ block ∈ blocks, block.Readable)
    {before after : List Piece} (hbefore : before.all (!Page.opensBlock ·) = true)
    (hafter : after.all (!Page.opensBlock ·) = true)
    (hregion : after.all (!Page.opensRegion ·) = true) :
    ∃ layouts tail,
      before ++ linePieces (blocks.map blockLine) ++ after = Page.layoutPieces layouts tail ∧
      Page.Follows tail layouts ∧
      ∀ offset, List.Forall₂ QueryBlock.Shows blocks (Page.blocksFrom offset layouts) := by
  induction blocks generalizing before with
  | nil =>
      refine ⟨[], before ++ after, by simp [linePieces, Page.layoutPieces], ?_, fun _ => .nil⟩
      have hall : ∀ piece ∈ before ++ after, (!Page.opensBlock piece) = true :=
        List.all_eq_true.mp (by rw [List.all_append, hbefore, hafter]; rfl)
      rw [Page.Follows, List.dropWhile_eq_nil_iff.mpr hall]
      rfl
  | cons block rest ih =>
      have hblock := hblocks block List.mem_cons_self
      obtain ⟨layouts, tail, hpieces, hfollows, hshows⟩ :=
        @ih (fun other hother => hblocks other (List.mem_cons_of_mem _ hother)) [.text ['\n']] rfl
      refine ⟨blockLayout hblock before hbefore :: layouts, tail, ?_, ⟨fun _ => ?_, hfollows⟩,
        fun offset => .cons (shows_blockLayout hblock hbefore offset) (hshows _)⟩
      · have hsplit : Page.layoutPieces (blockLayout hblock before hbefore :: layouts) tail =
            (before ++ blockLine block) ++ Page.layoutPieces layouts tail := by
          simp [Page.layoutPieces, Page.BlockLayout.pieces, Page.BlockLayout.regionPieces,
            Page.BlockLayout.element, blockLayout, blockLine, Piece.element]
        rw [hsplit, ← hpieces]
        simp [linePieces]
      · rw [← hpieces]
        apply leavesBlock_of_all
        rw [List.all_append, List.all_append, opensRegion_blockLines, hregion]
        rfl

theorem solid_blockLine (h : block.Readable) : Piece.Solid (blockLine block) :=
  Piece.Plain.element (isLawful_blockTag h) (plain_codePieces block)

theorem plain_pagePieces (title : Text) (payload : Option Text) {blocks : List (CodeBlock Text)}
    (hblocks : ∀ block ∈ blocks, block.Readable) :
    Piece.Plain (pagePieces title payload blocks) := by
  have hend : endLines.all isTagLine = true := by decide
  refine (plain_linePieces fun line hline => ?_).1
  rcases List.mem_append.mp hline with hline | hline
  · rcases List.mem_append.mp hline with hline | hline
    · exact (solid_headLines title payload hline).1
    · obtain ⟨block, hblock, rfl⟩ := List.mem_map.mp hline
      exact ⟨solid_blockLine (hblocks block hblock), Piece.element_ne_nil _ _⟩
  · exact (solid_of_isTagLine (List.all_eq_true.mp hend line hline)).1

/-- A page of published blocks shows them in order, if its configuration can be read. -/
theorem read_pagePieces (title : Text) {payload : Option Text}
    (hpayload : ∀ text ∈ payload, ∃ value, Json.read (Dependency.guardEndTags text) = .ok value)
    {blocks : List (CodeBlock Text)} (hblocks : ∀ block ∈ blocks, block.Readable) :
    ∃ page, Page.read (Piece.writeAll (pagePieces title payload blocks)) = .ok page ∧
      List.Forall₂ QueryBlock.Shows blocks page.blocks := by
  have hhead : (linePieces (headLines title payload)).all (!Page.opensBlock ·) = true := by
    rw [linePieces, List.all_flatMap, List.all_eq_true]
    intro line hline
    rw [List.all_append, (solid_headLines title payload hline).2]
    rfl
  have hend : (linePieces endLines).all (!Page.opensBlock ·) = true := by decide
  have hregion : (linePieces endLines).all (!Page.opensRegion ·) = true := by decide
  obtain ⟨layouts, tail, hpieces, hfollows, hshows⟩ := exists_layouts hblocks hhead hend hregion
  have hsplit : pagePieces title payload blocks = Page.layoutPieces layouts tail := by
    rw [pagePieces, linePieces_append, linePieces_append, hpieces]
  obtain ⟨config, hread⟩ := Page.exists_read_layout
    (hsplit ▸ plain_pagePieces title payload hblocks) hfollows fun piece hpiece =>
      readableConfig_pagePieces title hpayload blocks (hsplit ▸ hpiece)
  rw [hsplit]
  exact ⟨_, hread, hshows 0⟩

/-! ### The page of a build -/

theorem body_eq {blocks : List (CodeBlock Text)} (hblocks : ∀ block ∈ blocks, block.Readable) :
    Piece.writeAll (linePieces (blocks.map blockLine)) = blocks.flatMap CodeBlock.render := by
  induction blocks with
  | nil => rfl
  | cons block rest ih =>
      have hblock := hblocks block List.mem_cons_self
      have hline := writeAll_blockLine hblock.identifier fun name hname =>
        DataAttribute.escape_of_all_isSlugChar (hblock.isName name hname).all_isSlugChar
      rw [List.flatMap_cons, ← hline, List.map_cons, linePieces_cons, Piece.writeAll_append,
        Piece.writeAll_cons, ih fun other hother => hblocks other (List.mem_cons_of_mem _ hother)]
      simp [Piece.write]

variable {settings : Settings} {ms : Int} {format : Text} {blocks : List (CodeBlock Text)}

/-- A build publishes Markdown blocks under their places, and puts them on a page. -/
theorem ofBlocks_eq (hms : milliseconds settings.timeout = .ok ms) (title : Text)
    (hformat : isPageFormat format = true) (hblocks : ∀ block ∈ blocks, block.FromMarkdown) :
    ∃ final payload,
      (∀ text ∈ payload, ∃ value, Json.read (Dependency.guardEndTags text) = .ok value) ∧
      (BuildPass.ofSettings settings format).processAll blocks =
        .ok (blocks.mapIdx fun index block => block.publish (index + 1) settings.endpoint,
          final) ∧
      ofBlocks settings title format blocks = .ok (Piece.writeAll (pagePieces title payload
        (blocks.mapIdx fun index block => block.publish (index + 1) settings.endpoint))) := by
  have hconfig := forQueries_eq hms settings.endpoint
  obtain ⟨final, hprocess, hassets⟩ := @BuildPass.processAll_eq (.ofSettings settings format) _
    hformat hconfig blocks fun block hblock => (hblocks block hblock).marker
  have hindex : (BuildPass.ofSettings settings format).blockCount = 0 := rfl
  simp only [hindex, Nat.zero_add] at hprocess
  have hbody := body_eq (CodeBlock.readable_of_mem_mapIdx hblocks settings.endpoint)
  simp only [ofBlocks, hprocess, BuildPass.renderAssets, hassets]
  by_cases hnil : blocks = []
  · subst hnil
    exact ⟨final, none, nofun, rfl, congrArg Except.ok (assemble_nil title _ hbody)⟩
  · have hexact := (exact_queryConfig ms settings.endpoint).sortFields
    have hfits := fits_queryConfig hms settings.endpoint
    generalize Json.object (queryConfig ms settings.endpoint) = config at hexact hfits
    obtain ⟨assets, hrender, hne, hwrite⟩ := render_queryAssets hfits
    refine ⟨final, some (config.sortFields.write .spaced), ?_, rfl, ?_⟩
    · rintro _ ⟨⟩
      exact ⟨_, hexact.read_guardEndTags (config.fits_sortFields.trans hfits)⟩
    have hone : ((BuildPass.ofSettings settings format).register
        (queryAssets config)).dependencies = [queryAssets config] := rfl
    have hunlines : Text.unlines [assets] = assets := by simp [Text.unlines]
    rw [if_neg hnil, hone, List.mapM_cons, hrender, List.mapM_nil]
    show Except.ok (assemble title (Text.unlines [assets]) _) = _
    rw [hunlines]
    exact congrArg Except.ok (assemble_assets title _ hne hwrite hbody)

end MarkdownPage

/-! ### Reading a build back -/

/-- What a page shows of a Markdown block that was published under a number. -/
structure QueryBlock.ReadsBack (environment : Option Text) (block : CodeBlock Text) (number : ℕ)
    (published : CodeBlock Text) (found : QueryBlock) : Prop where
  query : found.query = published.text
  attributes : found.attributes.filter (·.1 != "class".toList) = published.attributes
  id? : found.id? = some (Text.decimal number)
  controls : found.controls = none
  result : found.result = none
  endpoint : ∀ (runner : Runner) (pageEndpoint : Option Text),
    runner.resolveEndpoint found pageEndpoint = CodeBlock.builtEndpoint environment block.text

theorem QueryBlock.Shows.readsBack {block : CodeBlock Text} (hblock : block.FromMarkdown)
    {number : ℕ} {environment : Option Text} {found : QueryBlock}
    (h : found.Shows (block.publish number environment)) :
    found.ReadsBack environment block number (block.publish number environment) := by
  have hpublished := block.publish_published hblock.attributes number environment
  have hget : ∀ name, DataAttribute.IsName name →
      found.attributes.get? name = (block.publish number environment).attributes.get? name := by
    intro name hname
    rw [h.attributes, Entries.get?_cons, if_neg (by simpa using hname.ne_class.symm)]
  have hendpoint : found.endpoint? = some (CodeBlock.builtEndpoint environment block.text) := by
    rw [QueryBlock.endpoint?, hget _ DataAttribute.isName_endpoint, hpublished.get?_endpoint]
    exact CodeBlock.nonEmpty?_of_ne_nil (CodeBlock.builtEndpoint_ne_nil _ _)
  refine ⟨h.query, ?_, ?_, h.controls, h.result, ?_⟩
  · rw [h.attributes, List.filter_cons_of_neg (by simp), List.filter_eq_self]
    intro pair hpair
    exact bne_iff_ne.mpr (hpublished.isName pair.1 (List.mem_map_of_mem hpair)).ne_class
  · rw [QueryBlock.id?, hget _ DataAttribute.isName_id, hpublished.get?_id]
  · intro runner pageEndpoint
    rw [Runner.resolveEndpoint, hendpoint]
    rfl

/-- A page that is built of Markdown blocks shows every one of them as it was published, and
sends it where its build resolved it to. -/
theorem MarkdownPage.read_ofBlocks {settings : Settings} {ms : Int}
    (hms : milliseconds settings.timeout = .ok ms) (title : Text) {format : Text}
    (hformat : isPageFormat format = true) {blocks : List (CodeBlock Text)}
    (hblocks : ∀ block ∈ blocks, block.FromMarkdown) :
    ∃ published pass source page,
      (BuildPass.ofSettings settings format).processAll blocks = .ok (published, pass) ∧
      MarkdownPage.ofBlocks settings title format blocks = .ok source ∧
      Page.read source = .ok page ∧
      published.length = blocks.length ∧ page.blocks.length = blocks.length ∧
      ∀ (index : ℕ) (block out : CodeBlock Text) (found : QueryBlock),
        blocks[index]? = some block → published[index]? = some out →
        page.blocks[index]? = some found →
        found.ReadsBack settings.endpoint block (index + 1) out := by
  obtain ⟨final, payload, hpayload, hprocess, hsource⟩ :=
    MarkdownPage.ofBlocks_eq hms title hformat hblocks
  obtain ⟨page, hpage, hshows⟩ := MarkdownPage.read_pagePieces title hpayload
    (CodeBlock.readable_of_mem_mapIdx hblocks settings.endpoint)
  refine ⟨_, final, _, page, hprocess, hsource, hpage, List.length_mapIdx,
    by rw [← hshows.length_eq, List.length_mapIdx], ?_⟩
  intro index block out found hblock hout hfound
  rw [List.getElem?_mapIdx, hblock, Option.map_some, Option.some.injEq] at hout
  subst hout
  obtain ⟨hlt, rfl⟩ := List.getElem?_eq_some_iff.mp hblock
  obtain ⟨hfoundLt, rfl⟩ := List.getElem?_eq_some_iff.mp hfound
  have hshown := (List.forall₂_iff_get.mp hshows).2 index (by simpa using hlt) hfoundLt
  rw [List.get_eq_getElem, List.get_eq_getElem, List.getElem_mapIdx] at hshown
  exact hshown.readsBack (hblocks _ (List.getElem_mem hlt))

/-- Two blocks whose texts and endpoints look like markup and like references. -/
theorem MarkdownPage.read_ofBlocks_markup :
    let settings : Settings := ⟨some "http://h/?a=\"1\"&amp;b".toList, .ofInt 10, "INFO".toList⟩
    let first := "//| endpoint: <a> & 'b'\nRETURN '&lt;' < 1 // </code></pre>".toList
    let second := "//| mode & more: &quot;\n\nRETURN \"&amp;\"\n".toList
    let blocks : List (CodeBlock Text) :=
      [⟨first, [CodeBlock.marker], [], []⟩, ⟨second, ["x".toList, CodeBlock.marker], [], []⟩]
    ∃ source page,
      MarkdownPage.ofBlocks settings "</title>".toList "html".toList blocks = .ok source ∧
      Page.read source = .ok page ∧ page.blocks.map QueryBlock.query =
        ["RETURN '&lt;' < 1 // </code></pre>".toList, "RETURN \"&amp;\"".toList] := by
  intro settings first second blocks
  have hms : milliseconds settings.timeout = .ok 10000 := by decide +kernel
  have hformat : isPageFormat "html".toList = true := by decide +kernel
  have hblocks : ∀ block ∈ blocks, block.FromMarkdown := by
    intro block hblock
    rcases List.mem_pair.mp hblock with rfl | rfl <;> exact ⟨by decide, rfl, rfl⟩
  obtain ⟨published, pass, source, page, hprocess, hsource, hpage, hpublished, hfound, hread⟩ :=
    MarkdownPage.read_ofBlocks hms "</title>".toList hformat hblocks
  have htexts : ((BuildPass.ofSettings settings "html".toList).processAll blocks).toOption.map
      (fun result => result.1.map CodeBlock.text) =
      some ["RETURN '&lt;' < 1 // </code></pre>".toList, "RETURN \"&amp;\"".toList] := by
    decide +kernel
  rw [hprocess] at htexts
  refine ⟨source, page, hsource, hpage, ?_⟩
  rw [← Option.some.inj htexts]
  refine List.ext_getElem (by simp [hpublished, hfound]) fun index hleft hright => ?_
  rw [List.length_map] at hleft hright
  have hblock : index < blocks.length := hfound ▸ hleft
  have hshown := hread index blocks[index] published[index] page.blocks[index]
    (List.getElem?_eq_getElem _) (List.getElem?_eq_getElem _) (List.getElem?_eq_getElem _)
  rw [List.getElem_map, List.getElem_map, hshown.query]

end CypherPages
