import CypherPages.Proofs.Json.ReadBack
import CypherPages.Proofs.Page.Fresh
import CypherPages.Proofs.Page.Pieces
import CypherPages.Proofs.Page.Surroundings

/-! # The configuration of a page

A configuration that is attached to a page is read back from it, field by field, whatever its
texts hold and whatever query blocks stand around it. -/

namespace CypherPages
open Html
open Dependency (guardEndTags)

namespace Page.Reading

/-! ### Reading what surrounds a configuration -/

/-- No configuration is being read and no result region is open; `config` was read so far. -/
structure Idle (config : List (Text × Json)) (reading : Reading) : Prop where
  capture : reading.capture = none
  config : reading.config = .ok config
  isInResult : reading.place.isInResult = false

variable {config : List (Text × Json)} {reading : Reading} {name : Text}

theorem idle_start : Idle [] start := ⟨rfl, rfl, rfl⟩

theorem Idle.leaveBlock (h : Idle config reading) : Idle config reading.leaveBlock := by
  obtain ⟨complete, place, capture, found⟩ := reading
  cases place with
  | afterBlock block => exact ⟨h.capture, h.config, rfl⟩
  | outside | inBlock | inResult => exact h

theorem Idle.openElement (h : Idle config reading) (hname : name ≠ "script".toList)
    (attributes : Entries Text Text) (classes : List Text) (stop : ℕ) :
    Idle config (reading.openElement name attributes classes stop) := by
  rw [Reading.openElement, beq_eq_false_iff_ne.mpr hname, Bool.false_and,
    if_neg Bool.false_ne_true]
  split
  · exact ⟨h.capture, h.config, rfl⟩
  · split
    · exact ⟨h.capture, h.config, rfl⟩
    · exact h

theorem Idle.startTag (h : Idle config reading) (hscript : name ≠ "script".toList)
    (hdiv : name ≠ "div".toList) (attributes : Entries Text Text) (first stop : ℕ) :
    Idle config (reading.startTag name attributes first stop) := by
  unfold Reading.startTag
  simp only [beq_eq_false_iff_ne.mpr hdiv, Bool.false_and, Bool.false_eq_true, ite_false]
  split
  · exact h
  · exact h.leaveBlock.openElement hscript _ _ _
  · exact h.openElement hscript _ _ _

theorem Idle.closeElement (h : Idle config reading) (name : Text) (stop : ℕ) :
    Idle config (reading.closeElement name stop) := by
  unfold Reading.closeElement
  rw [h.capture]
  split
  · next hcapture _ => cases hcapture
  · split
    · split
      · exact ⟨rfl, h.config, rfl⟩
      · split
        · exact ⟨rfl, h.config, rfl⟩
        · exact h
    · exact h

theorem Idle.endTag (h : Idle config reading) (name : Text) (stop : ℕ) :
    Idle config (reading.endTag name stop) := by
  unfold Reading.endTag
  split
  · next hplace =>
      have houtside := h.isInResult
      rw [hplace] at houtside
      cases houtside
  · exact h.leaveBlock.closeElement name stop

theorem Idle.text (h : Idle config reading) (decoded : Text) :
    Idle config (reading.text decoded) := by
  unfold Reading.text
  rw [h.capture]
  dsimp only
  split
  · split
    · exact h
    · exact ⟨rfl, h.config, rfl⟩
  · split
    · exact h
    · exact h.leaveBlock
  · exact h

theorem Idle.token (h : Idle config reading) {token : Token} (hquiet : token.event.isQuiet = true)
    (offset : ℕ) : Idle config (reading.token offset token) := by
  unfold Reading.token
  split
  · exact h.text _
  · next heq =>
      rw [heq, Event.isQuiet, Bool.and_eq_true, bne_iff_ne, bne_iff_ne] at hquiet
      have hopened := h.startTag hquiet.1 hquiet.2
      dsimp only
      split
      · exact (hopened _ _ _).endTag _ _
      · exact hopened _ _ _
  · exact h.endTag _ _
  · exact h

theorem Idle.tokens (h : Idle config reading) {tokens : List Token}
    (hquiet : ∀ token ∈ tokens, token.event.isQuiet = true) (offset : ℕ) :
    Idle config (reading.tokens offset tokens) := by
  induction tokens generalizing reading offset with
  | nil => exact h
  | cons token tokens ih =>
      obtain ⟨hfirst, hrest⟩ := List.forall_mem_cons.mp hquiet
      exact ih (h.token hfirst offset) hrest _

/-! ### Reading a configuration -/

/-- The element that holds a configuration is read as what it holds. -/
theorem Idle.config_raw (h : Idle config reading) {tag : WrittenTag} {content closing : Text}
    (hlawful : (Piece.raw tag content closing).isLawful = true) (htag : opensConfig tag = true)
    {fields : List (Text × Json)} (hcontent : Json.read content = .ok (.object fields))
    (offset : ℕ) : Idle fields (reading.piece offset (.raw tag content closing)) := by
  obtain ⟨complete, place, capture, found⟩ := reading
  obtain rfl : capture = none := h.capture
  have hfound : found = .ok config := h.config
  have hafter : configAfter found (.raw tag content closing) = .ok fields := by
    rw [configAfter, if_pos htag, hfound]
    simp only [Except.bind, nextConfig, hcontent]
  cases place with
  | outside =>
      rw [piece_config htag (.inl rfl), hafter]
      exact ⟨rfl, rfl, rfl⟩
  | inBlock block =>
      rw [piece_config htag (.inr ⟨block, rfl⟩), hafter]
      exact ⟨rfl, rfl, rfl⟩
  | afterBlock block =>
      rw [piece_afterBlock hlawful rfl rfl, piece_config htag (.inl rfl), hafter]
      exact ⟨rfl, rfl, rfl⟩
  | inResult block first depth => cases h.isInResult

/-- A page on which a configuration stands between what only holds quiet tokens. -/
theorem read_config_between {before after : Text} {tag : WrittenTag} {content closing : Text}
    (hbefore : Passes before ((Piece.raw tag content closing).write ++ after))
    (hafter : Passes after [])
    (hlawful : (Piece.raw tag content closing).isLawful = true) (htag : opensConfig tag = true)
    {fields : List (Text × Json)} (hcontent : Json.read content = .ok (.object fields)) :
    ∃ page, Page.read (before ++ ((Piece.raw tag content closing).write ++ after)) = .ok page ∧
      page.config = fields := by
  obtain ⟨front, hfront, htokens⟩ := hbefore
  obtain ⟨back, hback, htokens'⟩ := hafter
  have hend : tokensIn none [] = .ok [] := by rw [tokensIn]
  rw [List.append_nil, hend] at htokens'
  have hall : Html.tokens (before ++ ((Piece.raw tag content closing).write ++ after)) =
      .ok (front ++ ((Piece.raw tag content closing).tokens ++ (back ++ []))) := by
    have hraw : tokensIn none ((Piece.raw tag content closing).write ++ after) = _ :=
      Piece.tokensIn_write hlawful fun htext => by cases htext
    rw [Html.tokens, htokens, hraw, htokens']
    rfl
  have hconfig : (start.tokens 0
      (front ++ ((Piece.raw tag content closing).tokens ++ (back ++ [])))).config = .ok fields := by
    rw [tokens_append, tokens_append, List.append_nil]
    exact (((idle_start.tokens hfront 0).config_raw hlawful htag hcontent _).tokens hback _).config
  exact ⟨_, read_eq_ok_iff.mpr ⟨_, _, hall, hconfig, rfl⟩, rfl⟩

end Page.Reading

/-! ### The assets as pieces -/

namespace MarkdownPage

/-- The script element that holds a configuration. -/
def configPiece (config : Json) : Piece :=
  .raw configTag (guardEndTags (config.sortFields.write .spaced)) "script".toList

/-- The packaged stylesheet as an element. -/
def stylePiece : Piece :=
  .raw styleTag ('\n' :: StyleRule.writeAll StyleRule.queryBlockRules) "style".toList

theorem assetLines_eq (config : Json) :
    assetLines (config.sortFields.write .spaced) = [[stylePiece], [configPiece config]] := rfl

theorem isLawful_of_isTagLine {piece : Piece} (h : isTagLine [piece] = true) :
    piece.isLawful = true := by
  rw [isTagLine, Bool.and_eq_true, Bool.and_eq_true] at h
  exact h.1.1

theorem isLawful_assets (config : Json) :
    stylePiece.isLawful = true ∧ (configPiece config).isLawful = true := by
  have hlines := isTagLine_assetLines (config.sortFields.write .spaced)
  rw [assetLines_eq, List.all_cons, List.all_cons, Bool.and_eq_true, Bool.and_eq_true] at hlines
  exact ⟨isLawful_of_isTagLine hlines.1, isLawful_of_isTagLine hlines.2.1⟩

theorem configElement_eq {dependency : Dependency} (hfits : dependency.config.fits = true) :
    dependency.configElement = .ok (configPiece dependency.config).write := by
  have hopen : configTag.write =
      "<script type=\"application/json\" id=\"".toList ++ Dependency.configId ++ "\">".toList := by
    decide
  have hclose : Piece.endTag "script".toList = "</script>".toList := by decide
  rw [configPiece, Piece.write, hopen, hclose]
  exact if_pos hfits

/-- Assets are described only with a configuration that can be written. -/
theorem fits_of_render {dependency : Dependency} {assets : Text}
    (h : dependency.render = .ok assets) : dependency.config.fits = true := by
  obtain ⟨styles, -, h⟩ := exists_of_bind_eq_ok h
  obtain ⟨element, helement, -⟩ := exists_of_bind_eq_ok h
  unfold Dependency.configElement at helement
  split at helement
  · assumption
  · cases helement

theorem opensConfig_configTag : Page.opensConfig configTag = true := by
  have hname : configTag.name.lower = "script".toList := by decide
  have hid : (Page.tagAttributes configTag).get? "id".toList = some Dependency.configId := by
    rw [Page.tagAttributes, configTag, WrittenTag.read_ofValues]
    decide
  rw [Page.opensConfig, hname, hid, beq_self_eq_true, beq_self_eq_true, Bool.and_self]

/-- The stylesheet of the assets, if they have one, on a line of its own. -/
def styleLines (stylesheets : List Text) : List Piece :=
  if stylesheets = [] then [] else [stylePiece, .text ['\n']]

theorem render_eq_write {stylesheets : List Text}
    (h : stylesheets = [] ∨ stylesheets = ["ladybug-query.css".toList]) {config : Json}
    (hfits : config.fits = true) :
    (Dependency.mk "ladybug-query".toList "0.1.0".toList stylesheets config).render =
      .ok (Piece.writeAll (styleLines stylesheets) ++ (configPiece config).write) := by
  rcases h with rfl | rfl
  · rw [Dependency.render, configElement_eq hfits]
    exact congrArg Except.ok (by simp [styleLines, Text.unlines])
  · obtain ⟨assets, hrender, -, hassets⟩ := render_queryAssets hfits
    have hlines : assets ++ ['\n'] =
        Piece.writeAll (styleLines ["ladybug-query.css".toList]) ++ (configPiece config).write ++
          ['\n'] := by
      rw [hassets, assetLines_eq]
      simp [linePieces, styleLines, Piece.write]
    rw [← List.append_cancel_right hlines]
    exact hrender

theorem endsText_styleLines (stylesheets : List Text) {after : Text} (hafter : EndsText after) :
    EndsText (Piece.writeAll (styleLines stylesheets) ++ after) := by
  unfold styleLines
  split
  · exact hafter
  · rw [Piece.writeAll_cons, List.append_assoc]
    exact Piece.endsText_write rfl _

theorem passes_styleLines (stylesheets : List Text) {after : Text} (hafter : EndsText after) :
    Passes (Piece.writeAll (styleLines stylesheets)) after := by
  unfold styleLines
  split
  · exact .nil after
  · have hnewline : Passes ['\n'] after := .text (by decide) hafter
    have hstyle : Passes stylePiece.write (['\n'] ++ after) :=
      .raw (isLawful_assets .null).1 (by decide) _
    have hboth := hstyle.append hnewline
    simpa [Piece.write] using hboth

end MarkdownPage

namespace Page

/-- A page that starts with a configuration is read as what follows, with that configuration. -/
theorem read_behind_config {fields : List (Text × Json)} (hexact : Json.Exact (.object fields))
    (hfits : (Json.object fields).fits = true) {after : Text} {tokens : List Token}
    (hafter : tokensIn none after = .ok tokens) :
    let script : Piece := .raw MarkdownPage.configTag
      (guardEndTags ((Json.object fields).write .spaced)) "script".toList
    let reading := (Reading.mk [] .outside none (.ok fields)).tokens script.write.length tokens
    read (script.write ++ after) = (reading.config.mapError .config).map fun config =>
      ⟨script.write ++ after, reading.blocks, config, false⟩ := by
  intro script reading
  have hlawful : script.isLawful = true := by
    have hlines := MarkdownPage.isTagLine_assetLines ((Json.object fields).write .spaced)
    rw [MarkdownPage.assetLines, List.all_cons, List.all_cons, Bool.and_eq_true,
      Bool.and_eq_true] at hlines
    exact MarkdownPage.isLawful_of_isTagLine hlines.2.1
  have hscript : Reading.start.piece 0 script = ⟨[], .outside, none, .ok fields⟩ := by
    have htag := MarkdownPage.opensConfig_configTag
    rw [Reading.start, Reading.piece_config htag (.inl rfl), configAfter, if_pos htag]
    simp only [Except.bind, Reading.nextConfig, hexact.read_guardEndTags hfits]
  have hall : Html.tokens (script.write ++ after) = .ok (script.tokens ++ tokens) := by
    rw [Html.tokens, Piece.tokensIn_write hlawful (fun htext => by cases htext), hafter]
    rfl
  have hreading : Reading.start.tokens 0 (script.tokens ++ tokens) = reading := by
    rw [Reading.tokens_append, lexemes_tokens, Nat.zero_add]
    exact congrArg (Reading.tokens · _ tokens) hscript
  rw [read, hall, ← hreading]
  rfl

/-- The default endpoint of a page does not depend on the order of its configuration. -/
theorem defaultEndpoint?_of_rearranged {page : Page} {fields : List (Text × Json)}
    (hnames : (fields.map Prod.fst).Nodup)
    (h : Json.Rearranged (.object fields) (.object page.config)) :
    page.defaultEndpoint? = { page with config := fields }.defaultEndpoint? := by
  have hrel := h.lookup hnames Dependency.endpointField
  unfold defaultEndpoint?
  dsimp only
  generalize fields.lookup Dependency.endpointField = mine at hrel
  generalize page.config.lookup Dependency.endpointField = theirs at hrel
  cases hrel with
  | none => rfl
  | some hvalue =>
      cases hvalue with
      | refl => rfl
      | array | object => rfl

/-- The assets with a configuration that can be written, between text and published blocks, are
read as the configuration. -/
theorem read_assets {stylesheets : List Text}
    (hsheets : stylesheets = [] ∨ stylesheets = ["ladybug-query.css".toList])
    {config : List (Text × Json)} (hexact : Json.Exact (.object config))
    (hfits : (Json.object config).fits = true) (before after : List Surrounding) :
    ∃ assets page,
      (Dependency.mk "ladybug-query".toList "0.1.0".toList stylesheets (.object config)).render =
        .ok assets ∧
      read (Surrounding.writeAll before ++ assets ++ Surrounding.writeAll after) = .ok page ∧
      Json.Rearranged (.object config) (.object page.config) := by
  obtain ⟨fields, hsorted, -⟩ := Json.sortFields_object config
  have hconfig : Json.read (guardEndTags ((Json.object config).sortFields.write .spaced)) =
      .ok (.object fields) := by
    rw [hexact.sortFields.read_guardEndTags ((Json.fits_sortFields _).trans hfits), hsorted]
  have hopen : ∀ rest, EndsText ((MarkdownPage.configPiece (.object config)).write ++ rest) :=
    fun rest => Piece.endsText_write rfl rest
  have hstyle := MarkdownPage.passes_styleLines stylesheets (hopen (Surrounding.writeAll after))
  have hbefore : Passes (Surrounding.writeAll before)
      (Piece.writeAll (MarkdownPage.styleLines stylesheets) ++
        ((MarkdownPage.configPiece (.object config)).write ++ Surrounding.writeAll after)) :=
    Surrounding.passes_writeAll List.not_mem_nil before
      (MarkdownPage.endsText_styleLines stylesheets (hopen _))
  have hafter : Passes (Surrounding.writeAll after) [] :=
    Surrounding.passes_writeAll List.not_mem_nil after fun c hc => by cases hc
  obtain ⟨page, hread, hpage⟩ := Reading.read_config_between (hbefore.append hstyle) hafter
    (MarkdownPage.isLawful_assets (.object config)).2
    MarkdownPage.opensConfig_configTag hconfig
  refine ⟨_, page, MarkdownPage.render_eq_write hsheets hfits, ?_, ?_⟩
  · rw [← hread]
    simp only [List.append_assoc]
    rfl
  · rw [hpage, ← hsorted]
    exact Json.rearranged_sortFields (.object config)

/-- The configuration that a build gives to its pages names the endpoint of the environment. -/
theorem defaultEndpoint?_queryConfig (page : Page) (ms : ℤ) (environment : Option Text) :
    { page with config := MarkdownPage.queryConfig ms environment }.defaultEndpoint? =
      nonEmpty? environment := by
  have hother : (Dependency.endpointField == Dependency.timeoutField) = false := by decide
  match environment with
  | none | some [] =>
      simp only [defaultEndpoint?, MarkdownPage.queryConfig, List.lookup_cons, hother,
        List.lookup_nil, nonEmpty?]
  | some (c :: rest) =>
      simp only [defaultEndpoint?, MarkdownPage.queryConfig, List.lookup_cons, hother,
        beq_self_eq_true, nonEmpty?]

/-- A configuration is read from a page as it was attached to it, up to the order of fields,
whatever its texts hold, and so is the endpoint of the environment in which a page was built. A
configuration can be attached exactly if every integer in it can be written. -/
theorem read_config (before after : List Surrounding) :
    (∀ (stylesheets : List Text) (config : List (Text × Json)),
      stylesheets = [] ∨ stylesheets = ["ladybug-query.css".toList] →
      Json.Exact (.object config) →
      let dependency : Dependency :=
        ⟨"ladybug-query".toList, "0.1.0".toList, stylesheets, .object config⟩
      ((∃ assets, dependency.render = .ok assets) ↔ (Json.object config).fits = true) ∧
      ∀ assets, dependency.render = .ok assets → ∃ page,
        read (Surrounding.writeAll before ++ assets ++ Surrounding.writeAll after) = .ok page ∧
        Json.Rearranged (.object config) (.object page.config)) ∧
    ∀ (timeout : Binary64) (environment : Option Text) (dependency : Dependency),
      Dependency.forQueries timeout environment = .ok dependency →
      ∃ assets page, dependency.render = .ok assets ∧
        read (Surrounding.writeAll before ++ assets ++ Surrounding.writeAll after) = .ok page ∧
        page.defaultEndpoint? = nonEmpty? environment := by
  refine ⟨fun stylesheets config hsheets hexact => ⟨⟨?_, fun hfits => ?_⟩, ?_⟩, ?_⟩
  · exact fun ⟨assets, hrender⟩ => MarkdownPage.fits_of_render hrender
  · exact ⟨_, MarkdownPage.render_eq_write hsheets hfits⟩
  · intro assets hrender
    obtain ⟨found, page, hfound, hread⟩ :=
      read_assets hsheets hexact (MarkdownPage.fits_of_render hrender) before after
    obtain rfl := Except.ok.inj (hfound.symm.trans hrender)
    exact ⟨page, hread⟩
  · intro timeout environment dependency hdependency
    obtain ⟨ms, hms, -⟩ := exists_of_map_eq_ok hdependency
    have heq := MarkdownPage.forQueries_eq hms environment
    obtain rfl := Except.ok.inj (heq.symm.trans hdependency)
    have hexact := MarkdownPage.exact_queryConfig ms environment
    obtain ⟨assets, page, hrender, hread, hconfig⟩ := read_assets (.inr rfl) hexact
      (MarkdownPage.fits_queryConfig hms environment) before after
    refine ⟨assets, page, hrender, hread, ?_⟩
    rw [defaultEndpoint?_of_rearranged hexact.nodup hconfig, defaultEndpoint?_queryConfig]

/-- A configuration whose names and texts hold what ends scripts and strings, behind a block whose
attribute is named after a tag. -/
theorem read_config_endTag :
    let nested := Json.array [.int (-7), .bool true, .null,
      .object [([], .string "<!--</".toList)]]
    let config := [("</script>".toList, .string "\\</SCRIPT >\"\\/\x01\né𝄞".toList),
      ("</".toList, nested)]
    let block : CodeBlock Text := ⟨"RETURN '</pre>'".toList, [CodeBlock.marker],
      [("'><script id=".toList, "x>".toList)], "a".toList⟩
    let before := Surrounding.writeAll [.text "&lt; \"".toList (by decide), .published block 1 none]
    let after := Surrounding.writeAll [.published block 2 (some "http://h/".toList)]
    let endpoint := "http://h/</script>".toList
    (∃ assets page,
      (Dependency.mk "ladybug-query".toList "0.1.0".toList [] (.object config)).render =
        .ok assets ∧
      read (before ++ assets ++ after) = .ok page ∧
      Json.Rearranged (.object config) (.object page.config)) ∧
    ∃ dependency, Dependency.forQueries (.ofInt 10) (some endpoint) = .ok dependency ∧
      ∃ assets page, dependency.render = .ok assets ∧
        read (before ++ assets ++ after) = .ok page ∧ page.defaultEndpoint? = some endpoint := by
  intro nested config block before after endpoint
  have hnested : Json.Exact nested := by
    refine .array fun item hitem => ?_
    simp only [List.mem_cons, List.not_mem_nil, or_false] at hitem
    rcases hitem with rfl | rfl | rfl | rfl
    · exact .int _
    · exact .bool _
    · exact .null
    · exact .object (by decide) (List.forall_mem_singleton.mpr (.string _))
  have hexact : Json.Exact (.object config) := by
    refine .object (by decide) (List.forall_mem_cons.mpr ⟨.string _, ?_⟩)
    exact List.forall_mem_singleton.mpr hnested
  have hfits : (Json.object config).fits = true := by decide +kernel
  have hms : milliseconds (.ofInt 10) = .ok 10000 := by decide +kernel
  have hdependency := MarkdownPage.forQueries_eq hms (some endpoint)
  obtain ⟨hconfig, hendpoint⟩ := read_config
    [.text "&lt; \"".toList (by decide), .published block 1 none]
    [.published block 2 (some "http://h/".toList)]
  obtain ⟨hrenders, hread⟩ := hconfig [] config (.inl rfl) hexact
  obtain ⟨assets, hassets⟩ := hrenders.mpr hfits
  obtain ⟨page, hpage⟩ := hread assets hassets
  exact ⟨⟨assets, page, hassets, hpage⟩, _, hdependency, hendpoint _ _ _ hdependency⟩

end Page

end CypherPages
