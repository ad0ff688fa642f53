import CypherPages.Proofs.Run.Uses

/-! # Running a page again

A page on which all blocks were run is left as it is by further runs of all of them, if the
server answers the same requests in the same way. -/

namespace CypherPages
open Html

def Runner.rerun (runner : Runner) (server : Request → Reply) (source : Text) :
    Except Page.Refusal Text :=
  (Page.read source).map fun page => (runner.runAll server page).2.2.toHtml

/-- The text of a page after all its blocks were run a number of times, each time anew from the
text. -/
def Runner.rerunTimes (runner : Runner) (server : Request → Reply) :
    ℕ → Text → Except Page.Refusal Text
  | 0, source => .ok source
  | times + 1, source => (runner.rerun server source).bind (runner.rerunTimes server times)

/-- The text of a page after run controls were attached. -/
def Page.withControls (source : Text) : Except Page.Refusal Text :=
  (Page.read source).map fun page => page.attachControls.toHtml

namespace Page

/-- Rewritten layouts that are rewritten again with the same results, or with none, stay as
they are. -/
theorem rewriteAll_rewriteAll {changes : List (BlockLayout × Option Content)}
    {later : List (Option Content)}
    (h : List.Forall₂ (fun change later? => later? = none ∨ later? = change.2) changes later) :
    rewriteAll true ((rewriteAll true changes).zip later) = rewriteAll true changes := by
  induction h with
  | nil => rfl
  | cons hchange _ ih =>
      rw [rewriteAll_cons, List.zip_cons_cons, rewriteAll_cons, ih,
        BlockLayout.rewrite_rewrite _ _ true hchange]

theorem forall₂_zip {layouts : List BlockLayout} {contents later : List (Option Content)}
    (hcontents : contents.length = layouts.length) (hlater : later.length = layouts.length)
    (h : ∀ (index : ℕ) (content? later? : Option Content), contents[index]? = some content? →
      later[index]? = some later? → later? = none ∨ later? = content?) :
    List.Forall₂ (fun change later? => later? = none ∨ later? = change.2)
      (layouts.zip contents) later := by
  rw [List.forall₂_iff_get]
  refine ⟨by simp [hcontents, hlater], fun index hchange hindex => ?_⟩
  have hcontent : index < contents.length := by
    rw [List.length_zip, hcontents, Nat.min_self] at hchange
    rwa [hcontents]
  refine h index (layouts.zip contents)[index].2 later[index] ?_ (List.getElem?_eq_getElem _)
  rw [List.getElem_zip, List.getElem?_eq_getElem hcontent]

end Page

/-- The queries and the attributes of the blocks and the configuration decide what is shown. -/
theorem Runner.contents_congr (runner : Runner) (server : Request → Reply) {page other : Page}
    (hblocks : (page.blocks.map fun block => (block.query, block.attributes)) =
      other.blocks.map fun block => (block.query, block.attributes))
    (hconfig : page.config = other.config) :
    runner.contents server page = runner.contents server other := by
  have hendpoint : page.defaultEndpoint? = other.defaultEndpoint? := by
    rw [Page.defaultEndpoint?, hconfig]
    rfl
  have hlength := congrArg List.length hblocks
  rw [List.length_map, List.length_map] at hlength
  refine List.ext_getElem (by simp [contents, hlength]) fun index hleft hright => ?_
  simp only [contents, List.length_map] at hleft hright
  have hpair := congrArg (fun list => list[index]?) hblocks
  simp only [List.getElem?_map, List.getElem?_eq_getElem hleft, List.getElem?_eq_getElem hright,
    Option.map_some, Option.some.injEq, Prod.mk.injEq] at hpair
  simp only [contents, List.getElem_map, hendpoint,
    runner.submission_congr hpair.1 hpair.2]

/-- A text that a run of all blocks leaves as it is stays so. -/
theorem Runner.rerunTimes_of_fixed {runner : Runner} {server : Request → Reply} {text : Text}
    (h : runner.rerun server text = .ok text) (times : ℕ) :
    runner.rerunTimes server times text = .ok text := by
  induction times with
  | zero => rfl
  | succ times ih =>
      rw [rerunTimes, h]
      exact ih

/-- A page that was read from the text of a used page, and is used with no new results, is
written as the same text. -/
theorem Page.WellFormed.toHtml_of_uses {source : Text} (h : WellFormed source)
    {page used again later : Page} (hpage : Page.read source = .ok page)
    {contents others : List (Option Content)} (huses : Uses true contents page used)
    (hagain : Page.read used.toHtml = .ok again) (hlater : Uses true others again later)
    (hothers : ∀ (index : ℕ) (content? other? : Option Content),
      contents[index]? = some content? → others[index]? = some other? →
      other? = none ∨ other? = content?) : later.toHtml = used.toHtml := by
  obtain ⟨layouts, tail, hplain, hfollows, rfl⟩ := h.exists_layouts
  rw [read_layout hplain hfollows] at hpage
  obtain ⟨config, -, rfl⟩ := exists_of_map_eq_ok hpage
  have hcontents : contents.length = layouts.length :=
    huses.contents_length.trans (length_blocksFrom layouts 0)
  have hfst : (layouts.zip contents).map Prod.fst = layouts := List.map_fst_zip hcontents.ge
  rw [← hfst] at hplain hfollows
  rw [huses.toHtml, read_rewriteAll true hplain hfollows] at hagain
  obtain ⟨found, -, rfl⟩ := exists_of_map_eq_ok hagain
  have hlength : others.length = layouts.length := by
    rw [hlater.contents_length, length_blocksFrom, length_rewriteAll, List.length_zip,
      hcontents, Nat.min_self]
  rw [hlater.toHtml, huses.toHtml, rewriteAll_rewriteAll (forall₂_zip hcontents hlength hothers)]

/-- Running all blocks of a well-formed page again, or attaching run controls to it again,
leaves its text as it is. The page is run in the first place if its configurations can be
read. -/
theorem Runner.rerun_rerun (runner : Runner) (server : Request → Reply) {source : Text}
    (h : Page.WellFormed source) :
    Page.RefusesConfig source ∨ ∃ text, runner.rerun server source = .ok text ∧
      runner.rerun server text = .ok text ∧ Page.withControls text = .ok text ∧
      ∀ times : ℕ, runner.rerunTimes server (times + 1) source = .ok text := by
  refine h.read.imp_right fun ⟨page, hpage⟩ => ?_
  have huses := runner.uses_runAll server (Page.fresh_of_read hpage)
  obtain ⟨-, again, hagain, hkeeps⟩ := h.keeps hpage huses
  have hfresh := Page.fresh_of_read hagain
  have hcontents : runner.contents server again = runner.contents server page :=
    runner.contents_congr server (hkeeps.queries.trans huses.queries)
      (hkeeps.config.trans huses.config)
  have hrerun : runner.rerun server source = .ok (runner.runAll server page).2.2.toHtml := by
    rw [rerun, hpage]
    rfl
  have hfixed : runner.rerun server (runner.runAll server page).2.2.toHtml =
      .ok (runner.runAll server page).2.2.toHtml := by
    have hlater := runner.uses_runAll server hfresh
    rw [hcontents] at hlater
    rw [rerun, hagain]
    refine congrArg Except.ok (h.toHtml_of_uses hpage huses hagain hlater ?_)
    intro index content? other? hcontent hother
    exact .inr (Option.some.inj (hother.symm.trans hcontent))
  refine ⟨_, hrerun, hfixed, ?_, fun times => ?_⟩
  · rw [Page.withControls, hagain]
    refine congrArg Except.ok
      (h.toHtml_of_uses hpage huses hagain (Page.uses_attachControls hfresh) ?_)
    intro index content? other? _ hother
    rw [List.getElem?_map, Option.map_eq_some_iff] at hother
    obtain ⟨_, -, rfl⟩ := hother
    exact .inl rfl
  · rw [rerunTimes, hrerun]
    exact Runner.rerunTimes_of_fixed hfixed times

/-- A block without regions and one that has a run button and a result: three runs of both
leave what one leaves. -/
theorem rerun_two_blocks :
    let source := ("<pre class=\"ladybug-query\"><code>RETURN 1</code></pre>" ++
      "<pre class=\"ladybug-query\"><div class=\"buttons\">" ++
      "<button class=\"run-ladybug-button\"></button></div><code>RETURN 2</code></pre>" ++
      "<!-- last -->\n<div class=\"ladybug-result\">1 &lt; 2</div>").toList
    let runner : Runner := ⟨.ofInt 30, defaultEndpoint, .standard⟩
    let server : Request → Reply := fun request => .failed "ConnectError".toList request.query
    Page.WellFormed source ∧ ∃ text, runner.rerun server source = .ok text ∧
      runner.rerunTimes server 3 source = .ok text ∧ Page.withControls text = .ok text := by
  intro source runner server
  let block := WrittenTag.ofValues "pre".toList [("class".toList, "ladybug-query".toList)]
  let code := WrittenTag.ofValues "code".toList []
  let button := WrittenTag.ofValues "button".toList [("class".toList, Control.buttonClass)]
  let pieces : List Piece :=
    Piece.element block (Piece.element code [.text "RETURN 1".toList]) ++
    Piece.element block (Piece.element Page.controlsTag (Piece.element button []) ++
      Piece.element code [.text "RETURN 2".toList]) ++
    .comment " last ".toList [] :: .text ['\n'] ::
      Piece.element Page.regionTag [.text "1 &lt; 2".toList]
  have hlawful : ∀ piece ∈ pieces, piece.isLawful = true := by decide +kernel
  have hseparate : pieces.IsChain fun a b => ¬ (a.isText = true ∧ b.isText = true) := by
    decide +kernel
  have hwrite : Piece.writeAll pieces = source := by decide +kernel
  have hclosed : (Page.Reading.start.pieces 0 pieces).place.isInResult = false := by
    decide +kernel
  have hsource : Page.WellFormed source := ⟨pieces, ⟨hlawful, hseparate⟩, hwrite, hclosed⟩
  have htwo : (Page.read source).toOption.map (fun page => page.blocks.length) = some 2 := by
    decide +kernel
  obtain ⟨page, hpage, -⟩ := exists_of_toOption_map htwo
  obtain ⟨text, hrun, -, hcontrols, htimes⟩ :=
    (runner.rerun_rerun server hsource).resolve_left (Page.not_refusesConfig hpage)
  exact ⟨hsource, text, hrun, htimes 2, hcontrols⟩

end CypherPages
