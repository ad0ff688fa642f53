import CypherPages.Proofs.Run.Uses

/-! # Sessions are written back

Whatever was done in a session on a well-formed page, the text of its page is read as the page
that was written: no block is lost, and every result is found behind its block. -/

namespace CypherPages
open Html

namespace Session

/-- A well-formed source with configurations that can be read is a page, and whatever was done in
a session on it, the page is written as a text that is read as that page, with the blocks and the
configuration of the source. -/
theorem read_again (runner : Runner) {source : Text} (h : Page.WellFormed source) :
    Page.RefusesConfig source ∨ ∃ page, Page.read source = .ok page ∧ ∀ steps : List Step,
      ∃ again, Page.read ((ofPage page).after runner steps).page.toHtml = .ok again ∧
        ((ofPage page).after runner steps).page.Keeps again ∧ again.config = page.config ∧
        (again.blocks.map fun block => (block.query, block.attributes)) =
          page.blocks.map fun block => (block.query, block.attributes) := by
  refine h.read.imp_right fun ⟨page, hpage⟩ => ⟨page, hpage, fun steps => ?_⟩
  rw [(tracks_after runner page steps).page_eq]
  have huses := History.uses runner (Page.fresh_of_read hpage)
    (History.ofSteps page.blocks.length steps)
  obtain ⟨-, again, hagain, hkeeps⟩ := h.keeps hpage huses
  exact ⟨again, hagain, hkeeps, hkeeps.config.trans huses.config,
    hkeeps.queries.trans huses.queries⟩

/-- A block with a result from an earlier run and one without controls, of which the first is
run to its end while the run of the second is out. -/
theorem read_again_two_blocks :
    let source := ("<pre class=\"ladybug-query\"><div class=\"buttons\"></div>" ++
      "<code>RETURN '&lt;'</code></pre>\n<div class=\"ladybug-result\"><div>1</div></div>" ++
      "<pre class=\"ladybug-query\"><code>RETURN 2</code></pre>").toList
    let runner : Runner := ⟨.ofInt 30, defaultEndpoint, .standard⟩
    let steps : List Step := [.start 0, .attachControls, .start 1, .arrive 0 .gaveUp]
    Page.WellFormed source ∧ ∃ page, Page.read source = .ok page ∧
      ∃ again, Page.read ((ofPage page).after runner steps).page.toHtml = .ok again ∧
        ((ofPage page).after runner steps).page.Keeps again ∧ again.blocks.length = 2 := by
  intro source runner steps
  let block := WrittenTag.ofValues "pre".toList [("class".toList, "ladybug-query".toList)]
  let code := WrittenTag.ofValues "code".toList []
  let division := WrittenTag.ofValues "div".toList []
  let pieces : List Piece :=
    Piece.element block (Piece.element Page.controlsTag [] ++
      Piece.element code [.text "RETURN '&lt;'".toList]) ++
    .text ['\n'] :: Piece.element Page.regionTag (Piece.element division [.text ['1']]) ++
    Piece.element block (Piece.element code [.text "RETURN 2".toList])
  have hlawful : ∀ piece ∈ pieces, piece.isLawful = true := by decide +kernel
  have hseparate : pieces.IsChain fun a b => ¬ (a.isText = true ∧ b.isText = true) := by
    decide +kernel
  have hwrite : Piece.writeAll pieces = source := by decide +kernel
  have hclosed : (Page.Reading.start.pieces 0 pieces).place.isInResult = false := by
    decide +kernel
  have hsource : Page.WellFormed source := ⟨pieces, ⟨hlawful, hseparate⟩, hwrite, hclosed⟩
  have htwo : (Page.read source).toOption.map (fun page => page.blocks.length) = some 2 := by
    decide +kernel
  obtain ⟨found, hfound, hblocks⟩ := exists_of_toOption_map htwo
  obtain ⟨page, hpage, hread⟩ :=
    (read_again runner hsource).resolve_left (Page.not_refusesConfig hfound)
  obtain ⟨again, hagain, hkeeps, -, hqueries⟩ := hread steps
  obtain rfl := Except.ok.inj (hpage.symm.trans hfound)
  have hlength := congrArg List.length hqueries
  rw [List.length_map, List.length_map] at hlength
  exact ⟨hsource, page, hpage, again, hagain, hkeeps, hlength.trans hblocks⟩

end Session

end CypherPages
