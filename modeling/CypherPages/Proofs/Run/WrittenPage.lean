import CypherPages.Proofs.Page.Places
import CypherPages.Proofs.Run.Calls
import CypherPages.Proofs.Run.Uses

/-! # What a run of all blocks writes

A run of all blocks changes a page that was read at the places of its regions only: a run control
is put into each block that shows none yet, and the outcome of the block's submission goes behind
the block or in the place of an earlier result. The page is its source with these changes, whatever
markup it holds and whatever comes back. The one exception is a block whose start tag is its own
end tag, with a result region right behind it: there the controls go in first, at the place where
the earlier result starts. -/

namespace CypherPages
open Html

/-- The change that shows the run control of a block. A run button that the page has stands for
it. -/
inductive QueryBlock.ControlChange (block : QueryBlock) : List Edit → Prop
  /-- The block has no control region. -/
  | region (h : block.controlRegion.existing = none) :
      ControlChange block [.insertion block.startTagEnd
        ("<div class=\"buttons\">".toList ++ Control.run.toHtml ++ "</div>".toList)]
  | button {existing : ExistingControls} (h : block.controlRegion.existing = some existing)
      (hbutton : existing.hasRunButton = false) :
      ControlChange block [.insertion existing.insertAt Control.run.toHtml]
  | present {existing : ExistingControls} (h : block.controlRegion.existing = some existing)
      (hbutton : existing.hasRunButton = true) : ControlChange block []

/-- The change that shows the outcome of a run. -/
inductive QueryBlock.ResultChange (block : QueryBlock) (content : Text) : Edit → Prop
  | replaced {start stop : ℕ} (h : block.resultRegion.span = some (start, stop)) :
      ResultChange block content
        ⟨start, stop, "<div class=\"ladybug-result\">".toList ++ content ++ "</div>".toList⟩
  | inserted (h : block.resultRegion.span = none) :
      ResultChange block content (.insertion block.stop
        ("\n<div class=\"ladybug-result\">".toList ++ content ++ "</div>".toList))

/-- The changes that a run of all blocks makes for a block of a page. -/
inductive Runner.Changes (runner : Runner) (server : Request → Reply) (page : Page)
    (block : QueryBlock) : List Edit → Prop
  | intro {submission : Submission} {control : List Edit} {result : Edit}
    (hsubmits : runner.Submits page block submission) (hcontrol : block.ControlChange control)
    (hresult : block.ResultChange (runner.content server submission) result) :
    Changes runner server page block (control ++ [result])

/-! ### Edits in any order -/

namespace Edit

theorem Apart.symm {edit other : Edit} (h : edit.Apart other) : other.Apart edit := Or.symm h

/-- Edits that are apart can be given in any order. Of two at one place neither may replace
anything, since the one that is given first is made first. -/
theorem exists_inPlace {text : Text} {edits : List Edit}
    (hbounds : ∀ edit ∈ edits, edit.start ≤ edit.stop ∧ edit.stop ≤ text.length)
    (hapart : edits.Pairwise Apart)
    (hstarts : edits.Pairwise fun a b => a.start = b.start → a.stop = b.stop) :
    ∃ sorted, sorted.Perm edits ∧ InPlace 0 sorted ∧
      (∀ edit ∈ sorted, edit.stop ≤ text.length) ∧ applyAll text edits = splice 0 sorted text := by
  let sorted := (edits.mergeSort fun a b => b.start ≤ a.start).reverse
  have hperm : sorted.Perm edits := (List.reverse_perm _).trans (List.mergeSort_perm _ _)
  have hbounds' : ∀ edit ∈ sorted, edit.start ≤ edit.stop ∧ edit.stop ≤ text.length :=
    fun edit hedit => hbounds edit (hperm.mem_iff.mp hedit)
  have hmeets : sorted.Pairwise fun a b => Apart a b ∧ (a.start = b.start → a.stop = b.stop) :=
    (hapart.and hstarts).perm hperm.symm fun h => ⟨h.1.symm, fun hsame => (h.2 hsame.symm).symm⟩
  have hascending : sorted.Pairwise fun a b => a.start ≤ b.start :=
    List.pairwise_reverse.mpr (pairwise_mergeSort_start edits)
  have hpairs : sorted.Pairwise fun a b => a.stop ≤ b.start := by
    refine (hascending.and hmeets).imp_of_mem fun {a b} ha hb h => ?_
    obtain ⟨hle, hor, hsame⟩ := h
    have hstart := (hbounds' a ha).1
    have hstop := (hbounds' b hb).1
    rcases hor with hbefore | hbehind
    · exact hbefore
    · have := hsame (by omega)
      omega
  have hplace : InPlace 0 sorted :=
    inPlace_of_pairwise hpairs fun edit hedit => ⟨Nat.zero_le _, (hbounds' edit hedit).1⟩
  refine ⟨sorted, hperm, hplace, fun edit hedit => (hbounds' edit hedit).2, ?_⟩
  rw [applyAll, ← List.reverse_reverse (edits.mergeSort _), List.foldl_reverse]
  exact @foldr_apply_eq 0 sorted hplace [] rfl text
    (by simpa using fun edit hedit => (hbounds' edit hedit).2)

end Edit

/-! ### The changes of a block -/

namespace QueryBlock

variable {found block : QueryBlock} {content : Page.Content}

theorem Carries.controlChange (h : found.Carries true (some content) block)
    (hfresh : found.Fresh) : found.ControlChange block.controlEdit?.toList := by
  have hcontrols : block.controls = some ⟨[.run], found.controlRegion.existing⟩ := by
    rw [h.controls, if_pos rfl, ControlRegion.insert, hfresh.controls]
  rw [controlEdit?, hcontrols]
  cases hexisting : found.controlRegion.existing with
  | none =>
      rw [h.startTagEnd]
      exact .region hexisting
  | some existing =>
      obtain ⟨insertAt, hasRunButton⟩ := existing
      cases hasRunButton with
      | false => exact .button hexisting rfl
      | true => exact .present hexisting rfl

theorem Carries.resultChange (h : found.Carries true (some content) block) :
    ∃ result, found.ResultChange (Piece.writeAll content.pieces) result ∧
      block.resultEdit? = some result := by
  obtain ⟨generation, hgeneration, hresult⟩ := h.result
  cases hspan : found.resultRegion.span with
  | none =>
      rw [hspan] at hresult
      refine ⟨_, .inserted hspan, ?_⟩
      rw [resultEdit?_of_none hgeneration hresult, h.stop]
      rfl
  | some span =>
      rw [hspan] at hresult
      exact ⟨_, .replaced hspan, resultEdit?_of_span hgeneration hresult⟩

/-- A block that was run once shows its run control and its result, at the places where the block
was found. -/
theorem changes_run (runner : Runner) (server : Request → Reply) (page : Page)
    (hfresh : found.Fresh) : runner.Changes server page found
      (runner.run server page.defaultEndpoint? (found.insertControl .run)).edits := by
  have hcarries := runner.carries_run server page.defaultEndpoint? found
  obtain ⟨result, hresult, hedit⟩ := hcarries.resultChange
  rw [Page.Content.writeAll_ofSubmission] at hresult
  rw [edits, hedit]
  exact .intro (runner.submits_submission page found) (hcarries.controlChange hfresh) hresult

end QueryBlock

/-! ### Changes that do not meet -/

namespace BlockTags

variable {line : List Placed} {own later : BlockTags} {block next : QueryBlock} {edit other : Edit}

/-- A result that is replaced starts behind the place for the controls, unless it starts where the
start tag of the block ends. -/
theorem Mark.controlPoint_lt_span (h : own.Mark line block) (hline : Placed.InLine line)
    {span : ℕ × ℕ} (hspan : span ∈ block.resultRegion.span) (hlt : block.startTagEnd < span.1) :
    block.controlPoint < span.1 := by
  unfold QueryBlock.controlPoint
  cases hexisting : block.controlRegion.existing with
  | none => exact hlt
  | some existing =>
      obtain ⟨tag, -, hstop, -, hbefore⟩ := h.existing hline hexisting
      have hclosing := hline.start_lt_stop h.closing_mem
      have heq := h.span_eq
      rw [hspan, eq_comm, Option.map_eq_some_iff] at heq
      obtain ⟨region, hregion, rfl⟩ := heq
      obtain ⟨hbehind, -, -⟩ := h.result hline hregion
      dsimp only
      omega

/-- Of the changes of one block only two insertions can stand at one place. -/
theorem Mark.stop_eq_of_start_eq (h : own.Mark line block) (hline : Placed.InLine line)
    (hlt : ∀ span ∈ block.resultRegion.span, block.startTagEnd < span.1) :
    block.edits.Pairwise fun a b => a.start = b.start → a.stop = b.stop := by
  have hsingle (edit? : Option Edit) :
      edit?.toList.Pairwise fun a b => a.start = b.start → a.stop = b.stop := by
    cases edit? <;> simp
  refine List.pairwise_append.mpr ⟨hsingle _, hsingle _, fun control hcontrol result hresult => ?_⟩
  obtain ⟨hstart, hstop⟩ := place_of_controlEdit? (Option.mem_toList.mp hcontrol)
  have hplace := place_of_resultEdit? (Option.mem_toList.mp hresult)
  intro hsame
  cases hspan : block.resultRegion.span with
  | none =>
      rw [QueryBlock.resultPlace, QueryBlock.span?, hspan, Option.getD_none,
        Prod.mk.injEq] at hplace
      omega
  | some span =>
      have hbefore := h.controlPoint_lt_span hline hspan (hlt span hspan)
      rw [QueryBlock.resultPlace, QueryBlock.span?, hspan, Option.getD_some] at hplace
      rw [← hplace] at hbefore
      dsimp only at hbefore
      omega

theorem pairwise_stop_eq {tags : List BlockTags} {blocks : List QueryBlock}
    (hline : Placed.InLine line) (h : List.Forall₂ (Mark line) tags blocks)
    (hprecedes : tags.Pairwise Precedes) (hlt : ∀ block ∈ blocks,
      ∀ span ∈ block.resultRegion.span, block.startTagEnd < span.1) :
    (blocks.flatMap QueryBlock.edits).Pairwise fun a b => a.start = b.start → a.stop = b.stop := by
  refine List.pairwise_flatMap.mpr ⟨fun block hblock => ?_, ?_⟩
  · obtain ⟨own, -, hmark⟩ := exists_of_mem_right h hblock
    exact hmark.stop_eq_of_start_eq hline (hlt block hblock)
  · refine pairwise_of_forall₂ h hprecedes fun own block later next hown hnext hbefore => ?_
    intro edit hedit other hother hsame
    obtain ⟨-, hle, hstop⟩ := hown.edit_bounds hline hedit
    obtain ⟨hbehind, -, -⟩ := hnext.edit_bounds hline hother
    have hprecedes : own.stop ≤ later.opening.start := hbefore
    omega

end BlockTags

/-! ### Pages -/

theorem QueryBlock.samePlaces_run (runner : Runner) (server : Request → Reply)
    (endpoint : Option Text) (block : QueryBlock) :
    block.SamePlaces (runner.run server endpoint (block.insertControl .run)) :=
  ((block.samePlaces_insertControl .run).trans (samePlaces_beginRun _)).trans
    (samePlaces_settleRun _ _ _)

/-- Every result region that a page has stands behind the start tag of its block, not directly at
its end. -/
def Page.ResultsBehind (page : Page) : Prop :=
  ∀ block ∈ page.blocks, ∀ span ∈ block.resultRegion.span, block.startTagEnd < span.1

theorem Runner.exists_changes (runner : Runner) (server : Request → Reply) {source : Text}
    {page : Page} (h : Page.read source = .ok page) :
    ∃ changes, List.Forall₂ (runner.Changes server page) page.blocks changes ∧
      (runner.runAll server page).2.2.toHtml = Edit.applyAll source changes.flatten ∧
      (page.ResultsBehind → ∃ sorted, sorted.Perm changes.flatten ∧ Edit.InPlace 0 sorted ∧
        (∀ edit ∈ sorted, edit.stop ≤ source.length) ∧
          (runner.runAll server page).2.2.toHtml = Edit.splice 0 sorted source) := by
  have hfresh := Page.fresh_of_read h
  let after (block : QueryBlock) : QueryBlock :=
    runner.run server page.defaultEndpoint? (block.insertControl .run)
  have hblocks : (runner.runAll server page).2.2.blocks = page.blocks.map after := by
    rw [runner.runAll_of_fresh server hfresh]
  have hwritten : (runner.runAll server page).2.2.toHtml =
      Edit.applyAll source ((page.blocks.map after).flatMap QueryBlock.edits) := by
    rw [Page.toHtml, hblocks, runner.runAll_of_fresh server hfresh, Page.source_of_read h]
  refine ⟨(page.blocks.map after).map QueryBlock.edits, ?_, hwritten, fun hbehind => ?_⟩
  · rw [List.map_map]
    exact List.forall₂_map_right_iff.mpr (List.forall₂_same.mpr fun block hblock =>
      QueryBlock.changes_run runner server page (hfresh.blocks block hblock))
  · obtain ⟨found, tags, htokens, hmark, hprecedes⟩ := Page.exists_tags_of_read h
    have hline := Placed.inLine_of_tokens htokens
    have hafter : List.Forall₂ (BlockTags.Mark (Placed.all 0 found)) tags
        (page.blocks.map after) :=
      BlockTags.forall₂_mark_samePlaces hmark (List.forall₂_map_right_iff.mpr
        (List.forall₂_same.mpr fun block _ => block.samePlaces_run runner server _))
    have hlt : ∀ block ∈ page.blocks.map after,
        ∀ span ∈ block.resultRegion.span, block.startTagEnd < span.1 := by
      intro block hblock span hspan
      obtain ⟨own, hown, rfl⟩ := List.mem_map.mp hblock
      have hsame := own.samePlaces_run runner server page.defaultEndpoint?
      rw [hsame.span] at hspan
      rw [hsame.startTagEnd]
      exact hbehind own hown span hspan
    have hbounds : ∀ edit ∈ (page.blocks.map after).flatMap QueryBlock.edits,
        edit.start ≤ edit.stop ∧ edit.stop ≤ source.length := by
      intro edit hedit
      obtain ⟨block, hblock, hmem⟩ := List.mem_flatMap.mp hedit
      obtain ⟨own, -, hown⟩ := exists_of_mem_right hafter hblock
      obtain ⟨-, hle, hstop⟩ := hown.edit_bounds hline hmem
      exact ⟨hle, hstop.trans (hown.closing_stop_le_length htokens)⟩
    rw [hwritten]
    exact Edit.exists_inPlace hbounds (BlockTags.pairwise_apart hline hafter hprecedes)
      (BlockTags.pairwise_stop_eq hline hafter hprecedes hlt)

end CypherPages
