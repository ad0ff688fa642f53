import CypherPages.Proofs.Page.Insertions
import CypherPages.Proofs.Page.Untouched
import Mathlib.Data.List.Enum

/-! # Further controls

The controls of a block are told apart by their place alone: a run button that the page has
stands for the control at the front of the list, and a run of all blocks uses the control there.
Run controls are put in at the front, and they stay there as long as no further control is put in
after them. One that is takes their place. -/

namespace CypherPages
open Html

/-- A control that is put in at the front of the controls of a block. -/
structure FurtherControl where
  block : ℕ
  control : Control

/-- The controls for a block, front to back: the one that was put in last is at the front. -/
def FurtherControl.listed (further : List FurtherControl) (block : ℕ) : List Control :=
  ((further.filter fun given => given.block = block).map FurtherControl.control).reverse

/-- The control at the front of a block whose run control has others in front of it. -/
def Control.front (later : List Control) : Control := later.head?.getD .run

namespace QueryBlock

/-- Put controls in front of those of the block, in the order in which they are to stand. -/
def insertControls (block : QueryBlock) (controls : List Control) : QueryBlock :=
  controls.foldr (fun control block => block.insertControl control) block

/-- The block with these controls in the place of its own. -/
def holding (block : QueryBlock) (controls : List Control) : QueryBlock :=
  { block with controls := some { block.controlRegion with controls } }

/-- What a block should show beside what the page has: its further controls, and a run control
unless the page has one. -/
def promisedControls (found : QueryBlock) (earlier later : List Control) : List Control :=
  if found.controlRegion.hasRunButton then later ++ earlier else later ++ .run :: earlier

/-- What a block shows beside what the page has. A run button that the page has stands for the
control at the front, whichever that is. -/
def shownControls (found : QueryBlock) (earlier later : List Control) : List Control :=
  let controls := later ++ .run :: earlier
  if found.controlRegion.hasRunButton then controls.drop 1 else controls

/-- What is written for controls that the page does not have. -/
def markupOf (found : QueryBlock) (controls : List Control) : Text :=
  match found.controlRegion.existing with
  | none => "<div class=\"".toList ++ ControlRegion.elementClass ++ "\">".toList ++
      controls.flatMap Control.toHtml ++ "</div>".toList
  | some _ => controls.flatMap Control.toHtml

end QueryBlock

namespace Page

def insertControls (page : Page) (further : List FurtherControl) : Page :=
  further.foldl (fun page given => page.updateBlock given.block fun block =>
    block.insertControl given.control) page

/-- A page that gets its run controls between further ones. -/
def withFurther (page : Page) (before after : List FurtherControl) : Page :=
  (page.insertControls before).attachControls.insertControls after

end Page

/-- What a run of all blocks submits if controls were put in after the run controls: the queries
of the blocks that the control at their front runs. -/
def Runner.submissionsAfter (runner : Runner) (page : Page) (after : List FurtherControl) :
    List Submission :=
  page.blocks.zipIdx.filterMap fun (block, index) =>
    if (Control.front (FurtherControl.listed after index)).action = .runBlock then
      some (runner.submission block page.defaultEndpoint?)
    else none

namespace FurtherControl

variable {given : FurtherControl} {rest : List FurtherControl}

/-- What is put in first stands behind what is put in later. -/
theorem listed_cons_self : listed (given :: rest) given.block =
    listed rest given.block ++ [given.control] := by
  simp [listed]

theorem listed_cons_of_ne {block : ℕ} (h : given.block ≠ block) :
    listed (given :: rest) block = listed rest block := by
  simp [listed, h]

end FurtherControl

/-! ### Blocks -/

namespace QueryBlock

variable {found block : QueryBlock} {controls earlier later : List Control}

theorem insertControls_append (block : QueryBlock) (controls others : List Control) :
    block.insertControls (controls ++ others) =
      (block.insertControls others).insertControls controls :=
  List.foldr_append

theorem insertControls_eq (h : controls ≠ []) :
    block.insertControls controls = block.holding (controls ++ block.controlRegion.controls) := by
  induction controls with
  | nil => exact absurd rfl h
  | cons control rest ih =>
      change (block.insertControls rest).insertControl control = _
      by_cases hrest : rest = []
      · subst hrest
        rfl
      · rw [ih hrest]
        rfl

/-- A block with its run control and further ones. -/
theorem Fresh.insertControls_eq (h : found.Fresh) (earlier later : List Control) :
    found.insertControls (later ++ .run :: earlier) = found.holding (later ++ .run :: earlier) := by
  rw [QueryBlock.insertControls_eq (by simp), h.controls, List.append_nil]

theorem controlMarkup_eq (h : block.controlRegion.controls ≠ []) :
    block.controlMarkup = block.markupOf block.controlRegion.pending := by
  unfold controlMarkup
  rw [if_neg (by simpa using h)]
  rfl

theorem controlInsertion_holding (found : QueryBlock) (earlier later : List Control) :
    (found.holding (later ++ .run :: earlier)).controlInsertion =
      .insertion found.controlPoint (found.markupOf (found.shownControls earlier later)) := by
  have hcontrols : (found.holding (later ++ .run :: earlier)).controlRegion.controls ≠ [] :=
    List.append_ne_nil_of_right_ne_nil later (List.cons_ne_nil _ _)
  have hpending : (found.holding (later ++ .run :: earlier)).controlRegion.pending =
      found.shownControls earlier later := rfl
  rw [QueryBlock.controlInsertion, controlMarkup_eq hcontrols, hpending]
  rfl

/-- A list with an element put behind it is the list with one put in front of it only if all of
these are equal. -/
theorem append_singleton_eq_cons_iff {α : Type} {a b : α} {list : List α} :
    list ++ [b] = a :: list ↔ ∀ c ∈ a :: list, c = b := by
  induction list generalizing a with
  | nil => simp [eq_comm]
  | cons c rest ih =>
      rw [List.cons_append, List.cons.injEq, ih, List.forall_mem_cons (a := a)]
      constructor
      · rintro ⟨rfl, hall⟩
        exact ⟨hall c List.mem_cons_self, hall⟩
      · rintro ⟨rfl, hall⟩
        exact ⟨hall c List.mem_cons_self, hall⟩

/-- A block shows what it should, but for one that has a run button and gets a further control
after its run control. -/
theorem shownControls_eq_promised_iff :
    found.shownControls earlier later = found.promisedControls earlier later ↔
      found.controlRegion.hasRunButton = false ∨ ∀ control ∈ later, control = .run := by
  unfold shownControls promisedControls
  cases found.controlRegion.hasRunButton with
  | false => simp
  | true =>
      cases later with
      | nil => simp
      | cons first others =>
          have hsplit : others ++ Control.run :: earlier = (others ++ [.run]) ++ earlier := by
            simp
          have hshown : (first :: others ++ Control.run :: earlier).drop 1 =
              (others ++ [.run]) ++ earlier := hsplit
          simp only [if_true, hshown, List.append_cancel_right_eq,
            append_singleton_eq_cons_iff, Bool.true_eq_false, false_or]

end QueryBlock

/-! ### Pages -/

namespace Page

variable {page : Page}

theorem insertControls_eq (page : Page) (further : List FurtherControl) :
    page.insertControls further = { page with
      blocks := page.blocks.mapIdx fun index block =>
        block.insertControls (FurtherControl.listed further index) } := by
  induction further generalizing page with
  | nil =>
      have hblocks : page.blocks.mapIdx (fun _ block => block) = page.blocks := by
        apply List.ext_getElem?
        intro index
        simp
      change page = { page with blocks := page.blocks.mapIdx fun _ block => block }
      rw [hblocks]
  | cons given rest ih =>
      change (page.updateBlock given.block _).insertControls rest = _
      rw [ih, updateBlock]
      congr 1
      apply List.ext_getElem?
      intro index
      rw [List.getElem?_mapIdx, List.getElem?_mapIdx, List.getElem?_modify]
      cases page.blocks[index]? with
      | none => rfl
      | some block =>
          simp only [Option.map_eq_map, Option.map_some, Option.some.injEq]
          by_cases hindex : given.block = index
          · subst hindex
            rw [FurtherControl.listed_cons_self, QueryBlock.insertControls_append, if_pos rfl]
            rfl
          · rw [FurtherControl.listed_cons_of_ne hindex, if_neg hindex]

/-- On a page that was read each block holds its run control between the further ones. -/
theorem Fresh.withFurther_eq (h : page.Fresh) (before after : List FurtherControl) :
    page.withFurther before after = { page with
      blocks := page.blocks.mapIdx fun index block => block.holding
        (FurtherControl.listed after index ++ .run :: FurtherControl.listed before index)
      controlsAttached := true } := by
  rw [withFurther, insertControls_eq, insertControls_eq, attachControls,
    if_neg (by simp [h.controlsAttached])]
  congr 1
  apply List.ext_getElem?
  intro index
  simp only [List.getElem?_mapIdx, List.getElem?_map]
  cases hblock : page.blocks[index]? with
  | none => rfl
  | some block =>
      have hfresh := h.blocks block (List.mem_of_getElem? hblock)
      simp only [Option.map_some, ← hfresh.insertControls_eq, QueryBlock.insertControls_append]
      rfl

theorem Fresh.controls_withFurther (h : page.Fresh) (before after : List FurtherControl) :
    (page.withFurther before after).blocks.map (·.controlRegion.controls) =
      page.blocks.mapIdx fun index _ =>
        FurtherControl.listed after index ++ .run :: FurtherControl.listed before index := by
  rw [h.withFurther_eq, List.mapIdx_eq_zipIdx_map, List.mapIdx_eq_zipIdx_map, List.map_map]
  rfl

/-- The controls go where the page that was read has its places for them. -/
theorem Fresh.controlInsertions (h : page.Fresh) (before after : List FurtherControl) :
    (page.withFurther before after).blocks.map QueryBlock.controlInsertion =
      page.blocks.mapIdx fun index block => .insertion block.controlPoint (block.markupOf
        (block.shownControls (FurtherControl.listed before index)
          (FurtherControl.listed after index))) := by
  rw [h.withFurther_eq, List.mapIdx_eq_zipIdx_map, List.mapIdx_eq_zipIdx_map, List.map_map]
  apply List.map_congr_left
  rintro ⟨block, index⟩ -
  exact block.controlInsertion_holding _ _

/-- Putting controls in moves no place for controls and starts no run. -/
theorem Fresh.places_withFurther (h : page.Fresh) (before after : List FurtherControl) :
    List.Forall₂ (fun found block : QueryBlock => block.controlPoint = found.controlPoint ∧
      block.resultEdit? = none) page.blocks (page.withFurther before after).blocks := by
  rw [h.withFurther_eq, List.forall₂_iff_get]
  refine ⟨List.length_mapIdx.symm, fun index hindex _ => ?_⟩
  have hfresh := h.blocks page.blocks[index] (List.getElem_mem hindex)
  have hresult := (List.append_eq_nil_iff.mp hfresh.edits_eq_nil).2
  simp only [List.get_eq_getElem, List.getElem_mapIdx]
  exact ⟨rfl, Option.toList_eq_nil_iff.mp hresult⟩

theorem Fresh.toHtml_withFurther (h : page.Fresh)
    (hplaces : page.blocks.Pairwise (·.controlPoint < ·.controlPoint))
    (hbound : ∀ block ∈ page.blocks, block.controlPoint ≤ page.source.length)
    (before after : List FurtherControl) :
    (page.withFurther before after).toHtml = Edit.splice 0
      (page.blocks.mapIdx fun index block => .insertion block.controlPoint (block.markupOf
        (block.shownControls (FurtherControl.listed before index)
          (FurtherControl.listed after index)))) page.source := by
  have hsame := h.places_withFurther before after
  have hfound : ∀ block ∈ (page.withFurther before after).blocks, ∃ found ∈ page.blocks,
      block.controlPoint = found.controlPoint ∧ block.resultEdit? = none := by
    intro block hblock
    exact exists_of_mem_right hsame hblock
  have hsource : (page.withFurther before after).source = page.source := by
    rw [h.withFurther_eq]
  have hwritten : (page.withFurther before after).toHtml = Edit.splice 0
      ((page.withFurther before after).blocks.map QueryBlock.controlInsertion) page.source := by
    rw [← hsource]
    apply toHtml_of_no_results
    · apply pairwise_of_forall₂ hsame hplaces
      intro found block next other hblock hother hlt
      exact hblock.1.trans_lt (hlt.trans_eq hother.1.symm)
    · intro block hblock
      obtain ⟨found, hmem, hpoint, -⟩ := hfound block hblock
      rw [hpoint, hsource]
      exact hbound found hmem
    · intro block hblock
      obtain ⟨found, -, -, hresult⟩ := hfound block hblock
      exact hresult
  rw [hwritten, h.controlInsertions]

end Page

namespace Runner

variable {runner : Runner} {server : Request → Reply} {page : Page}

theorem submissions_activateFirst (found : QueryBlock) (endpoint : Option Text)
    (earlier later : List Control) :
    (runner.activateFirst server endpoint (found.holding (later ++ .run :: earlier))).2.1 =
      if (Control.front later).action = .runBlock then [runner.submission found endpoint]
      else [] := by
  cases later with
  | nil => rfl
  | cons first others =>
      obtain ⟨title, action⟩ := first
      cases action <;> rfl

theorem submissions_runAll (h : page.Fresh) (before after : List FurtherControl) :
    (runner.runAll server (page.withFurther before after)).2.1 =
      runner.submissionsAfter page after := by
  let next := page.withFurther before after
  have hnext : next = _ := h.withFurther_eq before after
  have hattached : next.attachControls = next := by
    rw [hnext]
    rfl
  have hendpoint : next.defaultEndpoint? = page.defaultEndpoint? := by
    rw [hnext]
    rfl
  calc (runner.runAll server next).2.1
      = next.blocks.flatMap fun block =>
          (runner.activateFirst server page.defaultEndpoint? block).2.1 := by
        rw [runAll, hattached, hendpoint]
        exact List.flatMap_map ..
    _ = page.blocks.zipIdx.flatMap fun found =>
          (runner.activateFirst server page.defaultEndpoint? (found.1.holding
            (FurtherControl.listed after found.2 ++
              .run :: FurtherControl.listed before found.2))).2.1 := by
        rw [hnext, List.mapIdx_eq_zipIdx_map, List.flatMap_map]
    _ = runner.submissionsAfter page after := by
        rw [submissionsAfter, List.filterMap_eq_flatMap_toList]
        apply List.flatMap_congr
        rintro ⟨block, index⟩ -
        rw [submissions_activateFirst, apply_ite Option.toList]
        rfl

/-- Every block is run just if its own control is at the front, or one that runs it as well. -/
theorem submissionsAfter_eq_iff {after : List FurtherControl} :
    runner.submissionsAfter page after =
        page.blocks.map (fun block => runner.submission block page.defaultEndpoint?) ↔
      ∀ index < page.blocks.length,
        (Control.front (FurtherControl.listed after index)).action = .runBlock := by
  have hmap : page.blocks.map (fun block => runner.submission block page.defaultEndpoint?) =
      page.blocks.zipIdx.map fun found => runner.submission found.1 page.defaultEndpoint? := by
    conv_lhs => rw [← List.zipIdx_map_fst 0 page.blocks]
    rw [List.map_map]
    rfl
  rw [hmap, submissionsAfter, List.filterMap_eq_map_iff_forall_eq_some, List.forall_mem_zipIdx]
  simp only [Nat.zero_add, ite_eq_left_iff, reduceCtorEq, imp_false, not_not]

end Runner

/-- Further controls are put in before and after the run controls of a page that was read. Each
block has one place for controls, just past a start tag of the source, where the page as it is
written has the controls that the block shows. These are the further ones beside one run button,
unless the block has a run button and gets a control after its run control: then the control at
the front is left out for the button, and the run control is shown as well. A run of all blocks
submits the queries of those whose front control runs them. -/
theorem Page.read_withFurther {source : Text} {page : Page} (h : Page.read source = .ok page)
    (before after : List FurtherControl) :
    let next := page.withFurther before after
    let earlier := FurtherControl.listed before
    let later := FurtherControl.listed after
    next.blocks.map (·.controlRegion.controls) =
      page.blocks.mapIdx (fun index _ => later index ++ .run :: earlier index) ∧
    (∃ tokens, Html.tokens source = .ok tokens ∧
      page.blocks.Pairwise (·.controlPoint < ·.controlPoint) ∧
      ∀ block ∈ page.blocks, ∃ tag ∈ Placed.all 0 tokens, tag.TakesControls block) ∧
    next.toHtml = Edit.splice 0 (page.blocks.mapIdx fun index block =>
      .insertion block.controlPoint
        (block.markupOf (block.shownControls (earlier index) (later index)))) source ∧
    (∀ index, ∀ block ∈ page.blocks[index]?,
      block.shownControls (earlier index) (later index) =
          block.promisedControls (earlier index) (later index) ↔
        block.controlRegion.hasRunButton = false ∨ ∀ control ∈ later index, control = .run) ∧
    ∀ (runner : Runner) (server : Request → Reply),
      (runner.runAll server next).2.1 = runner.submissionsAfter page after ∧
      (runner.submissionsAfter page after =
          page.blocks.map (fun block => runner.submission block page.defaultEndpoint?) ↔
        ∀ index < page.blocks.length, (Control.front (later index)).action = .runBlock) := by
  intro next earlier later
  have hfresh := fresh_of_read h
  have hsource := source_of_read h
  obtain ⟨tokens, htokens, hplaces, htags⟩ := places_of_read h
  refine ⟨?_, ⟨tokens, htokens, hplaces, fun block hblock => (htags block hblock).2⟩, ?_, ?_, ?_⟩
  · exact hfresh.controls_withFurther before after
  · rw [← hsource]
    apply hfresh.toHtml_withFurther hplaces
    intro block hblock
    rw [hsource]
    exact (htags block hblock).1
  · intro index block _
    exact QueryBlock.shownControls_eq_promised_iff
  · intro runner server
    exact ⟨Runner.submissions_runAll hfresh before after, Runner.submissionsAfter_eq_iff⟩

/-- A block with a run button gets a note before its run control and a copy control after it. The
copy control is not shown and the run button is there twice; a run of all blocks submits nothing,
since it uses the copy control. -/
theorem Page.read_withFurther_behind_button :
    let source := ("<pre class=\"ladybug-query\"><div class=\"buttons\">" ++
      "<button class=\"run-ladybug-button\"></button></div><code>RETURN 1</code></pre>").toList
    let before : List FurtherControl := [⟨0, ⟨"Note".toList, .inert⟩⟩]
    let after : List FurtherControl := [⟨0, ⟨"Copy".toList, .inert⟩⟩]
    ∃ page, Page.read source = .ok page ∧
      (page.withFurther before after).toHtml =
        "<pre class=\"ladybug-query\"><div class=\"buttons\">".toList ++ Control.run.toHtml ++
        Control.toHtml ⟨"Note".toList, .inert⟩ ++
        "<button class=\"run-ladybug-button\"></button></div><code>RETURN 1</code></pre>".toList ∧
      page.blocks.map (fun block => block.promisedControls
        (FurtherControl.listed before 0) (FurtherControl.listed after 0)) =
          [[⟨"Copy".toList, .inert⟩, ⟨"Note".toList, .inert⟩]] ∧
      ∀ (runner : Runner) (server : Request → Reply),
        (runner.runAll server (page.withFurther before after)).2.1 = [] := by
  intro source before after
  let written (page : Page) : Text := Edit.splice 0 (page.blocks.mapIdx fun index block =>
    .insertion block.controlPoint (block.markupOf (block.shownControls
      (FurtherControl.listed before index) (FurtherControl.listed after index)))) source
  have hviews : (Page.read source).toOption.map (fun page => (written page,
      page.blocks.map fun block => block.promisedControls
        (FurtherControl.listed before 0) (FurtherControl.listed after 0))) =
      some ("<pre class=\"ladybug-query\"><div class=\"buttons\">".toList ++
        Control.run.toHtml ++ Control.toHtml ⟨"Note".toList, .inert⟩ ++
        "<button class=\"run-ladybug-button\"></button></div><code>RETURN 1</code></pre>".toList,
        [[⟨"Copy".toList, .inert⟩, ⟨"Note".toList, .inert⟩]]) := by
    decide +kernel
  obtain ⟨page, h, hview⟩ := exists_of_toOption_map hviews
  obtain ⟨htext, hpromised⟩ := Prod.mk.inj hview
  obtain ⟨-, -, hwritten, -, hruns⟩ := read_withFurther h before after
  refine ⟨page, h, hwritten.trans htext, hpromised, fun runner server => ?_⟩
  obtain ⟨hsubmissions, -⟩ := hruns runner server
  have hlength : page.blocks.length = 1 := by
    have := congrArg List.length hpromised
    rwa [List.length_map] at this
  obtain ⟨block, hblock⟩ := List.length_eq_one_iff.mp hlength
  rw [hsubmissions, Runner.submissionsAfter, hblock]
  rfl

end CypherPages
