import CypherPages.Page.Writer
import CypherPages.Proofs.Page.Fresh
import CypherPages.Proofs.Results
import CypherPages.Proofs.Session.History

/-! # Pages that are only looked at

A page may be asked about, and regions may be made for its blocks. As long as no run is started
and no control is put in, the page is written as it was read, character by character, and every
question has the answer that it had at first. -/

namespace CypherPages

namespace Page

/-- A question about a page. One about a block has no answer if the page has no such block. -/
inductive Inquiry
  | id (index : ℕ)
  | query (index : ℕ)
  | attributes (index : ℕ)
  | endpoint (index : ℕ)
  /-- Where a runner sends the query of a block, with a look at the page or without it. -/
  | target (runner : Runner) (index : ℕ) (withPage : Bool)
  | config
  | defaultEndpoint
  | timeout
  /-- What is written for the page. -/
  | written

inductive Answer
  | text (text : Option Text)
  | attributes (attributes : Option (Entries Text Text))
  | config (fields : List (Text × Json))
  | timeout (stated : Except ConfigError (Option Binary64))

def Inquiry.answer (page : Page) : Inquiry → Answer
  | .id index => .text (page.blocks[index]?.map QueryBlock.id?).join
  | .query index => .text (page.blocks[index]?.map QueryBlock.query)
  | .attributes index => .attributes (page.blocks[index]?.map QueryBlock.attributes)
  | .endpoint index => .text (page.blocks[index]?.map QueryBlock.endpoint?).join
  | .target runner index withPage => .text (page.blocks[index]?.map fun block =>
      runner.resolveEndpoint block (if withPage then page.defaultEndpoint? else none))
  | .config => .config page.config
  | .defaultEndpoint => .text page.defaultEndpoint?
  | .timeout => .timeout page.timeout?
  | .written => .text (some page.toHtml)

/-- A call on a page that starts no run and puts no control in. -/
inductive Call
  | ensureControls (index : ℕ)
  | ensureResult (index : ℕ)
  /-- An outcome comes in for a run of a block, though no run was started. -/
  | settle (index token : ℕ) (content : Text)
  | ask (inquiry : Inquiry)

def Call.inquiry? : Call → Option Inquiry
  | .ask inquiry => some inquiry
  | _ => none

def call (page : Page) : Call → Page
  | .ensureControls index => page.updateBlock index QueryBlock.ensureControls
  | .ensureResult index => page.updateBlock index QueryBlock.ensureResult
  | .settle index token content => page.updateBlock index fun block =>
      block.settleRun token content
  | .ask _ => page

/-- Calls one after the other: what was asked, with the answers, and the page in the end. -/
def calls (page : Page) : List Call → List (Inquiry × Answer) × Page
  | [] => ([], page)
  | call :: rest =>
    let (answers, final) := (page.call call).calls rest
    (call.inquiry?.toList.map (fun inquiry => (inquiry, inquiry.answer page)) ++ answers, final)

end Page

/-! ### Regions that stay silent -/

namespace QueryBlock

variable {found block : QueryBlock}

/-- Making a region ahead of time does not change what is put in later. -/
@[simp] theorem insertControl_ensureControls (block : QueryBlock) (control : Control) :
    block.ensureControls.insertControl control = block.insertControl control := rfl

@[simp] theorem updateResult_ensureResult (block : QueryBlock)
    (change : ResultRegion → ResultRegion) :
    block.ensureResult.updateResult change = block.updateResult change := rfl

/-- The block has no edits, whichever regions it has. -/
theorem Fresh.edits_eq_nil (h : block.Fresh) : block.edits = [] := by
  obtain ⟨hcontrols, hgeneration⟩ := h
  have hcontrol : block.controlEdit? = none := by
    unfold controlEdit?
    unfold controlRegion at hcontrols
    cases hregion : block.controls with
    | none => rfl
    | some region => simp_all
  have hresult : block.resultEdit? = none := by
    unfold resultEdit?
    unfold resultRegion at hgeneration
    cases hregion : block.result with
    | none => rfl
    | some region => simp_all
  rw [edits, hcontrol, hresult]
  rfl

/-- A block that nothing was done to but making regions for it. -/
structure Unused (found block : QueryBlock) : Prop where
  query : block.query = found.query
  attributes : block.attributes = found.attributes
  fresh : block.Fresh

theorem Unused.ensureControls (h : found.Unused block) : found.Unused block.ensureControls :=
  ⟨h.query, h.attributes, h.fresh.controls, h.fresh.generation⟩

theorem Unused.ensureResult (h : found.Unused block) : found.Unused block.ensureResult :=
  ⟨h.query, h.attributes, h.fresh.controls, h.fresh.generation⟩

/-- An outcome may be kept in a region, but it does not open the region. -/
theorem Unused.settleRun (h : found.Unused block) (token : ℕ) (content : Text) :
    found.Unused (block.settleRun token content) := by
  refine ⟨h.query, h.attributes, h.fresh.controls, ?_⟩
  change (block.resultRegion.settle token content).generation = 0
  unfold ResultRegion.settle
  split
  · exact h.fresh.generation
  · exact h.fresh.generation

end QueryBlock

/-! ### Pages -/

namespace Page

variable {page next : Page}

/-- A page that nothing was done to but making regions for its blocks. -/
structure Unused (page next : Page) : Prop where
  source : next.source = page.source
  config : next.config = page.config
  blocks : List.Forall₂ QueryBlock.Unused page.blocks next.blocks

theorem Fresh.unused (h : page.Fresh) : page.Unused page :=
  ⟨rfl, rfl, List.forall₂_same.mpr fun block hblock => ⟨rfl, rfl, h.blocks block hblock⟩⟩

namespace Unused

theorem updateBlock (h : page.Unused next) (index : ℕ) {change : QueryBlock → QueryBlock}
    (hchange : ∀ found block : QueryBlock, found.Unused block → found.Unused (change block)) :
    page.Unused (next.updateBlock index change) :=
  ⟨h.source, h.config, forall₂_modify hchange h.blocks index⟩

theorem call (h : page.Unused next) (call : Call) : page.Unused (next.call call) := by
  cases call with
  | ensureControls index => exact h.updateBlock index fun _ _ hblock => hblock.ensureControls
  | ensureResult index => exact h.updateBlock index fun _ _ hblock => hblock.ensureResult
  | settle index token content =>
      exact h.updateBlock index fun _ _ hblock => hblock.settleRun token content
  | ask inquiry => exact h

/-- No block has an edit, so the source is written. -/
theorem toHtml (h : page.Unused next) : next.toHtml = page.source := by
  have hedits : next.blocks.flatMap QueryBlock.edits = [] := by
    rw [List.flatMap_eq_nil_iff]
    intro block hblock
    obtain ⟨found, -, hunused⟩ := exists_of_mem_right h.blocks hblock
    exact hunused.fresh.edits_eq_nil
  rw [Page.toHtml, hedits, h.source]
  simp [Edit.applyAll]

/-- What is told of a block of the page in the end is what was told of it at first. -/
theorem map_getElem? {α : Type} (h : page.Unused next) (view : QueryBlock → α)
    (hview : ∀ found block : QueryBlock, found.Unused block → view block = view found)
    (index : ℕ) : next.blocks[index]?.map view = page.blocks[index]?.map view := by
  have hviews : List.Forall₂ Eq (page.blocks.map view) (next.blocks.map view) := by
    rw [List.forall₂_map_left_iff, List.forall₂_map_right_iff]
    exact h.blocks.imp fun found block hblock => (hview found block hblock).symm
  rw [List.forall₂_eq_eq_eq] at hviews
  rw [← List.getElem?_map, ← List.getElem?_map, hviews]

/-- Every question has the answer that it had at first. -/
theorem answer_eq (h : page.Unused next) (hpage : page.Fresh) (inquiry : Inquiry) :
    inquiry.answer next = inquiry.answer page := by
  have hendpoint : next.defaultEndpoint? = page.defaultEndpoint? := by
    simp only [defaultEndpoint?, h.config]
  cases inquiry with
  | id index =>
      have hid := h.map_getElem? QueryBlock.id?
        (fun _ _ hblock => by simp only [QueryBlock.id?, hblock.attributes]) index
      simp only [Inquiry.answer, hid]
  | query index =>
      have hquery := h.map_getElem? QueryBlock.query (fun _ _ hblock => hblock.query) index
      simp only [Inquiry.answer, hquery]
  | attributes index =>
      have hattributes := h.map_getElem? QueryBlock.attributes
        (fun _ _ hblock => hblock.attributes) index
      simp only [Inquiry.answer, hattributes]
  | endpoint index =>
      have hown := h.map_getElem? QueryBlock.endpoint?
        (fun _ _ hblock => by simp only [QueryBlock.endpoint?, hblock.attributes]) index
      simp only [Inquiry.answer, hown]
  | target runner index withPage =>
      have htarget := h.map_getElem? (fun block => runner.resolveEndpoint block
          (if withPage then page.defaultEndpoint? else none))
        (fun _ _ hblock => by
          simp only [Runner.resolveEndpoint, QueryBlock.endpoint?, hblock.attributes]) index
      simp only [Inquiry.answer, hendpoint, htarget]
  | config => simp only [Inquiry.answer, h.config]
  | defaultEndpoint => simp only [Inquiry.answer, hendpoint]
  | timeout => simp only [Inquiry.answer, timeout?, h.config]
  | written => simp only [Inquiry.answer, h.toHtml, hpage.unused.toHtml]

/-- One call after the other. -/
theorem calls (h : page.Unused next) (hpage : page.Fresh) (calls : List Call) :
    page.Unused (next.calls calls).2 ∧
      ∀ asked ∈ (next.calls calls).1, asked.2 = asked.1.answer page := by
  induction calls generalizing next with
  | nil => exact ⟨h, by simp [Page.calls]⟩
  | cons call rest ih =>
      obtain ⟨hfinal, hanswers⟩ := ih (h.call call)
      refine ⟨hfinal, fun asked hasked => ?_⟩
      simp only [Page.calls, List.mem_append, List.mem_map] at hasked
      rcases hasked with ⟨inquiry, -, rfl⟩ | hasked
      · exact h.answer_eq hpage inquiry
      · exact hanswers asked hasked

end Unused

/-- Whatever is asked about a page that was read, and whatever regions are made for its blocks,
the page is written as its source, and every question is answered as at first. -/
theorem read_untouched {source : Text} {page : Page} (h : Page.read source = .ok page)
    (calls : List Call) :
    (page.calls calls).2.toHtml = source ∧ Inquiry.written.answer page = .text (some source) ∧
      ∀ asked ∈ (page.calls calls).1, asked.2 = asked.1.answer page := by
  have hsource := source_of_read h
  have hfresh := fresh_of_read h
  obtain ⟨hfinal, hanswers⟩ := hfresh.unused.calls hfresh calls
  refine ⟨?_, ?_, hanswers⟩
  · rw [hfinal.toHtml, hsource]
  · rw [Inquiry.answer, hfresh.unused.toHtml, hsource]

/-- A block that is its own end tag, one with both regions, and one without an end, among broken
markup. The outcome that comes in for the second block is kept and not shown. -/
theorem read_untouched_broken_markup :
    let source := ("a < b</ ><pre class='ladybug-query'/><pre class=ladybug-query>" ++
      "<div class=\"buttons\"></div><code>A &lt; B</code></pre>" ++
      "<div class=\"ladybug-result\">old</div></p <pre class=\"ladybug-query\"><code>C").toList
    let calls : List Call := [.ensureControls 0, .ensureResult 0, .ask .written,
      .settle 1 0 "late".toList, .ask (.query 1)]
    ∃ page, Page.read source = .ok page ∧ (page.calls calls).2.toHtml = source ∧
      (page.calls calls).1.map Prod.fst = [.written, .query 1] ∧
      (page.calls calls).1.map Prod.snd =
        [.text (some source), .text (some "A < B".toList)] ∧
      (page.calls calls).2.blocks.map (fun block =>
        (block.controls.isSome, block.resultRegion.content)) =
          [(true, []), (true, "late".toList)] := by
  intro source calls
  have hviews : (Page.read source).toOption.map (fun page =>
      (page.blocks.map QueryBlock.query, (page.calls calls).2.blocks.map fun block =>
        (block.controls.isSome, block.resultRegion.content))) =
      some ([[], "A < B".toList], [(true, []), (true, "late".toList)]) := by
    decide +kernel
  obtain ⟨page, h, hview⟩ := exists_of_toOption_map hviews
  obtain ⟨hqueries, hregions⟩ := Prod.mk.inj hview
  obtain ⟨hwritten, hsource, hanswers⟩ := read_untouched h calls
  have hquery : (Inquiry.query 1).answer page = .text (some "A < B".toList) := by
    rw [Inquiry.answer, ← List.getElem?_map, hqueries]
    rfl
  have hasked : (page.calls calls).1.map Prod.fst = [.written, .query 1] := rfl
  refine ⟨page, h, hwritten, hasked, ?_, hregions⟩
  have hpairs : (page.calls calls).1.map Prod.snd =
      ((page.calls calls).1.map Prod.fst).map fun inquiry => inquiry.answer page := by
    rw [List.map_map]
    exact List.map_congr_left fun asked hmem => hanswers asked hmem
  rw [hpairs, hasked, List.map_cons, List.map_cons, List.map_nil, hsource, hquery]

end Page

end CypherPages
