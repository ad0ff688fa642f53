import CypherPages.Proofs.Page.Marks
import CypherPages.Proofs.Page.Stretches
import CypherPages.Proofs.Session.Invariant

/-! # Places of a page

The places of the blocks of a page are in order, and writing the page changes it between tags.
There is one exception: a block or a region whose tag is its own end tag ends at the first
closing bracket of that tag, which may stand in the value of an attribute. -/

namespace CypherPages
open Html

/-! ### What keeps the places -/

/-- A block with the places of another one. -/
structure QueryBlock.SamePlaces (block other : QueryBlock) : Prop where
  attributes : other.attributes = block.attributes
  startTagEnd : other.startTagEnd = block.startTagEnd
  stop : other.stop = block.stop
  existing : other.controlRegion.existing = block.controlRegion.existing
  span : other.resultRegion.span = block.resultRegion.span

namespace QueryBlock

theorem SamePlaces.refl {block : QueryBlock} : block.SamePlaces block :=
  ⟨Eq.refl _, Eq.refl _, Eq.refl _, Eq.refl _, Eq.refl _⟩

theorem SamePlaces.trans {block other last : QueryBlock} (h : block.SamePlaces other)
    (hlast : other.SamePlaces last) : block.SamePlaces last :=
  ⟨hlast.1.trans h.1, hlast.2.trans h.2, hlast.3.trans h.3, hlast.4.trans h.4, hlast.5.trans h.5⟩

theorem samePlaces_beginRun (block : QueryBlock) : block.SamePlaces block.beginRun :=
  ⟨Eq.refl _, Eq.refl _, Eq.refl _, Eq.refl _, Eq.refl _⟩

theorem samePlaces_settleRun (block : QueryBlock) (token : ℕ) (content : Text) :
    block.SamePlaces (block.settleRun token content) := by
  refine ⟨Eq.refl _, Eq.refl _, Eq.refl _, Eq.refl _, ?_⟩
  show (block.resultRegion.settle token content).span = _
  unfold ResultRegion.settle
  split <;> rfl

theorem samePlaces_insertControl (block : QueryBlock) (control : Control) :
    block.SamePlaces (block.insertControl control) :=
  ⟨Eq.refl _, Eq.refl _, Eq.refl _, Eq.refl _, Eq.refl _⟩

theorem forall₂_samePlaces_refl (blocks : List QueryBlock) :
    List.Forall₂ SamePlaces blocks blocks :=
  List.forall₂_same.mpr fun _ _ => .refl

theorem forall₂_samePlaces_trans {blocks others last : List QueryBlock}
    (h : List.Forall₂ SamePlaces blocks others) (hlast : List.Forall₂ SamePlaces others last) :
    List.Forall₂ SamePlaces blocks last := by
  induction h generalizing last with
  | nil => exact hlast
  | cons hhead _ ih =>
      obtain ⟨next, rest, hnext, hrest, rfl⟩ := List.forall₂_cons_left_iff.mp hlast
      exact .cons (hhead.trans hnext) (ih hrest)

/-- Changing one block in a way that keeps its places keeps those of all. -/
theorem forall₂_samePlaces_modify {change : QueryBlock → QueryBlock}
    (h : ∀ block : QueryBlock, block.SamePlaces (change block)) (blocks : List QueryBlock)
    (index : ℕ) : List.Forall₂ SamePlaces blocks (blocks.modify index change) :=
  forall₂_modify (fun _ block hblock => hblock.trans (h block)) (forall₂_samePlaces_refl blocks)
    index

end QueryBlock

namespace Session

theorem samePlaces_step (runner : Runner) (session : Session) (step : Step) :
    List.Forall₂ QueryBlock.SamePlaces session.page.blocks
      (session.step runner step).page.blocks := by
  have hsame := QueryBlock.forall₂_samePlaces_refl session.page.blocks
  cases step with
  | start index =>
      simp only [Session.step, Session.start]
      split
      · exact hsame
      · exact QueryBlock.forall₂_samePlaces_modify QueryBlock.samePlaces_beginRun _ _
  | arrive index reply =>
      simp only [Session.step, Session.arrive]
      split
      · exact hsame
      · split
        · exact hsame
        · exact QueryBlock.forall₂_samePlaces_modify
            (fun block => block.samePlaces_settleRun _ _) _ _
  | attachControls =>
      simp only [Session.step, Session.attachControls, Page.attachControls]
      split
      · exact hsame
      · exact List.forall₂_map_right_iff.mpr
          (List.forall₂_same.mpr fun block _ => block.samePlaces_insertControl .run)

/-- Whatever happens in a session, the blocks of its page keep their places. -/
theorem samePlaces_after (runner : Runner) (session : Session) (steps : List Step) :
    List.Forall₂ QueryBlock.SamePlaces session.page.blocks
      (session.after runner steps).page.blocks := by
  induction steps generalizing session with
  | nil => exact QueryBlock.forall₂_samePlaces_refl _
  | cons step steps ih =>
      exact QueryBlock.forall₂_samePlaces_trans (samePlaces_step runner session step)
        (ih (session.step runner step))

end Session

/-! ### The order of places -/

/-- What two edits change has no character in common. -/
def Edit.Apart (edit other : Edit) : Prop := edit.stop ≤ other.start ∨ other.stop ≤ edit.start

namespace BlockTags

variable {line : List Placed} {own : BlockTags} {block other : QueryBlock} {edit : Edit}

theorem Mark.samePlaces (h : own.Mark line block) (hsame : block.SamePlaces other) :
    own.Mark line other where
  opening_mem := h.opening_mem
  opening_opens := by rw [hsame.attributes]; exact h.opening_opens
  closing_mem := h.closing_mem
  closing_closes := h.closing_closes
  opening_le_closing := h.opening_le_closing
  closing_first := h.closing_first
  startTagEnd_eq := by rw [hsame.startTagEnd, h.startTagEnd_eq]
  stop_eq := by rw [hsame.stop, h.stop_eq]
  controls_mark := h.controls_mark
  insertAt_eq := by rw [hsame.existing, h.insertAt_eq]
  result_mark := h.result_mark
  span_eq := by rw [hsame.span, h.span_eq]

theorem Mark.closing_bracketEnd_le (h : own.Mark line block) (hline : Placed.InLine line) :
    own.closing.bracketEnd ≤ own.closing.stop :=
  h.closing_closes.bracketEnd_le (hline.spelled _ h.closing_mem)

/-- The tag of a control region stands between the tags of its block. -/
theorem Mark.existing (h : own.Mark line block) (hline : Placed.InLine line)
    {existing : ExistingControls} (hexisting : existing ∈ block.controlRegion.existing) :
    ∃ tag ∈ line, existing.insertAt = tag.stop ∧ own.opening.stop ≤ tag.stop ∧
      tag.stop ≤ own.closing.start := by
  have hinsert := h.insertAt_eq
  rw [hexisting, Option.map_some, eq_comm, Option.map_eq_some_iff] at hinsert
  obtain ⟨tag, htag, hstop⟩ := hinsert
  obtain ⟨hmem, -, hbehind, hbefore⟩ := h.controls_mark tag htag
  have hopening := hline.stop_le_of_start_lt h.opening_mem hmem hbehind
  have hle := hline.stop_le_of_start_lt hmem h.closing_mem hbefore
  exact ⟨tag, hmem, hstop.symm, hopening.trans (hline.start_lt_stop hmem).le, hle⟩

/-- Controls go behind a start tag of the block, up to the end of the tag that closes it. -/
theorem Mark.controlPoint (h : own.Mark line block) (hline : Placed.InLine line) :
    ∃ tag ∈ line, block.controlPoint = tag.stop ∧ own.opening.stop ≤ tag.stop ∧
      tag.stop ≤ own.closing.stop := by
  have hclosing := hline.start_lt_stop h.closing_mem
  unfold QueryBlock.controlPoint
  cases hexisting : block.controlRegion.existing with
  | none =>
      refine ⟨own.opening, h.opening_mem, h.startTagEnd_eq, le_rfl, ?_⟩
      rcases h.opening_le_closing.eq_or_lt with hsame | hlt
      · rw [hline.eq_of_start_eq h.opening_mem h.closing_mem hsame]
      · exact (hline.stop_le_of_start_lt h.opening_mem h.closing_mem hlt).trans hclosing.le
  | some existing =>
      obtain ⟨tag, hmem, hstop, hbehind, hbefore⟩ := h.existing hline hexisting
      exact ⟨tag, hmem, hstop, hbehind, hbefore.trans hclosing.le⟩

/-- The result goes to the end of the block, or in the place of the result region. -/
theorem Mark.resultPlace (h : own.Mark line block) :
    (own.result = none ∧
      block.resultPlace = (own.closing.bracketEnd, own.closing.bracketEnd)) ∨
    ∃ region ∈ own.result, block.resultPlace = (region.1.start, region.2.bracketEnd) := by
  have hspan := h.span_eq
  unfold QueryBlock.resultPlace QueryBlock.span?
  cases hresult : own.result with
  | none =>
      rw [hresult, Option.map_none] at hspan
      rw [hspan, Option.getD_none, h.stop_eq]
      exact .inl ⟨rfl, rfl⟩
  | some region =>
      rw [hresult, Option.map_some] at hspan
      rw [hspan]
      exact .inr ⟨region, rfl, rfl⟩

theorem Mark.insertAt (h : own.Mark line block) (hline : Placed.InLine line) :
    ∀ existing ∈ block.controlRegion.existing,
      block.startTagEnd ≤ existing.insertAt ∧ existing.insertAt ≤ block.stop := by
  intro existing hexisting
  obtain ⟨tag, -, hstop, hbehind, hbefore⟩ := h.existing hline hexisting
  rw [h.startTagEnd_eq, h.stop_eq, hstop]
  exact ⟨hbehind, hbefore.trans own.closing.start_lt_bracketEnd.le⟩

/-- A result region stands behind its block, up to the end of the block with its regions. -/
theorem Mark.result (h : own.Mark line block) (hline : Placed.InLine line)
    {region : Placed × Placed} (hregion : region ∈ own.result) :
    own.closing.stop ≤ region.1.start ∧ region.1.start < region.2.bracketEnd ∧
      region.2.bracketEnd ≤ own.stop := by
  obtain ⟨-, hmem, -, hmatches, hbehind⟩ := h.result_mark region hregion
  have hbracket := region.2.start_lt_bracketEnd
  have hend := hmatches.closes.bracketEnd_le (hline.spelled _ hmem)
  have hstop : own.stop = region.2.stop := by rw [stop, hregion]
  exact ⟨hbehind, hmatches.start_le.trans_lt hbracket, hend.trans hstop.ge⟩

theorem Mark.span (h : own.Mark line block) (hline : Placed.InLine line) :
    ∀ span ∈ block.resultRegion.span,
      block.stop ≤ span.1 ∧ span.1 < span.2 ∧ span.2 ≤ own.stop := by
  intro span hspan
  have heq := h.span_eq
  rw [hspan, eq_comm, Option.map_eq_some_iff] at heq
  obtain ⟨region, hregion, rfl⟩ := heq
  obtain ⟨hbehind, hlt, hstop⟩ := h.result hline hregion
  rw [h.stop_eq]
  exact ⟨(h.closing_bracketEnd_le hline).trans hbehind, hlt, hstop⟩

/-! ### The edits of a block -/

theorem place_of_controlEdit? (h : block.controlEdit? = some edit) :
    edit.start = block.controlPoint ∧ edit.stop = block.controlPoint := by
  obtain ⟨hplace, hend⟩ := block.writes_controlEdit?.place edit h
  rw [List.length_nil] at hend
  omega

theorem place_of_resultEdit? (h : block.resultEdit? = some edit) :
    (edit.start, edit.stop) = block.resultPlace := by
  rw [QueryBlock.resultEdit?_eq] at h
  unfold QueryBlock.resultPlace
  split at h
  · cases h
  · split at h
    · next hspan =>
        obtain rfl := Option.some.inj h
        rw [hspan]
        rfl
    · next span hspan =>
        obtain rfl := Option.some.inj h
        rw [hspan]
        rfl

theorem mem_edits_iff : edit ∈ block.edits ↔
    block.controlEdit? = some edit ∨ block.resultEdit? = some edit := by
  rw [QueryBlock.edits, List.mem_append, Option.mem_toList, Option.mem_toList]

/-- The edits of a block stand behind the start of its first tag and within its last. -/
theorem Mark.edit_bounds (h : own.Mark line block) (hline : Placed.InLine line)
    (hedit : edit ∈ block.edits) :
    own.opening.start < edit.start ∧ edit.start ≤ edit.stop ∧ edit.stop ≤ own.stop := by
  have hopening := hline.start_lt_stop h.opening_mem
  have hle := h.opening_le_closing
  have hclosing := h.closing_stop_le hline
  rcases mem_edits_iff.mp hedit with hcontrol | hresult
  · obtain ⟨hstart, hstop⟩ := place_of_controlEdit? hcontrol
    obtain ⟨tag, -, htag, hbehind, hbefore⟩ := h.controlPoint hline
    omega
  · have hplace := place_of_resultEdit? hresult
    have hbracket := own.closing.start_lt_bracketEnd
    have hend := h.closing_bracketEnd_le hline
    rcases h.resultPlace with ⟨-, heq⟩ | ⟨region, hregion, heq⟩
    · rw [heq, Prod.mk.injEq] at hplace
      omega
    · obtain ⟨hbehind, hlt, hstop⟩ := h.result hline hregion
      rw [heq, Prod.mk.injEq] at hplace
      omega

/-- The controls and the result of a block do not meet. -/
theorem Mark.edits_apart (h : own.Mark line block) (hline : Placed.InLine line) :
    block.edits.Pairwise Edit.Apart := by
  have hsingle (edit? : Option Edit) : edit?.toList.Pairwise Edit.Apart := by
    cases edit? <;> simp
  refine List.pairwise_append.mpr ⟨hsingle _, hsingle _, fun control hcontrol result hresult => ?_⟩
  obtain ⟨hstart, hstop⟩ := place_of_controlEdit? (Option.mem_toList.mp hcontrol)
  have hplace := place_of_resultEdit? (Option.mem_toList.mp hresult)
  obtain ⟨tag, -, htag, -, hbefore⟩ := h.controlPoint hline
  unfold Edit.Apart
  rcases h.resultPlace with ⟨-, heq⟩ | ⟨region, hregion, heq⟩
  · rw [heq, Prod.mk.injEq] at hplace
    omega
  · have hbehind := (h.result hline hregion).1
    rw [heq, Prod.mk.injEq] at hplace
    omega

/-! ### Edits and tags -/

theorem Mark.spares_or_cutAt (h : own.Mark line block) (hline : Placed.InLine line)
    (hedit : edit ∈ block.edits) {tag : Placed} (htag : tag ∈ line) {offset : ℕ}
    (hoffset : offset = edit.start ∨ offset = edit.stop) :
    tag.Spares offset ∨ tag.CutAt offset := by
  rcases mem_edits_iff.mp hedit with hcontrol | hresult
  · obtain ⟨hstart, hstop⟩ := place_of_controlEdit? hcontrol
    obtain ⟨found, hfound, heq, -, -⟩ := h.controlPoint hline
    obtain rfl : offset = found.stop := by omega
    exact .inl (hline.spares_stop htag hfound)
  · have hplace := place_of_resultEdit? hresult
    rcases h.resultPlace with ⟨-, heq⟩ | ⟨region, hregion, heq⟩
    · rw [heq, Prod.mk.injEq] at hplace
      obtain rfl : offset = own.closing.bracketEnd := by omega
      exact hline.spares_or_cutAt_bracketEnd htag h.closing_mem h.closing_closes
    · obtain ⟨hfirst, hlast, -, hmatches, -⟩ := h.result_mark region hregion
      rw [heq, Prod.mk.injEq] at hplace
      rcases hoffset with hoffset | hoffset
      · obtain rfl : offset = region.1.start := hoffset.trans hplace.1
        exact .inl (hline.spares_start htag hfirst)
      · obtain rfl : offset = region.2.bracketEnd := hoffset.trans hplace.2
        exact hline.spares_or_cutAt_bracketEnd htag hlast hmatches.closes

end BlockTags

/-! ### Pages -/

/-- The places of a page come from its tags and stand in order. Whatever its regions show, an
edit cuts a tag only if the tag is its own end tag and holds a bracket before its last one. -/
structure Page.HasPlaces (line : List Placed) (tags : List BlockTags) (page : Page) : Prop where
  mark : List.Forall₂ (BlockTags.Mark line) tags page.blocks
  precedes : tags.Pairwise BlockTags.Precedes
  bracketEnd : ∀ tag ∈ line, ∀ name, tag.Closes name →
    (tag.bracketEnd = tag.stop ↔ ¬ tag.HoldsBracket)
  startTagEnd_le : List.Forall₂ (fun own block => block.startTagEnd ≤ block.stop ∨
    own.opening = own.closing ∧ own.closing.HoldsBracket) tags page.blocks
  insertAt : ∀ block ∈ page.blocks, ∀ existing ∈ block.controlRegion.existing,
    block.startTagEnd ≤ existing.insertAt ∧ existing.insertAt ≤ block.stop
  span : ∀ block ∈ page.blocks, ∀ span ∈ block.resultRegion.span,
    block.stop ≤ span.1 ∧ span.1 < span.2
  behind : page.blocks.Pairwise fun block next => block.stop < next.startTagEnd ∧
    ∀ span ∈ block.resultRegion.span, span.2 < next.startTagEnd
  edits : ∀ blocks, List.Forall₂ QueryBlock.SamePlaces page.blocks blocks →
    (blocks.flatMap QueryBlock.edits).Pairwise Edit.Apart ∧
    ∀ edit ∈ blocks.flatMap QueryBlock.edits,
      edit.start ≤ edit.stop ∧ edit.stop ≤ page.source.length ∧
      ∀ tag ∈ line, ∀ offset, offset = edit.start ∨ offset = edit.stop →
        tag.Spares offset ∨ tag.CutAt offset

namespace BlockTags

variable {line : List Placed} {tags : List BlockTags} {blocks others : List QueryBlock}

theorem forall₂_mark_samePlaces (h : List.Forall₂ (Mark line) tags blocks)
    (hsame : List.Forall₂ QueryBlock.SamePlaces blocks others) :
    List.Forall₂ (Mark line) tags others := by
  induction h generalizing others with
  | nil =>
      obtain rfl := List.forall₂_nil_left_iff.mp hsame
      exact .nil
  | cons hown _ ih =>
      obtain ⟨other, rest, hother, hrest, rfl⟩ := List.forall₂_cons_left_iff.mp hsame
      exact .cons (hown.samePlaces hother) (ih hrest)

/-- The edits of all blocks are apart and stand within the tags of the page. -/
theorem pairwise_apart (hline : Placed.InLine line) (h : List.Forall₂ (Mark line) tags blocks)
    (hprecedes : tags.Pairwise Precedes) :
    (blocks.flatMap QueryBlock.edits).Pairwise Edit.Apart := by
  refine List.pairwise_flatMap.mpr ⟨fun block hblock => ?_, ?_⟩
  · obtain ⟨own, -, hmark⟩ := exists_of_mem_right h hblock
    exact hmark.edits_apart hline
  · refine pairwise_of_forall₂ h hprecedes fun own block next other hown hnext hbefore => ?_
    intro edit hedit later hlater
    obtain ⟨-, -, hstop⟩ := hown.edit_bounds hline hedit
    obtain ⟨hstart, -, -⟩ := hnext.edit_bounds hline hlater
    exact .inl (hstop.trans (hbefore.trans hstart.le))

theorem Mark.behind {own later : BlockTags} {block next : QueryBlock} (h : own.Mark line block)
    (hnext : later.Mark line next) (hline : Placed.InLine line) (hprecedes : own.Precedes later) :
    block.stop < next.startTagEnd ∧
      ∀ span ∈ block.resultRegion.span, span.2 < next.startTagEnd := by
  have hlt : own.stop < next.startTagEnd := by
    rw [hnext.startTagEnd_eq]
    exact hprecedes.trans_lt (hline.start_lt_stop hnext.opening_mem)
  have hstop : block.stop ≤ own.stop := by
    rw [h.stop_eq]
    exact (h.closing_bracketEnd_le hline).trans (h.closing_stop_le hline)
  refine ⟨hstop.trans_lt hlt, fun span hspan => ?_⟩
  obtain ⟨-, -, hend⟩ := h.span hline span hspan
  exact hend.trans_lt hlt

/-- A start tag ends in front of the end of its block, unless it is the tag that closes it and
holds a further bracket. -/
theorem Mark.startTagEnd_le {own : BlockTags} {block : QueryBlock} (h : own.Mark line block)
    (hline : Placed.InLine line) : block.startTagEnd ≤ block.stop ∨
      own.opening = own.closing ∧ own.closing.HoldsBracket := by
  rw [h.startTagEnd_eq, h.stop_eq]
  rcases h.opening_le_closing.eq_or_lt with hsame | hlt
  · have heq := hline.eq_of_start_eq h.opening_mem h.closing_mem hsame
    rw [heq]
    rcases h.closing_closes.bracketEnd_cases (hline.spelled _ h.closing_mem) with
      ⟨hend, -⟩ | ⟨-, hholds⟩
    · exact .inl hend.ge
    · exact .inr ⟨rfl, hholds⟩
  · have hle := hline.stop_le_of_start_lt h.opening_mem h.closing_mem hlt
    exact .inl (hle.trans own.closing.start_lt_bracketEnd.le)

theorem Mark.closing_stop_le_length {source : Text} {found : List Token}
    (htokens : Html.tokens source = .ok found) {own : BlockTags} {block : QueryBlock}
    (h : own.Mark (Placed.all 0 found) block) : own.stop ≤ source.length := by
  have hbound (tag : Placed) (htag : tag ∈ Placed.all 0 found) : tag.stop ≤ source.length := by
    have hle := Placed.stop_le_of_mem_all htag
    rwa [lexemes_tokensIn htokens, Nat.zero_add] at hle
  unfold stop
  cases hresult : own.result with
  | none => exact hbound _ h.closing_mem
  | some region => exact hbound _ (h.result_mark region hresult).2.1

end BlockTags

/-- The places of every page that is read come from tags of its source and stand in order, and
a session keeps them. -/
theorem Page.read_has_places {source : Text} {page : Page} (h : Page.read source = .ok page) :
    ∃ found tags, Html.tokens source = .ok found ∧ page.HasPlaces (Placed.all 0 found) tags ∧
      ∀ (runner : Runner) (steps : List Session.Step), List.Forall₂ QueryBlock.SamePlaces
        page.blocks ((Session.ofPage page).after runner steps).page.blocks := by
  obtain ⟨found, tags, htokens, hmark, hprecedes⟩ := exists_tags_of_read h
  have hline := Placed.inLine_of_tokens htokens
  have hclosing := hmark.imp fun own block hown => hown.startTagEnd_le hline
  refine ⟨found, tags, htokens, ⟨hmark, hprecedes, fun tag htag name hcloses => ?_, hclosing,
    fun block hblock => ?_, fun block hblock => ?_, ?_, fun blocks hsame => ?_⟩,
    fun runner steps => Session.samePlaces_after runner (Session.ofPage page) steps⟩
  · exact hcloses.bracketEnd_eq_stop_iff (hline.spelled tag htag)
  · obtain ⟨own, -, hown⟩ := exists_of_mem_right hmark hblock
    exact hown.insertAt hline
  · obtain ⟨own, -, hown⟩ := exists_of_mem_right hmark hblock
    intro span hspan
    obtain ⟨hbehind, hlt, -⟩ := hown.span hline span hspan
    exact ⟨hbehind, hlt⟩
  · exact pairwise_of_forall₂ hmark hprecedes fun own block later next hown hlater hbefore =>
      hown.behind hlater hline hbefore
  · have hother := BlockTags.forall₂_mark_samePlaces hmark hsame
    refine ⟨BlockTags.pairwise_apart hline hother hprecedes, fun edit hedit => ?_⟩
    obtain ⟨block, hblock, hmem⟩ := List.mem_flatMap.mp hedit
    obtain ⟨own, -, hown⟩ := exists_of_mem_right hother hblock
    obtain ⟨-, hle, hstop⟩ := hown.edit_bounds hline hmem
    refine ⟨hle, ?_, fun tag htag offset hoffset => hown.spares_or_cutAt hline hmem htag hoffset⟩
    rw [source_of_read h]
    exact hstop.trans (hown.closing_stop_le_length htokens)

/-- A block whose tag is its own end tag, with a bracket in the value of an attribute, ends
inside that tag: its end is in front of the end of its start tag. -/
theorem Page.read_has_places_self_closing :
    let source := "<pre class=\"ladybug-query\" title=\"a>b\"/>".toList
    ∃ page found tags, Page.read source = .ok page ∧ Html.tokens source = .ok found ∧
      page.HasPlaces (Placed.all 0 found) tags ∧
      page.blocks.map (fun block => (block.startTagEnd, block.stop)) = [(40, 36)] := by
  intro source
  have hread : (Page.read source).toOption.map
      (fun page => page.blocks.map fun block => (block.startTagEnd, block.stop)) =
        some [(40, 36)] := by
    decide +kernel
  obtain ⟨page, hpage, hview⟩ := exists_of_toOption_map hread
  obtain ⟨found, tags, htokens, hplaces, -⟩ := Page.read_has_places hpage
  exact ⟨page, found, tags, hpage, htokens, hplaces, hview⟩

end CypherPages
