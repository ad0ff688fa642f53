import CypherPages.Proofs.Page.RewrittenPage
import CypherPages.Proofs.Page.Splice

/-! # Writing a page from left to right

The text of a page is its source, copied once from left to right: controls are put in at the
control point of their block, and a result behind its block or in place of the region there.
The stretches of the copy tell what is kept of the source, so the source can be had back. -/

namespace CypherPages

/-- A stretch of a page that is written. -/
inductive Stretch
  /-- Text of the source. -/
  | kept (text : Text)
  /-- Text that is put in between text of the source. -/
  | inserted (text : Text)
  /-- Text of the source with the text that stands in its place. -/
  | replaced (old new : Text)

namespace Stretch

/-- What is written for a stretch. -/
def written : Stretch → Text
  | .kept text | .inserted text | .replaced _ text => text

/-- What the source has for a stretch: nothing for what is put in, and the old text for what is
replaced. -/
def original : Stretch → Text
  | .kept text | .replaced text _ => text
  | .inserted _ => []

/-- What a stretch takes over from the source. -/
def takenOver : Stretch → Text
  | .kept text => text
  | .inserted _ | .replaced .. => []

end Stretch

namespace QueryBlock

/-- Where the controls of a block go: behind the start tag of its control region, or behind its
own where the page has none. -/
def controlPoint (block : QueryBlock) : ℕ :=
  match block.controlRegion.existing with
  | none => block.startTagEnd
  | some existing => existing.insertAt

/-- The markup for the controls of a block. -/
def controlMarkup (block : QueryBlock) : Text :=
  if block.controlRegion.controls.isEmpty then []
  else
    match block.controlRegion.existing with
    | none => block.controlRegion.toHtml
    | some _ => block.controlRegion.pendingHtml

/-- Where the page has a result region for the block. -/
def span? (block : QueryBlock) : Option (ℕ × ℕ) := block.resultRegion.span

/-- Where the result of a block goes: in the place of the region that the page has, or at the
end of the block. -/
def resultPlace (block : QueryBlock) : ℕ × ℕ := block.span?.getD (block.stop, block.stop)

def wasRun (block : QueryBlock) : Bool := block.resultRegion.generation != 0

/-- The stretch with the result of a block. -/
def resultStretch (source : Text) (block : QueryBlock) : Stretch :=
  if !block.wasRun then .kept (Page.slice source block.resultPlace)
  else
    match block.span? with
    | none => .inserted ('\n' :: block.resultRegion.toHtml)
    | some span => .replaced (Page.slice source span) block.resultRegion.toHtml

end QueryBlock

/-- A source copied from an offset on, block by block. -/
def Stretch.ofBlocks (source : Text) (offset : ℕ) : List QueryBlock → List Stretch
  | [] => [.kept (source.drop offset)]
  | block :: rest =>
    .kept (Page.slice source (offset, block.controlPoint)) ::
    .inserted block.controlMarkup ::
    .kept (Page.slice source (block.controlPoint, block.resultPlace.1)) ::
    block.resultStretch source ::
    ofBlocks source block.resultPlace.2 rest

/-- The stretches of a page from left to right. -/
def Page.stretches (page : Page) : List Stretch := Stretch.ofBlocks page.source 0 page.blocks

/-- The span of a block's result region, if a result replaces it. -/
def QueryBlock.replacedSpan? (block : QueryBlock) : Option (ℕ × ℕ) :=
  if block.wasRun then block.span? else none

/-- The spans of the result regions that are replaced. -/
def Page.replacedSpans (page : Page) : List (ℕ × ℕ) :=
  page.blocks.filterMap QueryBlock.replacedSpan?

/-- Whether a place is in none of the spans. -/
def isOutside (spans : List (ℕ × ℕ)) (place : ℕ) : Bool :=
  spans.all fun span => place < span.1 || span.2 ≤ place

/-- The characters of a text that starts at an offset, without those in spans. -/
def Text.outside (spans : List (ℕ × ℕ)) (offset : ℕ) (text : Text) : Text :=
  ((text.zipIdx offset).filter fun placed => isOutside spans placed.2).map Prod.fst

/-! ### Places in order -/

/-- The places of a block are in order, up to the end of a text of the given length. -/
structure QueryBlock.PlacesWithin (length : ℕ) (block : QueryBlock) : Prop where
  controlPoint_lt : block.controlPoint < block.stop
  stop_le : block.stop ≤ length
  span : ∀ span ∈ block.span?, block.stop ≤ span.1 ∧ span.1 < span.2 ∧ span.2 ≤ length

instance (length : ℕ) (block : QueryBlock) : Decidable (block.PlacesWithin length) :=
  decidable_of_iff
    (block.controlPoint < block.stop ∧ block.stop ≤ length ∧
      ∀ span ∈ block.span?, block.stop ≤ span.1 ∧ span.1 < span.2 ∧ span.2 ≤ length)
    ⟨fun ⟨hlt, hle, hspan⟩ => ⟨hlt, hle, hspan⟩, fun h => ⟨h.1, h.2, h.3⟩⟩

/-- A block with its result stands before another one. -/
def QueryBlock.Precedes (block next : QueryBlock) : Prop :=
  match block.span? with
  | none => block.stop < next.controlPoint
  | some span => span.2 ≤ next.controlPoint

instance (block next : QueryBlock) : Decidable (block.Precedes next) :=
  match h : block.span? with
  | none => decidable_of_iff (block.stop < next.controlPoint) (by simp [QueryBlock.Precedes, h])
  | some span => decidable_of_iff (span.2 ≤ next.controlPoint) (by simp [QueryBlock.Precedes, h])

/-- The places of all blocks stand in the source, in order. -/
structure Page.PlacesOrdered (page : Page) : Prop where
  within : ∀ block ∈ page.blocks, block.PlacesWithin page.source.length
  precedes : page.blocks.IsChain QueryBlock.Precedes

/-- The places of blocks are in order from an offset on. -/
def QueryBlock.InOrder (length : ℕ) : ℕ → List QueryBlock → Prop
  | _, [] => True
  | offset, block :: rest =>
    offset ≤ block.controlPoint ∧ block.PlacesWithin length ∧
      InOrder length (max block.resultPlace.2 (block.resultPlace.1 + 1)) rest

namespace QueryBlock

variable {source : Text} {length offset : ℕ} {block next : QueryBlock} {blocks : List QueryBlock}

theorem PlacesWithin.resultPlace (h : block.PlacesWithin length) :
    block.stop ≤ block.resultPlace.1 ∧ block.resultPlace.1 ≤ block.resultPlace.2 ∧
      block.resultPlace.2 ≤ length := by
  have hspan := h.span
  unfold QueryBlock.resultPlace
  cases hs : block.span? with
  | none => exact ⟨le_rfl, le_rfl, h.stop_le⟩
  | some span =>
      obtain ⟨hstart, hlt, hlength⟩ := hspan span hs
      exact ⟨hstart, hlt.le, hlength⟩

/-- What follows a block stands behind the place of its result, and not where that starts. -/
theorem Precedes.resultPlace (h : block.Precedes next) (hwithin : block.PlacesWithin length) :
    max block.resultPlace.2 (block.resultPlace.1 + 1) ≤ next.controlPoint := by
  have hspan := hwithin.span
  unfold Precedes at h
  unfold QueryBlock.resultPlace
  cases hs : block.span? with
  | none =>
      rw [hs] at h
      exact max_le h.le h
  | some span =>
      rw [hs] at h
      obtain ⟨-, hlt, -⟩ := hspan span hs
      exact max_le h (hlt.trans_le h)

theorem InOrder.mono {lower : ℕ} (h : InOrder length offset blocks) (hle : lower ≤ offset) :
    InOrder length lower blocks := by
  cases blocks with
  | nil => trivial
  | cons block rest => exact ⟨hle.trans h.1, h.2⟩

theorem inOrder_of_isChain (hwithin : ∀ block ∈ blocks, block.PlacesWithin length)
    (hchain : blocks.IsChain Precedes)
    (hfirst : ∀ block ∈ blocks.head?, offset ≤ block.controlPoint) :
    InOrder length offset blocks := by
  induction blocks generalizing offset with
  | nil => trivial
  | cons block rest ih =>
      obtain ⟨hblock, hrest⟩ := List.forall_mem_cons.mp hwithin
      refine ⟨hfirst block rfl, hblock, ih hrest hchain.tail fun next hnext => ?_⟩
      exact (hchain.rel_head? hnext).resultPlace hblock

/-! ### The edits of a block -/

theorem writes_controlEdit? (block : QueryBlock) :
    Edit.Writes block.controlEdit? block.controlPoint [] block.controlMarkup := by
  unfold controlEdit? controlPoint controlMarkup controlRegion
  cases block.controls with
  | none => exact .none _ []
  | some region =>
      simp only [Option.getD_some]
      split
      · exact .none _ []
      · cases region.existing with
        | none => exact .insertion _ _
        | some existing =>
            simp only
            split
            · next hempty =>
                rw [List.isEmpty_iff.mp hempty]
                exact .none _ []
            · exact .insertion _ _

theorem resultEdit?_eq (block : QueryBlock) : block.resultEdit? =
    if !block.wasRun then none
    else
      match block.span? with
      | none => some (.insertion block.stop ('\n' :: block.resultRegion.toHtml))
      | some span => some ⟨span.1, span.2, block.resultRegion.toHtml⟩ := by
  unfold resultEdit? wasRun span? resultRegion
  cases block.result with
  | none => rfl
  | some region =>
      by_cases h : region.generation = 0
      · simp [h]
      · cases hs : region.span <;> simp [h, hs]

/-- The place of a result holds what the source has for it. -/
theorem original_resultStretch (source : Text) (block : QueryBlock) :
    (block.resultStretch source).original = Page.slice source block.resultPlace := by
  unfold resultStretch resultPlace
  cases block.wasRun with
  | false => rfl
  | true =>
      cases block.span? with
      | none => simp [Stretch.original, Page.slice]
      | some span => rfl

/-- A slice of a text is as long as its span. -/
theorem length_slice (text : Text) {start stop : ℕ} (hle : start ≤ stop)
    (hlength : stop ≤ text.length) : start + (Page.slice text (start, stop)).length = stop := by
  rw [Page.slice, List.length_drop, List.length_take]
  omega

theorem PlacesWithin.length_slice (h : block.PlacesWithin source.length) :
    block.resultPlace.1 + (Page.slice source block.resultPlace).length = block.resultPlace.2 := by
  obtain ⟨-, hle, hlength⟩ := h.resultPlace
  exact QueryBlock.length_slice source hle hlength

theorem writes_resultEdit? (h : block.PlacesWithin source.length) :
    Edit.Writes block.resultEdit? block.resultPlace.1 (Page.slice source block.resultPlace)
      (block.resultStretch source).written := by
  obtain ⟨-, hle, hlength⟩ := h.resultPlace
  rw [resultEdit?_eq, ← original_resultStretch]
  unfold resultStretch
  unfold resultPlace at hle hlength ⊢
  cases block.wasRun with
  | false => exact .none _ _
  | true =>
      cases hs : block.span? with
      | none => exact .insertion _ _
      | some span =>
          rw [hs] at hle hlength
          exact .replacement (length_slice source hle hlength).symm _

theorem ordered_resultEdit? (h : block.PlacesWithin source.length) {rest : List Edit}
    (hrest : Edit.Ordered (max block.resultPlace.2 (block.resultPlace.1 + 1)) rest) :
    Edit.Ordered block.resultPlace.1 (block.resultEdit?.toList ++ rest) := by
  obtain ⟨hstop, hle, hlength⟩ := h.resultPlace
  refine hrest.toList_append (by omega) fun edit hedit => ?_
  obtain ⟨hplace, hend⟩ := (writes_resultEdit? h).place edit hedit
  have := h.length_slice
  omega

/-! ### Copying block by block -/

theorem ordered_edits (h : InOrder source.length offset blocks) :
    Edit.Ordered offset (blocks.flatMap edits) := by
  induction blocks generalizing offset with
  | nil => trivial
  | cons block rest ih =>
      obtain ⟨hstart, hblock, hrest⟩ := h
      obtain ⟨hstop, hle, hlength⟩ := hblock.resultPlace
      have hlt := hblock.controlPoint_lt
      rw [List.flatMap_cons, edits, List.append_assoc]
      refine (ordered_resultEdit? hblock (ih hrest)).toList_append (by omega) fun edit hedit => ?_
      obtain ⟨hplace, hend⟩ := block.writes_controlEdit?.place edit hedit
      rw [List.length_nil] at hend
      omega

theorem stop_le_of_mem_edits (h : InOrder source.length offset blocks) :
    ∀ edit ∈ blocks.flatMap edits, edit.stop ≤ source.length := by
  induction blocks generalizing offset with
  | nil => simp
  | cons block rest ih =>
      obtain ⟨-, hblock, hrest⟩ := h
      obtain ⟨-, -, hlength⟩ := hblock.resultPlace
      have hlt := hblock.controlPoint_lt
      have hstop := hblock.stop_le
      intro edit hedit
      rw [List.flatMap_cons, edits, List.append_assoc, List.mem_append, List.mem_append,
        Option.mem_toList, Option.mem_toList] at hedit
      rcases hedit with hedit | hedit | hedit
      · obtain ⟨hplace, hend⟩ := block.writes_controlEdit?.place edit hedit
        rw [List.length_nil] at hend
        omega
      · obtain ⟨hplace, hend⟩ := (writes_resultEdit? hblock).place edit hedit
        have := hblock.length_slice
        omega
      · exact ih hrest edit hedit

/-- Text up to a place is followed by the text from there on. -/
theorem slice_append_drop (text : Text) {start stop : ℕ} (h : start ≤ stop) :
    Page.slice text (start, stop) ++ text.drop stop = text.drop start := by
  rw [Page.slice]
  conv_rhs => rw [← List.take_append_drop stop text, List.drop_append, List.length_take]
  by_cases hlength : stop ≤ text.length
  · rw [min_eq_left hlength, Nat.sub_eq_zero_of_le h, List.drop_zero]
  · rw [List.drop_eq_nil_of_le (Nat.le_of_not_le hlength), List.drop_nil]

theorem slice_append_slice (text : Text) {start middle stop : ℕ} (h : start ≤ middle)
    (h' : middle ≤ stop) : Page.slice text (start, middle) ++ Page.slice text (middle, stop) =
      Page.slice text (start, stop) := by
  have happend := slice_append_drop (text.take stop) h
  rw [Page.slice, List.take_take, min_eq_left h'] at happend
  exact happend

/-- A source from an offset on, cut at the places of its first block. -/
theorem drop_eq (h : InOrder source.length offset (block :: blocks)) :
    source.drop offset = Page.slice source (offset, block.controlPoint) ++
      (Page.slice source (block.controlPoint, block.resultPlace.1) ++
        (Page.slice source block.resultPlace ++ source.drop block.resultPlace.2)) := by
  obtain ⟨hstart, hblock, -⟩ := h
  obtain ⟨hstop, hle, -⟩ := hblock.resultPlace
  have hlt := hblock.controlPoint_lt
  rw [slice_append_drop source hle, slice_append_drop source (by omega),
    slice_append_drop source hstart]

/-- Copying a source with the edits of its blocks writes the stretches. -/
theorem splice_edits (h : InOrder source.length offset blocks) :
    Edit.splice offset (blocks.flatMap edits) (source.drop offset) =
      (Stretch.ofBlocks source offset blocks).flatMap Stretch.written := by
  induction blocks generalizing offset with
  | nil => simp [Edit.splice, Stretch.ofBlocks, Stretch.written]
  | cons block rest ih =>
      have hdrop := drop_eq h
      obtain ⟨hstart, hblock, hrest⟩ := h
      obtain ⟨hstop, hle, hlength⟩ := hblock.resultPlace
      have hlt := hblock.controlPoint_lt
      have hcontrol : offset + (Page.slice source (offset, block.controlPoint)).length =
          block.controlPoint := length_slice source hstart (by omega)
      have hresult : block.controlPoint + ([] : Text).length +
          (Page.slice source (block.controlPoint, block.resultPlace.1)).length =
          block.resultPlace.1 := length_slice source (hlt.le.trans hstop) (hle.trans hlength)
      have hend := hblock.length_slice
      have hordered := ordered_edits hrest
      -- The controls stand in front of nothing, the result in front of what it replaces.
      rw [List.flatMap_cons, edits, List.append_assoc, hdrop,
        ← List.nil_append (Page.slice source (block.controlPoint, block.resultPlace.1) ++ _),
        Edit.splice_toList block.writes_controlEdit? hcontrol.symm
          ((ordered_resultEdit? hblock hordered).mono (by rw [List.length_nil]; omega)),
        Edit.splice_toList (writes_resultEdit? hblock) hresult.symm
          (hordered.mono (hend ▸ le_max_left _ _)), hend, ih (hrest.mono (le_max_left _ _))]
      simp [Stretch.ofBlocks, Stretch.written]

/-! ### The source in the copy -/

theorem original_ofBlocks (h : InOrder source.length offset blocks) :
    (Stretch.ofBlocks source offset blocks).flatMap Stretch.original = source.drop offset := by
  induction blocks generalizing offset with
  | nil => simp [Stretch.ofBlocks, Stretch.original]
  | cons block rest ih =>
      rw [drop_eq h, ← ih (h.2.2.mono (le_max_left _ _)), ← original_resultStretch]
      simp [Stretch.ofBlocks, Stretch.original]

end QueryBlock

/-! ### Characters outside spans -/

namespace Text

variable {spans : List (ℕ × ℕ)} {offset : ℕ} {text : Text}

theorem outside_append (spans : List (ℕ × ℕ)) (offset : ℕ) (front back : Text) :
    outside spans offset (front ++ back) =
      outside spans offset front ++ outside spans (offset + front.length) back := by
  simp [outside, List.zipIdx_append]

/-- Text that meets none of the spans is outside of them. -/
theorem outside_eq_self (h : ∀ span ∈ spans, offset + text.length ≤ span.1 ∨ span.2 ≤ offset) :
    outside spans offset text = text := by
  rw [outside, List.filter_eq_self.mpr, List.zipIdx_map_fst]
  rintro ⟨c, place⟩ hmem
  obtain ⟨hle, hlt, -⟩ := List.mem_zipIdx hmem
  rw [isOutside, List.all_eq_true]
  intro span hspan
  have hmeets := h span hspan
  simp only [Bool.or_eq_true, decide_eq_true_eq]
  omega

/-- Text within one of the spans is not outside of them. -/
theorem outside_eq_nil {span : ℕ × ℕ} (hspan : span ∈ spans) (hstart : span.1 ≤ offset)
    (hstop : offset + text.length ≤ span.2) : outside spans offset text = [] := by
  rw [outside, List.map_eq_nil_iff, List.filter_eq_nil_iff]
  rintro ⟨c, place⟩ hmem hall
  obtain ⟨hle, hlt, -⟩ := List.mem_zipIdx hmem
  have hmeets := List.all_eq_true.mp hall span hspan
  simp only [Bool.or_eq_true, decide_eq_true_eq] at hmeets
  omega

/-- A span that text stands behind does not count. -/
theorem outside_cons {span : ℕ × ℕ} (h : span.2 ≤ offset) :
    outside (span :: spans) offset text = outside spans offset text := by
  unfold outside
  congr 1
  refine List.filter_congr fun placed hmem => ?_
  have hle := List.le_snd_of_mem_zipIdx hmem
  rw [isOutside, List.all_cons, ← isOutside, decide_eq_true (h.trans hle), Bool.or_true,
    Bool.true_and]

end Text

namespace QueryBlock

variable {source : Text} {offset : ℕ} {block : QueryBlock} {blocks : List QueryBlock}

/-- A result that replaces no region leaves the source there is at its place. -/
theorem takenOver_resultStretch_of_none (h : block.replacedSpan? = none) :
    (block.resultStretch source).takenOver = Page.slice source block.resultPlace := by
  unfold replacedSpan? at h
  unfold resultStretch resultPlace
  cases hrun : block.wasRun with
  | false => rfl
  | true =>
      rw [hrun] at h
      rw [show block.span? = none from h]
      simp [Stretch.takenOver, Page.slice]

theorem takenOver_resultStretch_of_some (source : Text) {span : ℕ × ℕ}
    (h : block.replacedSpan? = some span) :
    block.resultPlace = span ∧ (block.resultStretch source).takenOver = [] := by
  unfold replacedSpan? at h
  unfold resultStretch resultPlace
  cases hrun : block.wasRun with
  | false => simp [hrun] at h
  | true =>
      rw [hrun] at h
      rw [show block.span? = some span from h]
      exact ⟨rfl, rfl⟩

/-- Blocks in order replace regions behind their offset only. -/
theorem InOrder.le_of_mem {length : ℕ} (h : InOrder length offset blocks) {span : ℕ × ℕ}
    (hspan : span ∈ blocks.filterMap replacedSpan?) : offset ≤ span.1 := by
  induction blocks generalizing offset with
  | nil => cases hspan
  | cons block rest ih =>
      obtain ⟨hstart, hblock, hrest⟩ := h
      obtain ⟨hstop, hle, -⟩ := hblock.resultPlace
      have hlt := hblock.controlPoint_lt
      obtain ⟨found, hfound, hreplaced⟩ := List.mem_filterMap.mp hspan
      rcases List.mem_cons.mp hfound with rfl | hmem
      · obtain ⟨rfl, -⟩ := takenOver_resultStretch_of_some [] hreplaced
        omega
      · have := ih hrest (List.mem_filterMap.mpr ⟨found, hmem, hreplaced⟩)
        omega

/-- What is taken over from a source are its characters outside the regions that are replaced. -/
theorem takenOver_ofBlocks (h : InOrder source.length offset blocks) :
    (Stretch.ofBlocks source offset blocks).flatMap Stretch.takenOver =
      Text.outside (blocks.filterMap replacedSpan?) offset (source.drop offset) := by
  induction blocks generalizing offset with
  | nil =>
      rw [Text.outside_eq_self (by simp)]
      simp [Stretch.ofBlocks, Stretch.takenOver]
  | cons block rest ih =>
      have hdrop := drop_eq h
      obtain ⟨hstart, hblock, hrest⟩ := h
      obtain ⟨hstop, hle, hlength⟩ := hblock.resultPlace
      have hlt := hblock.controlPoint_lt
      have hrest' := hrest.mono (le_max_left _ _)
      have hfront := slice_append_slice source hstart (hlt.le.trans hstop)
      have hplace := length_slice source (hstart.trans (hlt.le.trans hstop))
        (hle.trans hlength)
      have hend := hblock.length_slice
      rw [hdrop, ← List.append_assoc, hfront, Text.outside_append, Text.outside_append, hplace,
        hend]
      cases hreplaced : block.replacedSpan? with
      | none =>
          have hbehind : ∀ span ∈ rest.filterMap replacedSpan?, block.resultPlace.2 ≤ span.1 :=
            fun span hspan => hrest'.le_of_mem hspan
          rw [List.filterMap_cons_none hreplaced, ← ih hrest',
            Text.outside_eq_self fun span hspan => .inl
              (hplace.le.trans (hle.trans (hbehind span hspan))),
            Text.outside_eq_self fun span hspan => .inl (hend.le.trans (hbehind span hspan)),
            ← hfront]
          rw [Stretch.ofBlocks]
          simp only [List.flatMap_cons, takenOver_resultStretch_of_none hreplaced]
          simp [Stretch.takenOver]
      | some span =>
          obtain ⟨rfl, hnone⟩ := takenOver_resultStretch_of_some source hreplaced
          have hbefore : ∀ span ∈ block.resultPlace :: rest.filterMap replacedSpan?,
              block.resultPlace.1 ≤ span.1 := by
            intro span hspan
            rcases List.mem_cons.mp hspan with rfl | hspan
            · exact le_rfl
            · exact hle.trans (hrest'.le_of_mem hspan)
          rw [List.filterMap_cons_some hreplaced, Text.outside_cons le_rfl, ← ih hrest',
            Text.outside_eq_nil List.mem_cons_self le_rfl hend.le,
            Text.outside_eq_self fun span hspan => .inl (hplace.le.trans (hbefore span hspan)),
            ← hfront]
          rw [Stretch.ofBlocks]
          simp only [List.flatMap_cons, hnone]
          simp [Stretch.takenOver]

end QueryBlock

/-- A page whose places are in order is written as its source, copied from left to right. What
the copy takes over are the characters outside the regions that are replaced, and without what is
put in, with the old regions in place, it is the source. -/
theorem Page.toHtml_eq_stretches {page : Page} (h : page.PlacesOrdered) :
    page.toHtml = page.stretches.flatMap Stretch.written ∧
      page.stretches.flatMap Stretch.original = page.source ∧
      page.stretches.flatMap Stretch.takenOver = Text.outside page.replacedSpans 0 page.source := by
  have hinOrder := QueryBlock.inOrder_of_isChain h.within h.precedes fun _ _ => Nat.zero_le _
  refine ⟨?_, ?_, ?_⟩
  · rw [toHtml, Edit.applyAll_eq_splice (QueryBlock.ordered_edits hinOrder)
      (QueryBlock.stop_le_of_mem_edits hinOrder)]
    exact QueryBlock.splice_edits hinOrder
  · exact QueryBlock.original_ofBlocks hinOrder
  · exact QueryBlock.takenOver_ofBlocks hinOrder

/-- A block with a run button, a further control and a result in place of an old one, right
before a block without regions, which gets both. -/
theorem Page.toHtml_eq_stretches_two_blocks :
    let source := ("<pre class=\"ladybug-query\"><div class=\"buttons\"></div>" ++
      "<code>RETURN 1</code></pre>\n<div class=\"ladybug-result\">old</div>" ++
      "<pre class=\"ladybug-query\"><code>RETURN 2</code></pre>").toList
    let first : QueryBlock := ⟨"RETURN 1".toList, [], 27, 81,
      some ⟨[.run, ⟨"Copy".toList, .inert⟩], some ⟨48, true⟩⟩,
      some ⟨"new".toList, 2, some (82, 119)⟩⟩
    let second : QueryBlock := ⟨"RETURN 2".toList, [], 146, 173, some ⟨[.run], none⟩,
      some ⟨"running".toList, 1, none⟩⟩
    let page : Page := ⟨source, [first, second], [], true⟩
    page.PlacesOrdered ∧ page.replacedSpans = [(82, 119)] ∧
      page.toHtml = page.stretches.flatMap Stretch.written ∧
      page.stretches.flatMap Stretch.original = page.source := by
  intro source first second page
  have hwithin : ∀ block ∈ page.blocks, block.PlacesWithin page.source.length := by
    decide +kernel
  have hprecedes : page.blocks.IsChain QueryBlock.Precedes := by decide +kernel
  obtain ⟨hwritten, horiginal, -⟩ := toHtml_eq_stretches ⟨hwithin, hprecedes⟩
  exact ⟨⟨hwithin, hprecedes⟩, rfl, hwritten, horiginal⟩

end CypherPages
