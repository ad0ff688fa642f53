import CypherPages.Proofs.Html.Placed
import CypherPages.Proofs.Page.Fresh

/-! # The tags behind the places of a block

A reader of a page records offsets only. Here the tags that they come from are kept beside the
reader, so what a recorded offset means can be said in terms of a tag of the page. -/

namespace CypherPages
open Html

/-- A start tag of an element with a class. -/
def Html.Placed.Opens (placed : Placed) (name cls : Text) (attributes : Entries Text Text) :
    Prop :=
  ∃ given selfClosing, placed.token.event = .startTag name given selfClosing ∧
    attributes = Page.Reading.byName given ∧
    cls ∈ Text.words ((attributes.get? "class".toList).getD [])

/-- The tags that a query block and its regions start and end with. -/
structure BlockTags where
  opening : Placed
  closing : Placed
  /-- The start tag of the control region. -/
  controls : Option Placed
  /-- The first and the last tag of the result region. -/
  result : Option (Placed × Placed)

namespace BlockTags

/-- Just past a block and its result region. -/
def stop (tags : BlockTags) : ℕ :=
  match tags.result with
  | none => tags.closing.stop
  | some (_, closing) => closing.stop

/-- A block with its result region stands before another one. -/
def Precedes (tags next : BlockTags) : Prop := tags.stop ≤ next.opening.start

/-- The places of a block come from tags of the page. The block ends with the first tag that
closes an element of its kind, its result region with the one that matches its start tag. -/
structure Mark (line : List Placed) (tags : BlockTags) (block : QueryBlock) : Prop where
  opening_mem : tags.opening ∈ line
  opening_opens : tags.opening.Opens "pre".toList CodeBlock.publishedClass block.attributes
  closing_mem : tags.closing ∈ line
  closing_closes : tags.closing.Closes "pre".toList
  opening_le_closing : tags.opening.start ≤ tags.closing.start
  closing_first : ∀ tag ∈ line, tags.opening.start ≤ tag.start →
    tag.start < tags.closing.start → ¬ tag.Closes "pre".toList
  startTagEnd_eq : block.startTagEnd = tags.opening.stop
  stop_eq : block.stop = tags.closing.bracketEnd
  controls_mark : ∀ tag ∈ tags.controls, tag ∈ line ∧
    (∃ attributes, tag.Opens "div".toList ControlRegion.elementClass attributes) ∧
    tags.opening.start < tag.start ∧ tag.start < tags.closing.start
  insertAt_eq : block.controlRegion.existing.map ExistingControls.insertAt =
    tags.controls.map Placed.stop
  result_mark : ∀ region ∈ tags.result, region.1 ∈ line ∧ region.2 ∈ line ∧
    (∃ attributes, region.1.Opens "div".toList ResultRegion.elementClass attributes) ∧
    Placed.Matches line "div".toList region.1 region.2 ∧ tags.closing.stop ≤ region.1.start
  span_eq : block.resultRegion.span =
    tags.result.map fun region => (region.1.start, region.2.bracketEnd)

end BlockTags

/-- The places of an open block come from tags of the page, none of which closes it before
`limit`. -/
structure Page.OpenBlock.Mark (line : List Placed) (limit : ℕ) (opening : Placed)
    (controls : Option Placed) (block : OpenBlock) : Prop where
  opening_mem : opening ∈ line
  opening_opens : opening.Opens "pre".toList CodeBlock.publishedClass block.attributes
  opening_le : opening.start ≤ limit
  not_closes : ∀ tag ∈ line, opening.start ≤ tag.start → tag.start < limit →
    ¬ tag.Closes "pre".toList
  startTagEnd_eq : block.startTagEnd = opening.stop
  controls_mark : ∀ tag ∈ controls, tag ∈ line ∧
    (∃ attributes, tag.Opens "div".toList ControlRegion.elementClass attributes) ∧
    opening.start < tag.start ∧ tag.start ≤ limit
  controlsAt_eq : block.controlsAt = controls.map Placed.stop

/-- The region that is being read starts with a tag of the page. `depth` of the divisions that
start from there on and before `opened` are not closed before `limit`. -/
structure Page.ResultMark (line : List Placed) (opened limit start depth : ℕ) (opening : Placed) :
    Prop where
  opening_mem : opening ∈ line
  opening_opens : ∃ attributes, opening.Opens "div".toList ResultRegion.elementClass attributes
  start_eq : opening.start = start
  start_le : start ≤ limit
  depth_pos : 0 < depth
  depth_eq : Placed.count line (Placed.starts "div".toList) start opened =
    Placed.count line (Placed.ends "div".toList) start limit + depth
  unclosed : ∀ tag ∈ line, start ≤ tag.start → tag.start < limit →
    Placed.count line (Placed.ends "div".toList) start tag.stop <
      Placed.count line (Placed.starts "div".toList) start tag.stop

namespace Page.Reading

/-- What is known of the block or region that is being read, behind blocks with given tags.
Start tags are taken up before `opened`, tags that close an element before `limit`. -/
def MarkPlace (line : List Placed) (opened limit : ℕ) (tags : List BlockTags) : Place → Prop
  | .outside | .afterBlock _ => True
  | .inBlock block => ∃ opening controls, block.Mark line limit opening controls ∧
      ∀ own ∈ tags, own.stop ≤ opening.start
  | .inResult _ start depth => ∃ opening, ResultMark line opened limit start depth opening ∧
      ∀ own ∈ tags, own.stop ≤ start

/-- The tags of all closed blocks, in order and up to `limit`. -/
structure Mark (line : List Placed) (opened limit : ℕ) (tags : List BlockTags)
    (reading : Reading) : Prop where
  blocks : List.Forall₂ (BlockTags.Mark line) tags reading.blocks
  precedes : tags.Pairwise BlockTags.Precedes
  stop_le : ∀ own ∈ tags, own.stop ≤ limit
  place : MarkPlace line opened limit tags reading.place

end Page.Reading

namespace BlockTags

variable {line : List Placed} {own : BlockTags} {block : QueryBlock}

theorem Mark.closing_stop_le (h : own.Mark line block) (hline : Placed.InLine line) :
    own.closing.stop ≤ own.stop := by
  unfold stop
  cases hresult : own.result with
  | none => exact le_rfl
  | some region =>
      obtain ⟨-, hmem, -, hmatches, hbehind⟩ := h.result_mark region hresult
      exact hbehind.trans (hmatches.start_le.trans (hline.start_lt_stop hmem).le)

/-- The tag that closes a result region marks the block that the region belongs to. -/
theorem Mark.closeResult {opening tag : Placed} (h : own.Mark line block)
    (hline : Placed.InLine line) (hopening : opening ∈ line) (htag : tag ∈ line)
    (hopens : ∃ attributes, opening.Opens "div".toList ResultRegion.elementClass attributes)
    (hmatches : Placed.Matches line "div".toList opening tag)
    (hbehind : own.stop ≤ opening.start) :
    Mark line { own with result := some (opening, tag) }
      { block with
        result := some
          { ResultRegion.empty with span := some (opening.start, tag.bracketEnd) } } where
  opening_mem := h.opening_mem
  opening_opens := h.opening_opens
  closing_mem := h.closing_mem
  closing_closes := h.closing_closes
  opening_le_closing := h.opening_le_closing
  closing_first := h.closing_first
  startTagEnd_eq := h.startTagEnd_eq
  stop_eq := h.stop_eq
  controls_mark := h.controls_mark
  insertAt_eq := h.insertAt_eq
  result_mark := by
    intro region hregion
    obtain rfl := Option.some.inj hregion
    exact ⟨hopening, htag, hopens, hmatches, (h.closing_stop_le hline).trans hbehind⟩
  span_eq := rfl

end BlockTags

namespace Page

/-! ### Tags inside a block -/

variable {line : List Placed} {opened limit : ℕ} {tags : List BlockTags} {tag : Placed}
  {name : Text}

/-- The marks of an open block do not depend on its query. -/
theorem OpenBlock.Mark.congr {opening : Placed} {controls : Option Placed}
    {block other : OpenBlock} (h : block.Mark line limit opening controls)
    (hattributes : other.attributes = block.attributes)
    (hstart : other.startTagEnd = block.startTagEnd)
    (hcontrols : other.controlsAt = block.controlsAt) :
    other.Mark line limit opening controls where
  opening_mem := h.opening_mem
  opening_opens := by rw [hattributes]; exact h.opening_opens
  opening_le := h.opening_le
  not_closes := h.not_closes
  startTagEnd_eq := by rw [hstart, h.startTagEnd_eq]
  controls_mark := h.controls_mark
  controlsAt_eq := by rw [hcontrols, h.controlsAt_eq]

theorem OpenBlock.Mark.openInside {opening : Placed} {controls : Option Placed}
    {block : OpenBlock} {given : List (Text × Option Text)} {selfClosing : Bool}
    (h : block.Mark line tag.start opening controls) (hline : Placed.InLine line)
    (htag : tag ∈ line) (hevent : tag.token.event = .startTag name given selfClosing) :
    ∃ controls, (Reading.openInside block name (Text.words
      (((Reading.byName given).get? "class".toList).getD [])) tag.stop).Mark line tag.start
        opening controls := by
  unfold Reading.openInside
  split
  · exact ⟨controls, h.congr rfl rfl rfl⟩
  · split
    · next hdiv =>
        simp only [Bool.and_eq_true, beq_iff_eq, List.contains_iff_mem] at hdiv
        obtain ⟨⟨rfl, hclass⟩, -⟩ := hdiv
        refine ⟨some tag, ⟨h.1, h.2, h.3, h.4, h.5, ?_, rfl⟩⟩
        intro found hfound
        obtain rfl := Option.some.inj hfound
        refine ⟨htag, ⟨_, given, selfClosing, hevent, rfl, hclass⟩, ?_, le_rfl⟩
        refine lt_of_le_of_ne h.opening_le fun heq => ?_
        -- The block would have to start with the tag of its control region.
        obtain rfl := hline.eq_of_start_eq h.opening_mem htag heq
        obtain ⟨_, _, hopening, -⟩ := h.opening_opens
        rw [hevent] at hopening
        exact absurd (Event.startTag.inj hopening).1 (by decide)
    · split
      · exact ⟨controls, h.congr rfl rfl rfl⟩
      · exact ⟨controls, h⟩

/-- A token that does not close a block leaves its marks. -/
theorem OpenBlock.Mark.advance {opening : Placed} {controls : Option Placed} {block : OpenBlock}
    (h : block.Mark line tag.start opening controls) (hline : Placed.InLine line)
    (htag : tag ∈ line) (hopen : ¬ tag.Closes "pre".toList) :
    block.Mark line tag.stop opening controls where
  opening_mem := h.opening_mem
  opening_opens := h.opening_opens
  opening_le := h.opening_le.trans (hline.start_lt_stop htag).le
  not_closes := by
    intro other hother hle hbefore
    rcases hline.eq_or_apart hother htag with rfl | hstop | hstop
    · exact hopen
    · exact h.not_closes other hother hle ((hline.start_lt_stop hother).trans_le hstop)
    · omega
  startTagEnd_eq := h.startTagEnd_eq
  controls_mark := by
    intro found hfound
    obtain ⟨hmem, hopens, hbehind, hle⟩ := h.controls_mark found hfound
    exact ⟨hmem, hopens, hbehind, hle.trans (hline.start_lt_stop htag).le⟩
  controlsAt_eq := h.controlsAt_eq

/-- The tag that closes a block marks it, together with its start tag. -/
theorem OpenBlock.Mark.close {opening : Placed}
    {controls : Option Placed} {block : OpenBlock}
    (h : block.Mark line tag.start opening controls) (hline : Placed.InLine line)
    (htag : tag ∈ line) (hcloses : tag.Closes "pre".toList) :
    BlockTags.Mark line ⟨opening, tag, controls, none⟩ (block.close tag.bracketEnd) where
  opening_mem := h.opening_mem
  opening_opens := h.opening_opens
  closing_mem := htag
  closing_closes := hcloses
  opening_le_closing := h.opening_le
  closing_first := h.not_closes
  startTagEnd_eq := h.startTagEnd_eq
  stop_eq := rfl
  controls_mark := by
    intro found hfound
    obtain ⟨hmem, hopens, hbehind, hle⟩ := h.controls_mark found hfound
    refine ⟨hmem, hopens, hbehind, lt_of_le_of_ne hle fun heq => ?_⟩
    -- The start tag of a division closes no block.
    obtain rfl := hline.eq_of_start_eq hmem htag heq
    obtain ⟨_, _, _, hevent, -⟩ := hopens
    exact absurd (hcloses.name_eq_of_startTag hevent) (by decide)
  insertAt_eq := by
    rw [← h.controlsAt_eq]
    cases hcontrols : block.controlsAt <;>
      simp [OpenBlock.close, QueryBlock.controlRegion, ControlRegion.empty, hcontrols]
  result_mark := by simp
  span_eq := rfl

/-! ### Tags inside a result region -/

namespace ResultMark

variable {start depth : ℕ} {opening : Placed}

/-- A start tag of a division in a region. -/
theorem starts (h : ResultMark line tag.start tag.start start depth opening)
    (hline : Placed.InLine line) (htag : tag ∈ line) :
    ResultMark line tag.stop tag.start start
      (depth + (tag.starts "div".toList).toNat) opening where
  opening_mem := h.opening_mem
  opening_opens := h.opening_opens
  start_eq := h.start_eq
  start_le := h.start_le
  depth_pos := Nat.add_pos_left h.depth_pos _
  depth_eq := by rw [hline.count_stop htag _ h.start_le, h.depth_eq, Nat.add_assoc]
  unclosed := h.unclosed

/-- The tag that opens a region is the first division in it. -/
theorem of_opens {attributes : Entries Text Text} (hline : Placed.InLine line) (htag : tag ∈ line)
    (hopens : tag.Opens "div".toList ResultRegion.elementClass attributes) :
    ResultMark line tag.stop tag.start tag.start 1 tag where
  opening_mem := htag
  opening_opens := ⟨attributes, hopens⟩
  start_eq := rfl
  start_le := le_rfl
  depth_pos := Nat.one_pos
  depth_eq := by
    obtain ⟨given, selfClosing, hevent, -⟩ := hopens
    have hstarts : tag.starts "div".toList = true := by simp [Placed.starts, hevent]
    rw [hline.count_stop htag _ le_rfl, Placed.count_self, Placed.count_self, hstarts]
    rfl
  unclosed := by
    intro other _ hle hlt
    omega

/-- Behind a tag that leaves `left` divisions of a region open. -/
theorem advance {left : ℕ} (h : ResultMark line tag.stop tag.start start depth opening)
    (hline : Placed.InLine line) (htag : tag ∈ line) (hpos : 0 < left)
    (hleft : depth = left + (tag.ends "div".toList).toNat) :
    ResultMark line tag.stop tag.stop start left opening := by
  have hcount := hline.count_stop htag (Placed.ends "div".toList) h.start_le
  have hdepth := h.depth_eq
  refine ⟨h.opening_mem, h.opening_opens, h.start_eq,
    h.start_le.trans (hline.start_lt_stop htag).le, hpos, by omega, fun other hother hle hlt => ?_⟩
  rcases hline.eq_or_apart hother htag with rfl | hstop | hstop
  · omega
  · exact h.unclosed other hother hle ((hline.start_lt_stop hother).trans_le hstop)
  · omega

/-- The tag that closes the last division of a region matches the one that opens it. -/
theorem closes (h : ResultMark line tag.stop tag.start start 1 opening)
    (hline : Placed.InLine line) (htag : tag ∈ line) (hcloses : tag.Closes "div".toList) :
    Placed.Matches line "div".toList opening tag := by
  obtain ⟨-, -, rfl, hle, -, hdepth, hunclosed⟩ := h
  refine ⟨hcloses, hle, hunclosed, ?_⟩
  rw [hline.count_stop htag _ hle, Placed.ends_iff.mpr hcloses, hdepth]
  rfl

end ResultMark

namespace Reading

variable {reading : Reading}

/-! ### Start tags -/

theorem Mark.leaveBlock (h : reading.Mark line opened limit tags) :
    reading.leaveBlock.Mark line opened limit tags := by
  obtain ⟨hblocks, hprecedes, hstop, hplace⟩ := h
  refine ⟨by rwa [blocks_leaveBlock], hprecedes, hstop, ?_⟩
  obtain ⟨complete, place, capture, config⟩ := reading
  cases place with
  | afterBlock block => trivial
  | outside => trivial
  | inBlock block => exact hplace
  | inResult block start depth => exact hplace

/-- Start tags are counted in result regions only. -/
theorem MarkPlace.reopen {next : ℕ} {place : Place} (h : MarkPlace line opened limit tags place)
    (hout : ∀ block start depth, place ≠ .inResult block start depth) :
    MarkPlace line next limit tags place := by
  cases place with
  | outside => trivial
  | afterBlock block => trivial
  | inBlock block => exact h
  | inResult block start depth => exact absurd rfl (hout block start depth)

theorem markPlace_openElement {given : List (Text × Option Text)} {selfClosing : Bool}
    (h : reading.Mark line opened tag.start tags) (hline : Placed.InLine line) (htag : tag ∈ line)
    (hevent : tag.token.event = .startTag name given selfClosing) :
    MarkPlace line opened tag.start tags (reading.openElement name (byName given)
      (Text.words (((byName given).get? "class".toList).getD [])) tag.stop).place := by
  have hmark := h.place
  unfold openElement
  split
  · exact hmark
  · split
    · next block heq =>
        rw [heq] at hmark
        obtain ⟨opening, controls, hopen, hbehind⟩ := hmark
        obtain ⟨found, hfound⟩ := hopen.openInside hline htag hevent
        exact ⟨opening, found, hfound, hbehind⟩
    · split
      · next hpre =>
          simp only [Bool.and_eq_true, beq_iff_eq, List.contains_iff_mem] at hpre
          obtain ⟨rfl, hclass⟩ := hpre
          refine ⟨tag, none, ⟨htag, ⟨given, selfClosing, hevent, rfl, hclass⟩, le_rfl, ?_, rfl,
            by simp, rfl⟩, h.stop_le⟩
          intro other _ hle hlt
          omega
      · exact hmark

theorem Mark.startTag {given : List (Text × Option Text)} {selfClosing : Bool}
    (h : reading.Mark line tag.start tag.start tags) (hline : Placed.InLine line)
    (htag : tag ∈ line) (hevent : tag.token.event = .startTag name given selfClosing) :
    (reading.startTag name (byName given) tag.start tag.stop).Mark line tag.stop tag.start
      tags := by
  refine ⟨by rw [blocks_startTag]; exact h.blocks, h.precedes, h.stop_le, ?_⟩
  have hmark := h.place
  have hstarts : tag.starts "div".toList = (name == "div".toList) := by
    simp [Placed.starts, hevent]
  unfold Reading.startTag
  dsimp only
  split
  · next block start depth heq =>
      rw [heq] at hmark
      obtain ⟨opening, hresult, hbehind⟩ := hmark
      have hnext := hresult.starts hline htag
      rw [hstarts] at hnext
      split
      · next hdiv =>
          rw [hdiv] at hnext
          exact ⟨opening, hnext, hbehind⟩
      · next hdiv =>
          rw [Bool.not_eq_true] at hdiv
          rw [hdiv] at hnext
          rw [heq]
          exact ⟨opening, hnext, hbehind⟩
  · next block heq =>
      split
      · next hdiv =>
          simp only [Bool.and_eq_true, beq_iff_eq, List.contains_iff_mem] at hdiv
          obtain ⟨rfl, hclass⟩ := hdiv
          exact ⟨tag, .of_opens hline htag ⟨given, selfClosing, hevent, rfl, hclass⟩, h.stop_le⟩
      · have hleave : reading.leaveBlock.place = .outside := by rw [Reading.leaveBlock, heq]
        have hout := h.leaveBlock
        exact markPlace_openElement ⟨hout.blocks, hout.precedes, hout.stop_le,
          hout.place.reopen (by simp [hleave])⟩ hline htag hevent
  · next hout _ =>
      exact markPlace_openElement ⟨h.blocks, h.precedes, h.stop_le,
        h.place.reopen fun block start depth => hout block start depth⟩ hline htag hevent

/-- A token that is no start tag of a division. -/
theorem Mark.reopen (h : reading.Mark line tag.start tag.start tags) (hline : Placed.InLine line)
    (htag : tag ∈ line) (hstarts : tag.starts "div".toList = false) :
    reading.Mark line tag.stop tag.start tags := by
  refine ⟨h.blocks, h.precedes, h.stop_le, ?_⟩
  have hmark := h.place
  cases hplace : reading.place with
  | outside => trivial
  | afterBlock block => trivial
  | inBlock block =>
      rw [hplace] at hmark
      exact hmark
  | inResult block start depth =>
      rw [hplace] at hmark
      obtain ⟨opening, hresult, hbehind⟩ := hmark
      have hnext := hresult.starts hline htag
      rw [hstarts] at hnext
      exact ⟨opening, hnext, hbehind⟩

/-! ### Going on behind a tag -/

/-- A token that closes no block and no division leaves what is known of the block or the region
that is being read. -/
theorem Mark.advance (h : reading.Mark line tag.stop tag.start tags) (hline : Placed.InLine line)
    (htag : tag ∈ line)
    (hpre : ∀ block, reading.place = .inBlock block → ¬ tag.Closes "pre".toList)
    (hdiv : ∀ block start depth, reading.place = .inResult block start depth →
      ¬ tag.Closes "div".toList) : reading.Mark line tag.stop tag.stop tags := by
  have hlt := hline.start_lt_stop htag
  refine ⟨h.blocks, h.precedes, fun own hown => (h.stop_le own hown).trans hlt.le, ?_⟩
  have hmark := h.place
  cases hplace : reading.place with
  | outside => trivial
  | afterBlock block => trivial
  | inResult block start depth =>
      rw [hplace] at hmark
      obtain ⟨opening, hresult, hbehind⟩ := hmark
      have hends : tag.ends "div".toList = false := by
        rw [← Bool.not_eq_true, Placed.ends_iff]
        exact hdiv block start depth hplace
      exact ⟨opening, hresult.advance hline htag hresult.depth_pos (by rw [hends]; rfl), hbehind⟩
  | inBlock block =>
      rw [hplace] at hmark
      obtain ⟨opening, controls, hblock, hbehind⟩ := hmark
      exact ⟨opening, controls, hblock.advance hline htag (hpre block hplace), hbehind⟩

/-! ### End tags -/

/-- The last of the closed blocks and its tags. -/
theorem exists_last_of_forall₂ {complete : List QueryBlock} {block : QueryBlock}
    (h : List.Forall₂ (BlockTags.Mark line) tags (complete ++ [block])) :
    ∃ earlier own, tags = earlier ++ [own] ∧
      List.Forall₂ (BlockTags.Mark line) earlier complete ∧ own.Mark line block := by
  induction complete generalizing tags with
  | nil =>
      obtain ⟨own, rest, hown, hrest, rfl⟩ := List.forall₂_cons_right_iff.mp h
      obtain rfl := List.forall₂_nil_right_iff.mp hrest
      exact ⟨[], own, rfl, .nil, hown⟩
  | cons first complete ih =>
      obtain ⟨own, rest, hown, hrest, rfl⟩ := List.forall₂_cons_right_iff.mp h
      obtain ⟨earlier, last, rfl, hearlier, hlast⟩ := ih hrest
      exact ⟨own :: earlier, last, rfl, .cons hown hearlier, hlast⟩

/-- One more block behind the closed ones. -/
theorem mark_concat (own : BlockTags) {complete : List QueryBlock} {block : QueryBlock}
    (hblocks : List.Forall₂ (BlockTags.Mark line) tags complete)
    (hprecedes : tags.Pairwise BlockTags.Precedes)
    (hbehind : ∀ earlier ∈ tags, earlier.stop ≤ own.opening.start)
    (hstop : ∀ earlier ∈ tags, earlier.stop ≤ limit) (hown : own.Mark line block)
    (hlimit : own.stop ≤ limit) (hreading : reading.blocks = complete ++ [block])
    (hplace : MarkPlace line opened limit (tags ++ [own]) reading.place) :
    reading.Mark line opened limit (tags ++ [own]) where
  blocks := by
    rw [hreading]
    exact List.rel_append hblocks (.cons hown .nil)
  precedes := by
    refine List.pairwise_append.mpr ⟨hprecedes, List.pairwise_singleton _ _, ?_⟩
    intro earlier hearlier last hlast
    rw [List.mem_singleton.mp hlast]
    exact hbehind earlier hearlier
  stop_le := by
    intro found hfound
    rcases List.mem_append.mp hfound with hfound | hfound
    · exact hstop found hfound
    · rw [List.mem_singleton.mp hfound]
      exact hlimit
  place := hplace

theorem Mark.closeElement (h : reading.Mark line tag.stop tag.start tags)
    (hline : Placed.InLine line) (htag : tag ∈ line) (hcloses : tag.Closes name)
    (hout : ∀ block start depth, reading.place ≠ .inResult block start depth) :
    ∃ tags, (reading.closeElement name tag.bracketEnd).Mark line tag.stop tag.stop tags := by
  have hadvance (hpre : ∀ block, reading.place = .inBlock block → name ≠ "pre".toList) :
      reading.Mark line tag.stop tag.stop tags :=
    h.advance hline htag
      (fun block hplace hcontra => hpre block hplace (hcloses.name_eq hcontra))
      fun block start depth hplace => absurd hplace (hout block start depth)
  obtain ⟨complete, place, capture, config⟩ := reading
  unfold Reading.closeElement
  split
  · next content hcapture hscript =>
      obtain rfl := beq_iff_eq.mp hscript
      have hsame := hadvance fun _ _ => by decide
      exact ⟨tags, hsame.1, hsame.2, hsame.3, hsame.4⟩
  · cases place with
    | inBlock block =>
        dsimp only
        split
        · next hcode =>
            obtain rfl := beq_iff_eq.mp hcode
            obtain ⟨hblocks, hprecedes, hstop, opening, controls, hblock, hbehind⟩ :=
              hadvance fun _ _ => by decide
            exact ⟨tags, hblocks, hprecedes, hstop, opening, controls, hblock.congr rfl rfl rfl,
              hbehind⟩
        · split
          · next hpre =>
              obtain rfl := beq_iff_eq.mp hpre
              obtain ⟨hblocks, hprecedes, hstop, opening, controls, hblock, hbehind⟩ := h
              have hlt := hline.start_lt_stop htag
              exact ⟨tags ++ [⟨opening, tag, controls, none⟩],
                mark_concat ⟨opening, tag, controls, none⟩ hblocks hprecedes hbehind
                  (fun own hown => (hstop own hown).trans hlt.le)
                  (hblock.close hline htag hcloses) le_rfl rfl (by trivial)⟩
          · next hpre => exact ⟨tags, hadvance fun _ _ => by simpa using hpre⟩
    | outside => exact ⟨tags, hadvance (by simp)⟩
    | afterBlock block => exact ⟨tags, hadvance (by simp)⟩
    | inResult block start depth => exact absurd rfl (hout block start depth)

/-- The tag that closes the last division of a result region. -/
theorem Mark.closeResult {complete : List QueryBlock} {block : QueryBlock} {start : ℕ}
    {capture : Option Text} {config : Except Json.Failure (List (Text × Json))}
    (h : Reading.Mark line tag.stop tag.start tags
      ⟨complete, .inResult block start 1, capture, config⟩)
    (hline : Placed.InLine line) (htag : tag ∈ line) (hcloses : tag.Closes "div".toList) :
    ∃ tags, Reading.Mark line tag.stop tag.stop tags
      ⟨complete ++ [{ block with
        result := some { ResultRegion.empty with span := some (start, tag.bracketEnd) } }],
        .outside, capture, config⟩ := by
  obtain ⟨hblocks, hprecedes, hstop, opening, hresult, hbehind⟩ := h
  have hmatches := hresult.closes hline htag hcloses
  obtain ⟨hopening, hopens, rfl, -, -, -, -⟩ := hresult
  have hlt := hline.start_lt_stop htag
  obtain ⟨earlier, own, rfl, hearlier, hown⟩ := exists_last_of_forall₂ hblocks
  obtain ⟨hpairwise, -, hlast⟩ := List.pairwise_append.mp hprecedes
  have hclosed := hown.closeResult hline hopening htag hopens hmatches (hbehind own (by simp))
  have hbefore (found : BlockTags) (hfound : found ∈ earlier) : found.stop ≤ tag.stop :=
    (hstop found (List.mem_append_left _ hfound)).trans hlt.le
  exact ⟨earlier ++ [{ own with result := some (opening, tag) }],
    mark_concat { own with result := some (opening, tag) } hearlier hpairwise
      (fun found hfound => hlast found hfound own (by simp)) hbefore hclosed le_rfl rfl
      (by trivial)⟩

theorem Mark.endTag (h : reading.Mark line tag.stop tag.start tags) (hline : Placed.InLine line)
    (htag : tag ∈ line) (hcloses : tag.Closes name) :
    ∃ tags, (reading.endTag name tag.bracketEnd).Mark line tag.stop tag.stop tags := by
  obtain ⟨complete, place, capture, config⟩ := reading
  cases place with
  | outside | inBlock _ | afterBlock _ =>
      exact h.leaveBlock.closeElement hline htag hcloses (by simp [Reading.leaveBlock])
  | inResult block start depth =>
      simp only [Reading.endTag]
      split
      · next hdiv =>
          obtain rfl := beq_iff_eq.mp hdiv
          split
          · next hone =>
              subst hone
              exact h.closeResult hline htag hcloses
          · next hne =>
              have hlt := hline.start_lt_stop htag
              obtain ⟨hblocks, hprecedes, hstop, opening, hresult, hbehind⟩ := h
              have hpos := hresult.depth_pos
              have hleft : depth = depth - 1 + (tag.ends "div".toList).toNat := by
                rw [Placed.ends_iff.mpr hcloses, Bool.toNat_true]
                omega
              exact ⟨tags, hblocks, hprecedes, fun own hown => (hstop own hown).trans hlt.le,
                opening, hresult.advance hline htag (by omega) hleft, hbehind⟩
      · next hdiv =>
          refine ⟨tags, h.advance hline htag (by simp) fun _ _ _ _ hcontra => hdiv ?_⟩
          rw [hcloses.name_eq hcontra, beq_self_eq_true]

/-! ### All tokens -/

theorem Mark.text (h : reading.Mark line opened limit tags) (decoded : Text) :
    (reading.text decoded).Mark line opened limit tags := by
  refine ⟨by rw [blocks_text]; exact h.blocks, h.precedes, h.stop_le, ?_⟩
  have hmark := h.place
  unfold Reading.text
  split
  · exact hmark
  · split
    · next block hplace =>
        rw [hplace] at hmark
        split
        · rw [hplace]
          exact hmark
        · obtain ⟨opening, controls, hblock, hbehind⟩ := hmark
          exact ⟨opening, controls, hblock.congr rfl rfl rfl, hbehind⟩
    · split
      · exact hmark
      · exact h.leaveBlock.place
    · exact hmark

theorem Mark.token (h : reading.Mark line tag.start tag.start tags) (hline : Placed.InLine line)
    (htag : tag ∈ line) :
    ∃ tags, (reading.token tag.start tag.token).Mark line tag.stop tag.stop tags := by
  have hopen (hnone : ∀ name, ¬ tag.Closes name) {reading : Reading}
      (hreading : reading.Mark line tag.stop tag.start tags) :
      reading.Mark line tag.stop tag.stop tags :=
    hreading.advance hline htag (fun _ _ => hnone _) fun _ _ _ _ => hnone _
  unfold Reading.token
  cases hevent : tag.token.event with
  | text decoded =>
      have hstarts : tag.starts "div".toList = false := by simp [Placed.starts, hevent]
      exact ⟨tags, hopen (fun name hname => by simp [Placed.Closes, hevent] at hname)
        ((h.text decoded).reopen hline htag hstarts)⟩
  | skipped =>
      have hstarts : tag.starts "div".toList = false := by simp [Placed.starts, hevent]
      exact ⟨tags, hopen (fun name hname => by simp [Placed.Closes, hevent] at hname)
        (h.reopen hline htag hstarts)⟩
  | endTag name =>
      have hstarts : tag.starts "div".toList = false := by simp [Placed.starts, hevent]
      exact (h.reopen hline htag hstarts).endTag hline htag (.inl hevent)
  | startTag name given selfClosing =>
      have hopened := h.startTag hline htag hevent
      cases selfClosing with
      | true => exact hopened.endTag hline htag (.inr ⟨given, hevent⟩)
      | false =>
          exact ⟨tags, hopen (fun name hname => by simp [Placed.Closes, hevent] at hname) hopened⟩

theorem Mark.tokens {offset : ℕ} (h : reading.Mark line offset offset tags)
    (hline : Placed.InLine line) {tokens : List Token}
    (hmem : ∀ tag ∈ Placed.all offset tokens, tag ∈ line) :
    ∃ tags, (reading.tokens offset tokens).Mark line
      (offset + (tokens.flatMap Token.lexeme).length)
      (offset + (tokens.flatMap Token.lexeme).length) tags := by
  induction tokens generalizing reading offset tags with
  | nil => exact ⟨tags, h⟩
  | cons token rest ih =>
      have hfirst : reading.Mark line (⟨offset, token⟩ : Placed).start
          (⟨offset, token⟩ : Placed).start tags := h
      obtain ⟨after, hafter⟩ := hfirst.token hline (hmem _ List.mem_cons_self)
      obtain ⟨final, hfinal⟩ := ih hafter fun tag htag => hmem tag (List.mem_cons_of_mem _ htag)
      refine ⟨final, ?_⟩
      rw [List.flatMap_cons, List.length_append, ← Nat.add_assoc]
      exact hfinal

end Reading

/-- The blocks of a page that is read have their places from tags of the page. -/
theorem exists_tags_of_read {source : Text} {page : Page} (h : Page.read source = .ok page) :
    ∃ found tags, Html.tokens source = .ok found ∧
      List.Forall₂ (BlockTags.Mark (Placed.all 0 found)) tags page.blocks ∧
      tags.Pairwise BlockTags.Precedes := by
  obtain ⟨found, config, htokens, -, rfl⟩ := read_eq_ok_iff.mp h
  have hstart : Reading.start.Mark (Placed.all 0 found) 0 0 [] :=
    ⟨.nil, .nil, by simp, trivial⟩
  obtain ⟨tags, hmark⟩ :=
    hstart.tokens (Placed.inLine_of_tokens htokens) fun tag htag => htag
  exact ⟨found, tags, htokens, hmark.blocks, hmark.precedes⟩

end Page
end CypherPages
