import CypherPages.Proofs.Page.Outline
import CypherPages.Proofs.Page.Places
import CypherPages.Proofs.Results

/-! # The blocks that a reader finds

A reader that takes up what a page tells it finds the blocks of the page's outline: one lemma for
each thing that can come next in each place, then the parts of an outline, then the outline. -/

namespace CypherPages.Page
open Html

/-- A block whose end is not reached yet, with `inside` in it so far. -/
def openBlock (attributes : Entries Text Text) (startTagEnd : ℕ) (inside : List Occurrence) :
    OpenBlock where
  attributes := attributes
  startTagEnd := startTagEnd
  controlsAt := controlsAt inside
  hasRunButton := hasRunButton inside
  codeDepth := codeDepth inside
  query := query inside

/-- An open block after one more event inside it. `within` says that a configuration is being
read. -/
def OpenBlock.after (block : OpenBlock) (within : Bool) (event : Occurrence) : OpenBlock :=
  { block with
    controlsAt := block.controlsAt.or event.controlsStop?
    hasRunButton := block.hasRunButton || block.controlsAt.isSome && event.isRunButton
    codeDepth := event.depthAfter "code".toList block.codeDepth
    query := block.query ++ event.textIf (0 < block.codeDepth && !within) }

theorem openBlock_append_singleton (attributes : Entries Text Text) (startTagEnd : ℕ)
    (inside : List Occurrence) (event : Occurrence) :
    openBlock attributes startTagEnd (inside ++ [event]) =
      (openBlock attributes startTagEnd inside).after (inConfig inside) event := by
  unfold openBlock
  rw [codeDepth_append_singleton, query_append_singleton, controlsAt_append_singleton,
    hasRunButton_append_singleton]
  rfl

/-- The three kinds of start tags that count inside a block have different names. -/
theorem openInside_eq (block : OpenBlock) (within : Bool) (name : Text)
    (attributes : Entries Text Text) (start stop : ℕ) :
    Reading.openInside block name (Text.words ((attributes.get? "class".toList).getD [])) stop =
      block.after within (.opening name attributes start stop) := by
  obtain ⟨given, startTagEnd, found, button, depth, query⟩ := block
  let event := Occurrence.opening name attributes start stop
  have hread : Reading.openInside ⟨given, startTagEnd, found, button, depth, query⟩ name
      (Text.words ((attributes.get? "class".toList).getD [])) stop =
      if event.opens "code".toList then ⟨given, startTagEnd, found, button, depth + 1, query⟩
      else if event.opensControls && found.isNone then
        ⟨given, startTagEnd, some stop, button, depth, query⟩
      else if event.isRunButton && found.isSome then
        ⟨given, startTagEnd, found, true, depth, query⟩
      else ⟨given, startTagEnd, found, button, depth, query⟩ := rfl
  have hafter : OpenBlock.after ⟨given, startTagEnd, found, button, depth, query⟩ within event =
      ⟨given, startTagEnd, found.or (if event.opensControls then some stop else none),
        button || found.isSome && event.isRunButton,
        if event.opens "code".toList then depth + 1 else depth, query ++ []⟩ := rfl
  rw [hread, hafter, List.append_nil]
  cases hcode : event.opens "code".toList with
  | true =>
      have hcontrols : event.opensControls = false :=
        Occurrence.opensClass_of_opens hcode (by decide) _
      have hrun : event.isRunButton = false :=
        Occurrence.opensClass_of_opens hcode (by decide) _
      simp [hcontrols, hrun]
  | false =>
      cases hcontrols : event.opensControls with
      | true =>
          have hrun : event.isRunButton = false :=
            Occurrence.opensClass_of_opens (Occurrence.opens_of_opensClass hcontrols) (by decide) _
          cases found <;> simp [hrun]
      | false =>
          cases hrun : event.isRunButton <;> cases found <;> simp

theorem OpenBlock.after_closing (block : OpenBlock) (within : Bool) (name : Text) (stop : ℕ) :
    block.after within (.closing name stop) =
      if name == "code".toList then { block with codeDepth := block.codeDepth - 1 }
      else block := by
  obtain ⟨given, startTagEnd, found, button, depth, query⟩ := block
  have hafter : OpenBlock.after ⟨given, startTagEnd, found, button, depth, query⟩ within
      (.closing name stop) =
      ⟨given, startTagEnd, found.or none, button || found.isSome && false,
        if name == "code".toList then depth - 1 else depth, query ++ []⟩ := rfl
  rw [hafter, Option.or_none, Bool.and_false, Bool.or_false, List.append_nil]
  split
  · rfl
  · rfl

theorem OpenBlock.after_text (block : OpenBlock) (within : Bool) (decoded : Text) :
    block.after within (.text decoded) =
      if within = true ∨ block.codeDepth = 0 then block
      else { block with query := block.query ++ decoded } := by
  obtain ⟨given, startTagEnd, found, button, depth, query⟩ := block
  have hafter : OpenBlock.after ⟨given, startTagEnd, found, button, depth, query⟩ within
      (.text decoded) =
      ⟨given, startTagEnd, found.or none, button || found.isSome && false, depth,
        query ++ if 0 < depth && !within then decoded else []⟩ := rfl
  rw [hafter, Option.or_none, Bool.and_false, Bool.or_false]
  cases within with
  | true => simp
  | false =>
      by_cases hdepth : depth = 0
      · simp [hdepth]
      · simp [hdepth, Nat.pos_of_ne_zero hdepth]

/-- Where a reader stands with some blocks behind it, and whether it reads a configuration. -/
structure Reading.At (complete : List QueryBlock) (place : Place) (within : Bool)
    (reading : Reading) : Prop where
  complete : reading.complete = complete
  place : reading.place = place
  capture : reading.capture.isSome = within

namespace Reading.At

variable {reading : Reading} {complete : List QueryBlock} {within : Bool} {event : Occurrence}
  {block : QueryBlock}

theorem capture_eq_none {place : Place} (h : reading.At complete place false) :
    reading.capture = none :=
  Option.isNone_iff_eq_none.mp (Option.isSome_eq_false_iff.mp h.capture)

/-! ### One event -/

/-- The start tag of a configuration starts one and does nothing else. -/
theorem openElement_config {place : Place} (h : reading.At complete place within) {name : Text}
    {attributes : Entries Text Text} {start stop : ℕ}
    (hconfig : (Occurrence.opening name attributes start stop).opensConfig = true)
    (classes : List Text) :
    (reading.openElement name attributes classes stop).At complete place true := by
  have htaken : reading.openElement name attributes classes stop =
      { reading with capture := some [] } := if_pos hconfig
  rw [htaken]
  exact ⟨h.complete, h.place, rfl⟩

theorem endCapture {place : Place} (h : reading.At complete place within) (content : Text) :
    (reading.endCapture content).At complete place false :=
  ⟨h.complete, h.place, rfl⟩

/-- The end tag of a script ends a configuration and nothing else. -/
theorem closeElement_script {place : Place} (h : reading.At complete place within) (stop : ℕ) :
    (reading.closeElement "script".toList stop).At complete place false := by
  cases hcapture : reading.capture with
  | some content =>
      unfold Reading.closeElement
      rw [hcapture]
      exact h.endCapture content
  | none =>
      have hsame : reading.closeElement "script".toList stop = reading := by
        unfold Reading.closeElement
        rw [hcapture]
        dsimp only
        split
        · rfl
        · rfl
      rw [hsame]
      exact ⟨h.complete, h.place, by rw [hcapture]; rfl⟩

/-- Other end tags only count inside a block. -/
theorem closeElement_of_ne {name : Text} (h : (name == "script".toList) = false)
    (reading : Reading) (stop : ℕ) :
    reading.closeElement name stop =
      match reading.place with
      | .inBlock block =>
        if name == "code".toList then
          { reading with place := .inBlock { block with codeDepth := block.codeDepth - 1 } }
        else if name == "pre".toList then
          { reading with place := .afterBlock (block.close stop) }
        else reading
      | _ => reading := by
  unfold Reading.closeElement
  rw [h]
  cases reading.capture with
  | none => rfl
  | some content => rfl

/-- Outside all blocks a reader finds configurations only. -/
theorem outside (h : reading.At complete .outside within) (hblock : event.opensBlock = false) :
    (reading.take event).At complete .outside (event.configAfter within) := by
  obtain ⟨found, place, capture, config⟩ := reading
  obtain ⟨rfl, rfl, rfl⟩ := h
  cases event with
  | opening name attributes start stop =>
      rw [Occurrence.configAfter_opening]
      cases hconfig : (Occurrence.opening name attributes start stop).opensConfig with
      | true => exact openElement_config ⟨rfl, rfl, rfl⟩ hconfig _
      | false =>
          have htaken : take ⟨found, .outside, capture, config⟩
              (.opening name attributes start stop) = ⟨found, .outside, capture, config⟩ :=
            (if_neg (ne_true_of_eq_false hconfig)).trans (if_neg (ne_true_of_eq_false hblock))
          rw [htaken]
          exact ⟨rfl, rfl, rfl⟩
  | closing name stop =>
      cases hscript : name == "script".toList with
      | true =>
          obtain rfl := eq_of_beq hscript
          rw [Occurrence.configAfter_script]
          exact closeElement_script ⟨rfl, rfl, rfl⟩ stop
      | false =>
          rw [Occurrence.configAfter_closing _ hscript]
          have htaken : take ⟨found, .outside, capture, config⟩ (.closing name stop) =
              ⟨found, .outside, capture, config⟩ :=
            closeElement_of_ne hscript _ stop
          rw [htaken]
          exact ⟨rfl, rfl, rfl⟩
  | text decoded =>
      rw [Occurrence.configAfter_text]
      cases capture with
      | none => exact ⟨rfl, rfl, rfl⟩
      | some content => exact ⟨rfl, rfl, rfl⟩

/-- Inside a block a reader looks for code, controls and configurations. -/
theorem inBlock {block : OpenBlock} (h : reading.At complete (.inBlock block) within)
    (hclosed : event.closes "pre".toList = false) :
    (reading.take event).At complete (.inBlock (block.after within event))
      (event.configAfter within) := by
  obtain ⟨found, place, capture, config⟩ := reading
  obtain ⟨rfl, rfl, rfl⟩ := h
  cases event with
  | opening name attributes start stop =>
      rw [Occurrence.configAfter_opening]
      cases hconfig : (Occurrence.opening name attributes start stop).opensConfig with
      | true =>
          obtain rfl := eq_script_of_opensConfig hconfig
          rw [← openInside_eq]
          exact openElement_config ⟨rfl, rfl, rfl⟩ hconfig _
      | false =>
          have htaken : take ⟨found, .inBlock block, capture, config⟩
              (.opening name attributes start stop) =
                ⟨found, .inBlock (Reading.openInside block name _ stop), capture, config⟩ :=
            if_neg (ne_true_of_eq_false hconfig)
          rw [htaken, openInside_eq block capture.isSome name attributes start stop]
          exact ⟨rfl, rfl, rfl⟩
  | closing name stop =>
      rw [OpenBlock.after_closing]
      cases hscript : name == "script".toList with
      | true =>
          obtain rfl := eq_of_beq hscript
          rw [Occurrence.configAfter_script]
          exact closeElement_script ⟨rfl, rfl, rfl⟩ stop
      | false =>
          have hpre : (name == "pre".toList) = false := hclosed
          have htaken : take ⟨found, .inBlock block, capture, config⟩ (.closing name stop) = _ :=
            closeElement_of_ne hscript _ stop
          rw [Occurrence.configAfter_closing _ hscript, htaken, hpre]
          dsimp only
          split
          · exact ⟨rfl, rfl, rfl⟩
          · exact ⟨rfl, rfl, rfl⟩
  | text decoded =>
      rw [Occurrence.configAfter_text, OpenBlock.after_text]
      cases capture with
      | some content => exact ⟨rfl, rfl, rfl⟩
      | none =>
          simp only [take, text, Option.isSome_none, Bool.false_eq_true, false_or]
          split
          · exact ⟨rfl, rfl, rfl⟩
          · exact ⟨rfl, rfl, rfl⟩

theorem opening (h : reading.At complete .outside false) {name : Text}
    {attributes : Entries Text Text} {start stop : ℕ}
    (hblock : (Occurrence.opening name attributes start stop).opensBlock = true) :
    (reading.take (.opening name attributes start stop)).At complete
      (.inBlock (openBlock attributes stop [])) false := by
  obtain ⟨found, place, capture, config⟩ := reading
  obtain ⟨rfl, rfl, hcapture⟩ := h
  have hconfig : (Occurrence.opening name attributes start stop).opensConfig = false :=
    Occurrence.opensConfig_of_opens (Occurrence.opens_of_opensClass hblock) (by decide)
  have htaken : take ⟨found, .outside, capture, config⟩ (.opening name attributes start stop) =
      ⟨found, .inBlock (openBlock attributes stop []), capture, config⟩ :=
    (if_neg (ne_true_of_eq_false hconfig)).trans (if_pos hblock)
  rw [htaken]
  exact ⟨rfl, rfl, hcapture⟩

theorem closing {block : OpenBlock} (h : reading.At complete (.inBlock block) within) (stop : ℕ) :
    (reading.take (.closing "pre".toList stop)).At complete (.afterBlock (block.close stop))
      within := by
  obtain ⟨found, place, capture, config⟩ := reading
  obtain ⟨rfl, rfl, hcapture⟩ := h
  have htaken : take ⟨found, .inBlock block, capture, config⟩ (.closing "pre".toList stop) =
      ⟨found, .afterBlock (block.close stop), capture, config⟩ :=
    closeElement_of_ne rfl _ stop
  rw [htaken]
  exact ⟨rfl, rfl, hcapture⟩

theorem opensRegion (h : reading.At complete (.afterBlock block) within) {name : Text}
    {attributes : Entries Text Text} {start stop : ℕ}
    (hregion : (Occurrence.opening name attributes start stop).opensRegion = true) :
    (reading.take (.opening name attributes start stop)).At complete (.inResult block start 1)
      within := by
  obtain ⟨found, place, capture, config⟩ := reading
  obtain ⟨rfl, rfl, hcapture⟩ := h
  have htaken : take ⟨found, .afterBlock block, capture, config⟩
      (.opening name attributes start stop) = ⟨found, .inResult block start 1, capture, config⟩ :=
    if_pos hregion
  rw [htaken]
  exact ⟨rfl, rfl, hcapture⟩

theorem leaveBlock (h : reading.At complete (.afterBlock block) within) :
    reading.leaveBlock.At (complete ++ [block]) .outside within := by
  obtain ⟨found, place, capture, config⟩ := reading
  obtain ⟨rfl, rfl, hcapture⟩ := h
  exact ⟨rfl, rfl, hcapture⟩

/-- Blank text behind a block keeps a reader there. -/
theorem take_blank (h : reading.At complete (.afterBlock block) false)
    (hblank : event.isBlank = true) :
    reading.take event = reading ∧ reading.leaveBlock.take event = reading.leaveBlock := by
  have hcapture := h.capture_eq_none
  obtain ⟨found, place, capture, config⟩ := reading
  obtain ⟨rfl, rfl, -⟩ := h
  obtain rfl : capture = none := hcapture
  cases event with
  | opening name attributes start stop => cases hblank
  | closing name stop => cases hblank
  | text decoded => exact ⟨if_pos hblank, rfl⟩

/-- Anything else behind a block, other than the start of a result region, makes a reader leave
the block. -/
theorem take_leaveBlock (h : reading.At complete (.afterBlock block) false)
    (hblank : event.isBlank = false) (hregion : event.opensRegion = false) :
    reading.take event = reading.leaveBlock.take event := by
  have hcapture := h.capture_eq_none
  obtain ⟨found, place, capture, config⟩ := reading
  obtain ⟨rfl, rfl, -⟩ := h
  obtain rfl : capture = none := hcapture
  cases event with
  | opening name attributes start stop => exact if_neg (ne_true_of_eq_false hregion)
  | closing name stop => rfl
  | text decoded => exact if_neg (ne_true_of_eq_false hblank)

/-- In a result region a reader counts the divisions that are open. -/
theorem inResult {start depth : ℕ} (h : reading.At complete (.inResult block start depth) within)
    (hpos : 0 < event.depthAfter "div".toList depth) :
    (reading.take event).At complete
      (.inResult block start (event.depthAfter "div".toList depth)) within := by
  obtain ⟨found, place, capture, config⟩ := reading
  obtain ⟨rfl, rfl, hcapture⟩ := h
  cases event with
  | opening name attributes first stop =>
      have htaken : take ⟨found, .inResult block start depth, capture, config⟩
          (.opening name attributes first stop) =
            if name == "div".toList then ⟨found, .inResult block start (depth + 1), capture, config⟩
            else ⟨found, .inResult block start depth, capture, config⟩ := rfl
      have hdepth : (Occurrence.opening name attributes first stop).depthAfter "div".toList depth =
          if name == "div".toList then depth + 1 else depth := rfl
      rw [htaken, hdepth]
      split
      · exact ⟨rfl, rfl, hcapture⟩
      · exact ⟨rfl, rfl, hcapture⟩
  | closing name stop =>
      have hdepth : (Occurrence.closing name stop).depthAfter "div".toList depth =
          if name == "div".toList then depth - 1 else depth := rfl
      rw [hdepth] at hpos ⊢
      split at hpos
      · next hdiv =>
          have htaken : take ⟨found, .inResult block start depth, capture, config⟩
              (.closing name stop) = ⟨found, .inResult block start (depth - 1), capture, config⟩ :=
            (if_pos hdiv).trans (if_neg (by omega))
          rw [htaken, if_pos hdiv]
          exact ⟨rfl, rfl, hcapture⟩
      · next hdiv =>
          have htaken : take ⟨found, .inResult block start depth, capture, config⟩
              (.closing name stop) = ⟨found, .inResult block start depth, capture, config⟩ :=
            if_neg hdiv
          rw [htaken, if_neg hdiv]
          exact ⟨rfl, rfl, hcapture⟩
  | text decoded =>
      cases capture with
      | none => exact ⟨rfl, rfl, hcapture⟩
      | some content => exact ⟨rfl, rfl, hcapture⟩

/-- The end tag of the last division ends a result region. -/
theorem closesRegion {start : ℕ} (h : reading.At complete (.inResult block start 1) within)
    (stop : ℕ) : (reading.take (.closing "div".toList stop)).At
      (complete ++
        [{ block with result := some { ResultRegion.empty with span := some (start, stop) } }])
      .outside within := by
  obtain ⟨found, place, capture, config⟩ := reading
  obtain ⟨rfl, rfl, hcapture⟩ := h
  exact ⟨rfl, rfl, hcapture⟩

/-! ### One part of an outline -/

theorem outside_all (h : reading.At complete .outside within) {before : List Occurrence}
    (hbefore : ∀ event ∈ before, event.opensBlock = false) :
    (reading.takeAll before).At complete .outside
      (before.foldl Occurrence.configAfter within) := by
  induction before generalizing reading within with
  | nil => exact h
  | cons event before ih =>
      obtain ⟨hevent, hbefore⟩ := List.forall_mem_cons.mp hbefore
      exact ih (h.outside hevent) hbefore

theorem inBlock_all {attributes : Entries Text Text} {startTagEnd : ℕ}
    (h : reading.At complete (.inBlock (openBlock attributes startTagEnd [])) false)
    {inside : List Occurrence} (hinside : ∀ event ∈ inside, event.closes "pre".toList = false) :
    (reading.takeAll inside).At complete (.inBlock (openBlock attributes startTagEnd inside))
      (inConfig inside) := by
  induction inside using List.reverseRecOn with
  | nil => exact h
  | append_singleton inside event ih =>
      rw [List.forall_mem_append, List.forall_mem_singleton] at hinside
      rw [takeAll_append, openBlock_append_singleton, inConfig_append_singleton]
      exact (ih hinside.1).inBlock hinside.2

theorem gap_all (h : reading.At complete (.afterBlock block) false) {gap : List Occurrence}
    (hgap : ∀ event ∈ gap, event.isBlank = true) : reading.takeAll gap = reading := by
  induction gap with
  | nil => rfl
  | cons event gap ih =>
      obtain ⟨hevent, hgap⟩ := List.forall_mem_cons.mp hgap
      rw [takeAll_cons, (h.take_blank hevent).1]
      exact ih hgap

theorem inResult_all {start : ℕ} (h : reading.At complete (.inResult block start 1) within)
    {area : List Occurrence} (harea : StaysOpen area) :
    (reading.takeAll area).At complete
      (.inResult block start (1 + area.countP (Occurrence.opens "div".toList) -
        area.countP (Occurrence.closes "div".toList))) within := by
  induction area using List.reverseRecOn with
  | nil => exact h
  | append_singleton area event ih =>
      have hfront := harea area (List.prefix_append area [event])
      have hall := harea (area ++ [event]) (List.prefix_refl _)
      have hbefore := ih fun front hfirst => harea front (hfirst.trans (List.prefix_append _ _))
      rw [countP_append_singleton, countP_append_singleton] at hall ⊢
      have hdepth : event.depthAfter "div".toList
          (1 + area.countP (Occurrence.opens "div".toList) -
            area.countP (Occurrence.closes "div".toList)) =
          1 + (area.countP (Occurrence.opens "div".toList) + (event.opens "div".toList).toNat) -
            (area.countP (Occurrence.closes "div".toList) +
              (event.closes "div".toList).toNat) := by
        rw [Occurrence.depthAfter_eq]
        omega
      rw [takeAll_append, ← hdepth]
      exact hbefore.inResult (by rw [hdepth]; omega)

/-- If no result region follows a block, a reader finds the same blocks behind it and outside. -/
theorem blocks_leaveBlock (h : reading.At complete (.afterBlock block) false)
    {events : List Occurrence} (hregion : ∀ start area, ¬ RegionStart events start area) :
    (reading.takeAll events).blocks = (reading.leaveBlock.takeAll events).blocks := by
  induction events with
  | nil => exact (Reading.blocks_leaveBlock reading).symm
  | cons event rest ih =>
      rw [takeAll_cons, takeAll_cons]
      cases hblank : event.isBlank with
      | true =>
          obtain ⟨hsame, hleft⟩ := h.take_blank hblank
          rw [hsame, hleft]
          refine ih fun start area => ?_
          rintro ⟨gap, name, attributes, stop, rfl, hgap, hopens⟩
          exact hregion start area ⟨event :: gap, name, attributes, stop, rfl,
            List.forall_mem_cons.mpr ⟨hblank, hgap⟩, hopens⟩
      | false =>
          have hevent : event.opensRegion = false := by
            rw [← Bool.not_eq_true]
            intro hopens
            cases event with
            | opening name attributes start stop =>
                exact hregion start rest ⟨[], name, attributes, stop, rfl, nofun, hopens⟩
            | closing name stop => cases hopens
            | text decoded => cases hopens
          rw [h.take_leaveBlock hblank hevent]

variable {events rest inside after area beyond : List Occurrence}
  {attributes : Entries Text Text} {startTagEnd stop start : ℕ}

theorem blockStart (h : reading.At complete .outside false) (hguards : GuardsConfig false events)
    (hstart : BlockStart events attributes startTagEnd rest) :
    ∃ next : Reading, next.At complete (.inBlock (openBlock attributes startTagEnd [])) false ∧
      reading.takeAll events = next.takeAll rest ∧ GuardsConfig false rest := by
  obtain ⟨before, name, first, rfl, hbefore, hopens⟩ := hstart
  obtain ⟨hwithin, hrest⟩ := hguards.at_tag rfl
    (Occurrence.opensConfig_of_opens (Occurrence.opens_of_opensClass hopens) (by decide))
  have hfront := h.outside_all hbefore
  rw [hwithin] at hfront
  exact ⟨_, hfront.opening hopens, takeAll_append .., hrest⟩

theorem blockEnd (h : reading.At complete (.inBlock (openBlock attributes startTagEnd [])) false)
    (hguards : GuardsConfig false rest) (hend : BlockEnd rest inside stop after) :
    ∃ next : Reading,
      next.At complete (.afterBlock (describe attributes startTagEnd inside stop none)) false ∧
      reading.takeAll rest = next.takeAll after ∧ GuardsConfig false after := by
  obtain ⟨rfl, hinside⟩ := hend
  obtain ⟨hwithin, hafter⟩ := hguards.at_tag rfl rfl
  have hblock := h.inBlock_all hinside
  rw [inConfig, hwithin] at hblock
  exact ⟨_, hblock.closing stop, takeAll_append .., hafter⟩

theorem regionStart (h : reading.At complete (.afterBlock block) false)
    (hguards : GuardsConfig false after) (hregion : RegionStart after start area) :
    ∃ next : Reading, next.At complete (.inResult block start 1) false ∧
      reading.takeAll after = next.takeAll area ∧ GuardsConfig false area := by
  obtain ⟨gap, name, given, last, rfl, hgap, hopens⟩ := hregion
  obtain ⟨-, harea⟩ := hguards.at_tag rfl
    (Occurrence.opensConfig_of_opens (Occurrence.opens_of_opensClass hopens) (by decide))
  refine ⟨_, h.opensRegion hopens, ?_, harea⟩
  rw [takeAll_append, h.gap_all hgap, takeAll_cons]

theorem regionEnd (h : reading.At complete (.inResult block start 1) false)
    (hguards : GuardsConfig false area) (hclosed : RegionEnd area stop beyond) :
    ∃ next : Reading, next.At
      (complete ++
        [{ block with result := some { ResultRegion.empty with span := some (start, stop) } }])
      .outside false ∧ reading.takeAll area = next.takeAll beyond ∧ GuardsConfig false beyond := by
  obtain ⟨body, rfl, hbody, hcount⟩ := hclosed
  obtain ⟨-, hbeyond⟩ := hguards.at_tag rfl rfl
  have hlast := h.inResult_all hbody
  rw [hcount, Nat.add_sub_cancel] at hlast
  exact ⟨_, hlast.closesRegion stop, takeAll_append .., hbeyond⟩

/-! ### Outlines -/

/-- A reader outside all blocks finds the blocks of the outline of what it is told. -/
theorem blocks_of_outline {blocks : List QueryBlock} (houtline : Outline events blocks)
    (h : reading.At complete .outside false) (hguards : GuardsConfig false events) :
    (reading.takeAll events).blocks = complete ++ blocks := by
  induction houtline generalizing reading complete with
  | none hnone =>
      have hall := h.outside_all hnone
      rw [Reading.blocks, hall.place, hall.complete, List.append_nil]
  | unclosed hstart hopen =>
      obtain ⟨next, hnext, htoBlock, -⟩ := h.blockStart hguards hstart
      have hall := hnext.inBlock_all hopen
      rw [htoBlock, Reading.blocks, hall.place, hall.complete, List.append_nil]
  | alone hstart hend hregion _ ih =>
      obtain ⟨inner, hinner, htoBlock, hrest⟩ := h.blockStart hguards hstart
      obtain ⟨next, hnext, htoEnd, hafter⟩ := hinner.blockEnd hrest hend
      rw [htoBlock, htoEnd, hnext.blocks_leaveBlock hregion, ih hnext.leaveBlock hafter,
        List.append_assoc, List.singleton_append]
  | attached hstart hend hregion hclosed _ ih =>
      obtain ⟨inner, hinner, htoBlock, hrest⟩ := h.blockStart hguards hstart
      obtain ⟨behind, hbehind, htoEnd, hafter⟩ := hinner.blockEnd hrest hend
      obtain ⟨region, hfirst, htoRegion, harea⟩ := hbehind.regionStart hafter hregion
      obtain ⟨next, hnext, htoNext, hbeyond⟩ := hfirst.regionEnd harea hclosed
      rw [htoBlock, htoEnd, htoRegion, htoNext, ih hnext hbeyond, List.append_assoc,
        List.singleton_append]
      rfl
  | unbounded hstart hend hregion hopen =>
      obtain ⟨inner, hinner, htoBlock, hrest⟩ := h.blockStart hguards hstart
      obtain ⟨behind, hbehind, htoEnd, hafter⟩ := hinner.blockEnd hrest hend
      obtain ⟨region, hfirst, htoRegion, -⟩ := hbehind.regionStart hafter hregion
      have hall := hfirst.inResult_all hopen
      rw [htoBlock, htoEnd, htoRegion, Reading.blocks, hall.place, hall.complete]

end Reading.At

/-- Blocks with their result regions stand one behind the other. -/
theorem pairwise_behind_of_read {source : Text} {page : Page} (h : Page.read source = .ok page) :
    page.blocks.Pairwise fun block next => block.stop < next.startTagEnd ∧
      ∀ span ∈ block.resultRegion.span, span.2 < next.startTagEnd := by
  obtain ⟨found, tags, htokens, hmark, hprecedes⟩ := exists_tags_of_read h
  have hline := Placed.inLine_of_tokens htokens
  exact pairwise_of_forall₂ hmark hprecedes fun own block later next hown hlater hbefore =>
    hown.behind hlater hline hbefore

/-- What a source tells has one outline: the blocks that a reader of it finds. -/
theorem outline_iff {source : Text} {found : List Token} (htokens : Html.tokens source = .ok found)
    (blocks : List QueryBlock) : Outline (occurrences 0 found) blocks ↔
      blocks = (Reading.start.tokens 0 found).blocks := by
  have hguards : GuardsConfig false (occurrences 0 found) :=
    guardsConfig_tokensIn htokens (fun htrue => absurd htrue Bool.false_ne_true) 0
  have hstart : Reading.start.At [] .outside false := ⟨rfl, rfl, rfl⟩
  have hread : ∀ blocks, Outline (occurrences 0 found) blocks →
      blocks = (Reading.start.tokens 0 found).blocks := by
    intro blocks houtline
    rw [Reading.tokens_eq_takeAll]
    exact (hstart.blocks_of_outline houtline hguards).symm
  constructor
  · exact hread blocks
  · rintro rfl
    obtain ⟨own, hown⟩ := exists_outline (occurrences 0 found)
    rwa [← hread own hown]

/-- The blocks of a page that was read are those of its outline. -/
theorem outline_of_read {source : Text} {page : Page} (h : Page.read source = .ok page) :
    ∃ found, Html.tokens source = .ok found ∧ Outline (occurrences 0 found) page.blocks := by
  obtain ⟨found, config, htokens, -, rfl⟩ := read_eq_ok_iff.mp h
  exact ⟨found, htokens, (outline_iff htokens _).mpr rfl⟩

/-- The blocks of a page are those of the outline of what it tells, in order, whatever its markup.
They stand one behind the other, each of them behind the result regions before it. -/
theorem read_outline {source : Text} {page : Page} (h : Page.read source = .ok page) :
    ∃ found, Html.tokens source = .ok found ∧
      (∀ blocks, Outline (occurrences 0 found) blocks ↔ blocks = page.blocks) ∧
      page.blocks.Pairwise fun block next => block.stop < next.startTagEnd ∧
        ∀ span ∈ block.resultRegion.span, span.2 < next.startTagEnd := by
  have hbehind := pairwise_behind_of_read h
  obtain ⟨found, config, htokens, -, rfl⟩ := read_eq_ok_iff.mp h
  exact ⟨found, htokens, outline_iff htokens, hbehind⟩

/-- A block that holds an end tag too many, a configuration that cannot be read and another start
tag of a block, with a result region that holds a division and a block; a block that is one tag, in
front of a region that is not its own; and a block that is never closed. -/
theorem read_outline_malformed :
    let source := "<pre class=\"ladybug-query\"></code><code>A<script id=\"".toList ++
      Dependency.configId ++
      "\">\ufeff</script></code>x<code>B<pre class=\"ladybug-query\">".toList ++
      "</code></pre> <div class=\"ladybug-result\"><div><pre class=\"ladybug-query\">".toList ++
      "</pre></div></div><pre class=\"ladybug-query\"/>y<div class=\"ladybug-result\">".toList ++
      "</div><pre class=\"ladybug-query\"><code>C".toList
    ∃ page found, Page.read source = .ok page ∧ Html.tokens source = .ok found ∧
      (∀ blocks, Outline (occurrences 0 found) blocks ↔ blocks = page.blocks) ∧
      (page.blocks.Pairwise fun block next => block.stop < next.startTagEnd ∧
        ∀ span ∈ block.resultRegion.span, span.2 < next.startTagEnd) ∧
      page.blocks.map (fun block => (block.query, block.stop, block.resultRegion.span)) =
        [("AB".toList, 140, some (141, 219)), ([], 247, none)] := by
  intro source
  have hread : (Page.read source).toOption.map
      (fun page => page.blocks.map fun block =>
        (block.query, block.stop, block.resultRegion.span)) =
        some [("AB".toList, 140, some (141, 219)), ([], 247, none)] := by
    decide +kernel
  obtain ⟨page, hpage, hview⟩ := exists_of_toOption_map hread
  obtain ⟨found, htokens, houtline, hbehind⟩ := Page.read_outline hpage
  exact ⟨page, found, hpage, htokens, houtline, hbehind, hview⟩

end CypherPages.Page
