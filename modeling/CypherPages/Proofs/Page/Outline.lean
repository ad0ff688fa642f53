import CypherPages.Proofs.Page.Occurrences

/-! # The outline of a page

What a page tells a reader falls into query blocks and what stands between them. A block goes from
its start tag to the next end tag of its kind, and a result region that is closed belongs to the
block right in front of it. Nothing inside a block or a region starts another block. -/

namespace CypherPages.Page
open Html

/-! ### What a block holds -/

namespace Occurrence

def opensControls : Occurrence → Bool := opensClass "div".toList ControlRegion.elementClass

def isRunButton : Occurrence → Bool := opensClass "button".toList Control.buttonClass

/-- Just past the start tag of a control region. -/
def controlsStop? : Occurrence → Option ℕ
  | .opening name attributes start stop =>
    if (opening name attributes start stop).opensControls then some stop else none
  | _ => none

/-- How many elements of a name are open after an event. An end tag too many does not count. -/
def depthAfter (name : Text) (depth : ℕ) (event : Occurrence) : ℕ :=
  if event.opens name then depth + 1 else if event.closes name then depth - 1 else depth

theorem depthAfter_eq (name : Text) (depth : ℕ) (event : Occurrence) :
    event.depthAfter name depth =
      depth + (event.opens name).toNat - (event.closes name).toNat := by
  unfold depthAfter
  cases event with
  | opening found attributes start stop => cases h : found == name <;> simp [opens, closes, h]
  | closing found stop => cases h : found == name <;> simp [opens, closes, h]
  | text decoded => rfl

/-- The text of an event that counts. -/
def textIf (counts : Bool) : Occurrence → Text
  | .text decoded => if counts then decoded else []
  | _ => []

end Occurrence

/-- How many code elements are open behind some events of a block. -/
def codeDepth (inside : List Occurrence) : ℕ :=
  inside.foldl (Occurrence.depthAfter "code".toList) 0

/-- Whether text that follows some events of a block belongs to its query: a code element is open,
and no configuration. -/
def countsAfter (before : List Occurrence) : Bool := 0 < codeDepth before && !inConfig before

/-- The text of a block that counts. -/
def query (inside : List Occurrence) : Text :=
  (inside.mapIdx fun index event => event.textIf (countsAfter (inside.take index))).flatten

/-- Just past the start tag of the control region of a block, the first of its kind. -/
def controlsAt (inside : List Occurrence) : Option ℕ := inside.findSome? Occurrence.controlsStop?

/-- Whether a run button stands behind the start tag of the control region of a block. -/
def hasRunButton (inside : List Occurrence) : Bool :=
  (inside.dropWhile (!·.opensControls)).any Occurrence.isRunButton

/-- The block that starts with a tag up to `startTagEnd`, has `inside` in it and ends at `stop`.
`span` is the place of its result region, if it has one. -/
def describe (attributes : Entries Text Text) (startTagEnd : ℕ) (inside : List Occurrence)
    (stop : ℕ) (span : Option (ℕ × ℕ)) : QueryBlock where
  query := query inside
  attributes := attributes
  startTagEnd := startTagEnd
  stop := stop
  controls := (controlsAt inside).map fun insertAt => ⟨[], some ⟨insertAt, hasRunButton inside⟩⟩
  result := span.map fun place => { ResultRegion.empty with span := some place }

/-! ### How a page falls into blocks -/

/-- The first start tag of a query block, and what stands behind it. -/
def BlockStart (events : List Occurrence) (attributes : Entries Text Text) (startTagEnd : ℕ)
    (rest : List Occurrence) : Prop :=
  ∃ before name start, events = before ++ .opening name attributes start startTagEnd :: rest ∧
    (∀ event ∈ before, event.opensBlock = false) ∧
    (Occurrence.opening name attributes start startTagEnd).opensBlock = true

/-- What stands inside a block, up to the first end tag of its kind, and behind it. -/
def BlockEnd (rest inside : List Occurrence) (stop : ℕ) (after : List Occurrence) : Prop :=
  rest = inside ++ .closing "pre".toList stop :: after ∧
    ∀ event ∈ inside, event.closes "pre".toList = false

/-- A result region starts right behind a block, but for blank text, and `area` follows. -/
def RegionStart (after : List Occurrence) (start : ℕ) (area : List Occurrence) : Prop :=
  ∃ gap name attributes stop, after = gap ++ .opening name attributes start stop :: area ∧
    (∀ event ∈ gap, event.isBlank = true) ∧
    (Occurrence.opening name attributes start stop).opensRegion = true

/-- No division that was open before is closed. -/
def StaysOpen (area : List Occurrence) : Prop :=
  ∀ front, front <+: area →
    front.countP (Occurrence.closes "div".toList) ≤ front.countP (Occurrence.opens "div".toList)

/-- The division that was opened last is closed by the tag that ends at `stop`, and `rest`
follows. -/
def RegionEnd (area : List Occurrence) (stop : ℕ) (rest : List Occurrence) : Prop :=
  ∃ body, area = body ++ .closing "div".toList stop :: rest ∧ StaysOpen body ∧
    body.countP (Occurrence.closes "div".toList) = body.countP (Occurrence.opens "div".toList)

/-- The query blocks of a page, as it tells of them. -/
inductive Outline : List Occurrence → List QueryBlock → Prop
  | none {events : List Occurrence} (h : ∀ event ∈ events, event.opensBlock = false) :
    Outline events []
  /-- A block that is never closed is none, and neither is anything inside it. -/
  | unclosed {events rest : List Occurrence} {attributes : Entries Text Text} {startTagEnd : ℕ}
    (hstart : BlockStart events attributes startTagEnd rest)
    (h : ∀ event ∈ rest, event.closes "pre".toList = false) : Outline events []
  /-- A block without a result region. -/
  | alone {events rest inside after : List Occurrence} {attributes : Entries Text Text}
    {startTagEnd stop : ℕ} {blocks : List QueryBlock}
    (hstart : BlockStart events attributes startTagEnd rest)
    (hend : BlockEnd rest inside stop after)
    (h : ∀ start area, ¬ RegionStart after start area) (hafter : Outline after blocks) :
    Outline events (describe attributes startTagEnd inside stop .none :: blocks)
  /-- A block with its result region. -/
  | attached {events rest inside after area beyond : List Occurrence}
    {attributes : Entries Text Text} {startTagEnd stop regionStart regionStop : ℕ}
    {blocks : List QueryBlock}
    (hstart : BlockStart events attributes startTagEnd rest)
    (hend : BlockEnd rest inside stop after)
    (hregion : RegionStart after regionStart area) (hclosed : RegionEnd area regionStop beyond)
    (hbeyond : Outline beyond blocks) :
    Outline events
      (describe attributes startTagEnd inside stop (some (regionStart, regionStop)) :: blocks)
  /-- A result region that is never closed is none, and no block follows. -/
  | unbounded {events rest inside after area : List Occurrence} {attributes : Entries Text Text}
    {startTagEnd stop regionStart : ℕ}
    (hstart : BlockStart events attributes startTagEnd rest)
    (hend : BlockEnd rest inside stop after)
    (hregion : RegionStart after regionStart area) (h : StaysOpen area) :
    Outline events [describe attributes startTagEnd inside stop .none]

/-! ### Every page has an outline -/

/-- The first of some events of a kind, if there is one. -/
theorem exists_first (kind : Occurrence → Bool) (events : List Occurrence) :
    (∀ event ∈ events, kind event = false) ∨
      ∃ before event rest, events = before ++ event :: rest ∧
        (∀ event ∈ before, kind event = false) ∧ kind event = true := by
  cases hfind : events.find? kind with
  | none =>
      refine .inl fun event hevent => ?_
      simpa using List.find?_eq_none.mp hfind event hevent
  | some event =>
      obtain ⟨hkind, before, rest, rfl, hbefore⟩ := List.find?_eq_some_iff_append.mp hfind
      refine .inr ⟨before, event, rest, rfl, fun other hother => ?_, hkind⟩
      simpa using hbefore other hother

theorem exists_blockStart (events : List Occurrence) :
    (∀ event ∈ events, event.opensBlock = false) ∨
      ∃ attributes startTagEnd rest, BlockStart events attributes startTagEnd rest ∧
        rest.length < events.length := by
  rcases exists_first Occurrence.opensBlock events with
    hnone | ⟨before, event, rest, rfl, hbefore, hopens⟩
  · exact .inl hnone
  · cases event with
    | opening name attributes start stop =>
        refine .inr ⟨attributes, stop, rest, ⟨before, name, start, rfl, hbefore, hopens⟩, ?_⟩
        rw [List.length_append, List.length_cons]
        omega
    | closing name stop => cases hopens
    | text decoded => cases hopens

theorem exists_blockEnd (rest : List Occurrence) :
    (∀ event ∈ rest, event.closes "pre".toList = false) ∨
      ∃ inside stop after, BlockEnd rest inside stop after ∧ after.length < rest.length := by
  rcases exists_first (Occurrence.closes "pre".toList) rest with
    hnone | ⟨inside, event, after, rfl, hinside, hcloses⟩
  · exact .inl hnone
  · obtain ⟨stop, rfl⟩ := Occurrence.closes_iff.mp hcloses
    refine .inr ⟨inside, stop, after, ⟨rfl, hinside⟩, ?_⟩
    rw [List.length_append, List.length_cons]
    omega

theorem countP_append_singleton (kind : Occurrence → Bool) (events : List Occurrence)
    (event : Occurrence) :
    (events ++ [event]).countP kind = events.countP kind + (kind event).toNat := by
  cases hkind : kind event <;> simp [hkind]

/-- A division that is open stays open or is closed. -/
theorem staysOpen_or_exists_regionEnd (area : List Occurrence) :
    StaysOpen area ∨ ∃ stop rest, RegionEnd area stop rest := by
  induction area using List.reverseRecOn with
  | nil =>
      refine .inl fun front hfront => ?_
      rw [List.prefix_nil.mp hfront]
      exact le_rfl
  | append_singleton area event ih =>
      rcases ih with hopen | ⟨stop, rest, body, rfl, hbody, hcount⟩
      · have hall := hopen area (List.prefix_refl area)
        by_cases hmore : (area ++ [event]).countP (Occurrence.closes "div".toList) ≤
            (area ++ [event]).countP (Occurrence.opens "div".toList)
        · refine .inl fun front hfront => ?_
          rcases List.prefix_concat_iff.mp hfront with rfl | hfront
          · exact hmore
          · exact hopen front hfront
        · -- Only an end tag of a division can close more than was opened.
          rw [countP_append_singleton, countP_append_singleton] at hmore
          have hcloses : event.closes "div".toList = true := by
            by_contra hcloses
            rw [Bool.not_eq_true] at hcloses
            rw [hcloses, Bool.toNat_false] at hmore
            omega
          obtain ⟨stop, rfl⟩ := Occurrence.closes_iff.mp hcloses
          refine .inr ⟨stop, [], area, rfl, hopen, ?_⟩
          have hle := Bool.toNat_le ((Occurrence.closing "div".toList stop).closes "div".toList)
          omega
      · refine .inr ⟨stop, rest ++ [event], body, ?_, hbody, hcount⟩
        rw [List.append_assoc, List.cons_append]

theorem exists_outline (events : List Occurrence) : ∃ blocks, Outline events blocks := by
  rcases exists_blockStart events with hnone | ⟨attributes, startTagEnd, rest, hstart, hlength⟩
  · exact ⟨[], .none hnone⟩
  rcases exists_blockEnd rest with hnone | ⟨inside, stop, after, hend, hlength'⟩
  · exact ⟨[], .unclosed hstart hnone⟩
  by_cases hregion : ∃ start area, RegionStart after start area
  · obtain ⟨start, area, hregion⟩ := hregion
    rcases staysOpen_or_exists_regionEnd area with hopen | ⟨regionStop, beyond, hclosed⟩
    · exact ⟨_, .unbounded hstart hend hregion hopen⟩
    · have hlength'' : beyond.length < after.length := by
        obtain ⟨gap, name, given, first, rfl, -, -⟩ := hregion
        obtain ⟨body, rfl, -, -⟩ := hclosed
        simp only [List.length_append, List.length_cons]
        omega
      obtain ⟨blocks, hblocks⟩ := exists_outline beyond
      exact ⟨_, .attached hstart hend hregion hclosed hblocks⟩
  · obtain ⟨blocks, hblocks⟩ := exists_outline after
    refine ⟨_, .alone hstart hend (fun start area hstarts => ?_) hblocks⟩
    exact hregion ⟨start, area, hstarts⟩
  termination_by events.length

/-! ### What one more event changes -/

section Snoc

variable (inside : List Occurrence) (event : Occurrence)

theorem codeDepth_append_singleton :
    codeDepth (inside ++ [event]) = event.depthAfter "code".toList (codeDepth inside) :=
  List.foldl_append

theorem query_append_singleton :
    query (inside ++ [event]) = query inside ++ event.textIf (countsAfter inside) := by
  have hfront : ∀ index, index < inside.length →
      (inside ++ [event]).take index = inside.take index :=
    fun index hlt => List.take_append_of_le_length hlt.le
  unfold query
  rw [List.mapIdx_concat, List.flatten_append, List.flatten_singleton, List.take_left]
  congr 2
  refine List.ext_getElem (by simp) fun index hlt _ => ?_
  rw [List.length_mapIdx] at hlt
  rw [List.getElem_mapIdx, List.getElem_mapIdx, hfront index hlt]

theorem controlsAt_append_singleton :
    controlsAt (inside ++ [event]) = (controlsAt inside).or event.controlsStop? := by
  unfold controlsAt
  rw [List.findSome?_append, List.findSome?_singleton]

theorem isSome_controlsAt :
    (controlsAt inside).isSome = inside.any Occurrence.opensControls := by
  rw [Bool.eq_iff_iff, controlsAt, List.findSome?_isSome_iff, List.any_eq_true]
  refine exists_congr fun found => and_congr_right fun _ => ?_
  cases found with
  | opening name attributes start stop =>
      rw [Occurrence.controlsStop?, Option.isSome_ite]
  | closing name stop => exact Iff.rfl
  | text decoded => exact Iff.rfl

theorem hasRunButton_append_singleton :
    hasRunButton (inside ++ [event]) =
      (hasRunButton inside || (controlsAt inside).isSome && event.isRunButton) := by
  have hempty : (inside.dropWhile (!·.opensControls)).isEmpty =
      !inside.any Occurrence.opensControls := by
    rw [Bool.eq_iff_iff, List.isEmpty_iff, List.dropWhile_eq_nil_iff]
    simp
  unfold hasRunButton
  rw [isSome_controlsAt, List.dropWhile_append, hempty]
  cases hcontrols : inside.any Occurrence.opensControls with
  | true => simp
  | false =>
      rw [hcontrols, Bool.not_false, List.isEmpty_iff] at hempty
      rw [hempty]
      cases hopens : event.opensControls with
      | true =>
          have hother : event.isRunButton = false :=
            Occurrence.opensClass_of_opens (Occurrence.opens_of_opensClass hopens) (by decide) _
          simp [hopens, hother]
      | false => simp [hopens]

end Snoc

end CypherPages.Page
