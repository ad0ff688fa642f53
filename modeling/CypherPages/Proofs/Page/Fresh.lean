import CypherPages.Page.Reader
import CypherPages.Proofs.Results
import Mathlib.Tactic.Common
import Mathlib.Data.Nat.Notation

/-! # Pages that were just read

Reading a page finds regions but opens none of them: no block has a control of its own and no
result region was opened for a run. -/

namespace CypherPages

/-- No control was added to the block and no run was started on it. -/
structure QueryBlock.Fresh (block : QueryBlock) : Prop where
  controls : block.controlRegion.controls = []
  generation : block.resultRegion.generation = 0

/-- Nothing was done to the page since it was read. -/
structure Page.Fresh (page : Page) : Prop where
  controlsAttached : page.controlsAttached = false
  blocks : ∀ block ∈ page.blocks, block.Fresh

namespace Page

theorem OpenBlock.close_fresh (block : OpenBlock) (stop : ℕ) : (block.close stop).Fresh := by
  constructor
  · cases h : block.controlsAt <;>
      simp [OpenBlock.close, QueryBlock.controlRegion, ControlRegion.empty, h]
  · simp [OpenBlock.close, QueryBlock.resultRegion, ResultRegion.empty]

namespace Reading

/-! ### Start tags and text close no block -/

@[simp] theorem blocks_leaveBlock (reading : Reading) :
    reading.leaveBlock.blocks = reading.blocks := by
  obtain ⟨complete, place, capture, config⟩ := reading
  cases place <;> rfl

theorem blocks_openElement_outside (complete : List QueryBlock) (capture : Option Text)
    (config : Except Json.Failure (List (Text × Json))) (name : Text)
    (attributes : Entries Text Text) (classes : List Text) (stop : ℕ) :
    (openElement ⟨complete, .outside, capture, config⟩ name attributes classes stop).blocks =
      complete := by
  unfold openElement
  split
  · rfl
  · dsimp only
    split <;> rfl

theorem blocks_startTag (reading : Reading) (name : Text) (attributes : Entries Text Text)
    (start stop : ℕ) : (reading.startTag name attributes start stop).blocks = reading.blocks := by
  obtain ⟨complete, place, capture, config⟩ := reading
  cases place with
  | outside => exact blocks_openElement_outside ..
  | inBlock block =>
      simp only [startTag, openElement]
      split <;> rfl
  | afterBlock block =>
      simp only [startTag]
      split
      · rfl
      · exact blocks_openElement_outside ..
  | inResult block regionStart depth =>
      simp only [startTag]
      split <;> rfl

theorem blocks_text (reading : Reading) (decoded : Text) :
    (reading.text decoded).blocks = reading.blocks := by
  obtain ⟨complete, place, capture, config⟩ := reading
  cases capture with
  | some content => rfl
  | none =>
      cases place with
      | outside => rfl
      | inBlock block =>
          simp only [text]
          split <;> rfl
      | afterBlock block =>
          simp only [text]
          split <;> rfl
      | inResult block start depth => rfl

/-! ### An end tag closes at most one block or one region -/

theorem fresh_closeElement {reading : Reading} (h : ∀ block ∈ reading.blocks, block.Fresh)
    (name : Text) (stop : ℕ) : ∀ block ∈ (reading.closeElement name stop).blocks, block.Fresh := by
  obtain ⟨complete, place, capture, config⟩ := reading
  unfold closeElement
  split
  · exact h
  · cases place with
    | outside => exact h
    | inBlock block =>
        dsimp only
        split
        · exact h
        · split
          · intro found hf
            rcases List.mem_append.mp hf with hf | hf
            · exact h found hf
            · rw [List.mem_singleton.mp hf]
              exact block.close_fresh stop
          · exact h
    | afterBlock block => exact h
    | inResult block start depth => exact h

theorem fresh_endTag {reading : Reading} (h : ∀ block ∈ reading.blocks, block.Fresh)
    (name : Text) (stop : ℕ) : ∀ block ∈ (reading.endTag name stop).blocks, block.Fresh := by
  have closed : ∀ block ∈ (reading.leaveBlock.closeElement name stop).blocks, block.Fresh :=
    fresh_closeElement (by simpa using h) name stop
  obtain ⟨complete, place, capture, config⟩ := reading
  cases place with
  | outside | inBlock | afterBlock => exact closed
  | inResult owner start depth =>
      simp only [endTag]
      split
      · split
        · intro block hb
          rcases List.mem_append.mp hb with hb | hb
          · exact h block (List.mem_append_left _ hb)
          · rw [List.mem_singleton.mp hb]
            exact ⟨(h owner (List.mem_append_right _ (by simp))).controls, rfl⟩
        · exact h
      · exact h

theorem fresh_tokens {reading : Reading} (h : ∀ block ∈ reading.blocks, block.Fresh)
    (offset : ℕ) (tokens : List Html.Token) :
    ∀ block ∈ (reading.tokens offset tokens).blocks, block.Fresh := by
  induction tokens generalizing reading offset with
  | nil => exact h
  | cons token rest ih =>
      apply ih
      unfold Reading.token
      split
      · rw [blocks_text]
        exact h
      · dsimp only
        split
        · exact fresh_endTag (by rw [blocks_startTag]; exact h) _ _
        · rw [blocks_startTag]
          exact h
      · exact fresh_endTag h _ _
      · exact h

end Reading

/-- A page is read exactly from tokens and configurations that can be read. -/
theorem read_eq_ok_iff {source : Text} {page : Page} :
    Page.read source = .ok page ↔
      ∃ tokens config, Html.tokens source = .ok tokens ∧
        (Reading.start.tokens 0 tokens).config = .ok config ∧
        page = ⟨source, (Reading.start.tokens 0 tokens).blocks, config, false⟩ := by
  constructor
  · intro h
    obtain ⟨tokens, htokens, h⟩ := exists_of_bind_eq_ok h
    obtain ⟨config, hconfig, rfl⟩ := exists_of_map_eq_ok h
    exact ⟨tokens, config, eq_ok_of_mapError htokens, eq_ok_of_mapError hconfig, rfl⟩
  · rintro ⟨tokens, config, htokens, hconfig, rfl⟩
    simp only [Page.read, htokens, hconfig, Except.mapError, Except.bind, Except.map]

theorem source_of_read {source : Text} {page : Page} (h : Page.read source = .ok page) :
    page.source = source := by
  obtain ⟨tokens, config, -, -, rfl⟩ := read_eq_ok_iff.mp h
  rfl

theorem fresh_of_read {source : Text} {page : Page} (h : Page.read source = .ok page) :
    page.Fresh := by
  obtain ⟨tokens, config, -, -, rfl⟩ := read_eq_ok_iff.mp h
  exact ⟨rfl, Reading.fresh_tokens (by simp [Reading.start, Reading.blocks]) 0 tokens⟩

end Page

end CypherPages
