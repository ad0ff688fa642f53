import CypherPages.Json.Value
import Mathlib.Data.Nat.Notation
import Mathlib.Tactic.Common

/-! # Places in JSON values

A place leads from a value down to a value inside it. Two values that differ only at some places
have the same outline everywhere else: kinds, lengths and names in their order, and scalars. -/

namespace CypherPages.Json

/-- The way down to a value: at each step the index of an item or of a field. -/
abbrev Place := List ℕ

/-- The values right below a value, in order. -/
def children : Json → List Json
  | .array items => items
  | .object fields => fields.map Prod.snd
  | _ => []

/-- A value with other values right below it, its names as they are. -/
def withChildren : Json → List Json → Json
  | .array _, children => .array children
  | .object fields, children =>
    .object (fields.zipWith (fun field child => (field.1, child)) children)
  | value, _ => value

def at? (value : Json) : Place → Option Json
  | [] => some value
  | index :: place => value.children[index]?.bind (·.at? place)

/-- What a value shows without the values below it. -/
def outline : Json → Json
  | .array items => .array (items.map fun _ => .null)
  | .object fields => .object (fields.map fun field => (field.1, .null))
  | value => value

/-! ### Values and the values below them -/

theorem sizeOf_lt_of_mem_children {value child : Json} (h : child ∈ value.children) :
    sizeOf child < sizeOf value := by
  cases value with
  | array items =>
      have : sizeOf child < sizeOf items := List.sizeOf_lt_of_mem h
      simp only [array.sizeOf_spec]
      omega
  | object fields =>
      obtain ⟨⟨name, child⟩, hfield, rfl⟩ := List.mem_map.mp h
      have := List.sizeOf_lt_of_mem hfield
      simp only [object.sizeOf_spec, Prod.mk.sizeOf_spec] at this ⊢
      omega
  | _ => cases h

/-- What holds of a value when it holds of all values right below it holds of every value. -/
theorem induction_children {motive : Json → Prop}
    (step : ∀ value, (∀ child ∈ value.children, motive child) → motive value) (value : Json) :
    motive value :=
  step value fun child _ => induction_children step child
  termination_by sizeOf value
  decreasing_by exact sizeOf_lt_of_mem_children ‹_›

theorem children_withChildren {value : Json} {children : List Json}
    (h : children.length = value.children.length) :
    (value.withChildren children).children = children := by
  cases value with
  | array items => rfl
  | object fields =>
      simp only [Json.children, withChildren, List.length_map] at h ⊢
      induction fields generalizing children with
      | nil => exact (List.eq_nil_of_length_eq_zero h).symm
      | cons field fields ih =>
          cases children with
          | nil => cases h
          | cons child children =>
              rw [List.zipWith_cons_cons, List.map_cons, ih (Nat.succ.inj h)]
  | _ => exact (List.eq_nil_of_length_eq_zero h).symm

theorem withChildren_children (value : Json) : value.withChildren value.children = value := by
  cases value with
  | object fields =>
      simp only [children, withChildren, List.zipWith_map_right, List.zipWith_self]
      exact congrArg object (List.map_id' fields)
  | _ => rfl

theorem outline_withChildren {value : Json} {children : List Json}
    (h : children.length = value.children.length) :
    (value.withChildren children).outline = value.outline := by
  cases value with
  | array items =>
      simp only [outline, withChildren, Json.children] at h ⊢
      rw [List.map_const', List.map_const', h]
  | object fields =>
      simp only [Json.children, withChildren, outline, List.length_map] at h ⊢
      induction fields generalizing children with
      | nil => rfl
      | cons field fields ih =>
          cases children with
          | nil => cases h
          | cons child children =>
              have htail := Json.object.inj (ih (Nat.succ.inj h))
              rw [List.zipWith_cons_cons, List.map_cons, htail, List.map_cons]
  | _ => rfl

/-! ### Values that differ at some places -/

/-- A new value for each of some places. -/
abbrev Changes := List (Place × Json)

/-- One value is another one but for some changes. -/
structure Differ (changes : Changes) (before after : Json) : Prop where
  changed : ∀ change ∈ changes, after.at? change.1 = some change.2
  kept : ∀ place : Place, (∀ change ∈ changes, ¬ change.1 <+: place) →
    (after.at? place).map outline = (before.at? place).map outline

/-- Changes made one step further down. -/
def Changes.below (index : ℕ) (changes : Changes) : Changes :=
  changes.map fun change => (index :: change.1, change.2)

/-- Values side by side are others but for some changes, the places of the first value starting
with `index`. -/
structure DifferFrom (index : ℕ) (changes : Changes) (before after : List Json) : Prop where
  length_eq : after.length = before.length
  changed : ∀ change ∈ changes, ∃ offset place, change.1 = (index + offset) :: place ∧
    after[offset]?.bind (·.at? place) = some change.2
  kept : ∀ (offset : ℕ) (place : Place),
    (∀ change ∈ changes, ¬ change.1 <+: (index + offset) :: place) →
    (after[offset]?.bind (·.at? place)).map outline =
      (before[offset]?.bind (·.at? place)).map outline

theorem Differ.refl (value : Json) : Differ [] value value := ⟨by simp, fun _ _ => rfl⟩

/-- A value that is changed as a whole. -/
theorem Differ.root (before after : Json) : Differ [([], after)] before after := by
  refine ⟨by simp [at?], fun place h => ?_⟩
  exact absurd List.nil_prefix (h _ List.mem_cons_self)

theorem DifferFrom.nil (index : ℕ) : DifferFrom index [] [] [] := ⟨rfl, by simp, by simp⟩

theorem DifferFrom.cons {index : ℕ} {first rest : Changes} {before after : Json}
    {others results : List Json} (hfirst : Differ first before after)
    (hrest : DifferFrom (index + 1) rest others results) :
    DifferFrom index (first.below index ++ rest) (before :: others) (after :: results) := by
  refine ⟨congrArg (· + 1) hrest.length_eq, ?_, ?_⟩
  · intro change hchange
    rcases List.mem_append.mp hchange with hchange | hchange
    · obtain ⟨original, horiginal, rfl⟩ := List.mem_map.mp hchange
      exact ⟨0, original.1, rfl, hfirst.changed original horiginal⟩
    · obtain ⟨offset, place, hplace, hat⟩ := hrest.changed change hchange
      exact ⟨offset + 1, place, by rw [hplace, Nat.add_right_comm, Nat.add_assoc], hat⟩
  · intro offset place hkept
    cases offset with
    | zero =>
        refine hfirst.kept place fun change hchange hprefix => ?_
        refine hkept (index :: change.1, change.2)
          (List.mem_append_left _ (List.mem_map_of_mem hchange)) ?_
        exact List.cons_prefix_cons.mpr ⟨rfl, hprefix⟩
    | succ offset =>
        refine hrest.kept offset place fun change hchange => ?_
        rw [Nat.add_right_comm, Nat.add_assoc]
        exact hkept change (List.mem_append_right _ hchange)

/-- Changes below a value leave its own outline as it is. -/
theorem DifferFrom.differ {changes : Changes} {value : Json} {children : List Json}
    (h : DifferFrom 0 changes value.children children) :
    Differ changes value (value.withChildren children) := by
  have hchildren := children_withChildren h.length_eq
  refine ⟨?_, ?_⟩
  · intro change hchange
    obtain ⟨offset, place, hplace, hat⟩ := h.changed change hchange
    rw [hplace, at?, hchildren, Nat.zero_add]
    exact hat
  · intro place hkept
    cases place with
    | nil => exact congrArg some (outline_withChildren h.length_eq)
    | cons index place =>
        rw [at?, at?, hchildren]
        refine h.kept index place fun change hchange => ?_
        rw [Nat.zero_add]
        exact hkept change hchange

end CypherPages.Json
