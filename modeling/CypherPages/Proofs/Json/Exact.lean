import CypherPages.Proofs.Entries
import CypherPages.Proofs.Json.Place
import Mathlib.Data.List.Forall2

/-! # Values without doubles

A value that is made of texts, integers, truth values, lists and objects, and the same value with
the fields of its objects in order of their names. -/

namespace CypherPages.Json

/-- A value without double-precision numbers, each object having different names. -/
inductive Exact : Json → Prop
  | null : Exact .null
  | bool (value : Bool) : Exact (.bool value)
  | int (value : Int) : Exact (.int value)
  | string (value : Text) : Exact (.string value)
  | array {items : List Json} (h : ∀ item ∈ items, Exact item) : Exact (.array items)
  | object {fields : List (Text × Json)} (hnames : (fields.map Prod.fst).Nodup)
      (h : ∀ field ∈ fields, Exact field.2) : Exact (.object fields)

theorem Exact.nodup {fields : List (Text × Json)} (h : Exact (.object fields)) :
    (fields.map Prod.fst).Nodup := by
  cases h with
  | object hnames => exact hnames

/-- Two values are the same but for the order of fields. -/
inductive Rearranged : Json → Json → Prop
  | refl (value : Json) : Rearranged value value
  | array {items others : List Json} (h : List.Forall₂ Rearranged items others) :
      Rearranged (.array items) (.array others)
  | object {fields middle others : List (Text × Json)}
      (hnames : fields.map Prod.fst = middle.map Prod.fst)
      (hvalues : List.Forall₂ Rearranged (fields.map Prod.snd) (middle.map Prod.snd))
      (horder : middle.Perm others) : Rearranged (.object fields) (.object others)

theorem sortFieldsOfItems_eq (items : List Json) :
    sortFieldsOfItems items = items.map sortFields := by
  induction items with
  | nil => rw [sortFieldsOfItems, List.map_nil]
  | cons item items ih => rw [sortFieldsOfItems, ih, List.map_cons]

theorem sortFieldsOfMembers_eq (fields : List (Text × Json)) :
    sortFieldsOfMembers fields = fields.map fun field => (field.1, field.2.sortFields) := by
  induction fields with
  | nil => rw [sortFieldsOfMembers, List.map_nil]
  | cons field fields ih => rw [sortFieldsOfMembers, ih, List.map_cons]

theorem sortFields_array (items : List Json) :
    (Json.array items).sortFields = .array (items.map sortFields) := by
  rw [sortFields, sortFieldsOfItems_eq]

/-- The fields of an object in order of their names are the same ones in another order. -/
theorem sortFields_object (fields : List (Text × Json)) :
    ∃ others, (Json.object fields).sortFields = .object others ∧
      (fields.map fun field => (field.1, field.2.sortFields)).Perm others := by
  refine ⟨_, by rw [sortFields], ?_⟩
  rw [← sortFieldsOfMembers_eq]
  exact (List.mergeSort_perm _ _).symm

theorem Exact.sortFields {value : Json} (h : Exact value) : Exact value.sortFields := by
  induction h with
  | array h ih =>
      rw [sortFields_array]
      refine .array fun item hitem => ?_
      obtain ⟨original, horiginal, rfl⟩ := List.mem_map.mp hitem
      exact ih original horiginal
  | @object fields hnames h ih =>
      obtain ⟨others, hothers, hperm⟩ := sortFields_object fields
      have hmap : (fields.map fun field => (field.1, field.2.sortFields)).map Prod.fst =
          fields.map Prod.fst := by
        rw [List.map_map]
        rfl
      rw [hothers]
      refine .object ?_ fun field hfield => ?_
      · exact (hperm.map Prod.fst).nodup_iff.mp (hmap ▸ hnames)
      · obtain ⟨original, horiginal, rfl⟩ := List.mem_map.mp (hperm.mem_iff.mpr hfield)
        exact ih original horiginal
  | null => exact .null
  | bool value => exact .bool value
  | int value => exact .int value
  | string value => exact .string value

/-- A value with its fields in order is the same value. -/
theorem rearranged_sortFields (value : Json) : Rearranged value value.sortFields := by
  induction value using induction_children with
  | step value ih =>
      cases value with
      | array items =>
          rw [sortFields_array]
          refine .array (List.forall₂_map_right_iff.mpr (List.forall₂_same.mpr ih))
      | object fields =>
          obtain ⟨others, hothers, hperm⟩ := sortFields_object fields
          rw [hothers]
          refine .object ?_ ?_ hperm
          · rw [List.map_map]
            rfl
          · rw [List.map_map, List.forall₂_map_left_iff, List.forall₂_map_right_iff,
              List.forall₂_same]
            exact fun field hfield => ih field.2 (List.mem_map_of_mem hfield)
      | _ => simp only [sortFields]; exact .refl _

/-! ### Fields by name -/

theorem rel_lookup {R : Json → Json → Prop} {fields others : List (Text × Json)}
    (hnames : fields.map Prod.fst = others.map Prod.fst)
    (hvalues : List.Forall₂ R (fields.map Prod.snd) (others.map Prod.snd)) (name : Text) :
    Option.Rel R (fields.lookup name) (others.lookup name) := by
  induction fields generalizing others with
  | nil =>
      obtain rfl := List.map_eq_nil_iff.mp hnames.symm
      exact .none
  | cons field fields ih =>
      cases others with
      | nil => cases hnames
      | cons other others =>
          obtain ⟨hname, hrest⟩ := List.cons.inj hnames
          obtain ⟨hvalue, hvalues⟩ := List.forall₂_cons.mp hvalues
          rw [List.lookup_cons, List.lookup_cons, ← hname]
          cases name == field.1 with
          | true => exact .some hvalue
          | false => exact ih hrest hvalues

/-- The fields of a name in two arrangements of an object are arrangements of each other. -/
theorem Rearranged.lookup {fields others : List (Text × Json)}
    (h : Rearranged (.object fields) (.object others)) (hnames : (fields.map Prod.fst).Nodup)
    (name : Text) : Option.Rel Rearranged (fields.lookup name) (others.lookup name) := by
  cases h with
  | refl => exact rel_lookup rfl (List.forall₂_same.mpr fun value _ => .refl value) name
  | object hmiddle hvalues horder =>
      rw [← Entries.lookup_perm horder (hmiddle ▸ hnames) name]
      exact rel_lookup hmiddle hvalues name

end CypherPages.Json
