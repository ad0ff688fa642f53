import CypherPages.Proofs.Json.Limits
import CypherPages.Proofs.Results
import CypherPages.Query.Result

/-! # Results that can be shown

To show a result is to write the integers in it, and an integer with too many digits cannot be
written. The shape check does not bring one in: what it takes from an object without overlong
integers has none, although a count may come from a double or from a numeral. -/

namespace CypherPages

/-- No integer in a result has too many digits to be written. -/
structure QueryResult.Writable (result : QueryResult) : Prop where
  rows : ∀ row ∈ result.rows, (Json.object row).fits = true
  counts : ∀ stats ∈ result.stats, ∀ n : ℤ,
    some n ∈ [stats.nodesCreated, stats.relationshipsCreated, stats.propertiesSet] →
      Json.isOverlong n = false
  time : ∀ stats ∈ result.stats, ∀ n : ℤ,
    stats.executionTime = some (.whole n) → Json.isOverlong n = false

namespace Checked

theorem both_eq_ok {α β : Type} {first : Checked α} {second : Checked β} {pair : α × β}
    (h : both first second = .ok pair) : first = .ok pair.1 ∧ second = .ok pair.2 := by
  cases first with
  | error m => cases second <;> cases h
  | ok a =>
      cases second with
      | error n => cases h
      | ok b =>
          obtain rfl := Except.ok.inj h
          exact ⟨rfl, rfl⟩

theorem forall_of_each {α β : Type} {p : β → Prop} {check : α → Checked β} {items : List α}
    {values : List β} (h : each check items = .ok values)
    (hcheck : ∀ item ∈ items, ∀ b, check item = .ok b → p b) : ∀ b ∈ values, p b := by
  induction items generalizing values with
  | nil =>
      obtain rfl := Except.ok.inj h
      simp
  | cons item items ih =>
      obtain ⟨hitem, hitems⟩ := List.forall_mem_cons.mp hcheck
      obtain ⟨pair, hpair, rfl⟩ := exists_of_map_eq_ok h
      obtain ⟨hfirst, hothers⟩ := both_eq_ok hpair
      exact List.forall_mem_cons.mpr ⟨hitem _ hfirst, ih hothers hitems⟩

theorem forall_of_list {β : Type} {p : β → Prop} {check : Json → Checked β} {field : Option Json}
    {values : List β} (h : list check field = .ok values)
    (hcheck : ∀ value ∈ field, ∀ item ∈ value.children, ∀ b, check item = .ok b → p b) :
    ∀ b ∈ values, p b := by
  unfold list at h
  split at h
  · obtain rfl := Except.ok.inj h
    simp
  · obtain rfl := Except.ok.inj h
    simp
  · exact forall_of_each h (hcheck _ rfl)
  · cases h

theorem exists_of_optional {β : Type} {check : Json → Checked β} {field : Option Json} {b : β}
    (h : optional check field = .ok (some b)) : ∃ value ∈ field, check value = .ok b := by
  unfold optional at h
  split at h
  · cases Except.ok.inj h
  · cases Except.ok.inj h
  · obtain ⟨found, hfound, hsome⟩ := exists_of_map_eq_ok h
    exact ⟨_, rfl, Option.some.inj hsome ▸ hfound⟩

/-! ### Numbers -/

/-- An integer that a value stands for is within the limit if those in the value are. -/
theorem isOverlong_of_integer? {value : Json} {n : ℤ} (hfits : value.fits = true)
    (h : integer? value = some n) : Json.isOverlong n = false := by
  cases value with
  | bool b =>
      obtain rfl := Option.some.inj h
      have hsmall : (if b then 1 else 0 : ℤ).natAbs < 2 ^ 1 := by cases b <;> decide
      exact Json.isOverlong_eq_false hsmall (by decide)
  | int m =>
      obtain rfl := Option.some.inj h
      exact Json.fits_int_iff.mp hfits
  | float x =>
      obtain ⟨-, hlt⟩ := Option.filter_eq_some_iff.mp h
      exact Json.isOverlong_eq_false (of_decide_eq_true hlt) (by decide)
  | string s =>
      obtain ⟨-, hshort⟩ := Option.filter_eq_some_iff.mp h
      exact Bool.not_eq_true' _ ▸ hshort
  | null | array | object => cases h

theorem integer_eq_ok {value : Json} {n : ℤ} (h : integer value = .ok n) :
    integer? value = some n := by
  unfold integer at h
  split at h
  · rw [← Except.ok.inj h]
    assumption
  · cases h

theorem isOverlong_of_elapsed {value : Json} {n : ℤ} (hfits : value.fits = true)
    (h : elapsed value = .ok (.whole n)) : Json.isOverlong n = false := by
  unfold elapsed at h
  split at h
  · cases h
  · split at h
    · next hinteger =>
        obtain rfl := Elapsed.whole.inj (Except.ok.inj h)
        exact isOverlong_of_integer? hfits hinteger
    · split at h
      · split at h <;> cases h
      · cases h

theorem isOverlong_of_optional {fields : List (Text × Json)} {name : Text} {n : ℤ}
    (hfits : (Json.object fields).fits = true)
    (h : optional integer (fields.lookup name) = .ok (some n)) : Json.isOverlong n = false := by
  obtain ⟨value, hvalue, hinteger⟩ := exists_of_optional h
  exact isOverlong_of_integer? (Json.fits_of_lookup hfits hvalue) (integer_eq_ok hinteger)

end Checked

/-! ### Objects -/

theorem Checked.exists_of_stats {value : Json} {found : QueryStats}
    (h : stats value = .ok found) : ∃ fields, value = .object fields ∧
      optional integer (fields.lookup "nodes_created".toList) = .ok found.nodesCreated ∧
      optional integer (fields.lookup "relationships_created".toList) =
        .ok found.relationshipsCreated ∧
      optional integer (fields.lookup "properties_set".toList) = .ok found.propertiesSet ∧
      optional elapsed (fields.lookup "execution_time_ms".toList) = .ok found.executionTime := by
  cases value with
  | object fields =>
      obtain ⟨parts, hparts, rfl⟩ := exists_of_map_eq_ok h
      obtain ⟨hcounts, htime⟩ := both_eq_ok hparts
      obtain ⟨hnodes, hothers⟩ := both_eq_ok hcounts
      obtain ⟨hrelationships, hproperties⟩ := both_eq_ok hothers
      exact ⟨fields, rfl, hnodes, hrelationships, hproperties, htime⟩
  | null | bool | int | float | string | array => cases h

namespace QueryResult
open Checked

/-- What is taken from an object without overlong integers can be written. -/
theorem writable_of_ofFields {fields : List (Text × Json)} {result : QueryResult}
    (hfits : (Json.object fields).fits = true) (h : ofFields fields = .ok result) :
    result.Writable := by
  obtain ⟨found, hboth, rfl⟩ := exists_of_map_eq_ok h
  obtain ⟨hlists, hrest⟩ := both_eq_ok hboth
  obtain ⟨-, hrows⟩ := both_eq_ok hlists
  obtain ⟨hstats, -⟩ := both_eq_ok hrest
  have hobject : ∀ stats ∈ found.2.1, ∃ fields, (Json.object fields).fits = true ∧
      Checked.stats (.object fields) = .ok stats := by
    intro stats hmem
    rw [Option.mem_def.mp hmem] at hstats
    obtain ⟨value, hvalue, hchecked⟩ := exists_of_optional hstats
    obtain ⟨fields, rfl, -⟩ := exists_of_stats hchecked
    exact ⟨fields, Json.fits_of_lookup hfits hvalue, hchecked⟩
  constructor
  · refine forall_of_list hrows fun value hvalue item hitem row hrow => ?_
    have hrowFits : item.fits = true :=
      Json.fits_of_mem_children (Json.fits_of_lookup hfits hvalue) hitem
    cases item with
    | object entries =>
        obtain rfl := Except.ok.inj hrow
        exact hrowFits
    | null | bool | int | float | string | array => cases hrow
  · intro stats hmem n hn
    obtain ⟨entries, hentries, hchecked⟩ := hobject stats hmem
    obtain ⟨_, ⟨⟩, hnodes, hrelationships, hproperties, -⟩ := exists_of_stats hchecked
    simp only [List.mem_cons, List.not_mem_nil, or_false] at hn
    rcases hn with hn | hn | hn
    · exact isOverlong_of_optional hentries (hn ▸ hnodes)
    · exact isOverlong_of_optional hentries (hn ▸ hrelationships)
    · exact isOverlong_of_optional hentries (hn ▸ hproperties)
  · intro stats hmem n hn
    obtain ⟨entries, hentries, hchecked⟩ := hobject stats hmem
    obtain ⟨_, ⟨⟩, -, -, -, htime⟩ := exists_of_stats hchecked
    obtain ⟨value, hvalue, helapsed⟩ := exists_of_optional (hn ▸ htime)
    exact isOverlong_of_elapsed (Json.fits_of_lookup hentries hvalue) helapsed

end QueryResult

end CypherPages
