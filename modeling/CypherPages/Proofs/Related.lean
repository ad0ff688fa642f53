import Mathlib.Data.List.Forall2
import Mathlib.Data.Nat.Notation
import Mathlib.Tactic.Common

/-! # Lists that are related element by element

What follows for an element, for neighbours and for a changed list when two lists are related. -/

namespace CypherPages

variable {α β : Type} {R : α → β → Prop} {first : List α} {second : List β}

theorem exists_of_mem_right (h : List.Forall₂ R first second) {b : β} (hb : b ∈ second) :
    ∃ a ∈ first, R a b := by
  induction h with
  | nil => cases hb
  | @cons a other _ _ hother _ ih =>
      rcases List.mem_cons.mp hb with rfl | hb
      · exact ⟨a, List.mem_cons_self, hother⟩
      · obtain ⟨found, hfound, hrelated⟩ := ih hb
        exact ⟨found, List.mem_cons_of_mem _ hfound, hrelated⟩

theorem related_of_getElem? (h : List.Forall₂ R first second) {index : ℕ} {a : α} {b : β}
    (ha : first[index]? = some a) (hb : second[index]? = some b) : R a b := by
  obtain ⟨hleft, rfl⟩ := List.getElem?_eq_some_iff.mp ha
  obtain ⟨hright, rfl⟩ := List.getElem?_eq_some_iff.mp hb
  exact h.get hleft hright

/-- A relation to the elements of a list that a change of any of them keeps. -/
theorem forall₂_modify {change : β → β} (hchange : ∀ a b, R a b → R a (change b))
    (h : List.Forall₂ R first second) (index : ℕ) :
    List.Forall₂ R first (second.modify index change) := by
  induction h generalizing index with
  | nil => simp
  | cons hhead htail ih =>
      cases index with
      | zero => exact .cons (hchange _ _ hhead) htail
      | succ index => exact .cons hhead (ih index)

/-- What holds of neighbours in one list holds of what is related to them in another. -/
theorem pairwise_of_forall₂ {First : α → α → Prop} {Second : β → β → Prop}
    (h : List.Forall₂ R first second) (hfirst : first.Pairwise First)
    (himp : ∀ a b c d, R a b → R c d → First a c → Second b d) : second.Pairwise Second := by
  induction h with
  | nil => exact .nil
  | cons hab hrest ih =>
      obtain ⟨hhead, htail⟩ := List.pairwise_cons.mp hfirst
      refine .cons (fun d hd => ?_) (ih htail)
      obtain ⟨c, hc, hcd⟩ := exists_of_mem_right hrest hd
      exact himp _ _ c d hab hcd (hhead c hc)

end CypherPages
