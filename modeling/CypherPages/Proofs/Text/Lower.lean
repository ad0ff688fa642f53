import CypherPages.Text.Lower
import Mathlib.Tactic.Common

/-! # Lower case of texts

In ASCII every character is lowered by itself, and nothing beyond ASCII becomes a capital letter of
ASCII. -/

namespace CypherPages.Text

theorem lowerBetween_ascii {c : Char} (h : isAscii c = true) (before after : Text) :
    lowerBetween before c after = [c.toLower] := by
  have hdotted : c ≠ '\u0130' := by rintro rfl; revert h; decide
  have hsigma : c ≠ '\u03a3' := by rintro rfl; revert h; decide
  rw [isAscii, decide_eq_true_eq] at h
  simp only [lowerBetween, hdotted, hsigma, ite_false, lowerSimple, h, ite_true]

theorem lowerAfter_ascii {t : Text} (h : t.all isAscii = true) (before : Text) :
    lowerAfter before t = t.map Char.toLower := by
  induction t generalizing before with
  | nil => rfl
  | cons c t ih =>
      rw [List.all_cons, Bool.and_eq_true] at h
      rw [lowerAfter, lowerBetween_ascii h.1, ih h.2, List.map_cons, List.singleton_append]

/-- In ASCII every character is lowered by itself. -/
theorem lower_ascii {t : Text} (h : t.all isAscii = true) : t.lower = t.map Char.toLower :=
  lowerAfter_ascii h []

/-! ### No capital letters -/

theorem isUpper_iff (c : Char) : c.isUpper = true ↔ 65 ≤ c.toNat ∧ c.toNat ≤ 90 :=
  decide_eq_true_iff

theorem not_isUpper_toLower (c : Char) : c.toLower.isUpper = false := by
  rw [← Bool.not_eq_true, isUpper_iff]
  unfold Char.toLower
  split
  · next h =>
      obtain ⟨hle, hge⟩ := h
      have hle : 65 ≤ c.toNat := hle
      have hge : c.toNat ≤ 90 := hge
      have hval : (c.val + ('a'.val - 'A'.val)).toNat = c.toNat + 32 := by
        rw [UInt32.toNat_add]
        exact Nat.mod_eq_of_lt (by change c.toNat + 32 < _; omega)
      rintro ⟨-, hupper⟩
      have hupper : (c.val + ('a'.val - 'A'.val)).toNat ≤ 90 := hupper
      omega
  · next h => exact h

/-- Lower-case partners stand behind the capital letters of ASCII. -/
theorem lt_of_mem_lowerRuns : ∀ run ∈ CaseTable.lowerRuns, (90 : Int) < run.first + run.shift := by
  decide +kernel

theorem not_isUpper_ofNat {n : ℕ} (h : 90 < n) : (Char.ofNat n).isUpper = false := by
  rw [← Bool.not_eq_true, isUpper_iff]
  by_cases hvalid : n.isValidChar
  · have hn : Char.ofNat n = Char.ofNatAux n hvalid := dif_pos hvalid
    have hcode : (Char.ofNat n).toNat = n := by rw [hn]; rfl
    omega
  · have hn : Char.ofNat n = '\x00' := dif_neg hvalid
    rw [hn]
    decide

theorem not_isUpper_lowerSimple (c : Char) : (lowerSimple c).isUpper = false := by
  unfold lowerSimple
  split
  · exact not_isUpper_toLower c
  · next hbeyond =>
      split
      · next run hrun =>
          have hlt := lt_of_mem_lowerRuns run (List.mem_of_find?_eq_some hrun)
          have hcovers := List.find?_some hrun
          simp only [CaseTable.Run.covers, Bool.and_eq_true, decide_eq_true_eq] at hcovers
          exact not_isUpper_ofNat (by omega)
      · rw [← Bool.not_eq_true, isUpper_iff]
        omega

theorem not_isUpper_of_mem_lowerAfter {before t : Text} {c : Char} (h : c ∈ lowerAfter before t) :
    c.isUpper = false := by
  induction t generalizing before with
  | nil => cases h
  | cons d t ih =>
      rw [lowerAfter, List.mem_append] at h
      rcases h with h | h
      · unfold lowerBetween at h
        split_ifs at h
        · rw [List.mem_cons, List.mem_singleton] at h
          rcases h with rfl | rfl <;> decide
        · rw [List.mem_singleton.mp h]
          decide
        · rw [List.mem_singleton.mp h]
          decide
        · rw [List.mem_singleton.mp h]
          exact not_isUpper_lowerSimple d
      · exact ih h

/-- A text in lower case has no capital letters of ASCII. -/
theorem not_isUpper_of_mem_lower {t : Text} {c : Char} (h : c ∈ t.lower) : c.isUpper = false :=
  not_isUpper_of_mem_lowerAfter h

end CypherPages.Text
