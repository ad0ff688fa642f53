import CypherPages.Number.Hexadecimal
import CypherPages.Number.Numeral
import Mathlib.Algebra.Group.Nat.Defs
import Mathlib.Data.List.Basic
import Mathlib.Data.Nat.Notation
import Mathlib.Tactic.Common

/-! # Digits

The digits of a number, in base 10 and in base 16, denote the number. -/

namespace CypherPages

/-! ### Base 10 -/

namespace Numeral

theorem ofDigits_decimal (n : ℕ) : ofDigits (Text.decimal n) = n := Nat.ofDigitChars_ten_toDigits

theorem all_isDigit_decimal (n : ℕ) : (Text.decimal n).all isDigit = true := by
  rw [List.all_eq_true]
  intro c hc
  have hdigit := Nat.isDigit_of_mem_toDigits (by decide) (by decide) hc
  rw [Char.isDigit, Bool.and_eq_true, decide_eq_true_eq, decide_eq_true_eq] at hdigit
  rw [isDigit, Bool.and_eq_true, decide_eq_true_eq, decide_eq_true_eq]
  exact hdigit

theorem exists_decimal (n : ℕ) :
    ∃ c digits, Text.decimal n = c :: digits ∧ isDigit c = true := by
  have hall := List.all_eq_true.mp (all_isDigit_decimal n)
  have hne : Text.decimal n ≠ [] := Nat.toDigits_ne_nil
  obtain ⟨c, digits, hdigits⟩ := List.exists_cons_of_ne_nil hne
  exact ⟨c, digits, hdigits, hall c (hdigits ▸ List.mem_cons_self)⟩

/-- No zero stands in front of other digits. -/
theorem head?_decimal {n : ℕ} (h : (Text.decimal n).head? = some '0') : n = 0 := by
  induction n using Nat.base_induction 10 (by decide) with
  | single m hm =>
      rw [Text.decimal, Nat.toDigits_of_lt_base hm, List.head?_cons, Option.some.injEq,
        Nat.digitChar_eq_zero] at h
      exact h
  | digit m k hk hm ih =>
      rw [Text.decimal, ← Nat.toDigits_append_toDigits (by decide) hm hk,
        List.head?_append_of_ne_nil _ Nat.toDigits_ne_nil] at h
      exact absurd (ih h) (Nat.ne_of_gt hm)

end Numeral

/-! ### Base 16 -/

namespace Hexadecimal

theorem digitValue?_digitChar {n : ℕ} (h : n < 16) : digitValue? n.digitChar = some n := by
  have hall : ∀ n : Fin 16, digitValue? n.val.digitChar = some n.val := by decide
  exact hall ⟨n, h⟩

theorem ofDigits_append (first rest : Text) :
    ofDigits (first ++ rest) =
      rest.foldl (fun n c => 16 * n + (digitValue? c).getD 0) (ofDigits first) :=
  List.foldl_append

theorem ofDigits_replicate_zero (n : ℕ) : ofDigits (List.replicate n '0') = 0 := by
  induction n with
  | zero => rfl
  | succ n ih =>
      rw [List.replicate_succ', ofDigits_append, ih]
      rfl

theorem ofDigits_natToDigits (n : ℕ) : ofDigits (Nat.toDigits 16 n) = n := by
  induction n using Nat.base_induction 16 (by decide) with
  | single m hm =>
      rw [Nat.toDigits_of_lt_base hm]
      simp [ofDigits, digitValue?_digitChar hm]
  | digit m k hk hm ih =>
      rw [← Nat.toDigits_append_toDigits (by decide) hm hk, ofDigits_append, ih,
        Nat.toDigits_of_lt_base hk]
      simp [digitValue?_digitChar hk]

theorem isDigit_of_mem_natToDigits {n : ℕ} {c : Char} (h : c ∈ Nat.toDigits 16 n) :
    isDigit c = true := by
  induction n using Nat.base_induction 16 (by decide) with
  | single m hm =>
      rw [Nat.toDigits_of_lt_base hm, List.mem_singleton] at h
      rw [h, isDigit, digitValue?_digitChar hm]
      rfl
  | digit m k hk hm ih =>
      rw [← Nat.toDigits_append_toDigits (by decide) hm hk, Nat.toDigits_of_lt_base hk,
        List.mem_append, List.mem_singleton] at h
      rcases h with h | rfl
      · exact ih h
      · rw [isDigit, digitValue?_digitChar hk]
        rfl

theorem toDigits_eq (width n : ℕ) : toDigits width n =
    List.replicate (width - (Nat.toDigits 16 n).length) '0' ++ Nat.toDigits 16 n := rfl

theorem ofDigits_toDigits (width n : ℕ) : ofDigits (toDigits width n) = n := by
  rw [toDigits_eq, ofDigits_append, ofDigits_replicate_zero]
  exact ofDigits_natToDigits n

theorem all_isDigit_toDigits (width n : ℕ) : (toDigits width n).all isDigit = true := by
  rw [toDigits_eq, List.all_append, Bool.and_eq_true, List.all_eq_true, List.all_eq_true]
  refine ⟨fun c hc => ?_, fun c => isDigit_of_mem_natToDigits⟩
  rw [(List.mem_replicate.mp hc).2]
  decide

theorem length_toDigits {width n : ℕ} (hwidth : 0 < width) (h : n < 16 ^ width) :
    (toDigits width n).length = width := by
  have hlength := (Nat.length_toDigits_le_iff (b := 16) (by decide) hwidth).mpr h
  rw [toDigits_eq, List.length_append, List.length_replicate, Nat.sub_add_cancel hlength]

end Hexadecimal

end CypherPages
