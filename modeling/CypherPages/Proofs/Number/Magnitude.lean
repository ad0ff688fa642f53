import CypherPages.Number.Binary64
import Mathlib.Algebra.Group.Nat.Defs
import Mathlib.Data.Int.Notation
import Mathlib.Data.Nat.Notation
import Mathlib.Tactic.Common

/-! # Magnitudes

A quotient that is rounded gives a mantissa and an exponent within bounds, so the integer part of
a finite result has no more digits than the largest finite number. -/

namespace CypherPages.Binary64

/-- A number below `2 ^ a` over one of at least `2 ^ b`, scaled down by `2 ^ exponent`. -/
theorem scaleDown_lt {num den a b : ℕ} (exponent : ℤ) (width : ℕ) (hnum : num < 2 ^ a)
    (hden : 2 ^ b ≤ den) (h : (a : ℤ) - b - exponent ≤ width) :
    (scaleDown num den exponent).1 < (scaleDown num den exponent).2 * 2 ^ width := by
  by_cases hsign : 0 ≤ exponent
  · obtain ⟨k, rfl⟩ := Int.eq_ofNat_of_zero_le hsign
    have hwidth : a ≤ b + k + width := by omega
    have hscaled : scaleDown num den k = (num, den * 2 ^ k) := by
      rw [scaleDown, if_pos hsign, Int.toNat_natCast, Nat.shiftLeft_eq]
    rw [hscaled]
    calc num < 2 ^ a := hnum
      _ ≤ 2 ^ (b + k + width) := Nat.pow_le_pow_right (by decide) hwidth
      _ = 2 ^ b * 2 ^ k * 2 ^ width := by rw [Nat.pow_add, Nat.pow_add]
      _ ≤ den * 2 ^ k * 2 ^ width :=
        Nat.mul_le_mul_right _ (Nat.mul_le_mul_right _ hden)
  · obtain ⟨k, hk⟩ : ∃ k : ℕ, -exponent = k := Int.eq_ofNat_of_zero_le (by omega)
    have hwidth : a + k ≤ b + width := by omega
    have hscaled : scaleDown num den exponent = (num * 2 ^ k, den) := by
      rw [scaleDown, if_neg hsign, hk, Int.toNat_natCast, Nat.shiftLeft_eq]
    rw [hscaled]
    calc num * 2 ^ k < 2 ^ a * 2 ^ k := Nat.mul_lt_mul_of_pos_right hnum (Nat.two_pow_pos k)
      _ = 2 ^ (a + k) := (Nat.pow_add ..).symm
      _ ≤ 2 ^ (b + width) := Nat.pow_le_pow_right (by decide) hwidth
      _ = 2 ^ b * 2 ^ width := Nat.pow_add ..
      _ ≤ den * 2 ^ width := Nat.mul_le_mul_right _ hden

theorem roundDiv_le (num den : ℕ) : roundDiv num den ≤ num / den + 1 := by
  unfold roundDiv
  dsimp only
  split
  · omega
  · split
    · omega
    · split <;> omega

theorem le_floorLog2 (num den : ℕ) : (num.log2 : ℤ) - den.log2 - 1 ≤ floorLog2 num den := by
  unfold floorLog2
  dsimp only
  split <;> omega

/-- A finite number that a quotient is rounded to has at most 54 bits in front of its exponent,
which is no larger than the largest one. -/
theorem ofRatio_bounds {negative sign : Bool} {num den mantissa : ℕ} {exponent : ℤ}
    (hden : 0 < den) (h : ofRatio negative num den = .finite sign mantissa exponent) :
    mantissa ≤ 2 ^ 54 ∧ exponent ≤ 971 := by
  unfold ofRatio at h
  split at h
  · cases h
    exact ⟨Nat.zero_le _, by decide⟩
  · next hnum =>
      have hlog := le_floorLog2 num den
      have hround := scaleDown_lt (max (floorLog2 num den - 52) (-1074)) 54
        (Nat.lt_log2_self : num < 2 ^ (num.log2 + 1)) (Nat.log2_self_le (Nat.ne_of_gt hden))
        (by omega)
      have hquotient := Nat.div_lt_of_lt_mul hround
      have hmantissa := Nat.le_trans (roundDiv_le _ _) hquotient
      have hhalf : 2 ^ 52 ≤ 2 ^ 54 := by decide
      dsimp only at h
      split at h
      all_goals
        split at h
        · cases h
        · next hexponent =>
            cases h
            exact ⟨by assumption, Int.not_lt.mp hexponent⟩

theorem ratio_pos (mantissa : ℕ) (exponent : ℤ) : 0 < (ratio mantissa exponent).2 := by
  unfold ratio scaleDown
  split
  · rw [Nat.shiftLeft_eq, Nat.one_mul]
    exact Nat.two_pow_pos _
  · exact Nat.one_pos

/-- The integer part of a number within the bounds. -/
theorem natAbs_truncate?_lt {sign : Bool} {mantissa : ℕ} {exponent n : ℤ}
    (hmantissa : mantissa ≤ 2 ^ 54) (hexponent : exponent ≤ 971)
    (h : (Binary64.finite sign mantissa exponent).truncate? = some n) : n.natAbs < 2 ^ 1026 := by
  have hsmall : mantissa < 2 ^ 55 :=
    Nat.lt_of_le_of_lt hmantissa (Nat.pow_lt_pow_right (by decide) (by decide))
  have hratio : (ratio mantissa exponent).1 < (ratio mantissa exponent).2 * 2 ^ 1026 :=
    scaleDown_lt (b := 0) (-exponent) 1026 hsmall (Nat.le_refl 1) (by omega)
  have hquotient := Nat.div_lt_of_lt_mul hratio
  simp only [truncate?, Option.some.injEq] at h
  subst h
  rw [apply_ite Int.natAbs, Int.natAbs_neg, Int.natAbs_natCast, ite_self]
  exact hquotient

/-- The integer part of a finite product. -/
theorem natAbs_truncate?_mulNat_lt {x : Binary64} {k : ℕ} {n : ℤ}
    (h : (x.mulNat k).truncate? = some n) : n.natAbs < 2 ^ 1026 := by
  cases x with
  | finite negative mantissa exponent =>
      rw [mulNat] at h
      cases hproduct : ofRatio negative ((ratio mantissa exponent).1 * k)
          (ratio mantissa exponent).2 with
      | finite sign mantissa' exponent' =>
          obtain ⟨hmantissa, hexponent⟩ := ofRatio_bounds (ratio_pos mantissa exponent) hproduct
          simp only [hproduct] at h
          exact natAbs_truncate?_lt hmantissa hexponent h
      | _ => simp only [hproduct, truncate?, reduceCtorEq] at h
  | _ => cases h

end CypherPages.Binary64
