import Mathlib.Data.Rat.Floor
import SolMesh.Foundations.Python

set_option relaxedAutoImplicit false
set_option autoImplicit false

/-!
# Exact amounts

Rational numbers as the numbers people write: `int(x)` truncates them towards zero.

## Main definitions

* `Py.truncate` — truncation towards zero.

## Main results

* `Py.truncate_mono` — truncation is monotone.
* `Py.le_truncate_iff` — what is below a truncated non-negative number.
* `Py.truncate_eq_zero_iff` — which numbers are truncated to zero.
* `Py.truncate_mul_eq_iff` — which numbers are truncated alike in another unit.
-/

namespace Py

/-- `int(x)` of a rational number: truncation towards zero. -/
def truncate (x : ℚ) : ℤ := if 0 ≤ x then ⌊x⌋ else ⌈x⌉

/-- Rational numbers are numbers. -/
instance : Number ℚ where
  mulInt x n := x * n
  toInt x := .ok (truncate x)
  str x := Text.ofString (toString x)

/-- Truncation of a non-negative number rounds down. -/
lemma truncate_of_nonneg {x : ℚ} (h : 0 ≤ x) : truncate x = ⌊x⌋ := if_pos h

/-- Truncation of a negative number rounds up. -/
lemma truncate_of_neg {x : ℚ} (h : x < 0) : truncate x = ⌈x⌉ := if_neg (not_le.mpr h)

/-- **Truncation is monotone.** -/
lemma truncate_mono {x y : ℚ} (h : x ≤ y) : truncate x ≤ truncate y := by
  rcases le_or_gt 0 x with hx | hx
  · rw [truncate_of_nonneg hx, truncate_of_nonneg (hx.trans h)]
    exact Int.floor_le_floor h
  · rw [truncate_of_neg hx]
    rcases le_or_gt 0 y with hy | hy
    · -- a negative number is rounded to zero at most
      have hle : ⌈x⌉ ≤ 0 := Int.ceil_le.mpr (by exact_mod_cast hx.le)
      rw [truncate_of_nonneg hy]
      exact hle.trans (Int.floor_nonneg.mpr hy)
    · rw [truncate_of_neg hy]
      exact Int.ceil_le_ceil h

/-- **What is below a truncated number**: the integers below the number, if it is not negative. -/
lemma le_truncate_iff {x : ℚ} (h : 0 ≤ x) {n : ℤ} : n ≤ truncate x ↔ (n : ℚ) ≤ x := by
  rw [truncate_of_nonneg h, Int.le_floor]

/-- The numbers that are truncated to zero. -/
lemma truncate_eq_zero_iff {x : ℚ} : truncate x = 0 ↔ |x| < 1 := by
  rw [abs_lt]
  rcases le_or_gt 0 x with hx | hx
  · rw [truncate_of_nonneg hx, Int.floor_eq_zero_iff, Set.mem_Ico]
    exact ⟨fun h => ⟨by linarith, h.2⟩, fun h => ⟨hx, h.2⟩⟩
  · rw [truncate_of_neg hx, Int.ceil_eq_zero_iff, Set.mem_Ioc]
    exact ⟨fun h => ⟨h.1, by linarith⟩, fun h => ⟨h.1, hx.le⟩⟩

/-- Truncation keeps the sign. -/
lemma truncate_neg (x : ℚ) : truncate (-x) = -truncate x := by
  rcases lt_trichotomy x 0 with hx | rfl | hx
  · rw [truncate_of_neg hx, truncate_of_nonneg (neg_nonneg.mpr hx.le), Int.floor_neg]
  · rfl
  · rw [truncate_of_nonneg hx.le, truncate_of_neg (neg_neg_of_pos hx), Int.ceil_neg]

/-- **Scaling an amount changes it**, unless it is truncated to zero in both units.

**Proof sketch.** A negative number is truncated like its opposite, so let `x` be nonnegative. If `x
* n` is truncated to zero, so is `x`, which is smaller. Otherwise both would be truncated to the
same positive number; but twice this number is still at most `x * n`, as `n` is at least two. -/
lemma truncate_mul_eq_iff {x : ℚ} {n : ℕ} (hn : 2 ≤ n) :
    truncate (x * n) = truncate x ↔ |x * n| < 1 := by
  have hn' : (2 : ℚ) ≤ n := by exact_mod_cast hn
  wlog hx : 0 ≤ x generalizing x
  · have hneg := this (x := -x) (neg_nonneg.mpr (not_le.mp hx).le)
    rwa [neg_mul, truncate_neg, truncate_neg, neg_inj, abs_neg] at hneg
  have hle : x ≤ x * n := by nlinarith
  constructor
  · intro h
    rw [← truncate_eq_zero_iff, h]
    by_contra hne
    have hpos : 1 ≤ truncate x := by
      have hnonneg : (0 : ℤ) ≤ truncate x := (le_truncate_iff hx).mpr (by exact_mod_cast hx)
      omega
    -- twice what was truncated is still below the scaled number
    have htwice : 2 * truncate x ≤ truncate (x * n) := by
      rw [le_truncate_iff (hx.trans hle)]
      have hbelow := (le_truncate_iff hx).mp (le_refl (truncate x))
      push_cast
      nlinarith
    omega
  · intro h
    rw [truncate_eq_zero_iff.mpr h, truncate_eq_zero_iff.mpr]
    rw [abs_of_nonneg (hx.trans hle)] at h
    rw [abs_of_nonneg hx]
    exact hle.trans_lt h

end Py
