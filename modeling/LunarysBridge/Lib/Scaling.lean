/-
LunarysBridge.Lib.Scaling — amounts in units of different size.

Moving an amount by `d` digits multiplies it by a power of the base where
`d` is positive, and divides it, rounding down, where `d` is negative.
There and back again loses what was rounded away and nothing else
(`back_le`, `back_eq_iff`).
-/
import Mathlib.Data.Int.DivMod
import Mathlib.Algebra.Order.Ring.Int

namespace Scaling

variable (b d x y : Int)

def scale : Int := if 0 ≤ d then x * b ^ d.natAbs else x / b ^ d.natAbs

variable {b d x y}

theorem scale_of_nonneg (h : 0 ≤ d) : scale b d x = x * b ^ d.natAbs := if_pos h

theorem scale_of_neg (h : d < 0) : scale b d x = x / b ^ d.natAbs := if_neg (by omega)

@[simp] theorem scale_zero : scale b 0 x = x := by simp [scale]

section

variable (hb : 0 < b)
include hb

theorem scale_nonneg (hx : 0 ≤ x) : 0 ≤ scale b d x := by
  have hpow : 0 < b ^ d.natAbs := Int.pow_pos hb
  unfold scale
  split
  · exact Int.mul_nonneg hx (Int.le_of_lt hpow)
  · exact Int.ediv_nonneg hx (Int.le_of_lt hpow)

theorem scale_mono (h : x ≤ y) : scale b d x ≤ scale b d y := by
  have hpow : 0 < b ^ d.natAbs := Int.pow_pos hb
  unfold scale
  split
  · exact Int.mul_le_mul_of_nonneg_right h (Int.le_of_lt hpow)
  · exact Int.ediv_le_ediv hpow h

/-- There and back: only what a division rounds away is lost. -/
theorem scale_neg_scale : scale b (-d) (scale b d x) =
    if 0 ≤ d then x else x / b ^ d.natAbs * b ^ d.natAbs := by
  have hpow : b ^ d.natAbs ≠ 0 := Int.ne_of_gt (Int.pow_pos hb)
  split
  · next hd =>
    rw [scale_of_nonneg hd]
    by_cases hzero : d = 0
    · subst hzero
      simp
    · rw [scale_of_neg (by omega), Int.natAbs_neg, Int.mul_ediv_cancel _ hpow]
  · next hd =>
    rw [scale_of_neg (by omega : d < 0), scale_of_nonneg (by omega), Int.natAbs_neg]

theorem back_le : scale b (-d) (scale b d x) ≤ x := by
  rw [scale_neg_scale hb]
  split
  · exact Int.le_refl x
  · exact Int.ediv_mul_le x (Int.ne_of_gt (Int.pow_pos hb))

theorem back_eq_iff : scale b (-d) (scale b d x) = x ↔ b ^ (max 0 (-d)).toNat ∣ x := by
  rw [scale_neg_scale hb]
  split
  · next hd =>
    have hzero : (max 0 (-d)).toNat = 0 := by omega
    rw [hzero, pow_zero]
    exact iff_of_true rfl (one_dvd x)
  · next hd =>
    have habs : (max 0 (-d)).toNat = d.natAbs := by omega
    rw [habs]
    exact ⟨fun h => Dvd.intro_left _ h, Int.ediv_mul_cancel⟩

end

end Scaling
