/-
LunarysBridge.Lib.Rounding — natural numbers as a floating-point format
keeps them.

`round p n` is the nearest number of `p` significant bits, and of two the
one with the even significand. Exactly the numbers that have so many bits
are kept as they are (`round_eq_iff`). The exponent is not bounded.
-/
import Mathlib.Algebra.Order.Ring.Nat

namespace Rounding

/-- The quotient to the nearest; a half goes to the even one. -/
def divEven (n d : Nat) : Nat :=
  if 2 * (n % d) < d ∨ 2 * (n % d) = d ∧ n / d % 2 = 0 then n / d else n / d + 1

theorem divEven_mul_of_dvd {n d : Nat} (hd : 0 < d) (h : d ∣ n) : divEven n d * d = n := by
  obtain ⟨q, rfl⟩ := h
  rw [divEven, Nat.mul_mod_right, if_pos (.inl hd), Nat.mul_div_cancel_left q hd, Nat.mul_comm]

theorem divEven_le (n d : Nat) : divEven n d ≤ n / d + 1 := by
  unfold divEven
  split <;> omega

variable (p n : Nat)

/-- The bits of the number beyond the leading `p`. -/
def spare : Nat := n.log2 + 1 - p

def round : Nat := divEven n (2 ^ spare p n) * 2 ^ spare p n

/-- The number has `p` significant bits. -/
def Exact : Prop := ∃ m k, m < 2 ^ p ∧ n = m * 2 ^ k

variable {p n}

theorem exact_of_lt (h : n < 2 ^ p) : Exact p n := ⟨n, 0, h, (Nat.mul_one n).symm⟩

theorem exact_two_pow (hp : 0 < p) (k : Nat) : Exact p (2 ^ k) :=
  ⟨1, k, Nat.one_lt_two_pow (Nat.ne_of_gt hp), (Nat.one_mul _).symm⟩

/-- There are no more spare bits than trailing zeros. -/
theorem spare_dvd (h : Exact p n) : 2 ^ spare p n ∣ n := by
  obtain ⟨m, k, hm, rfl⟩ := h
  by_cases hzero : m * 2 ^ k = 0
  · rw [hzero]
    exact Nat.dvd_zero _
  · have hlt : m * 2 ^ k < 2 ^ (p + k) := by
      rw [Nat.pow_add]
      exact Nat.mul_lt_mul_of_pos_right hm (Nat.two_pow_pos k)
    have hlog := (Nat.log2_lt hzero).mpr hlt
    have hle : spare p (m * 2 ^ k) ≤ k := by
      unfold spare
      omega
    exact Nat.dvd_trans (Nat.pow_dvd_pow 2 hle) (Nat.dvd_mul_left _ _)

/-- **Only a number with so many bits is not changed.** -/
theorem round_eq_iff : round p n = n ↔ Exact p n := by
  constructor
  · intro h
    have hlt : round p n < 2 ^ p * 2 ^ spare p n := by
      rw [h, ← Nat.pow_add]
      refine Nat.lt_of_lt_of_le (Nat.lt_log2_self (n := n)) (Nat.pow_le_pow_right (by decide) ?_)
      unfold spare
      omega
    exact ⟨divEven n (2 ^ spare p n), spare p n, Nat.lt_of_mul_lt_mul_right hlt, h.symm⟩
  · intro h
    exact divEven_mul_of_dvd (Nat.two_pow_pos _) (spare_dvd h)

/-- A number below a power of two is rounded to that power at most. -/
theorem round_le {b : Nat} (hp : 0 < p) (h : n < 2 ^ b) : round p n ≤ 2 ^ b := by
  have hspare : spare p n ≤ b := by
    by_cases hzero : n = 0
    · subst hzero
      unfold spare
      simp
      omega
    · have hlog := (Nat.log2_lt hzero).mpr h
      unfold spare
      omega
  have hsplit : 2 ^ b = 2 ^ (b - spare p n) * 2 ^ spare p n := by
    rw [← Nat.pow_add, Nat.sub_add_cancel hspare]
  have hquot : n / 2 ^ spare p n < 2 ^ (b - spare p n) := by
    rw [Nat.div_lt_iff_lt_mul (Nat.two_pow_pos _), ← hsplit]
    exact h
  have hle := divEven_le n (2 ^ spare p n)
  rw [hsplit]
  exact Nat.mul_le_mul_right _ (by omega)

end Rounding
