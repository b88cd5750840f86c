/-
LunarysBridge.Lib.Tariff — a fee that is a share of an amount, held between
a floor and a ceiling, with half of the amount as the last resort.

The last resort is taken when the held share would eat the whole amount, and
only then. Below `least`, the smallest share the limits allow, the fee is
half of the amount; above it the fee is the held share. `fee_le_max_iff`
says for which amounts the fee is within half of the amount, and
`net_le_net_iff` for which pairs more is left of the larger one: the amounts
just above `least` are the exception to both.
-/
import Mathlib.Algebra.Order.Ring.Nat

structure Tariff where
  share : Nat → Nat
  floor : Nat
  ceiling : Nat

namespace Tariff

/-! ## The fee -/

/-- The share after the floor and then the ceiling: where they cross, the
ceiling wins. -/
def held (f : Tariff) (amount : Nat) : Nat :=
  min (max (f.share amount) f.floor) f.ceiling

/-- What is held of an amount without a share. -/
def least (f : Tariff) : Nat := min f.floor f.ceiling

def fee (f : Tariff) (amount : Nat) : Nat :=
  if f.held amount ≥ amount then amount / 2 else f.held amount

def net (f : Tariff) (amount : Nat) : Nat := amount - f.fee amount

variable (f : Tariff) (amount : Nat)

/-- The limits as assignments, one after the other. -/
theorem held_eq_ite : f.held amount =
    let fee := f.share amount
    let fee := if fee < f.floor then f.floor else fee
    if fee > f.ceiling then f.ceiling else fee := by
  simp only [held]
  split <;> split <;> omega

theorem held_le_ceiling : f.held amount ≤ f.ceiling := Nat.min_le_right _ _

theorem least_le_held : f.least ≤ f.held amount := by
  simp only [least, held]
  omega

/-- Above the least, what is held is the share or less. -/
theorem held_le_share (h : f.least < f.held amount) : f.held amount ≤ f.share amount := by
  simp only [least, held] at h ⊢
  omega

theorem fee_le : f.fee amount ≤ amount := by
  unfold fee
  split
  · exact Nat.div_le_self amount 2
  · next h => omega

theorem fee_add_net : f.fee amount + f.net amount = amount := by
  have hle := f.fee_le amount
  unfold net
  omega

/-- Something is left of every amount. -/
theorem net_pos {amount : Nat} (h : 0 < amount) : 0 < f.net amount := by
  unfold net fee
  split <;> omega

/-! ## Moderate tariffs -/

/-- The share is at most half of the amount, and grows no faster than the
amount does. -/
structure Moderate (f : Tariff) : Prop where
  half : ∀ amount, 2 * f.share amount ≤ amount
  steady : ∀ a b, a ≤ b → f.share b + a ≤ f.share a + b

/-- So many parts of `base`, rounded down. -/
def percentage (rate base amount : Nat) : Nat := amount * rate / base

theorem percentage_half {rate base : Nat} (h : 2 * rate ≤ base) (amount : Nat) :
    2 * percentage rate base amount ≤ amount := by
  have hshare : percentage rate base amount ≤ amount / 2 := by
    rw [Nat.le_div_iff_mul_le Nat.two_pos]
    rcases Nat.eq_zero_or_pos base with rfl | hbase
    · simp [percentage]
    · refine Nat.le_of_mul_le_mul_right ?_ hbase
      have hparts : percentage rate base amount * base ≤ amount * rate :=
        Nat.div_mul_le_self ..
      calc percentage rate base amount * 2 * base
          = percentage rate base amount * base * 2 := Nat.mul_right_comm ..
        _ ≤ amount * rate * 2 := Nat.mul_le_mul_right 2 hparts
        _ = amount * (2 * rate) := by rw [Nat.mul_assoc, Nat.mul_comm rate]
        _ ≤ amount * base := Nat.mul_le_mul_left amount h
  omega

theorem percentage_steady {rate base : Nat} (h : rate ≤ base) {a b : Nat} (hab : a ≤ b) :
    percentage rate base b + a ≤ percentage rate base a + b := by
  rcases Nat.eq_zero_or_pos base with rfl | hbase
  · simpa [percentage] using hab
  · obtain ⟨k, rfl⟩ := Nat.exists_eq_add_of_le hab
    have hgrow : percentage rate base (a + k) ≤ percentage rate base a + k := by
      calc (a + k) * rate / base
          ≤ (a * rate + k * base) / base := by
            rw [Nat.add_mul]
            exact Nat.div_le_div_right
              (Nat.add_le_add_left (Nat.mul_le_mul_left k h) _)
        _ = a * rate / base + k := Nat.add_mul_div_right _ _ hbase
    omega

/-- A percentage of at most one half is moderate. -/
theorem moderate_percentage {rate base : Nat} (h : 2 * rate ≤ base) (floor ceiling : Nat) :
    Moderate ⟨percentage rate base, floor, ceiling⟩ where
  half := percentage_half h
  steady _ _ := percentage_steady (by omega)

variable {f}

/-- The last resort is for the amounts up to the least. -/
theorem Moderate.held_ge_iff (h : f.Moderate) (amount : Nat) :
    f.held amount ≥ amount ↔ amount ≤ f.least := by
  have hhalf := h.half amount
  have hleast := f.least_le_held amount
  constructor
  · intro hge
    by_cases heq : f.least < f.held amount
    · have hshare := f.held_le_share amount heq
      omega
    · omega
  · omega

theorem fee_of_le {amount : Nat} (hle : amount ≤ f.least) : f.fee amount = amount / 2 := by
  unfold fee
  rw [if_pos]
  have hleast := f.least_le_held amount
  omega

theorem Moderate.fee_of_lt (h : f.Moderate) {amount : Nat} (hlt : f.least < amount) :
    f.fee amount = f.held amount := by
  unfold fee
  rw [if_neg]
  rw [h.held_ge_iff]
  omega

/-- **The fee is within half of the amount** up to the least, and from twice
the least on; the share never makes room for more. -/
theorem Moderate.fee_le_max_iff (h : f.Moderate) (amount : Nat) :
    f.fee amount ≤ max (amount / 2) (f.share amount) ↔
      amount ≤ f.least ∨ 2 * f.least ≤ amount := by
  have hhalf := h.half amount
  rcases Nat.lt_or_ge f.least amount with hlt | hle
  · rw [h.fee_of_lt hlt]
    have hleast := f.least_le_held amount
    by_cases heq : f.least < f.held amount
    · have hshare := f.held_le_share amount heq
      omega
    · omega
  · rw [fee_of_le hle]
    omega

theorem Moderate.capped_iff (h : f.Moderate) {amount : Nat} (hpos : 0 < amount) :
    f.fee amount ≤ max (amount / 2) (f.share amount) ∧ 0 < f.net amount ↔
      amount ≤ f.least ∨ 2 * f.least ≤ amount := by
  rw [h.fee_le_max_iff, and_iff_left (f.net_pos hpos)]

/-- **More is left of the larger amount**, unless only the smaller one is
charged half and the larger one is not far enough above the least. -/
theorem Moderate.net_le_net_iff (h : f.Moderate) {a b : Nat} (hab : a ≤ b) :
    f.net a ≤ f.net b ↔
      f.least < a ∨ b ≤ f.least ∨ f.least + (a - a / 2) ≤ b := by
  unfold net
  rcases Nat.lt_or_ge f.least a with ha | ha
  · -- both are charged what is held, which grows no faster than the amount
    rw [h.fee_of_lt ha, h.fee_of_lt (Nat.lt_of_lt_of_le ha hab)]
    have hsteady := h.steady a b hab
    have hheld : f.held b + a ≤ f.held a + b := by
      simp only [held]
      omega
    omega
  · rw [fee_of_le ha]
    rcases Nat.lt_or_ge f.least b with hb | hb
    · rw [h.fee_of_lt hb]
      have hleast := f.least_le_held b
      by_cases heq : f.least < f.held b
      · -- the share is beyond the least, and at most half of the amount
        have hshare := f.held_le_share b heq
        have hhalf := h.half b
        omega
      · omega
    · rw [fee_of_le hb]
      omega

end Tariff
