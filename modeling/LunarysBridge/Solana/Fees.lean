/-
LunarysBridge.Solana.Fees — the fee of a deposit, as a tariff.

Both handlers calculate in `u128` and cast to `u64` on the way. `clampedFee`
is what they have after the limits. It is at most `max_fee`, so the cast
keeps it, and the fee and the net amount are those of the tariff.
-/
import LunarysBridge.Lib.Tariff
import LunarysBridge.Solana.Program

namespace LunarysBridge.Solana

/-- The tariff of a config. -/
def BridgeConfig.tariff (cfg : BridgeConfig) : Tariff where
  share := Tariff.percentage cfg.feeBps.toNat 10000
  floor := cfg.minFee.toNat
  ceiling := cfg.maxFee.toNat

variable (cfg : BridgeConfig) (amount : UInt64)

/-- The fee in `u128`, after the limits and before the cast. -/
def clampedFee : Nat :=
  let fee := amount.toNat * cfg.feeBps.toNat / 10000
  let fee := if fee < cfg.minFee.toNat then cfg.minFee.toNat else fee
  if fee > cfg.maxFee.toNat then cfg.maxFee.toNat else fee

theorem depositFee_eq_clampedFee : depositFee cfg amount =
    if clampedFee cfg amount % 2 ^ 64 ≥ amount.toNat then amount.toNat / 2
    else clampedFee cfg amount := rfl

theorem clampedFee_eq_held : clampedFee cfg amount = cfg.tariff.held amount.toNat := by
  rw [Tariff.held_eq_ite]
  rfl

/-- `fee as u64` drops nothing. -/
theorem clampedFee_cast : clampedFee cfg amount % 2 ^ 64 = clampedFee cfg amount := by
  have hmax : cfg.tariff.ceiling < 2 ^ 64 := cfg.maxFee.toNat_lt
  have hle := cfg.tariff.held_le_ceiling amount.toNat
  rw [clampedFee_eq_held]
  exact Nat.mod_eq_of_lt (Nat.lt_of_le_of_lt hle hmax)

/-- The fee of both handlers is the one of the tariff. -/
theorem depositFee_eq : depositFee cfg amount = cfg.tariff.fee amount.toNat := by
  rw [depositFee_eq_clampedFee, clampedFee_cast, clampedFee_eq_held, Tariff.fee]

theorem depositFee_lt : depositFee cfg amount < 2 ^ 64 := by
  rw [depositFee_eq]
  exact Nat.lt_of_le_of_lt (cfg.tariff.fee_le _) amount.toNat_lt

/-- `u64::try_from(fee)` succeeds. -/
theorem tryFromU64_depositFee :
    tryFromU64 (depositFee cfg amount) = some (feeU64 cfg amount) := by
  have hsome : tryFromU64 (depositFee cfg amount) =
      some (UInt64.ofNat (depositFee cfg amount)) := if_pos (depositFee_lt cfg amount)
  rw [feeU64, hsome, Option.getD_some]

theorem feeU64_eq : (feeU64 cfg amount).toNat = cfg.tariff.fee amount.toNat := by
  rw [tryFromU64_some (tryFromU64_depositFee cfg amount), depositFee_eq]

/-- `saturating_sub` subtracts. -/
theorem feeU64_le : feeU64 cfg amount ≤ amount := by
  rw [UInt64.le_iff_toNat_le, feeU64_eq]
  exact cfg.tariff.fee_le _

theorem amountNet_eq : (amountNet cfg amount).toNat = cfg.tariff.net amount.toNat := by
  have hle := feeU64_le cfg amount
  rw [amountNet, if_pos hle, UInt64.toNat_sub_of_le _ _ hle, feeU64_eq, Tariff.net]

/-- Nothing of a deposit is lost: the net amount and the fee make it up. -/
theorem amountNet_add_feeU64 :
    (amountNet cfg amount).toNat + (feeU64 cfg amount).toNat = amount.toNat := by
  rw [amountNet_eq, feeU64_eq, Nat.add_comm]
  exact cfg.tariff.fee_add_net _

end LunarysBridge.Solana
