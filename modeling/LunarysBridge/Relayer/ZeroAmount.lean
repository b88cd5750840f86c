/-
LunarysBridge.Relayer.ZeroAmount — settlements for nothing.

The conversion to SPL units rounds down, and what is wanted of the Solana
leg is a delta of at least the result. For an amount of less than one unit
that is nothing at all, and any confirmed transaction will do.
-/
import LunarysBridge.Relayer.Binding

namespace LunarysBridge.Relayer

open Async

/-- The EVM units that make one SPL unit, where these are the larger ones. -/
def oneUnit (info : TokenInfo) : Int := 10 ^ (info.evm.decimals - info.sol.decimals).toNat

/-- A positive amount is worth something on Solana exactly from one unit on. -/
theorem adjustToSolDecimals_pos_iff {amount : Int} (h : 0 < amount) (info : TokenInfo) :
    0 < adjustToSolDecimals amount info ↔ oneUnit info ≤ amount := by
  unfold adjustToSolDecimals oneUnit
  dsimp only
  split
  · next hdiff =>
    have hzero : (info.evm.decimals - info.sol.decimals).toNat = 0 := by omega
    have hpow : 0 < pow10 (info.sol.decimals - info.evm.decimals) := Int.pow_pos (by decide)
    rw [hzero]
    exact iff_of_true (Int.mul_pos h hpow) h
  · next hdiff =>
    have habs : (-(info.sol.decimals - info.evm.decimals)).natAbs =
        (info.evm.decimals - info.sol.decimals).toNat := by omega
    have hpow : (0 : Int) < 10 ^ (info.evm.decimals - info.sol.decimals).toNat :=
      Int.pow_pos (by decide)
    rw [pow10, habs, Int.tdiv_eq_ediv_of_nonneg (by omega)]
    show 1 ≤ amount / _ ↔ _
    rw [Int.le_ediv_iff_mul_le hpow, Int.one_mul]

section Delivery

variable (env : Setup) (dto : EvmToSolVerificationDto)

/-- The transaction named by the DTO credited its destination with units of
the mint that is checked. -/
def Credited (w : World) : Prop :=
  ∃ tx owner key, w.ledger dto.solanaTransferSignature = some tx ∧ tx.Succeeded ∧
    env.lib.publicKey dto.solanaDestination = .ok owner ∧
    env.lib.publicKey env.cfg.tokenSol = .ok key ∧ 0 < tx.tokenDelta owner key

/-- In this state of the contract and at this time, whatever is on Solana's
ledger: the handler comes to settle only what was delivered, and no amount
that rounds to nothing. -/
def SettlesDeliveries (evm : Evm.State) (clock : Nat) : Prop :=
  ∀ (w : World) (i : Nat) (call : ContractCall) (w' : World), w.evm = evm → w.clock = clock →
    Sends env i (handleEvmToSol env.lib env.cfg dto) w call w' →
    Credited env dto w ∧ ∀ amount, bigInt dto.amount = .ok amount →
      adjustToSolDecimals amount (tokenEntry env.cfg) ≠ 0

variable {env dto} {evm : Evm.State} {clock : Nat}

/-- What the handler lets pass, it lets pass on a ledger that has just the
amount it wants. -/
theorem Admits.delivers {solAmount : Int} {r : Nat}
    (h : Admits env dto evm clock solAmount r) (hall : SettlesDeliveries env dto evm clock) :
    0 < solAmount := by
  obtain ⟨w, call, w', requestId, owner, key, hlt, hevm, hclock, hledger, -, hsends, -⟩ :=
    exists_settlement h
  obtain ⟨⟨tx, owner', key', hget, -, -, -, hdelta⟩, -⟩ := hall w 0 call w' hevm hclock hsends
  obtain rfl : tokenCredit owner key solAmount.toNat hlt = tx := by
    simpa [hledger, creditLedger] using hget
  rw [tokenDelta_tokenCredit] at hdelta
  split at hdelta <;> omega

theorem delivered_of_sends {w : World} {i : Nat} {call : ContractCall} {w' : World}
    (hpos : ∀ amount solAmount r, bigInt dto.amount = .ok amount →
      Admits env dto w.evm w.clock solAmount r → oneUnit (tokenEntry env.cfg) ≤ amount)
    (hs : Sends env i (handleEvmToSol env.lib env.cfg dto) w call w') :
    Credited env dto w ∧ ∀ amount, bigInt dto.amount = .ok amount →
      adjustToSolDecimals amount (tokenEntry env.cfg) ≠ 0 := by
  obtain ⟨solAmount, mint, hresolves, ⟨tx, hledger, hok, owner, key, ata, howner, hkey, hata, hge⟩,
    requestId, r, hid, hr, hsettleable, -⟩ := sends_handleEvmToSol.mp ⟨w', hs⟩
  obtain rfl := hresolves.mint_eq
  obtain ⟨evmAmt, hparse, hevm, heq⟩ := hresolves.amount
  have hadmits : Admits env dto w.evm w.clock solAmount r :=
    { resolves := hresolves
      is_u64 := by
        have hlt := tx.tokenDelta_lt owner key
        omega
      keys := ⟨owner, key, ata, howner, hkey, hata⟩
      request := ⟨requestId, hid, hr⟩
      settleable := hsettleable }
  have hsol : 0 < solAmount := by
    rw [heq]
    exact (adjustToSolDecimals_pos_iff hevm _).mpr (hpos evmAmt solAmount r hparse hadmits)
  refine ⟨⟨tx, owner, key, hledger, hok, howner, hkey, by omega⟩, fun amount hamount => ?_⟩
  obtain rfl : evmAmt = amount := by simpa [hparse] using hamount
  omega

/-- **No settlement for nothing** exactly when the amount of the DTO, if the
other checks let it pass, is one SPL unit at least. -/
theorem settles_deliveries_iff (env : Setup) (dto : EvmToSolVerificationDto) (evm : Evm.State)
    (clock : Nat) :
    SettlesDeliveries env dto evm clock ↔ ∀ amount solAmount r, bigInt dto.amount = .ok amount →
      Admits env dto evm clock solAmount r → oneUnit (tokenEntry env.cfg) ≤ amount := by
  constructor
  · intro hall amount solAmount r hparse hadmits
    obtain ⟨evmAmt, hparse', hevm, heq⟩ := hadmits.resolves.amount
    obtain rfl : evmAmt = amount := by simpa [hparse'] using hparse
    have hsol := hadmits.delivers hall
    rw [heq] at hsol
    exact (adjustToSolDecimals_pos_iff hevm _).mp hsol
  · rintro hpos w i call w' rfl rfl hs
    exact delivered_of_sends hpos hs

end Delivery

/-- The token has 18 decimals on the EVM side, and 6 on Solana. -/
def Sample.finer : Setup := { setup with cfg := { cfg with evmDecimals := 18 } }

/-- One wei of the token is asked for, nothing is paid on Solana, and the
request is settled. -/
theorem settlement_for_nothing : ¬ ∀ (env : Setup) (dto : EvmToSolVerificationDto)
    (evm : Evm.State) (clock : Nat), SettlesDeliveries env dto evm clock := by
  intro hall
  have hadmits : Admits Sample.finer (Sample.settle "1") Evm.Sample.claimed 1000000 0 1 :=
    { resolves :=
        { signature := by decide +kernel
          destination := by decide +kernel
          amount := ⟨1, rfl, by decide, by decide⟩
          mapped := rfl
          mint_ne := by decide +kernel
          mint_eq := rfl }
      is_u64 := by decide
      keys := ⟨_, _, _, rfl, rfl, rfl⟩
      request := ⟨1, rfl, rfl⟩
      settleable :=
        { exists_request := by decide +kernel
          is_open := rfl
          claimed := by decide +kernel
          in_time := by decide +kernel } }
  exact absurd (hadmits.delivers (hall _ _ _ _)) (by decide)

end LunarysBridge.Relayer
