/-
LunarysBridge.Cross.Fees — one fee on both chains.

The fee is written four times: in the two deposit handlers of the program,
in `NewRelayer` and in its predecessor. All four are the same tariff
(`fee_agreement`). Its last resort, half of the amount, is taken only when
the fee would eat the whole amount. So just above the minimum the fee is more
than half (`fee_capped_iff`), and a larger deposit can bridge less than a
smaller one (`net_monotone_iff`).
-/
import LunarysBridge.Evm.Fees
import LunarysBridge.Evm.LegacyRelayer
import LunarysBridge.Solana.Deposits

namespace LunarysBridge

open Solana (BridgeConfig)

/-! ## One tariff -/

/-- The parameters of a config, on `NewRelayer`. -/
def Evm.State.withFees (s : Evm.State) (cfg : BridgeConfig) : Evm.State :=
  { s with
    feePercentage := cfg.feeBps.toNat
    minFee := cfg.minFee.toNat
    maxFee := cfg.maxFee.toNat }

/-- The parameters of a config, on `Relayer`. -/
def Evm.LegacyRelayer.feesOf (cfg : BridgeConfig) : Evm.LegacyRelayer.FeeSettings where
  feePercentage := cfg.feeBps.toNat
  minFee := cfg.minFee.toNat
  maxFee := cfg.maxFee.toNat

/-- The two contracts calculate alike. -/
theorem Evm.LegacyRelayer.calculateFee_feesOf (cfg : BridgeConfig) (s : Evm.State)
    (amount : Nat) : Evm.LegacyRelayer.calculateFee (feesOf cfg) amount =
      Evm.calculateFee (s.withFees cfg) amount := rfl

theorem Evm.calculateFee_withFees (s : Evm.State) (cfg : BridgeConfig) (amount : UInt64) :
    Evm.calculateFee (s.withFees cfg) amount.toNat =
      some (Solana.depositFee cfg amount) := by
  have hamount : amount.toNat < 2 ^ 64 := amount.toNat_lt
  have hbps : cfg.feeBps.toNat < 2 ^ 16 := cfg.feeBps.toNat_lt
  have hproduct : amount.toNat * cfg.feeBps.toNat < 2 ^ 64 * 2 ^ 16 :=
    Nat.mul_lt_mul'' hamount hbps
  rw [Evm.calculateFee_eq, if_pos, Solana.depositFee_eq]
  · rfl
  · exact Nat.lt_trans hproduct (by decide)

namespace Solana

variable {rt : Runtime} {s s' : State} {i : Instruction} {payer : Signer} {args : DepositArgs}
  {storedId : UInt64}

/-- What a deposit on either path records of its fee. -/
theorem exec_fees (hd : i.deposit = some (payer, args, storedId)) (h : exec rt i s = .ok s') :
    ∃ cfg req, s.config = some cfg ∧
      s'.requests.lookup (.request payer.key args.requestId) = some req ∧
      req.feeLocked = feeU64 cfg args.amount ∧ req.amountLocked = amountNet cfg args.amount := by
  obtain ⟨mint, hdep⟩ := exec_deposit hd h
  obtain ⟨cfg, hcfg, hl⟩ := hdep.lookup
  exact ⟨cfg, _, hcfg, hl, rfl, rfl⟩

theorem BridgeConfig.moderate {cfg : BridgeConfig} (h : cfg.feeBps.toNat ≤ 1000) :
    cfg.tariff.Moderate :=
  Tariff.moderate_percentage (by omega) _ _

end Solana

/-- **Fee agreement.** For every amount and all parameters, limits that cross
included, the two contracts and the two deposit handlers have the same fee.
In the handlers the cast of the fee drops nothing, the conversion to `u64`
succeeds, nothing saturates, and the fee and the net amount make up the
amount; and a deposit on either path records these two. -/
theorem fee_agreement (cfg : BridgeConfig) (amount : UInt64) :
    (∀ s : Evm.State, Evm.calculateFee (s.withFees cfg) amount.toNat =
      some (Solana.depositFee cfg amount)) ∧
    Evm.LegacyRelayer.calculateFee (Evm.LegacyRelayer.feesOf cfg) amount.toNat =
      some (Solana.depositFee cfg amount) ∧
    Solana.clampedFee cfg amount % 2 ^ 64 = Solana.clampedFee cfg amount ∧
    Solana.tryFromU64 (Solana.depositFee cfg amount) = some (Solana.feeU64 cfg amount) ∧
    (Solana.feeU64 cfg amount).toNat = Solana.depositFee cfg amount ∧
    Solana.feeU64 cfg amount ≤ amount ∧
    (Solana.feeU64 cfg amount).toNat + (Solana.amountNet cfg amount).toNat = amount.toNat ∧
    ∀ rt i s s' payer args storedId,
      Solana.Instruction.deposit i = some (payer, args, storedId) → args.amount = amount →
      s.config = some cfg → Solana.exec rt i s = .ok s' →
      ∃ req, s'.requests.lookup (.request payer.key args.requestId) = some req ∧
        req.feeLocked = Solana.feeU64 cfg amount ∧
        req.amountLocked = Solana.amountNet cfg amount := by
  have hevm := fun s => Evm.calculateFee_withFees s cfg amount
  refine ⟨hevm, ?_, Solana.clampedFee_cast cfg amount, Solana.tryFromU64_depositFee cfg amount,
    ?_, Solana.feeU64_le cfg amount, ?_, ?_⟩
  · rw [Evm.LegacyRelayer.calculateFee_feesOf cfg Evm.Sample.claimed]
    exact hevm _
  · rw [Solana.feeU64_eq, Solana.depositFee_eq]
  · rw [Nat.add_comm]
    exact Solana.amountNet_add_feeU64 cfg amount
  · intro rt i s s' payer args storedId hd hamount hcfg hexec
    obtain ⟨cfg', req, hcfg', hl, hfee, hnet⟩ := Solana.exec_fees hd hexec
    rw [hcfg] at hcfg'
    cases hcfg'
    rw [hamount] at hfee hnet
    exact ⟨req, hl, hfee, hnet⟩

/-- The minimum and the maximum of the parameters cross: all four take the
maximum. -/
theorem fee_agreement_crossed :
    Solana.depositFee { Solana.Sample.settings with minFee := 100, maxFee := 10 } 1000 = 10 ∧
    ∃ (s' : Solana.State) (req : Solana.BridgeRequest),
      s'.requests.lookup (.request Solana.Sample.user.key 7) = some req ∧
        req.feeLocked = 10 ∧ req.amountLocked = 990 := by
  refine ⟨?_, ?_⟩
  · obtain ⟨_, hlegacy, _⟩ := fee_agreement
      { Solana.Sample.settings with minFee := 100, maxFee := 10 } 1000
    exact (Option.some.inj hlegacy).symm
  · obtain ⟨s, s₁, s₂, _, htwins, h₁, _⟩ :=
      Solana.Sample.bothPaths_some 7 (by decide +kernel)
    obtain ⟨_, _, _, _, _, _, _, hrecords⟩ := fee_agreement Solana.Sample.settings 1000
    obtain ⟨req, hl, hfee, hnet⟩ := hrecords _
      (.initiateBridge Solana.Sample.splAccounts (Solana.Sample.depositArgs 7)) s s₁ _ _ _ rfl
      rfl htwins.config₁ h₁
    exact ⟨s₁, req, hl, hfee, hnet⟩

/-! ## Small amounts -/

/-- **The cap on small amounts.** A deposit's fee is within the larger of
half of the amount and the percentage, and something is left, exactly if the
amount is at most the minimum fee or at least twice as much. On the program,
whose limits may cross, the smaller limit stands for the minimum. -/
theorem fee_capped_iff (ch : Evm.Chain) (rt : Solana.Runtime) :
    (∀ (t : Evm.Tx ch.self) s s' token amount input proof,
      Evm.Reachable ch s → t.fn = .initiateBridge token amount input proof →
      Reentrancy.Commits (Evm.contract ch) t s s' →
      ((s'.bridgeRequests s'.bridgeNonce).fee ≤
          max (amount / 2) (amount * s.feePercentage / 10000) ∧
        0 < (s'.bridgeRequests s'.bridgeNonce).amount ↔
          amount ≤ s.minFee ∨ 2 * s.minFee ≤ amount)) ∧
    ∀ i s s' payer args storedId cfg,
      Solana.Instruction.deposit i = some (payer, args, storedId) →
      s.config = some cfg → cfg.feeBps.toNat ≤ 1000 → 0 < args.amount →
      Solana.exec rt i s = .ok s' →
      ∃ req, s'.requests.lookup (.request payer.key args.requestId) = some req ∧
        (req.feeLocked.toNat ≤ max (args.amount.toNat / 2)
            (args.amount.toNat * cfg.feeBps.toNat / 10000) ∧ 0 < req.amountLocked ↔
          args.amount.toNat ≤ min cfg.minFee.toNat cfg.maxFee.toNat ∨
            2 * min cfg.minFee.toNat cfg.maxFee.toNat ≤ args.amount.toNat) := by
  refine ⟨?_, ?_⟩
  · intro t s s' token amount input proof hreach hfn hc
    have hr := Evm.recorded_of_commits hfn hc
    have hs := hreach.valid.sound
    rw [hr.fee, hr.net, ← hs.least]
    exact hs.moderate.capped_iff hr.positive
  · intro i s s' payer args storedId cfg hd hcfg hbps hpos hexec
    obtain ⟨cfg', req, hcfg', hl, hfee, hnet⟩ := Solana.exec_fees hd hexec
    rw [hcfg] at hcfg'
    cases hcfg'
    refine ⟨req, hl, ?_⟩
    rw [hfee, hnet, UInt64.lt_iff_toNat_lt, Solana.feeU64_eq, Solana.amountNet_eq]
    exact (Solana.BridgeConfig.moderate hbps).capped_iff (UInt64.lt_iff_toNat_lt.mp hpos)

/-- A deposit of twice the minimum fee pays half. -/
theorem fee_capped_double : ∃ (s' : Evm.State),
    (s'.bridgeRequests s'.bridgeNonce).fee ≤
      max (2 * 10 ^ 15 / 2) (2 * 10 ^ 15 * Evm.Sample.deployed.feePercentage / 10000) ∧
    0 < (s'.bridgeRequests s'.bridgeNonce).amount ∧
    ∃ (s₁ : Solana.State) (req : Solana.BridgeRequest),
      s₁.requests.lookup (.request Solana.Sample.user.key 7) = some req ∧
        req.feeLocked.toNat ≤ max (1000 / 2) (1000 * 30 / 10000) ∧ 0 < req.amountLocked := by
  obtain ⟨hevm, hsolana⟩ := fee_capped_iff Evm.Sample.chain Solana.Sample.runtime
  obtain ⟨s', hc⟩ := Evm.Sample.deposit_commits (2 * 10 ^ 15) (by decide +kernel)
  obtain ⟨hfee, hnet⟩ := (hevm _ _ _ _ _ _ _ Evm.Sample.deployed_reachable rfl hc).mpr
    (.inr (by rw [Evm.Sample.deployed_fees.2.1]))
  obtain ⟨s, s₁, s₂, _, htwins, h₁, _⟩ :=
    Solana.Sample.bothPaths_some 7 (by decide +kernel)
  obtain ⟨req, hl, hiff⟩ := hsolana
    (.initiateBridge Solana.Sample.splAccounts (Solana.Sample.depositArgs 7)) s s₁ _ _ _ _ rfl
    htwins.config₁ (by decide) (by decide) h₁
  exact ⟨s', hfee, hnet, s₁, req, hl, hiff.mpr (.inr (by decide))⟩

/-- One unit above the minimum fee, all but that unit is the fee. -/
theorem fee_not_capped :
    ¬ ∀ (ch : Evm.Chain) (t : Evm.Tx ch.self) s s' token amount input proof,
      Evm.Reachable ch s → t.fn = .initiateBridge token amount input proof →
      Reentrancy.Commits (Evm.contract ch) t s s' →
      (s'.bridgeRequests s'.bridgeNonce).fee ≤
          max (amount / 2) (amount * s.feePercentage / 10000) ∧
        0 < (s'.bridgeRequests s'.bridgeNonce).amount := by
  intro hall
  obtain ⟨hpercent, hmin, hmax⟩ := Evm.Sample.deployed_fees
  obtain ⟨s', hc⟩ := Evm.Sample.deposit_commits (10 ^ 15 + 1) (by decide +kernel)
  have hle := (hall _ _ _ _ _ _ _ _ Evm.Sample.deployed_reachable rfl hc).1
  rw [(Evm.recorded_of_commits rfl hc).fee, Evm.Sample.deployed_reachable.valid.sound.moderate
    |>.fee_of_lt (by rw [Evm.Sample.deployed_reachable.valid.sound.least, hmin]; decide)] at hle
  have hleast := Evm.Sample.deployed.tariff.least_le_held (10 ^ 15 + 1)
  rw [Evm.Sample.deployed_reachable.valid.sound.least, hmin] at hleast
  rw [hpercent] at hle
  omega

/-! ## More and less -/

/-- The two contracts' states have the same fee parameters. -/
structure Evm.State.SameFees (s₁ s₂ : Evm.State) : Prop where
  feePercentage : s₂.feePercentage = s₁.feePercentage
  minFee : s₂.minFee = s₁.minFee
  maxFee : s₂.maxFee = s₁.maxFee

theorem Evm.State.SameFees.tariff {s₁ s₂ : Evm.State} (h : s₁.SameFees s₂) :
    s₂.tariff = s₁.tariff := by
  simp only [Evm.State.tariff, h.feePercentage, h.minFee, h.maxFee]

/-- **More and less.** Of two deposits under one fee configuration the larger
one bridges at least as much as the smaller, exactly if the smaller one is
above the minimum fee, or the larger one is not, or the larger one exceeds
the minimum fee by what is left of the smaller. -/
theorem net_monotone_iff (ch : Evm.Chain) (rt : Solana.Runtime) :
    (∀ (t₁ t₂ : Evm.Tx ch.self) s₁ s₁' s₂ s₂' token₁ token₂ a b
        input₁ input₂ proof₁ proof₂,
      Evm.Reachable ch s₁ → Evm.Reachable ch s₂ → Evm.State.SameFees s₁ s₂ → a ≤ b →
      t₁.fn = .initiateBridge token₁ a input₁ proof₁ →
      t₂.fn = .initiateBridge token₂ b input₂ proof₂ →
      Reentrancy.Commits (Evm.contract ch) t₁ s₁ s₁' →
      Reentrancy.Commits (Evm.contract ch) t₂ s₂ s₂' →
      ((s₁'.bridgeRequests s₁'.bridgeNonce).amount ≤ (s₂'.bridgeRequests s₂'.bridgeNonce).amount ↔
        s₁.minFee < a ∨ b ≤ s₁.minFee ∨ s₁.minFee + (a - a / 2) ≤ b)) ∧
    ∀ i₁ i₂ s₁ s₁' s₂ s₂' payer₁ payer₂ args₁ args₂ storedId₁ storedId₂ cfg,
      Solana.Instruction.deposit i₁ = some (payer₁, args₁, storedId₁) →
      Solana.Instruction.deposit i₂ = some (payer₂, args₂, storedId₂) →
      s₁.config = some cfg → s₂.config = some cfg → cfg.feeBps.toNat ≤ 1000 →
      args₁.amount ≤ args₂.amount →
      Solana.exec rt i₁ s₁ = .ok s₁' → Solana.exec rt i₂ s₂ = .ok s₂' →
      ∃ req₁ req₂, s₁'.requests.lookup (.request payer₁.key args₁.requestId) = some req₁ ∧
        s₂'.requests.lookup (.request payer₂.key args₂.requestId) = some req₂ ∧
        (req₁.amountLocked ≤ req₂.amountLocked ↔
          min cfg.minFee.toNat cfg.maxFee.toNat < args₁.amount.toNat ∨
            args₂.amount.toNat ≤ min cfg.minFee.toNat cfg.maxFee.toNat ∨
            min cfg.minFee.toNat cfg.maxFee.toNat +
              (args₁.amount.toNat - args₁.amount.toNat / 2) ≤ args₂.amount.toNat) := by
  refine ⟨?_, ?_⟩
  · intro t₁ t₂ s₁ s₁' s₂ s₂' token₁ token₂ a b input₁ input₂ proof₁ proof₂ hreach₁ hreach₂
      hsame hab hfn₁ hfn₂ hc₁ hc₂
    have hs := hreach₁.valid.sound
    rw [(Evm.recorded_of_commits hfn₁ hc₁).net, (Evm.recorded_of_commits hfn₂ hc₂).net,
      hsame.tariff, ← hs.least]
    exact hs.moderate.net_le_net_iff hab
  · intro i₁ i₂ s₁ s₁' s₂ s₂' payer₁ payer₂ args₁ args₂ storedId₁ storedId₂ cfg hd₁ hd₂ hcfg₁
      hcfg₂ hbps hab hexec₁ hexec₂
    obtain ⟨cfg₁, req₁, hcfg₁', hl₁, _, hnet₁⟩ := Solana.exec_fees hd₁ hexec₁
    obtain ⟨cfg₂, req₂, hcfg₂', hl₂, _, hnet₂⟩ := Solana.exec_fees hd₂ hexec₂
    rw [hcfg₁] at hcfg₁'
    rw [hcfg₂] at hcfg₂'
    cases hcfg₁'
    cases hcfg₂'
    refine ⟨req₁, req₂, hl₁, hl₂, ?_⟩
    rw [hnet₁, hnet₂, UInt64.le_iff_toNat_le, Solana.amountNet_eq, Solana.amountNet_eq]
    exact (Solana.BridgeConfig.moderate hbps).net_le_net_iff (UInt64.le_iff_toNat_le.mp hab)

theorem net_monotone_double :
    (∃ s₁ s₂ : Evm.State, (s₁.bridgeRequests s₁.bridgeNonce).amount ≤
      (s₂.bridgeRequests s₂.bridgeNonce).amount) ∧
    ∃ (s₁ s₂ : Solana.State) (req₁ req₂ : Solana.BridgeRequest),
      s₁.requests.lookup (.request Solana.Sample.user.key 7) = some req₁ ∧
        s₂.requests.lookup (.request Solana.Sample.user.key 7) = some req₂ ∧
        req₁.amountLocked ≤ req₂.amountLocked := by
  obtain ⟨hevm, hsolana⟩ := net_monotone_iff Evm.Sample.chain Solana.Sample.runtime
  obtain ⟨s₁', hc₁⟩ := Evm.Sample.deposit_commits (2 * 10 ^ 15) (by decide +kernel)
  obtain ⟨s₂', hc₂⟩ := Evm.Sample.deposit_commits (4 * 10 ^ 15) (by decide +kernel)
  have hdeployed := Evm.Sample.deployed_reachable
  have hle := (hevm _ _ _ _ _ _ _ _ _ _ _ _ _ _ hdeployed hdeployed ⟨rfl, rfl, rfl⟩
    (by decide) rfl rfl hc₁ hc₂).mpr (.inl (by rw [Evm.Sample.deployed_fees.2.1]; decide))
  obtain ⟨s, s₁, s₂, _, htwins, h₁, h₂⟩ :=
    Solana.Sample.bothPaths_some 7 (by decide +kernel)
  obtain ⟨req₁, req₂, hl₁, hl₂, hiff⟩ := hsolana
    (.initiateBridge Solana.Sample.splAccounts (Solana.Sample.depositArgs 7))
    (.initiateBridgeSol Solana.Sample.solAccounts (Solana.Sample.depositArgs 7)) s s₁ s s₂
    _ _ _ _ _ _ _ rfl rfl htwins.config₁ htwins.config₂ (by decide) (by decide) h₁ h₂
  exact ⟨⟨s₁', s₂', hle⟩, s₁, s₂, req₁, req₂, hl₁, hl₂, hiff.mpr (.inl (by decide))⟩

/-- Half of the minimum fee is bridged by a deposit of the minimum fee, and
one unit by a deposit of one unit more. -/
theorem net_not_monotone :
    ¬ ∀ (ch : Evm.Chain) (t₁ t₂ : Evm.Tx ch.self) s₁ s₁' s₂ s₂' token₁ token₂ a b
        input₁ input₂ proof₁ proof₂,
      Evm.Reachable ch s₁ → Evm.Reachable ch s₂ → Evm.State.SameFees s₁ s₂ → a ≤ b →
      t₁.fn = .initiateBridge token₁ a input₁ proof₁ →
      t₂.fn = .initiateBridge token₂ b input₂ proof₂ →
      Reentrancy.Commits (Evm.contract ch) t₁ s₁ s₁' →
      Reentrancy.Commits (Evm.contract ch) t₂ s₂ s₂' →
      (s₁'.bridgeRequests s₁'.bridgeNonce).amount ≤
        (s₂'.bridgeRequests s₂'.bridgeNonce).amount := by
  intro hall
  obtain ⟨s₁', hc₁⟩ := Evm.Sample.deposit_commits (10 ^ 15) (by decide +kernel)
  obtain ⟨s₂', hc₂⟩ := Evm.Sample.deposit_commits (10 ^ 15 + 1) (by decide +kernel)
  have hdeployed := Evm.Sample.deployed_reachable
  have hs := hdeployed.valid.sound
  have hle := hall _ _ _ _ _ _ _ _ _ _ _ _ _ _ _ hdeployed hdeployed ⟨rfl, rfl, rfl⟩
    (Nat.le_succ _) rfl rfl hc₁ hc₂
  rw [(Evm.recorded_of_commits rfl hc₁).net, (Evm.recorded_of_commits rfl hc₂).net,
    hs.moderate.net_le_net_iff (Nat.le_succ _), hs.least, Evm.Sample.deployed_fees.2.1] at hle
  omega

end LunarysBridge
