/-
LunarysBridge.Solana.Resolution — can a claim be ended?

A claim ends in a settlement or, after its deadline, in a release. Both take
the bond vault as a `SystemAccount` and debit its lamports. `Resolvable` says
that each succeeds in its time. Under the rules of the real runtime no
account passes both checks, and the vault is the bridge's since the first
claim: neither instruction ever succeeds.
-/
import LunarysBridge.Solana.Vaults

namespace LunarysBridge.Solana

variable {rt : Runtime} {s s' s₁ s₂ : State}

/-! ## Created vaults -/

theorem vaultOwner_exec {i : Instruction} {requestId : UInt64} (h : exec rt i s = .ok s')
    (ho : s.vaultOwner requestId ≠ .system) : s'.vaultOwner requestId ≠ .system := by
  rcases vaultsKept_exec h with hk | ⟨payer, args, rfl⟩ | ⟨authority, c, rfl⟩
  · rw [hk.owner requestId ho]
    exact ho
  · obtain ⟨_, _, h⟩ := bind_ok h
    obtain ⟨_, _, h⟩ := bind_ok h
    cases h
    exact ho
  · obtain ⟨cfg, _, h⟩ := bind_ok h
    obtain ⟨_, _, h⟩ := bind_ok h
    cases h
    exact ho

/-- A vault that was created is never the System program's again. -/
theorem vaultOwner_run {ok : Instruction → State → Prop} {requestId : UInt64}
    (hrun : Run rt ok s s') (ho : s.vaultOwner requestId ≠ .system) :
    s'.vaultOwner requestId ≠ .system := by
  induction hrun with
  | nil => exact ho
  | exec _ i _ succeeds ih => exact vaultOwner_exec succeeds ih
  | outside _ move ih =>
      rw [move.vaultOwner]
      exact ih

theorem claimBridge_vaultOwner {acc : ClaimRequest} {offset requestId : UInt64}
    {solverX25519 : Bytes32}
    (h : claimBridge rt acc offset requestId solverX25519 s = .ok s') :
    s'.vaultOwner requestId ≠ .system := by
  obtain ⟨cfg, s₁, s₂, s₃, _, h₁, h₂, h₃, _, _, howner, _⟩ := claimBridge_steps h
  have ho₁ := (vaultsKept_initBondVault h₁).2
  have hk := (vaultsKept_initSignPda h₂).trans (vaultsKept_systemTransfer h₃)
  rw [howner, hk.owner requestId ho₁]
  exact ho₁

/-! ## Ending a claim -/

/-- The state at another time. -/
def State.at (s : State) (time : Int) : State := { s with now := time }

/-- The accounts a settlement of the request asks for, with enough tokens. -/
structure SettleAccounts (acc : VerifyAndSettleSpl) (cfg : BridgeConfig)
    (req : BridgeRequest) (s : State) : Prop where
  relayer : acc.relayer.key = cfg.owner
  mint : acc.mint = req.tokenMint
  escrow : ∃ a, s.tokens.lookup acc.escrowToken = some a ∧ a.mint = acc.mint ∧
    a.owner = .signPda ∧ req.amountLocked.toNat + req.feeLocked.toNat ≤ a.amount.toNat
  solver : ∃ b, s.tokens.lookup acc.solverToken = some b ∧ b.mint = acc.mint ∧
    b.owner = req.solver ∧
    b.amount.toNat + (req.amountLocked.toNat + req.feeLocked.toNat) < 2 ^ 64
  wallet : acc.solverWallet = req.solver

/-- A claim can be ended: with the accounts it asks for, a settlement succeeds
at every time up to the deadline and a release at every time after it. -/
structure Resolvable (rt : Runtime) (s : State) (owner : Pubkey) (requestId : UInt64) :
    Prop where
  settles : ∀ acc destTxHash evidenceHash evidenceUrl time cfg req,
    acc.requestOwner = owner → s.config = some cfg →
    s.requests.lookup (.request owner requestId) = some req →
    SettleAccounts acc cfg req s →
    req.bondLamports.toNat ≤ s.lamports (.bondVault requestId) → time ≤ req.claimDeadline →
    ∃ s', verifyAndSettleSpl rt acc requestId destTxHash evidenceHash evidenceUrl
      (s.at time) = .ok s'
  releases : ∀ acc time cfg req,
    acc.requestOwner = owner → s.config = some cfg →
    s.requests.lookup (.request owner requestId) = some req →
    acc.slashCollector = cfg.owner → acc.prevSolver = req.solver →
    cfg.slashBps.toNat ≤ 10000 →
    req.bondLamports.toNat ≤ s.lamports (.bondVault requestId) → time > req.claimDeadline →
    ∃ s', releaseExpiredClaim rt acc requestId (s.at time) = .ok s'

theorem verifyAndSettleSpl_systemAccount {acc : VerifyAndSettleSpl} {requestId : UInt64}
    {destTxHash evidenceHash : Bytes32} {evidenceUrl : String}
    (h : verifyAndSettleSpl rt acc requestId destTxHash evidenceHash evidenceUrl s =
      .ok s') : rt.systemAccount (s.vaultOwner requestId) = true := by
  obtain ⟨_, _, _, _, _, hsystem, _⟩ := verifyAndSettleSpl_steps h
  exact hsystem

theorem releaseExpiredClaim_systemAccount {acc : ReleaseExpiredClaim} {requestId : UInt64}
    (h : releaseExpiredClaim rt acc requestId s = .ok s') :
    rt.systemAccount (s.vaultOwner requestId) = true := by
  obtain ⟨_, _, h⟩ := bind_ok h
  obtain ⟨_, _, h⟩ := bind_ok h
  obtain ⟨_, hsystem, _⟩ := bind_ok h
  exact require_ok hsystem

/-- **A claim is never resolved.** After a claim that succeeds, under the rules
of the real runtime, `Resolvable` is false; and whatever happens later, no
settlement and no release of the id succeeds, at any time. -/
theorem claim_never_resolved {acc : ClaimRequest} {offset requestId : UInt64}
    {solverX25519 : Bytes32} (h : Reachable rt.strict s)
    (hclaim : claimBridge rt.strict acc offset requestId solverX25519 s = .ok s₁)
    (hbps : ∀ cfg, s₁.config = some cfg → cfg.slashBps.toNat ≤ 10000) :
    ¬ Resolvable rt.strict s₁ acc.requestOwner requestId ∧
    ∀ s₂, Run rt.strict (fun _ _ => True) s₁ s₂ → ∀ time,
      (∀ acc' destTxHash evidenceHash evidenceUrl s', verifyAndSettleSpl rt.strict acc'
        requestId destTxHash evidenceHash evidenceUrl (s₂.at time) ≠ .ok s') ∧
      ∀ acc' s', releaseExpiredClaim rt.strict acc' requestId (s₂.at time) ≠ .ok s' := by
  have hnever : ∀ s₂, Run rt.strict (fun _ _ => True) s₁ s₂ → ∀ time,
      rt.strict.systemAccount ((s₂.at time).vaultOwner requestId) ≠ true := by
    intro s₂ hrun time
    have ho := vaultOwner_run hrun (claimBridge_vaultOwner hclaim)
    simpa [Runtime.strict, State.at] using ho
  refine ⟨?_, ?_⟩
  · intro hres
    obtain ⟨cfg, rent, hcfg, hvault⟩ := claimBridge_vault hclaim h.lawful requestId
    obtain ⟨cfg', req, deadline, hcfg', hl, _, _, _, _, hreq, _, hconfig, _⟩ :=
      claimBridge_ok hclaim
    rw [hcfg] at hcfg'
    cases hcfg'
    have hl₁ : s₁.requests.lookup (.request acc.requestOwner requestId) = some
        (req.claimedBy acc.solver.key deadline cfg.minSolverBond) := by
      rw [hreq, AList.lookup_insert]
      rfl
    have hcfg₁ : s₁.config = some cfg := hconfig.trans hcfg
    rw [if_pos rfl] at hvault
    have hbond : cfg.minSolverBond.toNat ≤ s₁.lamports (.bondVault requestId) := by omega
    obtain ⟨s', hrelease⟩ := hres.releases
      { caller := acc.solver
        requestOwner := acc.requestOwner
        prevSolver := acc.solver.key
        slashCollector := cfg.owner } (deadline + 1) cfg _ rfl hcfg₁ hl₁ rfl rfl
      (hbps cfg hcfg₁) hbond (Int.lt_succ deadline)
    exact hnever s₁ (.nil s₁) _ (releaseExpiredClaim_systemAccount hrelease)
  · intro s₂ hrun time
    refine ⟨?_, ?_⟩
    · intro acc' destTxHash evidenceHash evidenceUrl s' hsettle
      exact hnever s₂ hrun time (verifyAndSettleSpl_systemAccount hsettle)
    · intro acc' s' hrelease
      exact hnever s₂ hrun time (releaseExpiredClaim_systemAccount hrelease)

namespace Sample

/-- The config the owner made. -/
def cfg : BridgeConfig where
  owner := owner.key
  feeBps := 30
  minFee := 10
  maxFee := 100
  claimWindowSecs := 600
  minSolverBond := 5000
  slashBps := 5000

/-- The request of the user, claimed by the solver at time 100. -/
def claimedRequest : BridgeRequest where
  requestId := 0
  payer := user.key
  tokenMint := mint
  amountLocked := 990
  feeLocked := 10
  createdAt := 100
  claimed := true
  solver := solver.key
  claimDeadline := 700
  bondLamports := 5000
  finalized := false
  clientPubkey := 0
  nonceLe := 0
  destCtW0 := 0
  destCtW1 := 0
  destCtW2 := 0
  destCtW3 := 0

/-- A deposit, with the rules of the real runtime. -/
def deposited : Option State :=
  runMoves runtime.strict (fun _ _ => true) [(0, config), (0, deposit (.key 21))] initial

theorem deposited_isSome : deposited.isSome = true := rfl

/-- The state after the deposit. -/
def afterDeposit : State := deposited.get deposited_isSome

theorem afterDeposit_reachable : Reachable runtime.strict afterDeposit :=
  ⟨initial, initial_initial, (run_of_moves (.nil _)
    (Option.some_get deposited_isSome).symm).mono fun _ _ _ => trivial⟩

def claimAfterDeposit : Except Error State :=
  claimBridge runtime.strict
    { solver := solver, requestOwner := user.key, arciumAccepts := true } 0 7 0 afterDeposit

theorem claimAfterDeposit_isOk : claimAfterDeposit.toOption.isSome = true := by
  decide +kernel

/-- The state after the claim. -/
def afterClaim : State := claimAfterDeposit.toOption.get claimAfterDeposit_isOk

theorem claimAfterDeposit_eq : claimAfterDeposit = .ok afterClaim := by
  have h : claimAfterDeposit.toOption = some afterClaim :=
    (Option.some_get claimAfterDeposit_isOk).symm
  cases hc : claimAfterDeposit with
  | error e =>
      rw [hc] at h
      cases h
  | ok s =>
      rw [hc] at h
      cases h
      rfl

/-- The token account exists, with this mint and owner. -/
theorem exists_of_any (o : Option TokenAccount) (m holder : Pubkey)
    (h : o.any (fun a => a.mint = m ∧ a.owner = holder) = true) :
    ∃ a, o = some a ∧ a.mint = m ∧ a.owner = holder := by
  cases o with
  | none => cases h
  | some a => exact ⟨a, rfl, by simpa using h⟩

/-- What the claim of the solver leaves behind. -/
structure ClaimedBySolver (s : State) : Prop where
  config : s.config = some cfg
  request : s.requests.lookup request = some claimedRequest
  bond : 5000 ≤ s.lamports (.bondVault 7)
  vault : s.vaultOwner 7 ≠ .system
  ready : s.signPdaReady = true
  escrow : ∃ a, s.tokens.lookup (.key 21) = some a ∧ a.mint = mint ∧ a.owner = .signPda
  solver : ∃ a, s.tokens.lookup (.key 22) = some a ∧ a.mint = mint ∧ a.owner = solver.key

theorem afterClaim_bySolver : ClaimedBySolver afterClaim where
  config := by decide +kernel
  request := by decide +kernel
  bond := by decide +kernel
  vault := by decide +kernel
  ready := by decide +kernel
  escrow := exists_of_any _ _ _ (by decide +kernel)
  solver := exists_of_any _ _ _ (by decide +kernel)

end Sample

theorem claim_never_resolved_claimed :
    ¬ Resolvable Sample.runtime.strict Sample.afterClaim Sample.user.key 7 ∧
    ∀ s₂, Run Sample.runtime.strict (fun _ _ => True) Sample.afterClaim s₂ → ∀ time,
      (∀ acc' destTxHash evidenceHash evidenceUrl s',
        verifyAndSettleSpl Sample.runtime.strict acc' 7 destTxHash evidenceHash evidenceUrl
          (s₂.at time) ≠ .ok s') ∧
      ∀ acc' s', releaseExpiredClaim Sample.runtime.strict acc' 7 (s₂.at time) ≠ .ok s' := by
  refine claim_never_resolved Sample.afterDeposit_reachable Sample.claimAfterDeposit_eq ?_
  intro cfg hcfg
  rw [Sample.afterClaim_bySolver.config] at hcfg
  cases hcfg
  decide

/-- The claim of the solver cannot be released one second after its deadline. -/
theorem claim_not_resolvable :
    ¬ ∀ (rt : Runtime) s acc offset requestId solverX25519 s₁, Reachable rt.strict s →
      claimBridge rt.strict acc offset requestId solverX25519 s = .ok s₁ →
      Resolvable rt.strict s₁ acc.requestOwner requestId := by
  intro hall
  have hres := hall Sample.runtime _ _ _ _ _ _ Sample.afterDeposit_reachable
    Sample.claimAfterDeposit_eq
  obtain ⟨s', hrelease⟩ := hres.releases
    { caller := Sample.rival
      requestOwner := Sample.user.key
      prevSolver := Sample.solver.key
      slashCollector := Sample.owner.key } 701 Sample.cfg Sample.claimedRequest rfl
    Sample.afterClaim_bySolver.config Sample.afterClaim_bySolver.request rfl rfl (by decide)
    Sample.afterClaim_bySolver.bond (by decide)
  have hsystem := releaseExpiredClaim_systemAccount hrelease
  exact Sample.afterClaim_bySolver.vault (of_decide_eq_true hsystem)

end LunarysBridge.Solana
