/-
LunarysBridge.Solana.Vaults — the bond vaults: who owns them, and whose
lamports are in them.

The address of a vault is derived from the id of a request, that of the
request from its owner as well. So the requests of two owners with the same
id share a vault, and every claim, release or settlement of the one moves
the lamports that back the bond of the other.

The first claim creates the vault for the bridge program. The instructions
that end a claim take it as a `SystemAccount`, which the runtime grants to
accounts of the System program only.
-/
import LunarysBridge.Solana.Lifecycle

namespace LunarysBridge.Solana

variable {rt : Runtime} {s s' s₁ s₂ : State}

/-! ## What no instruction does to a vault -/

/-- No token account is made at a vault, and a vault that was created keeps
its owner. -/
structure VaultsKept (s s' : State) : Prop where
  config : s'.config = s.config
  plain : ∀ requestId, s.tokens.lookup (.bondVault requestId) = none →
    s'.tokens.lookup (.bondVault requestId) = none
  owner : ∀ requestId, s.vaultOwner requestId ≠ .system →
    s'.vaultOwner requestId = s.vaultOwner requestId

theorem VaultsKept.refl (s : State) : VaultsKept s s := ⟨rfl, fun _ h => h, fun _ _ => rfl⟩

theorem VaultsKept.trans (h : VaultsKept s s₁) (h' : VaultsKept s₁ s₂) :
    VaultsKept s s₂ where
  config := h'.config.trans h.config
  plain := fun requestId hp => h'.plain requestId (h.plain requestId hp)
  owner := by
    intro requestId ho
    have h₁ := h.owner requestId ho
    rw [h'.owner requestId (by rw [h₁]; exact ho), h₁]

/-- A state with the same parameters, tokens and vaults. -/
theorem VaultsKept.congr (h : VaultsKept s s₁) (hc : s'.config = s₁.config)
    (ht : s'.tokens = s₁.tokens) (ho : s'.vaultOwner = s₁.vaultOwner) : VaultsKept s s' where
  config := hc.trans h.config
  plain := by
    rw [ht]
    exact h.plain
  owner := by
    rw [ho]
    exact h.owner

theorem VaultsKept.note (h : VaultsKept s s₁) (e : Entry) : VaultsKept s (s₁.note e) :=
  h.congr rfl rfl rfl

theorem vaultsKept_credit (s : State) (addr : Pubkey) (n : Nat) :
    VaultsKept s (s.credit addr n) where
  config := credit_config s addr n
  plain := fun _ hp => lookup_credit_none hp
  owner := fun requestId _ => congrFun (credit_vaultOwner s addr n) requestId

theorem vaultsKept_debit (s : State) (addr : Pubkey) (n : Nat) :
    VaultsKept s (s.debit addr n) :=
  ⟨rfl, fun _ h => h, fun _ _ => rfl⟩

theorem vaultsKept_systemTransfer {source dest : Pubkey} {n : Nat}
    (h : systemTransfer source dest n s = .ok s') : VaultsKept s s' := by
  rw [systemTransfer_ok h]
  exact (vaultsKept_debit s source n).trans (vaultsKept_credit _ dest n)

theorem vaultsKept_initSignPda {payer : Signer} (h : initSignPda rt payer s = .ok s') :
    VaultsKept s s' := by
  unfold initSignPda at h
  split at h
  · cases h
    exact .refl s
  · obtain ⟨s₁, h₁, h⟩ := bind_ok h
    cases h
    exact (vaultsKept_systemTransfer h₁).congr rfl rfl rfl

theorem vaultsKept_initRequest {payer : Signer} {requestId : UInt64}
    (h : initRequest rt payer requestId s = .ok s') : VaultsKept s s' := by
  obtain ⟨_, _, h⟩ := bind_ok h
  exact vaultsKept_systemTransfer h

/-- A vault that is created is created for the bridge. -/
theorem vaultsKept_initBondVault {payer : Signer} {requestId : UInt64}
    (h : initBondVault rt payer requestId s = .ok s') :
    VaultsKept s s' ∧ s'.vaultOwner requestId ≠ .system := by
  unfold initBondVault at h
  split at h
  · next hsystem =>
    obtain ⟨s₁, h₁, h⟩ := bind_ok h
    cases h
    have hk := vaultsKept_systemTransfer h₁
    refine ⟨⟨hk.config, hk.plain, ?_⟩, ?_⟩
    · intro other ho
      have hne : other ≠ requestId := by
        rintro rfl
        exact ho hsystem
      show Function.update s₁.vaultOwner requestId .bridge other = s.vaultOwner other
      rw [Function.update_of_ne hne, hk.owner other ho]
    · show Function.update s₁.vaultOwner requestId .bridge requestId ≠ .system
      rw [Function.update_self]
      nofun
  · next hcreated =>
    cases h
    exact ⟨.refl s, hcreated⟩

theorem vaultsKept_debitVault {requestId : UInt64} {n : Nat}
    (h : debitVault rt requestId n s = .ok s') : VaultsKept s s' := by
  obtain ⟨_, _, h⟩ := bind_ok h
  obtain ⟨_, _, h⟩ := bind_ok h
  cases h
  exact vaultsKept_debit s _ n

theorem Transferred.vaultsKept {source dest authority : Pubkey} {mint : Option Pubkey}
    {amount : UInt64} (h : Transferred source dest authority mint amount s s') :
    VaultsKept s s' := by
  obtain ⟨a, b, ha, hb, _, _, _, hle, hcase⟩ := h.moved
  have hothers := h.others
  rcases hcase with ⟨_, heq⟩ | ⟨_, hlt, htokens⟩
  · rw [heq]
    exact .refl s
  · refine ⟨by rw [hothers], ?_, fun _ _ => by rw [hothers]⟩
    intro requestId hp
    have hsource : Pubkey.bondVault requestId ≠ source := by
      rintro rfl
      rw [hp] at ha
      cases ha
    have hdest : Pubkey.bondVault requestId ≠ dest := by
      rintro rfl
      rw [hp] at hb
      cases hb
    rw [htokens, AList.lookup_insert_ne hdest, AList.lookup_insert_ne hsource, hp]

theorem vaultsKept_syncNative {addr : Pubkey} (h : syncNative addr s = .ok s') :
    VaultsKept s s' := by
  obtain ⟨a, a', ha, _, rfl, _, _, _⟩ := syncNative_ok h
  refine ⟨rfl, ?_, fun _ _ => rfl⟩
  intro requestId hp
  have hne : Pubkey.bondVault requestId ≠ addr := by
    rintro rfl
    rw [hp] at ha
    cases ha
  show (s.tokens.insert addr a').lookup (.bondVault requestId) = none
  rw [AList.lookup_insert_ne hne, hp]

theorem vaultsKept_closeAccount {addr destination authority : Pubkey}
    (h : closeAccount addr destination authority s = .ok s') : VaultsKept s s' := by
  obtain ⟨a, ha, h⟩ := bind_ok h
  obtain ⟨_, _, h⟩ := bind_ok h
  obtain ⟨_, _, h⟩ := bind_ok h
  obtain ⟨_, _, h⟩ := bind_ok h
  cases h
  have herase : VaultsKept s { s with tokens := s.tokens.erase addr } := by
    refine ⟨rfl, ?_, fun _ _ => rfl⟩
    intro requestId hp
    show (s.tokens.erase addr).lookup (.bondVault requestId) = none
    by_cases ha : Pubkey.bondVault requestId = addr
    · rw [ha, AList.lookup_erase]
    · rw [AList.lookup_erase_ne ha, hp]
  exact herase.trans (vaultsKept_credit _ destination a.lamports)

theorem vaultsKept_initAta {payer : Signer} {wallet mint : Pubkey}
    (h : initAta rt payer wallet mint s = .ok s') : VaultsKept s s' := by
  unfold initAta at h
  split at h
  · obtain ⟨_, _, h⟩ := bind_ok h
    cases h
    exact .refl s
  · obtain ⟨s₁, h₁, h⟩ := bind_ok h
    cases h
    have hk := vaultsKept_systemTransfer h₁
    refine ⟨hk.config, ?_, hk.owner⟩
    intro requestId hp
    show (s₁.tokens.insert _ _).lookup (.bondVault requestId) = none
    rw [AList.lookup_insert_ne (rt.ata_ne_bondVault wallet mint requestId).symm,
      hk.plain requestId hp]

theorem vaultsKept_returnBond {requestId : UInt64} {solverWallet : Pubkey} {bond : UInt64}
    (h : returnBond rt requestId solverWallet bond s = .ok s') : VaultsKept s s' := by
  unfold returnBond at h
  split at h
  · obtain ⟨s₁, h₁, h⟩ := bind_ok h
    cases h
    exact (vaultsKept_debitVault h₁).trans (vaultsKept_credit s₁ _ _)
  · cases h
    exact .refl s

theorem vaultsKept_closeIfEmpty {escrowWsol destination : Pubkey} {amount : UInt64}
    (h : closeIfEmpty escrowWsol destination amount s = .ok s') : VaultsKept s s' := by
  unfold closeIfEmpty at h
  split at h
  · exact vaultsKept_closeAccount h
  · cases h
    exact .refl s

/-! ### The instructions -/

theorem vaultsKept_initiateBridge {acc : DepositAndQueue} {args : DepositArgs}
    (h : initiateBridge rt acc args s = .ok s') : VaultsKept s s' := by
  iterate 5 obtain ⟨_, _, h⟩ := bind_ok h
  obtain ⟨cfg, _, h⟩ := bind_ok h
  obtain ⟨s₁, h₁, h⟩ := bind_ok h
  obtain ⟨s₂, h₂, h⟩ := bind_ok h
  obtain ⟨s₃, h₃, h⟩ := bind_ok h
  have hk := ((vaultsKept_initRequest h₁).trans (vaultsKept_initSignPda h₂)).trans
    (tokenTransfer_ok h₃).vaultsKept
  rw [queueComputation_ok h]
  exact hk.congr rfl rfl rfl

theorem vaultsKept_initiateBridgeSol {acc : DepositSolAndQueue} {args : DepositArgs}
    (h : initiateBridgeSol rt acc args s = .ok s') : VaultsKept s s' := by
  obtain ⟨cfg, _, h⟩ := bind_ok h
  obtain ⟨s₁, h₁, h⟩ := bind_ok h
  iterate 3 obtain ⟨_, _, h⟩ := bind_ok h
  obtain ⟨s₂, h₂, h⟩ := bind_ok h
  obtain ⟨s₃, h₃, h⟩ := bind_ok h
  obtain ⟨s₄, h₄, h⟩ := bind_ok h
  have hk := (((vaultsKept_initRequest h₁).trans (vaultsKept_initSignPda h₂)).trans
    (vaultsKept_systemTransfer h₃)).trans (vaultsKept_syncNative h₄)
  rw [queueComputation_ok h]
  exact hk.congr rfl rfl rfl

/-- The steps of a claim that touch an account other than the request. -/
theorem claimBridge_steps {acc : ClaimRequest} {offset requestId : UInt64}
    {solverX25519 : Bytes32}
    (h : claimBridge rt acc offset requestId solverX25519 s = .ok s') :
    ∃ cfg s₁ s₂ s₃, s.config = some cfg ∧ initBondVault rt acc.solver requestId s = .ok s₁ ∧
      initSignPda rt acc.solver s₁ = .ok s₂ ∧
      systemTransfer acc.solver.key (.bondVault requestId) cfg.minSolverBond.toNat s₂ =
        .ok s₃ ∧
      s'.config = s₃.config ∧ s'.tokens = s₃.tokens ∧ s'.vaultOwner = s₃.vaultOwner ∧
      s'.lamports = s₃.lamports := by
  obtain ⟨cfg, hcfg, h⟩ := bind_ok h
  obtain ⟨req, _, h⟩ := bind_ok h
  obtain ⟨s₁, h₁, h⟩ := bind_ok h
  obtain ⟨s₂, h₂, h⟩ := bind_ok h
  iterate 3 obtain ⟨_, _, h⟩ := bind_ok h
  obtain ⟨s₃, h₃, h⟩ := bind_ok h
  obtain ⟨deadline, _, h⟩ := bind_ok h
  rw [queueComputation_ok h]
  exact ⟨cfg, s₁, s₂, s₃, okOr_ok hcfg, h₁, h₂, h₃, rfl, rfl, rfl, rfl⟩

theorem vaultsKept_claimBridge {acc : ClaimRequest} {offset requestId : UInt64}
    {solverX25519 : Bytes32}
    (h : claimBridge rt acc offset requestId solverX25519 s = .ok s') : VaultsKept s s' := by
  obtain ⟨cfg, s₁, s₂, s₃, _, h₁, h₂, h₃, hconfig, htokens, howner, _⟩ := claimBridge_steps h
  have hk := ((vaultsKept_initBondVault h₁).1.trans (vaultsKept_initSignPda h₂)).trans
    (vaultsKept_systemTransfer h₃)
  exact hk.congr hconfig htokens howner

theorem vaultsKept_releaseExpiredClaim {acc : ReleaseExpiredClaim} {requestId : UInt64}
    (h : releaseExpiredClaim rt acc requestId s = .ok s') : VaultsKept s s' := by
  obtain ⟨cfg, req, _, slash, refund, _, _, rfl⟩ := releaseExpiredClaim_moves h
  have hdebit := vaultsKept_debit s (.bondVault requestId) req.bondLamports.toNat
  have hslash := hdebit.trans (vaultsKept_credit _ acc.slashCollector slash.toNat)
  exact ((hslash.note _).trans (vaultsKept_credit _ acc.prevSolver refund.toNat)).congr
    rfl rfl rfl

/-- The steps of a settlement that touch an account other than the request. -/
theorem verifyAndSettleSpl_steps {acc : VerifyAndSettleSpl} {requestId : UInt64}
    {destTxHash evidenceHash : Bytes32} {evidenceUrl : String}
    (h : verifyAndSettleSpl rt acc requestId destTxHash evidenceHash evidenceUrl s =
      .ok s') :
    ∃ req payout s₁ s₂,
      s.requests.lookup (.request acc.requestOwner requestId) = some req ∧
      rt.systemAccount (s.vaultOwner requestId) = true ∧ acc.solverWallet = req.solver ∧
      Transferred acc.escrowToken acc.solverToken .signPda (some acc.mint) payout s s₁ ∧
      returnBond rt requestId acc.solverWallet req.bondLamports
        (s₁.note (.paid (.request acc.requestOwner requestId) acc.mint acc.solverToken
          payout)) = .ok s₂ ∧
      s'.config = s₂.config ∧ s'.tokens = s₂.tokens ∧ s'.vaultOwner = s₂.vaultOwner ∧
      s'.lamports = s₂.lamports := by
  obtain ⟨cfg, _, h⟩ := bind_ok h
  obtain ⟨_, _, h⟩ := bind_ok h
  obtain ⟨req, hreq, h⟩ := bind_ok h
  iterate 7 obtain ⟨_, _, h⟩ := bind_ok h
  obtain ⟨_, hsystem, h⟩ := bind_ok h
  iterate 3 obtain ⟨_, _, h⟩ := bind_ok h
  obtain ⟨_, hwallet, h⟩ := bind_ok h
  obtain ⟨payout, _, h⟩ := bind_ok h
  obtain ⟨s₁, h₁, h⟩ := bind_ok h
  obtain ⟨s₂, h₂, h⟩ := bind_ok h
  cases h
  exact ⟨req, payout, s₁, s₂, okOr_ok hreq, require_ok hsystem, require_ok hwallet,
    tokenTransfer_ok h₁, h₂, rfl, rfl, rfl, rfl⟩

theorem vaultsKept_verifyAndSettleSpl {acc : VerifyAndSettleSpl} {requestId : UInt64}
    {destTxHash evidenceHash : Bytes32} {evidenceUrl : String}
    (h : verifyAndSettleSpl rt acc requestId destTxHash evidenceHash evidenceUrl s =
      .ok s') : VaultsKept s s' := by
  obtain ⟨req, payout, s₁, s₂, _, _, _, h₁, h₂, hconfig, htokens, howner, _⟩ :=
    verifyAndSettleSpl_steps h
  have hk := h₁.vaultsKept.note
    (.paid (.request acc.requestOwner requestId) acc.mint acc.solverToken payout)
  exact (hk.trans (vaultsKept_returnBond h₂)).congr hconfig htokens howner

theorem vaultsKept_deliverTokens {acc : ReleaseSpl} {amount : UInt64}
    (h : deliverTokens rt acc amount s = .ok s') : VaultsKept s s' := by
  iterate 5 obtain ⟨_, _, h⟩ := bind_ok h
  obtain ⟨s₁, h₁, h⟩ := bind_ok h
  obtain ⟨_, _, h⟩ := bind_ok h
  obtain ⟨_, _, h⟩ := bind_ok h
  obtain ⟨s₂, h₂, h⟩ := bind_ok h
  cases h
  exact ((vaultsKept_initAta h₁).trans (tokenTransfer_ok h₂).vaultsKept).congr rfl rfl rfl

theorem vaultsKept_deliverTokensSol {acc : ReleaseSol} {amount : UInt64}
    (h : deliverTokensSol acc amount s = .ok s') : VaultsKept s s' := by
  obtain ⟨a, b, s₁, s₂, hd⟩ := deliverTokensSol_delivered h
  rw [hd.final]
  exact (hd.transferred.vaultsKept.trans (vaultsKept_closeIfEmpty hd.closed)).congr rfl rfl rfl

/-- The instructions that change no parameter leave the vaults what they
are. -/
theorem vaultsKept_exec {i : Instruction} (h : exec rt i s = .ok s') :
    VaultsKept s s' ∨ (∃ payer args, i = .initConfig payer args) ∨
      ∃ authority c, i = .setConfig authority c := by
  cases i with
  | initiateBridge acc args => exact .inl (vaultsKept_initiateBridge h)
  | initiateBridgeSol acc args => exact .inl (vaultsKept_initiateBridgeSol h)
  | claimBridge acc offset requestId solverX25519 => exact .inl (vaultsKept_claimBridge h)
  | releaseExpiredClaim acc requestId => exact .inl (vaultsKept_releaseExpiredClaim h)
  | verifyAndSettleSpl acc requestId destTxHash evidenceHash evidenceUrl =>
      exact .inl (vaultsKept_verifyAndSettleSpl h)
  | deliverTokens acc amount => exact .inl (vaultsKept_deliverTokens h)
  | deliverTokensSol acc amount => exact .inl (vaultsKept_deliverTokensSol h)
  | initConfig payer args => exact .inr (.inl ⟨payer, args, rfl⟩)
  | setConfig authority c => exact .inr (.inr ⟨authority, c, rfl⟩)

/-- No vault is a token account, and the collector of slashes is no vault. -/
structure State.Lawful (s : State) : Prop where
  plain : ∀ requestId, s.tokens.lookup (.bondVault requestId) = none
  collector : ∀ cfg, s.config = some cfg → ∃ bytes, cfg.owner = .key bytes

theorem VaultsKept.lawful (h : VaultsKept s s') (hs : s.Lawful) : s'.Lawful where
  plain := fun requestId => h.plain requestId (hs.plain requestId)
  collector := by
    rw [h.config]
    exact hs.collector

theorem lawful_initConfig {payer : Signer} {args : ConfigArgs}
    (h : initConfig rt payer args s = .ok s') (hs : s.Lawful) : s'.Lawful := by
  obtain ⟨_, _, h⟩ := bind_ok h
  obtain ⟨_, _, h⟩ := bind_ok h
  cases h
  refine ⟨hs.plain, ?_⟩
  intro cfg hcfg
  cases hcfg
  exact ⟨payer.bytes, rfl⟩

theorem lawful_setConfig {authority : Signer} {c : ConfigChange}
    (h : setConfig authority c s = .ok s') (hs : s.Lawful) : s'.Lawful := by
  obtain ⟨cfg, hcfg, h⟩ := bind_ok h
  obtain ⟨_, _, h⟩ := bind_ok h
  cases h
  refine ⟨hs.plain, ?_⟩
  intro cfg' hcfg'
  cases hcfg'
  exact hs.collector cfg (okOr_ok hcfg)

theorem lawful_exec {i : Instruction} (h : exec rt i s = .ok s') (hs : s.Lawful) :
    s'.Lawful := by
  rcases vaultsKept_exec h with hk | ⟨payer, args, rfl⟩ | ⟨authority, c, rfl⟩
  · exact hk.lawful hs
  · exact lawful_initConfig h hs
  · exact lawful_setConfig h hs

theorem Reachable.lawful (h : Reachable rt s) : s.Lawful := by
  refine h.invariant ?_ (fun i s s' hs hexec => lawful_exec hexec hs) ?_
  · intro s₀ hinit
    refine ⟨hinit.plain, ?_⟩
    intro cfg hcfg
    rw [hinit.config] at hcfg
    cases hcfg
  · intro s s' hs hout
    refine ⟨fun requestId => hout.plain requestId (hs.plain requestId), ?_⟩
    rw [hout.config]
    exact hs.collector

/-! ## Lamports of the vaults -/

theorem credit_vault {requestId : UInt64} (hp : s.tokens.lookup (.bondVault requestId) = none)
    (addr : Pubkey) (n : Nat) : (s.credit addr n).lamports (.bondVault requestId) =
      s.lamports (.bondVault requestId) + if addr = .bondVault requestId then n else 0 := by
  by_cases ha : addr = .bondVault requestId
  · subst ha
    simp [State.credit, hp]
  · unfold State.credit
    split
    · simp [ha]
    · rw [if_neg ha]
      exact Function.update_of_ne (Ne.symm ha) ..

theorem debit_vault (requestId : UInt64) (addr : Pubkey) (n : Nat) :
    (s.debit addr n).lamports (.bondVault requestId) =
      s.lamports (.bondVault requestId) - if addr = .bondVault requestId then n else 0 := by
  by_cases ha : addr = .bondVault requestId
  · subst ha
    simp [State.debit]
  · rw [if_neg ha]
    exact Function.update_of_ne (Ne.symm ha) ..

/-- A transfer of a signer adds to the vault it goes to, and to no other. -/
theorem systemTransfer_vault {w : Signer} {dest : Pubkey} {n : Nat} {requestId : UInt64}
    (h : systemTransfer w.key dest n s = .ok s')
    (hp : s.tokens.lookup (.bondVault requestId) = none) :
    s'.lamports (.bondVault requestId) =
      s.lamports (.bondVault requestId) + if dest = .bondVault requestId then n else 0 := by
  have hkey : w.key ≠ .bondVault requestId := by simp [Signer.key]
  have hp' : (s.debit w.key n).tokens.lookup (.bondVault requestId) = none := hp
  rw [systemTransfer_ok h, credit_vault hp', debit_vault, if_neg hkey, Nat.sub_zero]

theorem initSignPda_vault {payer : Signer} {requestId : UInt64}
    (h : initSignPda rt payer s = .ok s')
    (hp : s.tokens.lookup (.bondVault requestId) = none) :
    s'.lamports (.bondVault requestId) = s.lamports (.bondVault requestId) := by
  unfold initSignPda at h
  split at h
  · cases h
    rfl
  · obtain ⟨s₁, h₁, h⟩ := bind_ok h
    cases h
    exact systemTransfer_vault h₁ hp

theorem initBondVault_vault {payer : Signer} {requestId other : UInt64}
    (h : initBondVault rt payer requestId s = .ok s')
    (hp : s.tokens.lookup (.bondVault other) = none) :
    ∃ rent, s'.lamports (.bondVault other) = s.lamports (.bondVault other) +
      if requestId = other then rent else 0 := by
  unfold initBondVault at h
  split at h
  · obtain ⟨s₁, h₁, h⟩ := bind_ok h
    cases h
    refine ⟨rt.vaultRent - s.lamports (.bondVault requestId), ?_⟩
    have hv := systemTransfer_vault h₁ hp
    simpa only [Pubkey.bondVault.injEq] using hv
  · cases h
    exact ⟨0, by simp⟩

/-- A claim puts its bond into the vault. -/
theorem claimBridge_vault {acc : ClaimRequest} {offset requestId : UInt64}
    {solverX25519 : Bytes32}
    (h : claimBridge rt acc offset requestId solverX25519 s = .ok s') (hs : s.Lawful)
    (other : UInt64) : ∃ cfg rent, s.config = some cfg ∧
      s'.lamports (.bondVault other) = s.lamports (.bondVault other) +
        if requestId = other then rent + cfg.minSolverBond.toNat else 0 := by
  obtain ⟨cfg, s₁, s₂, s₃, hcfg, h₁, h₂, h₃, _, _, _, hlamports⟩ := claimBridge_steps h
  have hk₁ := (vaultsKept_initBondVault h₁).1.lawful hs
  have hk₂ := (vaultsKept_initSignPda h₂).lawful hk₁
  obtain ⟨rent, hv₁⟩ := initBondVault_vault h₁ (hs.plain other)
  have hv₂ := initSignPda_vault h₂ (hk₁.plain other)
  have hv₃ := systemTransfer_vault h₃ (hk₂.plain other)
  refine ⟨cfg, rent, hcfg, ?_⟩
  rw [hlamports, hv₃, hv₂, hv₁]
  simp only [Pubkey.bondVault.injEq]
  split <;> omega

/-- Lamports that come to a wallet are in no vault. -/
theorem credit_wallet {addr : Pubkey} (h : ∃ bytes, addr = .key bytes) (n : Nat)
    (requestId : UInt64) :
    (s.credit addr n).lamports (.bondVault requestId) =
      s.lamports (.bondVault requestId) := by
  obtain ⟨bytes, rfl⟩ := h
  have hne : Pubkey.bondVault requestId ≠ .key bytes := nofun
  unfold State.credit
  split
  · rfl
  · exact Function.update_of_ne hne (s.lamports (.key bytes) + n) s.lamports

theorem debit_bondVault {requestId : UInt64} {n : Nat} (hle : n ≤ s.lamports (.bondVault requestId))
    (other : UInt64) : (s.debit (.bondVault requestId) n).lamports (.bondVault other) +
      (if requestId = other then n else 0) = s.lamports (.bondVault other) := by
  rw [debit_vault]
  simp only [Pubkey.bondVault.injEq]
  split
  · next heq =>
    subst heq
    omega
  · omega

theorem debitVault_vault {requestId : UInt64} {n : Nat}
    (h : debitVault rt requestId n s = .ok s') (other : UInt64) :
    s'.lamports (.bondVault other) + (if requestId = other then n else 0) =
      s.lamports (.bondVault other) := by
  obtain ⟨_, hle, h⟩ := bind_ok h
  obtain ⟨_, _, h⟩ := bind_ok h
  cases h
  exact debit_bondVault (require_ok hle) other

/-- A release takes the bond out of the vault. -/
theorem releaseExpiredClaim_vault {acc : ReleaseExpiredClaim} {requestId : UInt64}
    {req : BridgeRequest} (h : releaseExpiredClaim rt acc requestId s = .ok s')
    (hl : s.requests.lookup (.request acc.requestOwner requestId) = some req)
    (hs : s.Lawful) (hc : s.Consistent) (other : UInt64) :
    s'.lamports (.bondVault other) +
      (if requestId = other then req.bondLamports.toNat else 0) =
        s.lamports (.bondVault other) := by
  obtain ⟨cfg, r, hreleasable, slash, refund, _, _, rfl⟩ := releaseExpiredClaim_moves h
  have hr := hreleasable.found
  rw [hl] at hr
  cases hr
  -- slash and refund go to wallets, which are no vaults
  have hcollector : ∃ bytes, acc.slashCollector = .key bytes := by
    rw [hreleasable.collector]
    exact hs.collector cfg hreleasable.config
  have hsolver : ∃ bytes, acc.prevSolver = .key bytes := by
    rw [hreleasable.solver]
    exact (hc _ _ hl).wallet
  show (((((s.debit (.bondVault requestId) req.bondLamports.toNat).credit acc.slashCollector
    slash.toNat).note _).credit acc.prevSolver refund.toNat).lamports (.bondVault other)) + _ = _
  rw [credit_wallet hsolver]
  show ((s.debit (.bondVault requestId) req.bondLamports.toNat).credit acc.slashCollector
    slash.toNat).lamports (.bondVault other) + _ = _
  rw [credit_wallet hcollector]
  exact debit_bondVault hreleasable.vault other

/-- A settlement takes the bond out of the vault. -/
theorem verifyAndSettleSpl_vault {acc : VerifyAndSettleSpl} {requestId : UInt64}
    {destTxHash evidenceHash : Bytes32} {evidenceUrl : String} {req : BridgeRequest}
    (h : verifyAndSettleSpl rt acc requestId destTxHash evidenceHash evidenceUrl s =
      .ok s')
    (hl : s.requests.lookup (.request acc.requestOwner requestId) = some req)
    (hc : s.Consistent) (other : UInt64) :
    s'.lamports (.bondVault other) +
      (if requestId = other then req.bondLamports.toNat else 0) =
        s.lamports (.bondVault other) := by
  obtain ⟨r, payout, s₁, s₂, hr, _, hwallet, h₁, h₂, _, _, _, hlamports⟩ :=
    verifyAndSettleSpl_steps h
  rw [hl] at hr
  cases hr
  have hwallet : ∃ bytes, acc.solverWallet = .key bytes := by
    rw [hwallet]
    exact (hc _ _ hl).wallet
  have hv₁ : s₁.lamports = s.lamports := by rw [h₁.others]
  have hv₂ : s₂.lamports (.bondVault other) +
      (if requestId = other then req.bondLamports.toNat else 0) =
        s₁.lamports (.bondVault other) := by
    unfold returnBond at h₂
    split at h₂
    · obtain ⟨s₃, h₃, h₂⟩ := bind_ok h₂
      cases h₂
      rw [credit_wallet hwallet]
      exact debitVault_vault h₃ other
    · next hzero =>
      cases h₂
      have hbond : req.bondLamports.toNat = 0 := by
        have hlt := mt UInt64.lt_iff_toNat_lt.mpr hzero
        simpa using hlt
      rw [hbond, ite_self, Nat.add_zero]
      rfl
  rw [hlamports, ← hv₁]
  exact hv₂

/-! ## Isolation of the vaults -/

/-- The request an instruction claims, releases or settles: its owner and
its id. -/
def Instruction.claims : Instruction → Option (Pubkey × UInt64)
  | .claimBridge acc _ requestId _ => some (acc.requestOwner, requestId)
  | .releaseExpiredClaim acc requestId => some (acc.requestOwner, requestId)
  | .verifyAndSettleSpl acc requestId _ _ _ => some (acc.requestOwner, requestId)
  | _ => none

/-- `request_pda` of an owner and an id. -/
def requestPda (r : Pubkey × UInt64) : Pubkey := .request r.1 r.2

/-- `bond_vault`; its seeds leave the owner out. -/
def bondVault (r : Pubkey × UInt64) : Pubkey := .bondVault r.2

/-- Two amounts that differ by `k` in the one case are equal in the other. -/
theorem eq_iff_ne_of_moved {requestId other : UInt64} {m n k : Nat}
    (h : m + (if requestId = other then k else 0) = n) (hpos : 0 < k) :
    m = n ↔ other ≠ requestId := by
  by_cases hid : requestId = other
  · rw [if_pos hid] at h
    exact iff_of_false (by omega) (fun hne => hne hid.symm)
  · rw [if_neg hid] at h
    exact iff_of_true h (Ne.symm hid)

/-- A claim, release or settlement changes the lamports of a vault exactly
if it is the vault of its own id. -/
theorem lamports_bondVault_iff (h : Reachable rt s) {i : Instruction}
    {r : Pubkey × UInt64} (hi : i.claims = some r) (hexec : exec rt i s = .ok s')
    (r' : Pubkey × UInt64) :
    s'.lamports (bondVault r') = s.lamports (bondVault r') ↔ r'.2 ≠ r.2 := by
  have hs := h.lawful
  have hc := h.consistent
  unfold bondVault
  cases i with
  | claimBridge acc offset requestId solverX25519 =>
      cases hi
      obtain ⟨cfg, rent, hcfg, hv⟩ := claimBridge_vault hexec hs r'.2
      obtain ⟨cfg', req, deadline, hcfg', _, _, _, hbond, _⟩ := claimBridge_ok hexec
      rw [hcfg] at hcfg'
      cases hcfg'
      have hpos : 0 < cfg.minSolverBond.toNat := UInt64.lt_iff_toNat_lt.mp hbond
      rw [eq_comm]
      exact eq_iff_ne_of_moved hv.symm (by omega)
  | releaseExpiredClaim acc requestId =>
      cases hi
      obtain ⟨cfg, req, slash, refund, _, hl, _, _, _, _, hbond, _⟩ :=
        releaseExpiredClaim_ok hexec
      have hv := releaseExpiredClaim_vault hexec hl hs hc r'.2
      have hpos : 0 < req.bondLamports.toNat := UInt64.lt_iff_toNat_lt.mp hbond
      exact eq_iff_ne_of_moved hv hpos
  | verifyAndSettleSpl acc requestId destTxHash evidenceHash evidenceUrl =>
      cases hi
      obtain ⟨cfg, req, payout, s₁, _, _, hl, _, _, _, hclaimed, _⟩ :=
        verifyAndSettleSpl_ok hexec
      have hv := verifyAndSettleSpl_vault hexec hl hc r'.2
      have hpos : 0 < req.bondLamports.toNat :=
        UInt64.lt_iff_toNat_lt.mp ((hc _ _ hl).bond.mp hclaimed)
      exact eq_iff_ne_of_moved hv hpos
  | initiateBridge acc args => cases hi
  | initiateBridgeSol acc args => cases hi
  | deliverTokens acc amount => cases hi
  | deliverTokensSol acc amount => cases hi
  | initConfig payer args => cases hi
  | setConfig authority c => cases hi

/-- **Isolation of the bond vaults.** Two requests have different vaults
exactly if their ids differ; and whatever claims, releases or settles the one
leaves the vault of the other alone exactly then. -/
theorem vault_isolation (h : Reachable rt s) :
    (∀ r r', r ≠ r' →
      requestPda r ≠ requestPda r' ∧ (bondVault r ≠ bondVault r' ↔ r'.2 ≠ r.2)) ∧
    ∀ i r s', i.claims = some r → exec rt i s = .ok s' → ∀ r', r' ≠ r →
      (s'.lamports (bondVault r') = s.lamports (bondVault r') ↔ r'.2 ≠ r.2) := by
  constructor
  · intro r r' hne
    refine ⟨?_, ?_⟩
    · intro heq
      simp only [requestPda, Pubkey.request.injEq] at heq
      exact hne (Prod.ext heq.1 heq.2)
    · simp only [bondVault, ne_eq, Pubkey.bondVault.injEq]
      exact not_congr eq_comm
  · intro i r s' hi hexec r' _
    exact lamports_bondVault_iff h hi hexec r'

namespace Sample

/-- A second depositor, who may name the same id as the first. -/
def rivalDeposit (requestId : UInt64) : Instruction :=
  .initiateBridge
    { payer := rival
      userToken := .key 23
      mint := mint
      escrowToken := .key 21
      arciumAccepts := true }
    { computationOffset := 0
      requestId := requestId
      clientPubkey := 0
      nonce := 0
      destinationCt0 := 0
      destinationCt1 := 0
      destinationCt2 := 0
      destinationCt3 := 0
      amount := 1000 }

/-- The rival has tokens at 23. -/
def shared : State :=
  { initial with
    tokens := AList.insert (.key 23) (tokenAccount rival.key 5000) initial.tokens }

theorem shared_initial : Initial shared :=
  ⟨rfl, rfl, fun _ => rfl, rfl, rfl, rfl, fun _ => rfl⟩

/-- Both deposits, and a claim of the first. -/
def sharedMoves (requestId : UInt64) : List (Nat × Instruction) :=
  [(0, config), (0, deposit (.key 21)), (0, rivalDeposit requestId), (0, claim solver)]

/-- A claim of the second. -/
def rivalClaim (requestId : UInt64) : Instruction :=
  .claimBridge { solver := solver, requestOwner := rival.key, arciumAccepts := true } 0
    requestId 0

/-- The vault of a request before and after an instruction. -/
def vaultAround (rt : Runtime) (i : Instruction) (r : Pubkey × UInt64) (s : State) :
    Option (Nat × Nat) :=
  match exec rt i s with
  | .ok s' => some (s.lamports (bondVault r), s'.lamports (bondVault r))
  | .error _ => none

theorem exec_of_vaultAround {i : Instruction} {r : Pubkey × UInt64} {m n : Nat}
    (h : vaultAround rt i r s = some (m, n)) : ∃ s', exec rt i s = .ok s' ∧
      s.lamports (bondVault r) = m ∧ s'.lamports (bondVault r) = n := by
  unfold vaultAround at h
  split at h
  · next s' hexec =>
    cases h
    exact ⟨s', hexec, rfl, rfl⟩
  · cases h

end Sample

/-- Two requests are claimed, and the settlement of the one leaves the bond of
the other where it is. -/
theorem vault_isolation_settled : ∃ s s', Reachable Sample.runtime s ∧
    exec Sample.runtime Sample.settle s = .ok s' ∧
      s.lamports (bondVault (Sample.rival.key, 8)) = 6000 ∧
      s'.lamports (bondVault (Sample.rival.key, 8)) =
        s.lamports (bondVault (Sample.rival.key, 8)) := by
  have hrun : ((runMoves Sample.runtime (fun _ _ => true)
      (Sample.sharedMoves 8 ++ [(0, Sample.rivalClaim 8)]) Sample.shared).bind
        (Sample.vaultAround Sample.runtime Sample.settle (Sample.rival.key, 8))) =
          some (6000, 6000) := by
    decide +kernel
  obtain ⟨s, hs, hsettle⟩ := Option.bind_eq_some_iff.mp hrun
  obtain ⟨s', hexec, hbefore, _⟩ := Sample.exec_of_vaultAround hsettle
  have hreach : Reachable Sample.runtime s :=
    ⟨_, Sample.shared_initial, (run_of_moves (.nil _) hs).mono fun _ _ _ => trivial⟩
  refine ⟨s, s', hreach, hexec, hbefore, ?_⟩
  exact ((vault_isolation hreach).2 _ _ s' rfl hexec (Sample.rival.key, 8)
    (by decide)).mpr (by decide)

/-- A claim of the second request with the id puts its bond into the vault of
the first. -/
theorem vaults_not_isolated :
    ¬ ∀ rt s, Reachable rt s → ∀ i r s', i.claims = some r → exec rt i s = .ok s' →
      ∀ r', r' ≠ r → s'.lamports (bondVault r') = s.lamports (bondVault r') := by
  intro hall
  have hrun : ((runMoves Sample.runtime (fun _ _ => true) (Sample.sharedMoves 7)
      Sample.shared).bind (Sample.vaultAround Sample.runtime (Sample.rivalClaim 7)
        (Sample.user.key, 7))) = some (6000, 11000) := by
    decide +kernel
  obtain ⟨s, hs, hclaim⟩ := Option.bind_eq_some_iff.mp hrun
  obtain ⟨s', hexec, hbefore, hafter⟩ := Sample.exec_of_vaultAround hclaim
  have hreach : Reachable Sample.runtime s :=
    ⟨_, Sample.shared_initial, (run_of_moves (.nil _) hs).mono fun _ _ _ => trivial⟩
  have hsame := hall _ s hreach _ _ s' rfl hexec (Sample.user.key, 7) (by decide)
  omega

end LunarysBridge.Solana
