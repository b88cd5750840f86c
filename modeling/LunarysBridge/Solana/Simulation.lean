/-
LunarysBridge.Solana.Simulation — the program as a machine of bonded claims.

`Shows` relates a request, its vault and what the log says of its solvers to
a position of `Bonded.step`. Where the runtime lets the vault pay, the
program refines the machine: it answers each claim, release and settlement
as the machine does (`simulates`). The exceptions are a claim that takes
over an expired one, whose bond it does not split, and a bond of zero, which
it does not take.
-/
import LunarysBridge.Lib.Bonded
import LunarysBridge.Lib.Tally
import LunarysBridge.Solana.Release
import LunarysBridge.Solana.Resolution

namespace LunarysBridge.Solana

variable {rt : Runtime} {s s' : State}

/-! ## Instructions that succeed -/

section Succeeds

/-- A signer pays another account. -/
theorem systemTransfer_succeeds {w : Signer} {n : Nat} (dest : Pubkey) (hdest : dest ≠ w.key)
    (hplain : s.tokens.lookup w.key = none) (hfunds : n ≤ s.lamports w.key) :
    ∃ s', systemTransfer w.key dest n s = .ok s' ∧ s'.tokens.lookup w.key = none ∧
      s'.lamports w.key + n = s.lamports w.key := by
  have hnone : (s.tokens.lookup w.key).isNone = true := by rw [hplain]; rfl
  refine ⟨(s.debit w.key n).credit dest n, ?_, ?_, ?_⟩
  · rw [systemTransfer, bind_require hnone, bind_require hfunds]
  · exact lookup_credit_none hplain
  · have hdebit : (s.debit w.key n).lamports w.key = s.lamports w.key - n :=
      Function.update_self ..
    have hkeep : ((s.debit w.key n).credit dest n).lamports w.key =
        (s.debit w.key n).lamports w.key := by
      unfold State.credit
      split
      · rfl
      · exact Function.update_of_ne (Ne.symm hdest) ..
    omega

theorem initBondVault_succeeds {w : Signer} {rest : Nat} (requestId : UInt64)
    (hplain : s.tokens.lookup w.key = none) (hfunds : rt.vaultRent + rest ≤ s.lamports w.key) :
    ∃ s', initBondVault rt w requestId s = .ok s' ∧ s'.tokens.lookup w.key = none ∧
      rest ≤ s'.lamports w.key := by
  by_cases hnew : s.vaultOwner requestId = .system
  · obtain ⟨s₁, h₁, hplain₁, hpaid⟩ := systemTransfer_succeeds (s := s)
      (n := rt.vaultRent - s.lamports (.bondVault requestId)) (.bondVault requestId)
      (by simp [Signer.key]) hplain (by omega)
    refine ⟨{ s₁ with vaultOwner := Function.update s₁.vaultOwner requestId .bridge }, ?_,
      hplain₁, ?_⟩
    · rw [initBondVault, if_pos hnew, payRent, h₁]
      rfl
    · show rest ≤ s₁.lamports w.key
      omega
  · refine ⟨s, ?_, hplain, by omega⟩
    rw [initBondVault, if_neg hnew]

theorem initSignPda_succeeds (rt : Runtime) {w : Signer} {rest : Nat}
    (hplain : s.tokens.lookup w.key = none)
    (hfunds : rt.signerRent + rest ≤ s.lamports w.key) :
    ∃ s', initSignPda rt w s = .ok s' ∧ s'.tokens.lookup w.key = none ∧
      rest ≤ s'.lamports w.key := by
  by_cases hready : s.signPdaReady = true
  · refine ⟨s, ?_, hplain, by omega⟩
    rw [initSignPda, if_pos hready]
  · obtain ⟨s₁, h₁, hplain₁, hpaid⟩ := systemTransfer_succeeds (s := s)
      (n := rt.signerRent - s.lamports .signPda) .signPda (by simp [Signer.key]) hplain (by omega)
    refine ⟨{ s₁ with signPdaReady := true }, ?_, hplain₁, ?_⟩
    · rw [initSignPda, if_neg hready, payRent, h₁]
      rfl
    · show rest ≤ s₁.lamports w.key
      omega

/-- The runtime lets the vaults pay. -/
def Runtime.Permits (rt : Runtime) : Prop :=
  ∀ owner, rt.systemAccount owner = true ∧ rt.mayDebit owner = true

variable {cfg : BridgeConfig} {req : BridgeRequest} {requestId : UInt64}

/-- A claim succeeds on a request that is free. -/
theorem claimBridge_succeeds {acc : ClaimRequest} (offset : UInt64) (solverX25519 : Bytes32)
    {deadline : Int} (hcfg : s.config = some cfg)
    (hl : s.requests.lookup (.request acc.requestOwner requestId) = some req)
    (hopen : req.finalized = false) (hfree : req.claimed = false)
    (hbond : 0 < cfg.minSolverBond)
    (hdeadline : checkedAddI64 s.now cfg.claimWindowSecs = some deadline)
    (haccepts : acc.arciumAccepts = true) (hplain : s.tokens.lookup acc.solver.key = none)
    (hfunds : rt.vaultRent + (rt.signerRent + cfg.minSolverBond.toNat) ≤
      s.lamports acc.solver.key) :
    ∃ s', claimBridge rt acc offset requestId solverX25519 s = .ok s' := by
  obtain ⟨s₁, h₁, hplain₁, hfunds₁⟩ := initBondVault_succeeds requestId hplain
    hfunds
  obtain ⟨s₂, h₂, hplain₂, hfunds₂⟩ := initSignPda_succeeds rt hplain₁ hfunds₁
  obtain ⟨s₃, h₃, _, _⟩ := systemTransfer_succeeds (.bondVault requestId)
    (by simp [Signer.key]) hplain₂ hfunds₂
  have hnow : s₃.now = s.now := (frame_systemTransfer h₃).now.trans
    ((frame_initSignPda h₂).now.trans (frame_initBondVault h₁).now)
  rw [claimBridge, hcfg, bind_okOr, hl, bind_okOr, h₁]
  show ∃ s', (initSignPda rt acc.solver s₁ >>= _) = .ok s'
  rw [h₂]
  show ∃ s', (require (req.finalized = false) _ >>= _) = .ok s'
  rw [bind_require hopen, bind_require (fun h => absurd (hfree.symm.trans h) Bool.false_ne_true),
    bind_require hbond, h₃]
  show ∃ s', (okOr (checkedAddI64 s₃.now cfg.claimWindowSecs) _ >>= _) = .ok s'
  rw [hnow, hdeadline, bind_okOr, queueComputation, bind_require haccepts]
  exact ⟨_, rfl⟩

theorem tokenTransfer_succeeds {source dest : Pubkey} {mint : Pubkey} {a b : TokenAccount}
    (amount : UInt64) (ha : s.tokens.lookup source = some a)
    (hb : s.tokens.lookup dest = some b) (hamint : a.mint = mint) (hbmint : b.mint = mint)
    (howner : a.owner = .signPda) (hne : source ≠ dest) (hle : amount.toNat ≤ a.amount.toNat)
    (hlt : b.amount.toNat + amount.toNat < 2 ^ 64) :
    ∃ s', tokenTransfer source dest .signPda (some mint) amount s = .ok s' ∧
      s'.lamports = s.lamports ∧ s'.vaultOwner = s.vaultOwner := by
  have hmint : ∀ m, some mint = some m → m = a.mint := by
    intro m h
    cases h
    exact hamint.symm
  rw [tokenTransfer, ha, bind_okOr, hb, bind_okOr, bind_require (hamint.trans hbmint.symm),
    bind_require hmint, bind_require howner.symm, dif_pos (UInt64.le_iff_toNat_le.mpr hle),
    if_neg hne, dif_pos hlt]
  exact ⟨_, rfl, rfl, rfl⟩

/-- A settlement succeeds on a claim that is not overdue. -/
theorem verifyAndSettleSpl_succeeds {acc : VerifyAndSettleSpl}
    (destTxHash evidenceHash : Bytes32) (evidenceUrl : String) (hpermits : rt.Permits)
    (hcfg : s.config = some cfg)
    (hl : s.requests.lookup (.request acc.requestOwner requestId) = some req)
    (haccounts : SettleAccounts acc cfg req s) (hready : s.signPdaReady = true)
    (hopen : req.finalized = false) (hclaimed : req.claimed = true)
    (hintime : s.now ≤ req.claimDeadline) (hsolver : req.solver ≠ .signPda)
    (hvault : req.bondLamports.toNat ≤ s.lamports (.bondVault requestId)) :
    ∃ s', verifyAndSettleSpl rt acc requestId destTxHash evidenceHash evidenceUrl s =
      .ok s' := by
  obtain ⟨hrelayer, _, ⟨a, ha, hamint, haowner, hcovers⟩, ⟨b, hb, hbmint, hbowner, hroom⟩,
    hwallet⟩ := haccounts
  have hlt : req.amountLocked.toNat + req.feeLocked.toNat < 2 ^ 64 := by omega
  have hadd : checkedAdd req.amountLocked req.feeLocked =
      some (req.amountLocked + req.feeLocked) := if_pos hlt
  have hpayout := checkedAdd_some hadd
  have hne : acc.escrowToken ≠ acc.solverToken := by
    intro heq
    rw [heq, hb] at ha
    cases ha
    exact hsolver (hbowner.symm.trans haowner)
  obtain ⟨s₁, h₁, hlamports, howner⟩ := tokenTransfer_succeeds (req.amountLocked + req.feeLocked) ha
    hb hamint hbmint haowner hne (by omega) (by omega)
  rw [verifyAndSettleSpl, hcfg, bind_okOr, bind_require hrelayer, hl, bind_okOr, ha, bind_okOr,
    bind_require hamint, bind_require haowner, hb, bind_okOr, bind_require hbmint,
    bind_require hbowner, bind_require hready, bind_require (hpermits _).1, bind_require hopen,
    bind_require hclaimed, bind_require hintime, bind_require hwallet, hadd, bind_okOr, h₁]
  show ∃ s', (returnBond rt requestId acc.solverWallet req.bondLamports
    (s₁.note (.paid (.request acc.requestOwner requestId) acc.mint acc.solverToken
      (req.amountLocked + req.feeLocked))) >>= _) = .ok s'
  unfold returnBond
  split
  · have hvault₁ : req.bondLamports.toNat ≤ (s₁.note (.paid (.request acc.requestOwner requestId)
        acc.mint acc.solverToken (req.amountLocked + req.feeLocked))).lamports
          (.bondVault requestId) := by
      show _ ≤ s₁.lamports _
      rw [hlamports]
      exact hvault
    rw [debitVault, bind_require hvault₁, bind_require (hpermits _).2]
    exact ⟨_, rfl⟩
  · exact ⟨_, rfl⟩

end Succeeds

/-! ## What was refunded and slashed -/

/-- Lamports refunded to `solver` for a request. -/
@[simp] def Entry.refundedTo (request solver : Pubkey) : Entry → Nat
  | .refunded request' solver' amount =>
      if request' = request ∧ solver' = solver then amount.toNat else 0
  | _ => 0

/-- What was slashed of the bonds of `solver`. -/
@[simp] def Entry.slashedFrom (requestId : UInt64) (solver : Pubkey) : Entry → Nat
  | .emit (.BridgeClaimExpired requestId' solver' amount) =>
      if requestId' = requestId ∧ solver' = solver then amount.toNat else 0
  | _ => 0

/-- The end of a claim of the request: somebody was refunded, or slashed. -/
def Entry.ends (request : Pubkey) (requestId : UInt64) : Entry → Bool
  | .refunded request' _ _ => request' = request
  | .emit (.BridgeClaimExpired requestId' _ _) => requestId' = requestId
  | _ => false

def State.refunded (s : State) (request solver : Pubkey) : Nat :=
  Tally.total (Entry.refundedTo request solver) s.log

def State.slashed (s : State) (requestId : UInt64) (solver : Pubkey) : Nat :=
  Tally.total (Entry.slashedFrom requestId solver) s.log

/-- Before a claim of the request has ended nobody was refunded or slashed. -/
theorem unpaid_of_not_ends {request : Pubkey} {requestId : UInt64}
    (h : ∀ e ∈ s.log, e.ends request requestId = false) (solver : Pubkey) :
    s.refunded request solver = 0 ∧ s.slashed requestId solver = 0 := by
  refine ⟨Tally.total_eq_zero fun e he => ?_, Tally.total_eq_zero fun e he => ?_⟩
  · have hquiet := h e he
    unfold Entry.refundedTo
    split
    · next request' solver' amount =>
      have hother : request' ≠ request := by simpa [Entry.ends] using hquiet
      exact if_neg fun hboth => hother hboth.1
    · rfl
  · have hquiet := h e he
    unfold Entry.slashedFrom
    split
    · next requestId' solver' amount =>
      have hother : requestId' ≠ requestId := by simpa [Entry.ends] using hquiet
      exact if_neg fun hboth => hother hboth.1
    · rfl

/-! ## Positions -/

variable {ι : Type}

/-- The config has the terms of the machine. -/
structure OnTerms (m : Bonded.Terms) (cfg : BridgeConfig) : Prop where
  bond : cfg.minSolverBond.toNat = m.bond
  window : cfg.claimWindowSecs = m.window
  bps : cfg.slashBps.toNat = m.slashBps

/-- The claim fields of a request that a claim of the machine has. -/
def Holds (wallet : ι → Signer) (m : Bonded.Terms) (req : BridgeRequest) :
    Option (Bonded.Claim ι) → Prop
  | none => req.claimed = false
  | some k => req.claimed = true ∧ req.solver = (wallet k.solver).key ∧
      req.claimDeadline = k.deadline ∧ req.bondLamports.toNat = m.bond

/-- The program shows a position of the machine at a request. -/
structure Shows (rt : Runtime) (owner : Pubkey) (requestId : UInt64) (wallet : ι → Signer)
    (m : Bonded.Terms) (s : State) (p : Bonded.Position ι) : Prop where
  reachable : Reachable rt s
  config : ∃ cfg, s.config = some cfg ∧ OnTerms m cfg
  request : ∃ req, s.requests.lookup (.request owner requestId) = some req ∧
    req.finalized = p.finalized ∧ Holds wallet m req p.claim
  vault : p.claim ≠ none → m.bond ≤ s.lamports (.bondVault requestId)
  refunded : ∀ i, s.refunded (.request owner requestId) (wallet i).key = p.refunded i
  slashed : ∀ i, s.slashed requestId (wallet i).key = p.slashed i

variable {owner : Pubkey} {requestId : UInt64} {wallet : ι → Signer} {m : Bonded.Terms}
  {p p' : Bonded.Position ι}

theorem Shows.outside (hs : Shows rt owner requestId wallet m s p) (move : Outside s s') :
    Shows rt owner requestId wallet m s' p where
  reachable := hs.reachable.run (.outside (.nil s) move)
  config := by
    rw [move.config]
    exact hs.config
  request := by
    rw [move.requests]
    exact hs.request
  vault := fun h => Nat.le_trans (hs.vault h) (move.vaults requestId)
  refunded := by
    unfold State.refunded
    rw [move.log]
    exact hs.refunded
  slashed := by
    unfold State.slashed
    rw [move.log]
    exact hs.slashed

/-- The position after an instruction that rewrites the request. -/
theorem Shows.rewritten (hs : Shows rt owner requestId wallet m s p) {i : Instruction}
    (h : exec rt i s = .ok s') {req : BridgeRequest} {entries : List Entry}
    (hconfig : s'.config = s.config)
    (hrequests : s'.requests = s.requests.insert (.request owner requestId) req)
    (hlog : s'.log = s.log ++ entries) (hfinalized : req.finalized = p'.finalized)
    (hclaim : Holds wallet m req p'.claim)
    (hvault : p'.claim ≠ none → m.bond ≤ s'.lamports (.bondVault requestId))
    (hrefunded : ∀ j, p.refunded j + Tally.total
      (Entry.refundedTo (.request owner requestId) (wallet j).key) entries = p'.refunded j)
    (hslashed : ∀ j, p.slashed j + Tally.total
      (Entry.slashedFrom requestId (wallet j).key) entries = p'.slashed j) :
    Shows rt owner requestId wallet m s' p' where
  reachable := hs.reachable.run (.exec (.nil s) i trivial h)
  config := by
    rw [hconfig]
    exact hs.config
  request := by
    refine ⟨req, ?_, hfinalized, hclaim⟩
    rw [hrequests, AList.lookup_insert]
  vault := hvault
  refunded := by
    intro j
    have hold := hs.refunded j
    unfold State.refunded at hold ⊢
    rw [hlog, Tally.total_append, hold]
    exact hrefunded j
  slashed := by
    intro j
    have hold := hs.slashed j
    unfold State.slashed at hold ⊢
    rw [hlog, Tally.total_append, hold]
    exact hslashed j

/-- Time passes. -/
theorem Outside.at (s : State) {time : Int} (later : s.now ≤ time) : Outside s (s.at time) where
  config := rfl
  requests := rfl
  vaultOwner := rfl
  signPdaReady := rfl
  queue := rfl
  log := rfl
  later := later
  tokens := fun _ a h ho => ⟨a, h, rfl, ho, UInt64.le_refl _⟩
  vaults := fun _ => Nat.le_refl _
  plain := fun _ h => h

/-! ## Operations -/

/-- The instruction makes an operation of the machine on the request: it is
signed by whom it has to be, names the accounts it asks for, and what it
pays for is funded. -/
def Makes (rt : Runtime) (owner : Pubkey) (requestId : UInt64) (wallet : ι → Signer)
    (i : Instruction) (s : State) : Bonded.Op ι → Prop
  | .claim solver => ∃ acc offset solverX25519,
      i = .claimBridge acc offset requestId solverX25519 ∧ acc.requestOwner = owner ∧
      acc.solver = wallet solver ∧ acc.arciumAccepts = true ∧
      s.tokens.lookup acc.solver.key = none ∧
      ∀ cfg, s.config = some cfg → rt.vaultRent + (rt.signerRent + cfg.minSolverBond.toNat) ≤
        s.lamports acc.solver.key
  | .release => ∃ acc, i = .releaseExpiredClaim acc requestId ∧ acc.requestOwner = owner ∧
      (∀ cfg, s.config = some cfg → acc.slashCollector = cfg.owner) ∧
      ∀ req, s.requests.lookup (.request owner requestId) = some req →
        acc.prevSolver = req.solver
  | .settle => ∃ acc destTxHash evidenceHash evidenceUrl,
      i = .verifyAndSettleSpl acc requestId destTxHash evidenceHash evidenceUrl ∧
      acc.requestOwner = owner ∧ ∀ cfg req, s.config = some cfg →
        s.requests.lookup (.request owner requestId) = some req → req.claimed = true →
          SettleAccounts acc cfg req s ∧ s.signPdaReady = true

/-- It takes over no claim; and a claim has a bond, and a deadline in range. -/
def Clear (m : Bonded.Terms) (p : Bonded.Position ι) (time : Nat) : Bonded.Op ι → Prop
  | .claim _ => p.finalized = false →
      (p.claim = none → 0 < m.bond ∧ time + m.window < 2 ^ 63) ∧
      ∀ k, p.claim = some k → time ≤ k.deadline
  | _ => True

theorem toOption_none {i : Instruction} (h : ∀ s', exec rt i s ≠ .ok s') :
    (exec rt i s).toOption = none := by
  cases hexec : exec rt i s with
  | error e => rfl
  | ok s' => exact absurd hexec (h s')

theorem toOption_some {i : Instruction} (h : exec rt i s = .ok s') :
    (exec rt i s).toOption = some s' := by
  rw [h]
  rfl

theorem wallet_key (hwallet : Function.Injective wallet) {i j : ι} :
    (wallet i).key = (wallet j).key ↔ i = j := by
  constructor
  · intro h
    apply hwallet
    cases hi : wallet i
    cases hj : wallet j
    simpa [Signer.key, hi, hj] using h
  · rintro rfl
    rfl

section Succeeded

variable [DecidableEq ι] {k : Bonded.Claim ι}

omit [DecidableEq ι] in
/-- What a claim that succeeded shows. -/
theorem Shows.claimed {acc : ClaimRequest} {offset : UInt64} {solverX25519 : Bytes32}
    (hs : Shows rt acc.requestOwner requestId wallet m s p) {time : Nat} (hnow : s.now = time)
    {i : ι} (hsolver : acc.solver = wallet i)
    (h : claimBridge rt acc offset requestId solverX25519 s = .ok s') :
    Shows rt acc.requestOwner requestId wallet m s' (p.take m time i) := by
  obtain ⟨cfg, hcfg, hterms⟩ := hs.config
  obtain ⟨req, hl, hfinalized, _⟩ := hs.request
  obtain ⟨cfg₁, rent, hcfg₁, hvault⟩ := claimBridge_vault h hs.reachable.lawful requestId
  rw [hcfg] at hcfg₁
  cases hcfg₁
  obtain ⟨cfg', req', deadline, hcfg', hl', _, _, _, hdeadline, hrequests, hlog, hconfig, _⟩ :=
    claimBridge_ok h
  rw [hcfg] at hcfg'
  cases hcfg'
  rw [hl] at hl'
  cases hl'
  have hsum : deadline = ((time + m.window : Nat) : Int) := by
    unfold checkedAddI64 at hdeadline
    split at hdeadline
    · cases hdeadline
      rw [hnow, hterms.window]
      simp
    · cases hdeadline
  refine hs.rewritten (i := .claimBridge acc offset requestId solverX25519) h hconfig hrequests
    hlog hfinalized ⟨rfl, by rw [hsolver], hsum, hterms.bond⟩ (fun _ => ?_) (fun j => ?_)
    fun j => ?_
  · rw [hvault, if_pos rfl, hterms.bond]
    omega
  · simp [Bonded.Position.take]
  · simp [Bonded.Position.take]

/-- What a release that succeeded shows. -/
theorem Shows.released (hwallet : Function.Injective wallet) {acc : ReleaseExpiredClaim}
    (hs : Shows rt acc.requestOwner requestId wallet m s p) (hp : p.claim = some k)
    (h : releaseExpiredClaim rt acc requestId s = .ok s') :
    Shows rt acc.requestOwner requestId wallet m s' (p.expire m k) := by
  obtain ⟨cfg, hcfg, hterms⟩ := hs.config
  obtain ⟨req, hl, hfinalized, hclaim⟩ := hs.request
  rw [hp] at hclaim
  obtain ⟨_, hheld, _, hbond⟩ := hclaim
  obtain ⟨cfg', req', slash, refund, hcfg', hl', _, _, _, hprev, _, hs', hsum, hrequests, hlog,
    hconfig, _⟩ := releaseExpiredClaim_ok h
  rw [hcfg] at hcfg'
  cases hcfg'
  rw [hl] at hl'
  cases hl'
  have hslash : slash.toNat = m.slash := by
    rw [hs', slashOf, hbond, hterms.bps, Bonded.Terms.slash]
  refine hs.rewritten (i := .releaseExpiredClaim acc requestId) h hconfig hrequests hlog
    hfinalized rfl (fun hne => absurd rfl hne) (fun j => ?_) fun j => ?_
  · rw [hprev, hheld]
    have hrefund : refund.toNat = m.bond - m.slash := by omega
    simp [Bonded.Position.expire, Bonded.add, wallet_key hwallet, hrefund]
  · rw [hprev, hheld]
    simp [Bonded.Position.expire, Bonded.add, wallet_key hwallet, hslash]

/-- What a settlement that succeeded shows. -/
theorem Shows.settled (hwallet : Function.Injective wallet) {acc : VerifyAndSettleSpl}
    {destTxHash evidenceHash : Bytes32} {evidenceUrl : String}
    (hs : Shows rt acc.requestOwner requestId wallet m s p) (hp : p.claim = some k)
    (h : verifyAndSettleSpl rt acc requestId destTxHash evidenceHash evidenceUrl s = .ok s') :
    Shows rt acc.requestOwner requestId wallet m s' (p.settle m k) := by
  obtain ⟨req, hl, _, hclaim⟩ := hs.request
  rw [hp] at hclaim
  obtain ⟨_, hheld, _, hbond⟩ := hclaim
  obtain ⟨_, req', _, _, _, _, hl', _, _, _, _, _, hw, _, _, _, hrequests, hlog, hconfig, _⟩ :=
    verifyAndSettleSpl_ok h
  rw [hl] at hl'
  cases hl'
  refine hs.rewritten (i := .verifyAndSettleSpl acc requestId destTxHash evidenceHash
    evidenceUrl) h hconfig hrequests hlog rfl rfl (fun hne => absurd rfl hne) (fun j => ?_)
    fun j => ?_
  · rw [hw, hheld]
    simp [Bonded.Position.settle, Bonded.add, wallet_key hwallet, hbond]
  · simp [Bonded.Position.settle]

end Succeeded

section Simulates

variable [DecidableEq ι] (hwallet : Function.Injective wallet) (hpermits : rt.Permits)
  {time : Nat} (hnow : s.now = time)

include hnow

/-- A claim takes what is free. -/
theorem simulates_claim (hs : Shows rt owner requestId wallet m s p) {i : ι}
    {acc : ClaimRequest} {offset : UInt64} {solverX25519 : Bytes32}
    (howner : acc.requestOwner = owner) (hsolver : acc.solver = wallet i)
    (haccepts : acc.arciumAccepts = true) (hplain : s.tokens.lookup acc.solver.key = none)
    (hfunds : ∀ cfg, s.config = some cfg →
      rt.vaultRent + (rt.signerRent + cfg.minSolverBond.toNat) ≤ s.lamports acc.solver.key)
    (hclear : Clear m p time (.claim i)) :
    Option.Rel (Shows rt owner requestId wallet m)
      (exec rt (.claimBridge acc offset requestId solverX25519) s).toOption
      (Bonded.step m time (.claim i) p) := by
  subst howner
  obtain ⟨cfg, hcfg, hterms⟩ := hs.config
  obtain ⟨req, hl, hfinalized, hclaim⟩ := hs.request
  cases hfinal : p.finalized with
  | true =>
      rw [toOption_none fun s' h => ?_]
      · simp only [Bonded.step, hfinal, if_true]
        exact .none
      · obtain ⟨_, req', _, _, hl', hopen, _⟩ := claimBridge_ok h
        rw [hl] at hl'
        cases hl'
        rw [hfinalized, hfinal] at hopen
        cases hopen
  | false =>
      obtain ⟨hfree, hlive⟩ := hclear hfinal
      cases hp : p.claim with
      | some k =>
          rw [hp] at hclaim
          obtain ⟨hclaimed, _, hdeadline, _⟩ := hclaim
          have hin := hlive k hp
          rw [toOption_none fun s' h => ?_]
          · simp only [Bonded.step, hfinal, hp, Bool.false_eq_true, if_false]
            rw [if_neg (by omega)]
            exact .none
          · obtain ⟨_, req', _, _, hl', _, hexpired, _⟩ := claimBridge_ok h
            rw [hl] at hl'
            cases hl'
            have hlate := hexpired hclaimed
            omega
      | none =>
          rw [hp] at hclaim
          obtain ⟨hpos, hroom⟩ := hfree hp
          have hbond : 0 < cfg.minSolverBond := by
            rw [UInt64.lt_iff_toNat_lt, hterms.bond]
            exact hpos
          have hdeadline : checkedAddI64 s.now cfg.claimWindowSecs =
              some (s.now + cfg.claimWindowSecs) := by
            have hwindow := hterms.window
            exact if_pos (by omega)
          obtain ⟨s', h⟩ := claimBridge_succeeds offset solverX25519 hcfg hl
            (hfinalized.trans hfinal) hclaim hbond
            hdeadline haccepts hplain (hfunds cfg hcfg)
          rw [toOption_some (i := .claimBridge acc offset requestId solverX25519) h]
          simp only [Bonded.step, hfinal, hp, Bool.false_eq_true, if_false]
          exact .some (hs.claimed hnow hsolver h)

include hwallet hpermits

/-- A release ends the claims that are overdue. -/
theorem simulates_release (hs : Shows rt owner requestId wallet m s p)
    {acc : ReleaseExpiredClaim} (howner : acc.requestOwner = owner)
    (hcollector : ∀ cfg, s.config = some cfg → acc.slashCollector = cfg.owner)
    (hsolver : ∀ req, s.requests.lookup (.request owner requestId) = some req →
      acc.prevSolver = req.solver) :
    Option.Rel (Shows rt owner requestId wallet m)
      (exec rt (.releaseExpiredClaim acc requestId) s).toOption
      (Bonded.step m time .release p) := by
  subst howner
  obtain ⟨cfg, hcfg, hterms⟩ := hs.config
  obtain ⟨req, hl, hfinalized, hclaim⟩ := hs.request
  cases hp : p.claim with
  | none =>
      rw [hp] at hclaim
      rw [toOption_none fun s' h => ?_]
      · simp only [Bonded.step, hp]
        exact .none
      · obtain ⟨_, req', _, _, _, hl', hclaimed, _⟩ := releaseExpiredClaim_ok h
        rw [hl] at hl'
        cases hl'
        exact Bool.false_ne_true (hclaim.symm.trans hclaimed)
  | some k =>
      rw [hp] at hclaim
      obtain ⟨hclaimed, hheld, hdeadline, hbond⟩ := hclaim
      by_cases hdue : k.deadline < time
      · have hpos := (hs.reachable.consistent _ _ hl).bond.mp hclaimed
        have hslash : slashOf req.bondLamports cfg.slashBps = m.slash := by
          rw [slashOf, hbond, hterms.bps, Bonded.Terms.slash]
        have hle := m.slash_le
        have hvault : m.bond ≤ s.lamports (.bondVault requestId) := hs.vault (by rw [hp]; simp)
        have hreleasable : Releasable rt acc requestId cfg req s :=
          { config := hcfg
            found := hl
            system := (hpermits _).1
            collector := hcollector cfg hcfg
            claimed := hclaimed
            overdue := by omega
            solver := hsolver req hl
            bond := hpos
            slash := by omega
            vault := by omega
            permitted := (hpermits _).2 }
        obtain ⟨s', h⟩ := hreleasable.succeeds
        rw [toOption_some (i := .releaseExpiredClaim acc requestId) h]
        simp only [Bonded.step, hp, if_pos hdue]
        exact .some (hs.released hwallet hp h)
      · rw [toOption_none fun s' h => ?_]
        · simp only [Bonded.step, hp, if_neg hdue]
          exact .none
        · obtain ⟨_, req', _, _, _, hl', _, hlate, _⟩ := releaseExpiredClaim_ok h
          rw [hl] at hl'
          cases hl'
          omega

/-- A settlement closes the request while its claim is not overdue. -/
theorem simulates_settle (hs : Shows rt owner requestId wallet m s p)
    {acc : VerifyAndSettleSpl} {destTxHash evidenceHash : Bytes32} {evidenceUrl : String}
    (howner : acc.requestOwner = owner)
    (haccounts : ∀ cfg req, s.config = some cfg →
      s.requests.lookup (.request owner requestId) = some req → req.claimed = true →
        SettleAccounts acc cfg req s ∧ s.signPdaReady = true) :
    Option.Rel (Shows rt owner requestId wallet m)
      (exec rt (.verifyAndSettleSpl acc requestId destTxHash evidenceHash evidenceUrl)
        s).toOption
      (Bonded.step m time .settle p) := by
  subst howner
  obtain ⟨cfg, hcfg, hterms⟩ := hs.config
  obtain ⟨req, hl, hfinalized, hclaim⟩ := hs.request
  -- what a settlement that succeeds has checked
  have hchecked : ∀ s', verifyAndSettleSpl rt acc requestId destTxHash evidenceHash evidenceUrl
      s = .ok s' → p.finalized = false ∧ req.claimed = true ∧ s.now ≤ req.claimDeadline := by
    intro s' h
    obtain ⟨_, req', _, _, _, _, hl', _, _, hopen, hclaimed, hintime, _⟩ :=
      verifyAndSettleSpl_ok h
    rw [hl] at hl'
    cases hl'
    exact ⟨hfinalized.symm.trans hopen, hclaimed, hintime⟩
  cases hfinal : p.finalized with
  | true =>
      rw [toOption_none fun s' h => ?_]
      · simp only [Bonded.step, hfinal, if_true]
        exact .none
      · have hopen := (hchecked s' h).1
        rw [hfinal] at hopen
        cases hopen
  | false =>
      cases hp : p.claim with
      | none =>
          rw [hp] at hclaim
          rw [toOption_none fun s' h => ?_]
          · simp only [Bonded.step, hfinal, hp, Bool.false_eq_true, if_false]
            exact .none
          · exact Bool.false_ne_true (hclaim.symm.trans (hchecked s' h).2.1)
      | some k =>
          rw [hp] at hclaim
          obtain ⟨hclaimed, hheld, hdeadline, hbond⟩ := hclaim
          by_cases hintime : time ≤ k.deadline
          · obtain ⟨haccounts, hready⟩ := haccounts cfg req hcfg hl hclaimed
            have hsolver : req.solver ≠ .signPda := by
              rw [hheld]
              exact (wallet k.solver).key_ne_signPda
            obtain ⟨s', h⟩ := verifyAndSettleSpl_succeeds destTxHash evidenceHash evidenceUrl
              hpermits hcfg hl haccounts hready (hfinalized.trans hfinal) hclaimed (by omega)
              hsolver
              (by rw [hbond]; exact hs.vault (by rw [hp]; simp))
            rw [toOption_some (i := .verifyAndSettleSpl acc requestId destTxHash evidenceHash
              evidenceUrl) h]
            simp only [Bonded.step, hfinal, hp, Bool.false_eq_true, if_false, if_pos hintime]
            exact .some (hs.settled hwallet hp h)
          · rw [toOption_none fun s' h => ?_]
            · simp only [Bonded.step, hfinal, hp, Bool.false_eq_true, if_false, if_neg hintime]
              exact .none
            · have hin := (hchecked s' h).2.2
              omega

/-- **The program refines the machine**, where its vaults may pay: it answers
every operation that is clear as the machine does. -/
theorem simulates {op : Bonded.Op ι} {i : Instruction}
    (hs : Shows rt owner requestId wallet m s p)
    (hmakes : Makes rt owner requestId wallet i s op) (hclear : Clear m p time op) :
    Option.Rel (Shows rt owner requestId wallet m) (exec rt i s).toOption
      (Bonded.step m time op p) := by
  cases op with
  | claim solver =>
      obtain ⟨acc, offset, solverX25519, rfl, howner, hsolver, haccepts, hplain, hfunds⟩ := hmakes
      exact simulates_claim hnow hs howner hsolver haccepts hplain hfunds hclear
  | release =>
      obtain ⟨acc, rfl, howner, hcollector, hsolver⟩ := hmakes
      exact simulates_release hwallet hpermits hnow hs howner hcollector hsolver
  | settle =>
      obtain ⟨acc, destTxHash, evidenceHash, evidenceUrl, rfl, howner, haccounts⟩ := hmakes
      exact simulates_settle hwallet hpermits hnow hs howner haccounts

end Simulates

end LunarysBridge.Solana
