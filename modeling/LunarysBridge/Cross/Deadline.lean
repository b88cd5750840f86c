/-
LunarysBridge.Cross.Deadline — the time checks of both programs.

Up to its deadline a claim can be settled, afterwards it can be taken over
or released. `ExactlyOne` says that the comparisons of the three operations
cut the time line in two. Those of the Anchor program do. Those of the
contract overlap: it settles while `block.timestamp <= deadline` and expires
from `block.timestamp >= deadline` on.

A call is refused for its time when it ends in the error of its time check,
and only calls that reach this check are compared (`Admitted`).
-/
import LunarysBridge.Evm.Takeover
import LunarysBridge.Solana.Resolution

namespace LunarysBridge

/-- Either the claim can be settled, or it can be taken over and released. -/
def ExactlyOne (settles takesOver releases : Prop) : Prop :=
  (settles ∧ ¬ takesOver ∧ ¬ releases) ∨ (¬ settles ∧ takesOver ∧ releases)

/-! ## The contract -/

namespace Evm

/-- The errors of the time checks. -/
def Revert.late : Revert → Bool
  | .ActiveClaim => true
  | .ClaimExpired => true
  | _ => false

def Refuses (p : Code) : Prop := ∃ e, p = .revert e ∧ e.late = true

/-- The call passes its time check. -/
def InTime (ch : Chain) (t : Tx ch.self) (s : State) : Prop := ¬ Refuses (entry ch t s)

/-- The call reaches its time check, whatever the time is. -/
def Admitted {contract : Address} (t : Tx contract) (s : State) : Prop :=
  match t.fn with
  | .claimBridge _ => s.authorizedNodes t.sender = true ∧ t.value ≤ s.eth t.sender
  | .releaseExpiredClaim _ => t.value = 0
  | _ => t.value = 0 ∧ t.sender = s.relayer

variable {ch : Chain} {t : Tx ch.self} {s : State} {id : Nat}

theorem not_refuses_done (s : State) : ¬ Refuses (.done s) := by
  rintro ⟨e, h, _⟩
  cases h

theorem not_refuses_call (x : ExtCall) (s : State) (k : Bool → State → Code) :
    ¬ Refuses (.call x s k) := by
  rintro ⟨e, h, _⟩
  cases h

theorem refuses_revert (e : Revert) : Refuses (.revert e) ↔ e.late = true := by
  constructor
  · rintro ⟨e', h, hlate⟩
    cases h
    exact hlate
  · intro h
    exact ⟨e, rfl, h⟩

theorem not_refuses_registerClaim (s : State) : ¬ Refuses (registerClaim ch t id s) := by
  unfold registerClaim
  split
  · simp [refuses_revert, Revert.late]
  · split
    · simp [refuses_revert, Revert.late]
    · exact not_refuses_done _

/-- Once a claim is being ended, time is no matter any more. -/
theorem not_refuses_endExpiredClaim {rest : State → Code} (h : ∀ s, ¬ Refuses (rest s))
    (s : State) : ¬ Refuses (endExpiredClaim id rest s) := by
  have hrefund : ∀ leftover slashAmt s,
      ¬ Refuses (refundLeftover id leftover (resetExpired id slashAmt rest) s) := by
    intro leftover slashAmt s
    unfold refundLeftover
    split
    · exact not_refuses_call _ _ _
    · exact h _
  unfold endExpiredClaim
  split
  · simp [refuses_revert, Revert.late]
  · simp only []
    split
    · simp [refuses_revert, Revert.late]
    · unfold slashTransfer
      split
      · exact not_refuses_call _ _ _
      · split
        · exact hrefund _ _ _
        · exact hrefund _ _ _

/-- A claim is taken over from its deadline on. -/
theorem inTime_claimBridge (hu : s.entered = false) (hfn : t.fn = .claimBridge id)
    (hadmitted : Admitted t s) (hknown : (s.bridgeRequests id).sender ≠ 0)
    (hopen : (s.bridgeRequests id).finalized = false)
    (hheld : (s.requestClaim id).solver ≠ 0) :
    InTime ch t s ↔ (s.requestClaim id).deadline ≤ s.now := by
  rw [Admitted, hfn] at hadmitted
  obtain ⟨hauth, hfunds⟩ := hadmitted
  have hentry : entry ch t s = payable ch t (claimBridge ch t id) s := by rw [entry, hfn]
  rw [InTime, hentry, payable, if_neg (Nat.not_lt.mpr hfunds)]
  unfold claimBridge nonReentrant onlyAuthorizedNode
  simp only [State.moveEth, State.note, hu, hauth, hknown, hopen, if_false, Bool.false_eq_true,
    Bool.true_eq_false]
  by_cases hdue : (s.requestClaim id).deadline ≤ s.now
  · rw [if_neg fun h => Nat.not_lt.mpr hdue h.2, if_pos ⟨hheld, hdue⟩]
    exact iff_of_true (not_refuses_endExpiredClaim not_refuses_registerClaim _) hdue
  · rw [if_pos ⟨hheld, Nat.lt_of_not_le hdue⟩]
    exact iff_of_false (not_not_intro ((refuses_revert _).mpr rfl)) hdue

/-- A claim is released from its deadline on. -/
theorem inTime_releaseExpiredClaim (hu : s.entered = false)
    (hfn : t.fn = .releaseExpiredClaim id) (hadmitted : Admitted t s)
    (hheld : (s.requestClaim id).solver ≠ 0) :
    InTime ch t s ↔ (s.requestClaim id).deadline ≤ s.now := by
  rw [Admitted, hfn] at hadmitted
  have hentry : entry ch t s = nonPayable ch t (releaseExpiredClaim id) s := by
    rw [entry, hfn]
  have hleave : ∀ s : State, ¬ Refuses (leave s) := fun s => not_refuses_done _
  rw [InTime, hentry, nonPayable, if_neg (not_not_intro hadmitted)]
  unfold releaseExpiredClaim nonReentrant
  simp only [hu, hheld, if_false, Bool.false_eq_true]
  by_cases hdue : (s.requestClaim id).deadline ≤ s.now
  · rw [if_neg (Nat.not_lt.mpr hdue)]
    exact iff_of_true (not_refuses_endExpiredClaim hleave _) hdue
  · rw [if_pos (Nat.lt_of_not_le hdue)]
    exact iff_of_false (not_not_intro ((refuses_revert _).mpr rfl)) hdue

/-- A claim is settled up to its deadline. -/
theorem inTime_settlement (hu : s.entered = false) (hfn : t.fn.settles = some id)
    (hadmitted : Admitted t s) (hknown : (s.bridgeRequests id).sender ≠ 0)
    (hopen : (s.bridgeRequests id).finalized = false)
    (hheld : (s.requestClaim id).solver ≠ 0) :
    InTime ch t s ↔ s.now ≤ (s.requestClaim id).deadline := by
  have hpay : ∀ rest, Refuses (verifyAndPay id rest { s with entered := true }) ↔
      ¬ s.now ≤ (s.requestClaim id).deadline := by
    intro rest
    unfold verifyAndPay
    simp only [hknown, hopen, hheld, if_false, Bool.false_eq_true]
    by_cases hlate : s.now ≤ (s.requestClaim id).deadline
    · rw [if_neg (Nat.not_lt.mpr hlate)]
      refine iff_of_false ?_ (not_not_intro hlate)
      split
      · simp [refuses_revert, Revert.late]
      · exact not_refuses_call _ _ _
    · rw [if_pos (Nat.lt_of_not_le hlate)]
      exact iff_of_true ((refuses_revert _).mpr rfl) hlate
  cases hf : t.fn with
  | verifyAndSettle i destTxHash evidenceHash =>
      rw [hf] at hfn
      cases hfn
      rw [Admitted, hf] at hadmitted
      obtain ⟨hvalue, hrelayer⟩ := hadmitted
      rw [InTime, entry, hf]
      simp only [nonPayable, verifyAndSettle, onlyRelayer, nonReentrant, hvalue, hrelayer, hu,
        ne_eq, not_true, if_false, Bool.false_eq_true, hpay, not_not]
  | verifyAndSettleURL i destTxHash evidenceHash evidenceURL =>
      rw [hf] at hfn
      cases hfn
      rw [Admitted, hf] at hadmitted
      obtain ⟨hvalue, hrelayer⟩ := hadmitted
      rw [InTime, entry, hf]
      simp only [nonPayable, verifyAndSettleURL, onlyRelayer, nonReentrant, hvalue, hrelayer,
        hu, ne_eq, not_true, if_false, Bool.false_eq_true, hpay, not_not]
  | _ =>
      rw [hf] at hfn
      cases hfn

end Evm

/-! ## The program -/

namespace Solana

/-- The errors of the time checks. -/
def Error.late : Error → Bool
  | .code .ActiveClaim => true
  | .code .ClaimExpired => true
  | _ => false

def Refuses {α : Type} (r : Except Error α) : Prop := ∃ e, r = .error e ∧ e.late = true

/-- The instruction passes its time check. -/
def InTime (rt : Runtime) (i : Instruction) (s : State) : Prop := ¬ Refuses (exec rt i s)

/-- The accounts of the instruction meet their constraints, so that it
reaches its time check. -/
def Admitted (rt : Runtime) (s : State) : Instruction → Prop
  | .claimBridge acc _ requestId _ =>
      s.config.isSome = true ∧ ∃ s₁ s₂, initBondVault rt acc.solver requestId s = .ok s₁ ∧
        initSignPda rt acc.solver s₁ = .ok s₂
  | .releaseExpiredClaim acc requestId =>
      (∃ cfg, s.config = some cfg ∧ acc.slashCollector = cfg.owner) ∧
        rt.systemAccount (s.vaultOwner requestId) = true
  | .verifyAndSettleSpl acc requestId _ _ _ =>
      (∃ cfg, s.config = some cfg ∧ acc.relayer.key = cfg.owner) ∧
        (∃ a, s.tokens.lookup acc.escrowToken = some a ∧ a.mint = acc.mint ∧
          a.owner = .signPda) ∧
        (∃ b req, s.tokens.lookup acc.solverToken = some b ∧ b.mint = acc.mint ∧
          s.requests.lookup (.request acc.requestOwner requestId) = some req ∧
            b.owner = req.solver) ∧
        s.signPdaReady = true ∧ rt.systemAccount (s.vaultOwner requestId) = true
  | _ => True

/-! ### What does not refuse -/

section Refuses

variable {α β : Type} {e : Error}

theorem refuses_error : Refuses (.error e : Except Error α) ↔ e.late = true := by
  constructor
  · rintro ⟨e', h, hlate⟩
    cases h
    exact hlate
  · intro h
    exact ⟨e, rfl, h⟩

theorem not_refuses_ok (a : α) : ¬ Refuses (.ok a : Except Error α) := by
  rintro ⟨e, h, _⟩
  cases h

theorem not_refuses_bind {x : Except Error α} {f : α → Except Error β} (hx : ¬ Refuses x)
    (hf : ∀ a, ¬ Refuses (f a)) : ¬ Refuses (x >>= f) := by
  cases x with
  | error e => exact fun h => hx (refuses_error.mpr (refuses_error.mp h))
  | ok a => exact hf a

theorem not_refuses_require (cond : Prop) [Decidable cond] (h : e.late = false) :
    ¬ Refuses (require cond e) := by
  unfold require
  split
  · exact not_refuses_ok _
  · simp [refuses_error, h]

theorem not_refuses_okOr (o : Option α) (h : e.late = false) : ¬ Refuses (okOr o e) := by
  cases o with
  | some a => exact not_refuses_ok a
  | none => simp [okOr, refuses_error, h]

/-- A check that is met is passed. -/
theorem refuses_require {cond : Prop} [Decidable cond] {f : Unit → Except Error α}
    (h : cond) : Refuses (require cond e >>= f) ↔ Refuses (f ()) := by
  rw [require, if_pos h]
  rfl

theorem refuses_okOr (a : α) (f : α → Except Error β) :
    Refuses (okOr (some a) e >>= f) ↔ Refuses (f a) := Iff.rfl

/-- The time check itself. -/
theorem refuses_late {cond : Prop} [Decidable cond] {f : Unit → Except Error α}
    (he : e.late = true) (hf : ¬ Refuses (f ())) :
    Refuses (require cond e >>= f) ↔ ¬ cond := by
  by_cases h : cond
  · rw [refuses_require h]
    exact iff_of_false hf (not_not_intro h)
  · rw [require, if_neg h]
    exact iff_of_true (refuses_error.mpr he) h

theorem not_refuses_systemTransfer (source dest : Pubkey) (n : Nat) (s : State) :
    ¬ Refuses (systemTransfer source dest n s) :=
  not_refuses_bind (not_refuses_require _ rfl) fun _ =>
    not_refuses_bind (not_refuses_require _ rfl) fun _ => not_refuses_ok _

theorem not_refuses_queueComputation (accepts : Bool) (c : Computation) (s : State) :
    ¬ Refuses (queueComputation accepts c s) :=
  not_refuses_bind (not_refuses_require _ rfl) fun _ => not_refuses_ok _

theorem not_refuses_debitVault (rt : Runtime) (requestId : UInt64) (n : Nat) (s : State) :
    ¬ Refuses (debitVault rt requestId n s) :=
  not_refuses_bind (not_refuses_require _ rfl) fun _ =>
    not_refuses_bind (not_refuses_require _ rfl) fun _ => not_refuses_ok _

theorem not_refuses_tokenTransfer (source dest authority : Pubkey) (mint : Option Pubkey)
    (amount : UInt64) (s : State) :
    ¬ Refuses (tokenTransfer source dest authority mint amount s) := by
  unfold tokenTransfer
  refine not_refuses_bind (not_refuses_okOr _ rfl) fun a => ?_
  refine not_refuses_bind (not_refuses_okOr _ rfl) fun b => ?_
  refine not_refuses_bind (not_refuses_require _ rfl) fun _ => ?_
  refine not_refuses_bind (not_refuses_require _ rfl) fun _ => ?_
  refine not_refuses_bind (not_refuses_require _ rfl) fun _ => ?_
  split
  · split
    · exact not_refuses_ok _
    · split
      · exact not_refuses_ok _
      · simp [refuses_error, Error.late]
  · simp [refuses_error, Error.late]

theorem not_refuses_returnBond (rt : Runtime) (requestId : UInt64) (solverWallet : Pubkey)
    (bond : UInt64) (s : State) : ¬ Refuses (returnBond rt requestId solverWallet bond s) := by
  unfold returnBond
  split
  · exact not_refuses_bind (not_refuses_debitVault _ _ _ _) fun _ => not_refuses_ok _
  · exact not_refuses_ok _

end Refuses

/-! ### The three instructions -/

variable {rt : Runtime} {s : State} {owner : Pubkey} {requestId : UInt64}
  {req : BridgeRequest}

/-- A claim is taken over after its deadline. -/
theorem inTime_claimBridge {acc : ClaimRequest} {offset : UInt64} {solverX25519 : Bytes32}
    (hadmitted : Admitted rt s (.claimBridge acc offset requestId solverX25519))
    (hl : s.requests.lookup (.request acc.requestOwner requestId) = some req)
    (hopen : req.finalized = false) (hheld : req.claimed = true) :
    InTime rt (.claimBridge acc offset requestId solverX25519) s ↔
      s.now > req.claimDeadline := by
  obtain ⟨hconfig, s₁, s₂, hvault, hsign⟩ := hadmitted
  obtain ⟨cfg, hcfg⟩ := Option.isSome_iff_exists.mp hconfig
  have hnow : s₂.now = s.now :=
    (frame_initSignPda hsign).now.trans (frame_initBondVault hvault).now
  show ¬ Refuses (claimBridge rt acc offset requestId solverX25519 s) ↔ _
  rw [claimBridge, hcfg, refuses_okOr, hl, refuses_okOr, hvault]
  show ¬ Refuses (initSignPda rt acc.solver s₁ >>= _) ↔ _
  rw [hsign]
  show ¬ Refuses (require (req.finalized = false) _ >>= _) ↔ _
  rw [refuses_require hopen, refuses_late rfl, not_not]
  · simp [hheld, hnow]
  · refine not_refuses_bind (not_refuses_require _ rfl) fun _ => ?_
    refine not_refuses_bind (not_refuses_systemTransfer _ _ _ _) fun _ => ?_
    exact not_refuses_bind (not_refuses_okOr _ rfl) fun _ => not_refuses_queueComputation _ _ _

/-- A claim is released after its deadline. -/
theorem inTime_releaseExpiredClaim {acc : ReleaseExpiredClaim}
    (hadmitted : Admitted rt s (.releaseExpiredClaim acc requestId))
    (hl : s.requests.lookup (.request acc.requestOwner requestId) = some req)
    (hheld : req.claimed = true) :
    InTime rt (.releaseExpiredClaim acc requestId) s ↔ s.now > req.claimDeadline := by
  obtain ⟨⟨cfg, hcfg, hcollector⟩, hsystem⟩ := hadmitted
  show ¬ Refuses (releaseExpiredClaim rt acc requestId s) ↔ _
  rw [releaseExpiredClaim, hcfg, refuses_okOr, hl, refuses_okOr, refuses_require hsystem,
    refuses_require hcollector, refuses_require hheld, refuses_late rfl, not_not]
  refine not_refuses_bind (not_refuses_require _ rfl) fun _ => ?_
  refine not_refuses_bind (not_refuses_require _ rfl) fun _ => ?_
  refine not_refuses_bind (not_refuses_require _ rfl) fun _ => ?_
  refine not_refuses_bind (not_refuses_okOr _ rfl) fun _ => ?_
  refine not_refuses_bind (not_refuses_okOr _ rfl) fun _ => ?_
  refine not_refuses_bind (not_refuses_require _ rfl) fun _ => ?_
  exact not_refuses_bind (not_refuses_debitVault _ _ _ _) fun _ => not_refuses_ok _

/-- A claim is settled up to its deadline. -/
theorem inTime_verifyAndSettleSpl {acc : VerifyAndSettleSpl}
    {destTxHash evidenceHash : Bytes32} {evidenceUrl : String}
    (hadmitted : Admitted rt s
      (.verifyAndSettleSpl acc requestId destTxHash evidenceHash evidenceUrl))
    (hl : s.requests.lookup (.request acc.requestOwner requestId) = some req)
    (hopen : req.finalized = false) (hheld : req.claimed = true) :
    InTime rt (.verifyAndSettleSpl acc requestId destTxHash evidenceHash evidenceUrl) s ↔
      s.now ≤ req.claimDeadline := by
  obtain ⟨⟨cfg, hcfg, hrelayer⟩, ⟨a, ha, hamint, haowner⟩, ⟨b, req', hb, hbmint, hl', hbowner⟩,
    hready, hsystem⟩ := hadmitted
  rw [hl] at hl'
  cases hl'
  show ¬ Refuses (verifyAndSettleSpl rt acc requestId destTxHash evidenceHash evidenceUrl s) ↔
    _
  rw [verifyAndSettleSpl, hcfg, refuses_okOr, refuses_require hrelayer, hl, refuses_okOr, ha,
    refuses_okOr, refuses_require hamint, refuses_require haowner, hb, refuses_okOr,
    refuses_require hbmint, refuses_require hbowner, refuses_require hready,
    refuses_require hsystem, refuses_require hopen, refuses_require hheld, refuses_late rfl,
    not_not]
  refine not_refuses_bind (not_refuses_require _ rfl) fun _ => ?_
  refine not_refuses_bind (not_refuses_okOr _ rfl) fun _ => ?_
  refine not_refuses_bind (not_refuses_tokenTransfer _ _ _ _ _ _) fun _ => ?_
  exact not_refuses_bind (not_refuses_returnBond _ _ _ _ _) fun _ => not_refuses_ok _

end Solana

/-! ## Both time lines -/

/-- **Settling and expiring exclude each other** for every claim of the
program, at every time; and for a claim of the contract at every time but
the deadline itself. -/
theorem settle_excludes_expiry (ch : Evm.Chain) (rt : Solana.Runtime) :
    (∀ (s : Evm.State) id (time : Nat) (settle claim release : Evm.Tx ch.self),
      Evm.Reachable ch s → (s.requestClaim id).solver ≠ 0 →
      settle.fn.settles = some id → claim.fn = .claimBridge id →
      release.fn = .releaseExpiredClaim id →
      Evm.Admitted settle s → Evm.Admitted claim s → Evm.Admitted release s →
        (ExactlyOne (Evm.InTime ch settle { s with now := time })
            (Evm.InTime ch claim { s with now := time })
            (Evm.InTime ch release { s with now := time }) ↔
          time ≠ (s.requestClaim id).deadline)) ∧
    ∀ (s : Solana.State) req requestId (time : Int) settleAcc
      (claimAcc : Solana.ClaimRequest) (releaseAcc : Solana.ReleaseExpiredClaim)
      destTxHash evidenceHash evidenceUrl offset solverX25519,
      settleAcc.requestOwner = claimAcc.requestOwner →
      releaseAcc.requestOwner = claimAcc.requestOwner →
      s.requests.lookup (.request claimAcc.requestOwner requestId) = some req →
      req.finalized = false → req.claimed = true →
      Solana.Admitted rt (s.at time)
        (.verifyAndSettleSpl settleAcc requestId destTxHash evidenceHash evidenceUrl) →
      Solana.Admitted rt (s.at time) (.claimBridge claimAcc offset requestId solverX25519) →
      Solana.Admitted rt (s.at time) (.releaseExpiredClaim releaseAcc requestId) →
        ExactlyOne
          (Solana.InTime rt (.verifyAndSettleSpl settleAcc requestId destTxHash evidenceHash
            evidenceUrl) (s.at time))
          (Solana.InTime rt (.claimBridge claimAcc offset requestId solverX25519) (s.at time))
          (Solana.InTime rt (.releaseExpiredClaim releaseAcc requestId) (s.at time)) := by
  constructor
  · intro s id time settle claim release h hheld hsettle hclaim hrelease admSettle admClaim
      admRelease
    obtain ⟨hknown, hopen, _⟩ := h.valid.lifecycle.held id hheld
    have hu := h.valid.unlocked
    have hs := Evm.inTime_settlement (s := { s with now := time }) hu hsettle admSettle hknown
      hopen hheld
    have hc := Evm.inTime_claimBridge (s := { s with now := time }) hu hclaim admClaim hknown
      hopen hheld
    have hr := Evm.inTime_releaseExpiredClaim (s := { s with now := time }) hu hrelease
      admRelease hheld
    rw [ExactlyOne, hs, hc, hr]
    simp only []
    omega
  · intro s req requestId time settleAcc claimAcc releaseAcc destTxHash evidenceHash
      evidenceUrl offset solverX25519 hsettle hrelease hl hopen hheld admSettle admClaim
      admRelease
    rw [ExactlyOne,
      Solana.inTime_verifyAndSettleSpl admSettle (hsettle ▸ hl) hopen hheld,
      Solana.inTime_claimBridge admClaim hl hopen hheld,
      Solana.inTime_releaseExpiredClaim admRelease (hrelease ▸ hl) hheld]
    show time ≤ req.claimDeadline ∧ ¬ time > req.claimDeadline ∧ ¬ time > req.claimDeadline ∨
      ¬ time ≤ req.claimDeadline ∧ time > req.claimDeadline ∧ time > req.claimDeadline
    omega

namespace Evm.Sample

def expiry : Tx chain.self := call 4 0 (.releaseExpiredClaim 1) user_ne

theorem settlement_admitted : Admitted settlement claimed := by
  show settlement.value = 0 ∧ settlement.sender = claimed.relayer
  rw [claimed_byFive.relayer]
  exact ⟨rfl, rfl⟩

theorem takeover_admitted : Admitted takeover claimed := by
  show claimed.authorizedNodes takeover.sender = true ∧
    takeover.value ≤ claimed.eth takeover.sender
  exact ⟨claimed_byFive.authorized, claimed_byFive.funds⟩

theorem expiry_admitted : Admitted expiry claimed := by
  show expiry.value = 0
  rfl

end Evm.Sample

namespace Solana.Sample

def settlement : VerifyAndSettleSpl where
  relayer := owner
  requestOwner := user.key
  mint := mint
  escrowToken := .key 21
  solverToken := .key 22
  solverWallet := solver.key

def takeover : ClaimRequest where
  solver := rival
  requestOwner := user.key
  arciumAccepts := true

def expiry : ReleaseExpiredClaim where
  caller := rival
  requestOwner := user.key
  prevSolver := solver.key
  slashCollector := owner.key

theorem settlement_admitted (time : Int) :
    Admitted runtime (afterClaim.at time) (.verifyAndSettleSpl settlement 7 0 0 "") := by
  have hs := afterClaim_bySolver
  obtain ⟨b, hb, hbmint, hbowner⟩ := hs.solver
  exact ⟨⟨cfg, hs.config, rfl⟩, hs.escrow,
    ⟨b, claimedRequest, hb, hbmint, hs.request, hbowner⟩, hs.ready, rfl⟩

theorem takeover_admitted (time : Int) :
    Admitted runtime (afterClaim.at time) (.claimBridge takeover 0 7 0) := by
  have hs := afterClaim_bySolver
  refine ⟨?_, afterClaim.at time, afterClaim.at time, if_neg hs.vault, if_pos hs.ready⟩
  show afterClaim.config.isSome = true
  rw [hs.config]
  rfl

theorem expiry_admitted (time : Int) :
    Admitted runtime (afterClaim.at time) (.releaseExpiredClaim expiry 7) :=
  ⟨⟨cfg, afterClaim_bySolver.config, rfl⟩, rfl⟩

end Solana.Sample

theorem settle_excludes_expiry_claimed :
    ExactlyOne
        (Evm.InTime Evm.Sample.chain Evm.Sample.settlement
          { Evm.Sample.claimed with now := 2199 })
        (Evm.InTime Evm.Sample.chain Evm.Sample.takeover
          { Evm.Sample.claimed with now := 2199 })
        (Evm.InTime Evm.Sample.chain Evm.Sample.expiry
          { Evm.Sample.claimed with now := 2199 }) ∧
      ExactlyOne
        (Solana.InTime Solana.Sample.runtime
          (.verifyAndSettleSpl Solana.Sample.settlement 7 0 0 "")
          (Solana.Sample.afterClaim.at 700))
        (Solana.InTime Solana.Sample.runtime (.claimBridge Solana.Sample.takeover 0 7 0)
          (Solana.Sample.afterClaim.at 700))
        (Solana.InTime Solana.Sample.runtime (.releaseExpiredClaim Solana.Sample.expiry 7)
          (Solana.Sample.afterClaim.at 700)) := by
  obtain ⟨hevm, hsolana⟩ := settle_excludes_expiry Evm.Sample.chain Solana.Sample.runtime
  constructor
  · refine (hevm Evm.Sample.claimed 1 2199 Evm.Sample.settlement Evm.Sample.takeover
      Evm.Sample.expiry Evm.Sample.claimed_reachable Evm.Sample.claimed_held rfl rfl rfl
      Evm.Sample.settlement_admitted Evm.Sample.takeover_admitted
      Evm.Sample.expiry_admitted).mpr ?_
    rw [Evm.Sample.claimed_byFive.claim]
    decide
  · exact hsolana Solana.Sample.afterClaim Solana.Sample.claimedRequest 7 700 _ _ _ 0 0 "" 0 0
      rfl rfl Solana.Sample.afterClaim_bySolver.request rfl rfl
      (Solana.Sample.settlement_admitted 700) (Solana.Sample.takeover_admitted 700)
      (Solana.Sample.expiry_admitted 700)

/-- At the deadline a claim of the contract can be settled, taken over and
released. -/
theorem settle_overlaps_expiry :
    ¬ ∀ (ch : Evm.Chain) (s : Evm.State) id (time : Nat)
      (settle claim release : Evm.Tx ch.self),
      Evm.Reachable ch s → (s.requestClaim id).solver ≠ 0 →
      (s.bridgeRequests id).finalized = false → settle.fn.settles = some id →
      claim.fn = .claimBridge id → release.fn = .releaseExpiredClaim id →
      Evm.Admitted settle s → Evm.Admitted claim s → Evm.Admitted release s →
        ExactlyOne (Evm.InTime ch settle { s with now := time })
          (Evm.InTime ch claim { s with now := time })
          (Evm.InTime ch release { s with now := time }) := by
  intro hall
  have hfive := Evm.Sample.claimed_byFive
  have hone := hall Evm.Sample.chain Evm.Sample.claimed 1 2200 Evm.Sample.settlement
    Evm.Sample.takeover Evm.Sample.expiry Evm.Sample.claimed_reachable Evm.Sample.claimed_held
    hfive.isOpen rfl rfl rfl Evm.Sample.settlement_admitted
    Evm.Sample.takeover_admitted Evm.Sample.expiry_admitted
  have hdeadline : (Evm.Sample.claimed.requestClaim 1).deadline = 2200 := by rw [hfive.claim]
  rw [ExactlyOne,
    Evm.inTime_settlement (s := { Evm.Sample.claimed with now := 2200 }) hfive.unlocked rfl
      Evm.Sample.settlement_admitted Evm.Sample.claimed_known hfive.isOpen
      Evm.Sample.claimed_held,
    Evm.inTime_claimBridge (s := { Evm.Sample.claimed with now := 2200 }) hfive.unlocked rfl
      Evm.Sample.takeover_admitted Evm.Sample.claimed_known hfive.isOpen
      Evm.Sample.claimed_held] at hone
  simp [hdeadline] at hone

end LunarysBridge
