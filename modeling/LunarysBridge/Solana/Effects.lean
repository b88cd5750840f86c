/-
LunarysBridge.Solana.Effects — what each instruction does when it succeeds.

Lamports that move for rent and bonds touch no request and no amount of
tokens (`Frame`). With that, each instruction is said once: which checks
held, which request it wrote, and what it added to the log. The accounting
in the modules that follow reads only these statements.
-/
import LunarysBridge.Solana.Program

namespace LunarysBridge.Solana

variable {rt : Runtime} {s s' s₁ s₂ : State}

/-! ## Moves that are no business of the bridge -/

/-- Every token account is still there with its mint, owner and amount. -/
def TokensKept (s s' : State) : Prop :=
  ∀ addr a, s.tokens.lookup addr = some a → ∃ a', s'.tokens.lookup addr = some a' ∧
    a'.mint = a.mint ∧ a'.owner = a.owner ∧ a'.amount = a.amount

theorem TokensKept.refl (s : State) : TokensKept s s := fun _ a h => ⟨a, h, rfl, rfl, rfl⟩

theorem TokensKept.trans (h : TokensKept s s₁) (h' : TokensKept s₁ s₂) :
    TokensKept s s₂ := by
  intro addr a ha
  obtain ⟨a₁, h₁, hm₁, ho₁, ha₁⟩ := h addr a ha
  obtain ⟨a₂, h₂, hm₂, ho₂, ha₂⟩ := h' addr a₁ h₁
  exact ⟨a₂, h₂, hm₂.trans hm₁, ho₂.trans ho₁, ha₂.trans ha₁⟩

/-- Requests, parameters, log and tokens are the same. -/
structure Frame (s s' : State) : Prop where
  config : s'.config = s.config
  requests : s'.requests = s.requests
  now : s'.now = s.now
  queue : s'.queue = s.queue
  log : s'.log = s.log
  tokens : TokensKept s s'

theorem Frame.refl (s : State) : Frame s s := ⟨rfl, rfl, rfl, rfl, rfl, .refl s⟩

theorem Frame.trans (h : Frame s s₁) (h' : Frame s₁ s₂) : Frame s s₂ where
  config := h'.config.trans h.config
  requests := h'.requests.trans h.requests
  now := h'.now.trans h.now
  queue := h'.queue.trans h.queue
  log := h'.log.trans h.log
  tokens := h.tokens.trans h'.tokens

theorem frame_credit (s : State) (addr : Pubkey) (n : Nat) : Frame s (s.credit addr n) := by
  unfold State.credit
  split
  · next a ha =>
    refine ⟨rfl, rfl, rfl, rfl, rfl, fun addr' a' h' => ?_⟩
    by_cases haddr : addr' = addr
    · subst haddr
      rw [ha] at h'
      cases h'
      exact ⟨a.fund n, AList.lookup_insert _, rfl, rfl, rfl⟩
    · exact ⟨a', by rw [AList.lookup_insert_ne haddr, h'], rfl, rfl, rfl⟩
  · exact ⟨rfl, rfl, rfl, rfl, rfl, fun _ a h => ⟨a, h, rfl, rfl, rfl⟩⟩

section Credit

variable (s : State) (addr : Pubkey) (n : Nat)

@[simp] theorem credit_config : (s.credit addr n).config = s.config :=
  (frame_credit s addr n).config

@[simp] theorem credit_requests : (s.credit addr n).requests = s.requests :=
  (frame_credit s addr n).requests

@[simp] theorem credit_now : (s.credit addr n).now = s.now := (frame_credit s addr n).now

@[simp] theorem credit_queue : (s.credit addr n).queue = s.queue :=
  (frame_credit s addr n).queue

@[simp] theorem credit_log : (s.credit addr n).log = s.log := (frame_credit s addr n).log

@[simp] theorem credit_vaultOwner : (s.credit addr n).vaultOwner = s.vaultOwner := by
  unfold State.credit
  split <;> rfl

@[simp] theorem credit_signPdaReady : (s.credit addr n).signPdaReady = s.signPdaReady := by
  unfold State.credit
  split <;> rfl

end Credit

theorem lookup_credit_none {addr dest : Pubkey} {n : Nat}
    (h : s.tokens.lookup addr = none) : (s.credit dest n).tokens.lookup addr = none := by
  unfold State.credit
  split
  · next a ha =>
    have hne : addr ≠ dest := by
      rintro rfl
      rw [h] at ha
      cases ha
    exact (AList.lookup_insert_ne hne).trans h
  · exact h

theorem frame_debit (s : State) (addr : Pubkey) (n : Nat) : Frame s (s.debit addr n) :=
  ⟨rfl, rfl, rfl, rfl, rfl, fun _ a h => ⟨a, h, rfl, rfl, rfl⟩⟩

theorem systemTransfer_ok {source dest : Pubkey} {n : Nat}
    (h : systemTransfer source dest n s = .ok s') : s' = (s.debit source n).credit dest n := by
  obtain ⟨_, _, h⟩ := bind_ok h
  obtain ⟨_, _, h⟩ := bind_ok h
  cases h
  rfl

theorem frame_systemTransfer {source dest : Pubkey} {n : Nat}
    (h : systemTransfer source dest n s = .ok s') : Frame s s' := by
  rw [systemTransfer_ok h]
  exact (frame_debit s source n).trans (frame_credit _ dest n)

theorem frame_payRent {payer addr : Pubkey} {rent : Nat}
    (h : payRent payer addr rent s = .ok s') : Frame s s' :=
  frame_systemTransfer h

theorem frame_initSignPda {payer : Signer} (h : initSignPda rt payer s = .ok s') :
    Frame s s' := by
  unfold initSignPda at h
  split at h
  · cases h
    exact .refl s
  · obtain ⟨s₁, h₁, h⟩ := bind_ok h
    cases h
    have hf := frame_payRent h₁
    exact ⟨hf.config, hf.requests, hf.now, hf.queue, hf.log, hf.tokens⟩

theorem frame_initBondVault {payer : Signer} {requestId : UInt64}
    (h : initBondVault rt payer requestId s = .ok s') : Frame s s' := by
  unfold initBondVault at h
  split at h
  · obtain ⟨s₁, h₁, h⟩ := bind_ok h
    cases h
    have hf := frame_payRent h₁
    exact ⟨hf.config, hf.requests, hf.now, hf.queue, hf.log, hf.tokens⟩
  · cases h
    exact .refl s

theorem initRequest_ok {payer : Signer} {requestId : UInt64}
    (h : initRequest rt payer requestId s = .ok s') :
    s.requests.lookup (.request payer.key requestId) = none ∧ Frame s s' := by
  obtain ⟨_, hnew, h⟩ := bind_ok h
  exact ⟨by simpa using require_ok hnew, frame_payRent h⟩

theorem frame_debitVault {requestId : UInt64} {n : Nat}
    (h : debitVault rt requestId n s = .ok s') : Frame s s' := by
  obtain ⟨_, _, h⟩ := bind_ok h
  obtain ⟨_, _, h⟩ := bind_ok h
  cases h
  exact frame_debit s _ n

theorem queueComputation_ok {arciumAccepts : Bool} {c : Computation}
    (h : queueComputation arciumAccepts c s = .ok s') :
    s' = { s with queue := s.queue ++ [c] } := by
  obtain ⟨_, _, h⟩ := bind_ok h
  cases h
  rfl

/-! ## Token transfers -/

/-- What a transfer that succeeds has checked, and what it did. -/
structure Transferred (source dest authority : Pubkey) (mint : Option Pubkey)
    (amount : UInt64) (s s' : State) : Prop where
  others : s' = { s with tokens := s'.tokens }
  moved : ∃ a b, s.tokens.lookup source = some a ∧ s.tokens.lookup dest = some b ∧
    a.mint = b.mint ∧ (∀ m, mint = some m → m = a.mint) ∧ authority = a.owner ∧
    ∃ hle : amount ≤ a.amount, (source = dest ∧ s' = s) ∨
      (source ≠ dest ∧ ∃ hlt, s'.tokens =
        (s.tokens.insert source (a.debit amount hle)).insert dest (b.credit amount hlt))

theorem tokenTransfer_ok {source dest authority : Pubkey} {mint : Option Pubkey}
    {amount : UInt64} (h : tokenTransfer source dest authority mint amount s = .ok s') :
    Transferred source dest authority mint amount s s' := by
  obtain ⟨a, ha, h⟩ := bind_ok h
  obtain ⟨b, hb, h⟩ := bind_ok h
  obtain ⟨_, hmint, h⟩ := bind_ok h
  obtain ⟨_, hsome, h⟩ := bind_ok h
  obtain ⟨_, hauth, h⟩ := bind_ok h
  have hfacts := And.intro (okOr_ok ha) (And.intro (okOr_ok hb)
    (And.intro (require_ok hmint) (And.intro (require_ok hsome) (require_ok hauth))))
  obtain ⟨ha, hb, hmint, hsome, hauth⟩ := hfacts
  split at h
  · next hle =>
    split at h
    · next heq =>
      cases h
      exact ⟨rfl, a, b, ha, hb, hmint, hsome, hauth, hle, .inl ⟨heq, rfl⟩⟩
    · next hne =>
      split at h
      · next hlt =>
        cases h
        exact ⟨rfl, a, b, ha, hb, hmint, hsome, hauth, hle, .inr ⟨hne, hlt, rfl⟩⟩
      · cases h
  · cases h

/-- After `sync_native` the account holds what its lamports back. -/
theorem syncNative_ok {addr : Pubkey} (h : syncNative addr s = .ok s') :
    ∃ a a', s.tokens.lookup addr = some a ∧ a.mint = nativeMint ∧
      s' = { s with tokens := s.tokens.insert addr a' } ∧ a'.mint = a.mint ∧
      a'.owner = a.owner ∧ a'.amount.toNat = a.lamports - a.reserve := by
  obtain ⟨a, ha, h⟩ := bind_ok h
  obtain ⟨_, hmint, h⟩ := bind_ok h
  obtain ⟨n, hn, h⟩ := bind_ok h
  obtain ⟨_, _, h⟩ := bind_ok h
  split at h
  · cases h
    exact ⟨a, _, okOr_ok ha, require_ok hmint, rfl, rfl, rfl, tryFromU64_some (okOr_ok hn)⟩
  · cases h

/-! ## Deposits -/

/-- The part both deposits share: a fresh request is stored and queued. -/
structure Deposited (payer : Signer) (mint : Pubkey) (storedId : UInt64)
    (args : DepositArgs) (s s' : State) : Prop where
  fresh : s.requests.lookup (.request payer.key args.requestId) = none
  stored : ∃ cfg, s.config = some cfg ∧
    s'.requests = s.requests.insert (.request payer.key args.requestId)
      (args.stored storedId payer.key mint cfg s.now) ∧
    s'.log = s.log ++
      [.locked (.request payer.key args.requestId) mint args.amount,
        .emit (.BridgeInitiated args.requestId payer.key mint (amountNet cfg args.amount)
          (feeU64 cfg args.amount) s.now)]
  config : s'.config = s.config
  now : s'.now = s.now
  queue : s'.queue = s.queue ++ [args.queued]

theorem initiateBridge_ok {acc : DepositAndQueue} {args : DepositArgs}
    (h : initiateBridge rt acc args s = .ok s') :
    Deposited acc.payer acc.mint 0 args s s' ∧
      (∃ a, s.tokens.lookup acc.userToken = some a ∧ a.mint = acc.mint ∧
        a.owner = acc.payer.key) ∧
      (∃ a, s.tokens.lookup acc.escrowToken = some a ∧ a.mint = acc.mint) ∧
      ∃ s₁ s₂, TokensKept s s₁ ∧ s'.tokens = s₂.tokens ∧
        Transferred acc.userToken acc.escrowToken acc.payer.key (some acc.mint)
          args.amount s₁ s₂ := by
  obtain ⟨userToken, huser, h⟩ := bind_ok h
  obtain ⟨_, humint, h⟩ := bind_ok h
  obtain ⟨_, huowner, h⟩ := bind_ok h
  obtain ⟨escrowToken, hescrow, h⟩ := bind_ok h
  obtain ⟨_, hemint, h⟩ := bind_ok h
  obtain ⟨cfg, hcfg, h⟩ := bind_ok h
  obtain ⟨s₁, h₁, h⟩ := bind_ok h
  obtain ⟨s₂, h₂, h⟩ := bind_ok h
  obtain ⟨s₃, h₃, h⟩ := bind_ok h
  have hs' := queueComputation_ok h
  obtain ⟨hfresh, hf₁⟩ := initRequest_ok h₁
  have hf := hf₁.trans (frame_initSignPda h₂)
  have ht := tokenTransfer_ok h₃
  subst hs'
  refine ⟨⟨hfresh, ⟨cfg, okOr_ok hcfg, ?_, ?_⟩, ?_, ?_, ?_⟩,
    ⟨userToken, okOr_ok huser, require_ok humint, require_ok huowner⟩,
    ⟨escrowToken, okOr_ok hescrow, require_ok hemint⟩, s₂, s₃, hf.tokens, rfl, ht⟩
  all_goals rw [ht.others]
  · simp [State.emit, State.note, State.setRequest, hf.requests, hf.now]
  · simp [State.emit, State.note, State.setRequest, hf.log, hf.now]
  · exact hf.config
  · exact hf.now
  · simp [State.emit, State.note, State.setRequest, hf.queue]

theorem initiateBridgeSol_ok {acc : DepositSolAndQueue} {args : DepositArgs}
    (h : initiateBridgeSol rt acc args s = .ok s') :
    Deposited acc.payer nativeMint args.requestId args s s' ∧
      ∃ s₁ s₂ s₃ a, TokensKept s s₁ ∧ s₁.tokens.lookup acc.escrowWsol = some a ∧
        a.mint = nativeMint ∧ a.owner = .signPda ∧
        systemTransfer acc.payer.key acc.escrowWsol args.amount.toNat s₁ = .ok s₂ ∧
        syncNative acc.escrowWsol s₂ = .ok s₃ ∧ s'.tokens = s₃.tokens := by
  obtain ⟨cfg, hcfg, h⟩ := bind_ok h
  obtain ⟨s₁, h₁, h⟩ := bind_ok h
  obtain ⟨escrowWsol, hescrow, h⟩ := bind_ok h
  obtain ⟨_, hmint, h⟩ := bind_ok h
  obtain ⟨_, howner, h⟩ := bind_ok h
  obtain ⟨s₂, h₂, h⟩ := bind_ok h
  obtain ⟨s₃, h₃, h⟩ := bind_ok h
  obtain ⟨s₄, h₄, h⟩ := bind_ok h
  have hs' := queueComputation_ok h
  obtain ⟨hfresh, hf₁⟩ := initRequest_ok h₁
  have hf₂ := frame_initSignPda h₂
  have hf := (hf₁.trans hf₂).trans (frame_systemTransfer h₃)
  obtain ⟨_, _, _, _, hsync, _, _, _⟩ := syncNative_ok h₄
  obtain ⟨a, ha, hamint, haowner, _⟩ := hf₂.tokens _ _ (okOr_ok hescrow)
  have hmint' : a.mint = nativeMint := hamint.trans (require_ok hmint)
  have howner' : a.owner = .signPda := haowner.trans (require_ok howner)
  subst hs'
  refine ⟨⟨hfresh, ⟨cfg, okOr_ok hcfg, ?_, ?_⟩, ?_, ?_, ?_⟩,
    s₂, s₃, s₄, a, (hf₁.trans hf₂).tokens, ha, hmint', howner', h₃, h₄, rfl⟩
  all_goals rw [hsync]
  · simp [State.emit, State.note, State.setRequest, hf.requests, hf.now]
  · simp [State.emit, State.note, State.setRequest, hf.log, hf.now]
  · exact hf.config
  · exact hf.now
  · simp [State.emit, State.note, State.setRequest, hf.queue]

/-! ## Claims -/

theorem claimBridge_ok {acc : ClaimRequest} {offset requestId : UInt64}
    {solverX25519 : Bytes32}
    (h : claimBridge rt acc offset requestId solverX25519 s = .ok s') :
    ∃ cfg req deadline, s.config = some cfg ∧
      s.requests.lookup (.request acc.requestOwner requestId) = some req ∧
      req.finalized = false ∧ (req.claimed = true → s.now > req.claimDeadline) ∧
      0 < cfg.minSolverBond ∧
      checkedAddI64 s.now cfg.claimWindowSecs = some deadline ∧
      s'.requests = s.requests.insert (.request acc.requestOwner requestId)
        { req with
          claimed := true
          solver := acc.solver.key
          claimDeadline := deadline
          bondLamports := cfg.minSolverBond } ∧
      s'.log = s.log ++
        [.bonded (.request acc.requestOwner requestId) acc.solver.key cfg.minSolverBond,
          .emit (.BridgeClaimed requestId acc.solver.key cfg.minSolverBond deadline)] ∧
      s'.config = s.config ∧ s'.now = s.now ∧
      s'.queue = s.queue ++ [resealed req offset solverX25519] ∧ TokensKept s s' := by
  obtain ⟨cfg, hcfg, h⟩ := bind_ok h
  obtain ⟨req, hreq, h⟩ := bind_ok h
  obtain ⟨s₁, h₁, h⟩ := bind_ok h
  obtain ⟨s₂, h₂, h⟩ := bind_ok h
  obtain ⟨_, hopen, h⟩ := bind_ok h
  obtain ⟨_, hexpired, h⟩ := bind_ok h
  obtain ⟨_, hbond, h⟩ := bind_ok h
  obtain ⟨s₃, h₃, h⟩ := bind_ok h
  obtain ⟨deadline, hdeadline, h⟩ := bind_ok h
  have hs' := queueComputation_ok h
  have hf₂ := (frame_initBondVault h₁).trans (frame_initSignPda h₂)
  have hf := hf₂.trans (frame_systemTransfer h₃)
  have hexpired := require_ok hexpired
  have hdeadline := okOr_ok hdeadline
  subst hs'
  refine ⟨cfg, req, deadline, okOr_ok hcfg, okOr_ok hreq, require_ok hopen, ?_,
    require_ok hbond, ?_, ?_, ?_, hf.config, hf.now, ?_, hf.tokens⟩
  · rw [← hf₂.now]
    exact hexpired
  · rw [← hf.now]
    exact hdeadline
  · simp [State.emit, State.note, State.setRequest, hf.requests]
  · simp [State.emit, State.note, State.setRequest, hf.log]
  · simp [State.emit, State.note, State.setRequest, hf.queue]

/-- Each check of `release_expired_claim`, for the accounts passed. -/
structure Releasable (rt : Runtime) (acc : ReleaseExpiredClaim) (requestId : UInt64)
    (cfg : BridgeConfig) (req : BridgeRequest) (s : State) : Prop where
  config : s.config = some cfg
  found : s.requests.lookup (.request acc.requestOwner requestId) = some req
  system : rt.systemAccount (s.vaultOwner requestId) = true
  collector : acc.slashCollector = cfg.owner
  claimed : req.claimed = true
  overdue : s.now > req.claimDeadline
  solver : acc.prevSolver = req.solver
  bond : 0 < req.bondLamports
  slash : slashOf req.bondLamports cfg.slashBps ≤ req.bondLamports.toNat
  vault : req.bondLamports.toNat ≤ s.lamports (.bondVault requestId)
  permitted : rt.mayDebit (s.vaultOwner requestId) = true

/-- The part of the bond that goes back to the solver. -/
def refundOf (bond : UInt64) (slashBps : UInt16) : Nat :=
  bond.toNat - slashOf bond slashBps

section Release

variable {acc : ReleaseExpiredClaim} {requestId : UInt64} {cfg : BridgeConfig}
  {req : BridgeRequest}

/-- The moves of a release, one after the other. -/
theorem releaseExpiredClaim_moves (h : releaseExpiredClaim rt acc requestId s = .ok s') :
    ∃ cfg req, Releasable rt acc requestId cfg req s ∧ ∃ slash refund : UInt64,
      slash.toNat = slashOf req.bondLamports cfg.slashBps ∧
      refund.toNat = refundOf req.bondLamports cfg.slashBps ∧
      s' = ((((((s.debit (.bondVault requestId) req.bondLamports.toNat).credit
        acc.slashCollector slash.toNat).note
        (.slashed (.request acc.requestOwner requestId) acc.slashCollector slash)).credit
        acc.prevSolver refund.toNat).note
        (.refunded (.request acc.requestOwner requestId) acc.prevSolver refund)).setRequest
        (.request acc.requestOwner requestId) { req with
          claimed := false
          solver := .default
          claimDeadline := 0
          bondLamports := 0 }).emit
        (.BridgeClaimExpired requestId acc.prevSolver slash) := by
  obtain ⟨cfg, hcfg, h⟩ := bind_ok h
  obtain ⟨req, hreq, h⟩ := bind_ok h
  obtain ⟨_, hsystem, h⟩ := bind_ok h
  obtain ⟨_, hcollector, h⟩ := bind_ok h
  obtain ⟨_, hclaimed, h⟩ := bind_ok h
  obtain ⟨_, hoverdue, h⟩ := bind_ok h
  obtain ⟨_, hsolver, h⟩ := bind_ok h
  obtain ⟨_, hbond, h⟩ := bind_ok h
  obtain ⟨_, hslash, h⟩ := bind_ok h
  obtain ⟨slash, hs, h⟩ := bind_ok h
  obtain ⟨refund, hr, h⟩ := bind_ok h
  obtain ⟨_, hvault, h⟩ := bind_ok h
  obtain ⟨s₁, h₁, h⟩ := bind_ok h
  obtain ⟨_, _, h₁⟩ := bind_ok h₁
  obtain ⟨_, hpermitted, h₁⟩ := bind_ok h₁
  cases h₁
  cases h
  exact ⟨cfg, req,
    { config := okOr_ok hcfg
      found := okOr_ok hreq
      system := require_ok hsystem
      collector := require_ok hcollector
      claimed := require_ok hclaimed
      overdue := require_ok hoverdue
      solver := require_ok hsolver
      bond := require_ok hbond
      slash := require_ok hslash
      vault := require_ok hvault
      permitted := require_ok hpermitted },
    slash, refund, tryFromU64_some (okOr_ok hs), tryFromU64_some (okOr_ok hr), rfl⟩

theorem Releasable.succeeds (h : Releasable rt acc requestId cfg req s) :
    ∃ s', releaseExpiredClaim rt acc requestId s = .ok s' := by
  have hlt : req.bondLamports.toNat < 2 ^ 64 := req.bondLamports.toNat_lt
  have hslash := h.slash
  have hs : tryFromU64 (slashOf req.bondLamports cfg.slashBps) =
      some (UInt64.ofNat (slashOf req.bondLamports cfg.slashBps)) := if_pos (by omega)
  have hr : tryFromU64 (req.bondLamports.toNat - slashOf req.bondLamports cfg.slashBps) =
      some (UInt64.ofNat (req.bondLamports.toNat - slashOf req.bondLamports cfg.slashBps)) :=
    if_pos (by omega)
  have hdebit : debitVault rt requestId req.bondLamports.toNat s =
      .ok (s.debit (.bondVault requestId) req.bondLamports.toNat) := by
    rw [debitVault, bind_require h.vault, bind_require h.permitted]
  rw [releaseExpiredClaim, h.config, bind_okOr, h.found, bind_okOr, bind_require h.system,
    bind_require h.collector, bind_require h.claimed, bind_require h.overdue,
    bind_require h.solver, bind_require h.bond, bind_require h.slash, hs, bind_okOr, hr,
    bind_okOr, bind_require h.vault, hdebit]
  exact ⟨_, rfl⟩

theorem releaseExpiredClaim_tokens (h : releaseExpiredClaim rt acc requestId s = .ok s') :
    TokensKept s s' := by
  obtain ⟨cfg, req, _, slash, refund, _, _, rfl⟩ := releaseExpiredClaim_moves h
  have hdebit := frame_debit s (.bondVault requestId) req.bondLamports.toNat
  exact (hdebit.tokens.trans (frame_credit _ acc.slashCollector slash.toNat).tokens).trans
    (frame_credit (State.note _ (.slashed (.request acc.requestOwner requestId)
      acc.slashCollector slash)) acc.prevSolver refund.toNat).tokens

theorem releaseExpiredClaim_ok
    (h : releaseExpiredClaim rt acc requestId s = .ok s') :
    ∃ cfg req slash refund, s.config = some cfg ∧
      s.requests.lookup (.request acc.requestOwner requestId) = some req ∧
      req.claimed = true ∧ s.now > req.claimDeadline ∧
      acc.slashCollector = cfg.owner ∧ acc.prevSolver = req.solver ∧
      0 < req.bondLamports ∧ slash.toNat = slashOf req.bondLamports cfg.slashBps ∧
      slash.toNat + refund.toNat = req.bondLamports.toNat ∧
      s'.requests = s.requests.insert (.request acc.requestOwner requestId)
        { req with
          claimed := false
          solver := .default
          claimDeadline := 0
          bondLamports := 0 } ∧
      s'.log = s.log ++
        [.slashed (.request acc.requestOwner requestId) acc.slashCollector slash,
          .refunded (.request acc.requestOwner requestId) acc.prevSolver refund,
          .emit (.BridgeClaimExpired requestId acc.prevSolver slash)] ∧
      s'.config = s.config ∧ s'.now = s.now ∧ s'.queue = s.queue ∧ TokensKept s s' := by
  obtain ⟨cfg, req, hreleasable, slash, refund, hs, hr, hs'⟩ := releaseExpiredClaim_moves h
  have hsum : slash.toNat + refund.toNat = req.bondLamports.toNat := by
    have hle := hreleasable.slash
    unfold refundOf at hr
    omega
  refine ⟨cfg, req, slash, refund, hreleasable.config, hreleasable.found, hreleasable.claimed,
    hreleasable.overdue, hreleasable.collector, hreleasable.solver, hreleasable.bond, hs, hsum,
    ?_, ?_, ?_, ?_, ?_, releaseExpiredClaim_tokens h⟩
  all_goals rw [hs']
  · simp [State.emit, State.note, State.setRequest, State.debit]
  · simp [State.emit, State.note, State.setRequest, State.debit]
  · simp [State.emit, State.note, State.setRequest, State.debit]
  · simp [State.emit, State.note, State.setRequest, State.debit]
  · simp [State.emit, State.note, State.setRequest, State.debit]

end Release

theorem verifyAndSettleSpl_ok {acc : VerifyAndSettleSpl} {requestId : UInt64}
    {destTxHash evidenceHash : Bytes32} {evidenceUrl : String}
    (h : verifyAndSettleSpl rt acc requestId destTxHash evidenceHash evidenceUrl s =
      .ok s') :
    ∃ cfg req payout s₁, s.config = some cfg ∧ acc.relayer.key = cfg.owner ∧
      s.requests.lookup (.request acc.requestOwner requestId) = some req ∧
      (∃ a, s.tokens.lookup acc.escrowToken = some a ∧ a.mint = acc.mint ∧
        a.owner = .signPda) ∧
      (∃ a, s.tokens.lookup acc.solverToken = some a ∧ a.mint = acc.mint ∧
        a.owner = req.solver) ∧
      req.finalized = false ∧ req.claimed = true ∧ s.now ≤ req.claimDeadline ∧
      acc.solverWallet = req.solver ∧
      payout.toNat = req.amountLocked.toNat + req.feeLocked.toNat ∧
      Transferred acc.escrowToken acc.solverToken .signPda (some acc.mint) payout s s₁ ∧
      TokensKept s₁ s' ∧
      s'.requests = s.requests.insert (.request acc.requestOwner requestId)
        { req with
          finalized := true
          claimed := false
          solver := .default
          claimDeadline := 0
          bondLamports := 0 } ∧
      s'.log = s.log ++
        [.paid (.request acc.requestOwner requestId) acc.mint acc.solverToken payout,
          .refunded (.request acc.requestOwner requestId) acc.solverWallet req.bondLamports,
          .emit (.BridgeVerifiedUrl requestId acc.relayer.key destTxHash evidenceHash
            evidenceUrl),
          .emit (.BridgePaidToSolver requestId acc.solverWallet acc.mint payout)] ∧
      s'.config = s.config ∧ s'.now = s.now ∧ s'.queue = s.queue := by
  obtain ⟨cfg, hcfg, h⟩ := bind_ok h
  obtain ⟨_, hrelayer, h⟩ := bind_ok h
  obtain ⟨req, hreq, h⟩ := bind_ok h
  obtain ⟨escrowToken, hescrow, h⟩ := bind_ok h
  obtain ⟨_, hemint, h⟩ := bind_ok h
  obtain ⟨_, heowner, h⟩ := bind_ok h
  obtain ⟨solverToken, hsolver, h⟩ := bind_ok h
  obtain ⟨_, hsmint, h⟩ := bind_ok h
  obtain ⟨_, hsowner, h⟩ := bind_ok h
  obtain ⟨_, _, h⟩ := bind_ok h
  obtain ⟨_, _, h⟩ := bind_ok h
  obtain ⟨_, hopen, h⟩ := bind_ok h
  obtain ⟨_, hclaimed, h⟩ := bind_ok h
  obtain ⟨_, hintime, h⟩ := bind_ok h
  obtain ⟨_, hwallet, h⟩ := bind_ok h
  obtain ⟨payout, hpayout, h⟩ := bind_ok h
  obtain ⟨s₁, h₁, h⟩ := bind_ok h
  obtain ⟨s₂, h₂, h⟩ := bind_ok h
  have ht := tokenTransfer_ok h₁
  have hf : Frame (s₁.note (.paid (.request acc.requestOwner requestId) acc.mint
      acc.solverToken payout)) s₂ := by
    unfold returnBond at h₂
    split at h₂
    · obtain ⟨s₃, h₃, h₂⟩ := bind_ok h₂
      cases h₂
      exact (frame_debitVault h₃).trans (frame_credit s₃ _ _)
    · cases h₂
      exact .refl _
  have hk : TokensKept s₁ s₂ := hf.tokens
  have hothers := ht.others
  cases h
  refine ⟨cfg, req, payout, s₁, okOr_ok hcfg, require_ok hrelayer, okOr_ok hreq,
    ⟨escrowToken, okOr_ok hescrow, require_ok hemint, require_ok heowner⟩,
    ⟨solverToken, okOr_ok hsolver, require_ok hsmint, require_ok hsowner⟩,
    require_ok hopen, require_ok hclaimed, require_ok hintime, require_ok hwallet,
    checkedAdd_some (okOr_ok hpayout), ht, hk, ?_, ?_, ?_, ?_, ?_⟩
  · simp only [State.emit, State.note, State.setRequest, hf.requests]
    rw [hothers]
  · simp only [State.emit, State.note, State.setRequest, hf.log]
    rw [hothers]
    simp
  · simp only [State.emit, State.note, State.setRequest, hf.config]
    rw [hothers]
  · simp only [State.emit, State.note, State.setRequest, hf.now]
    rw [hothers]
  · simp only [State.emit, State.note, State.setRequest, hf.queue]
    rw [hothers]

/-! ## Deliveries and config -/

/-- What deliveries and config changes leave alone. -/
structure Untouched (s s' : State) : Prop where
  requests : s'.requests = s.requests
  now : s'.now = s.now
  log : ∃ events, s'.log = s.log ++ List.map Entry.emit events

theorem frame_initAta {payer : Signer} {wallet mint : Pubkey}
    (h : initAta rt payer wallet mint s = .ok s') :
    s'.requests = s.requests ∧ s'.now = s.now ∧ s'.log = s.log := by
  unfold initAta at h
  split at h
  · obtain ⟨_, _, h⟩ := bind_ok h
    cases h
    exact ⟨rfl, rfl, rfl⟩
  · obtain ⟨s₁, h₁, h⟩ := bind_ok h
    cases h
    have hf := frame_payRent h₁
    exact ⟨hf.requests, hf.now, hf.log⟩

theorem deliverTokens_ok {acc : ReleaseSpl} {amount : UInt64}
    (h : deliverTokens rt acc amount s = .ok s') : Untouched s s' := by
  obtain ⟨cfg, hcfg, h⟩ := bind_ok h
  obtain ⟨_, _, h⟩ := bind_ok h
  obtain ⟨escrowToken, hescrow, h⟩ := bind_ok h
  obtain ⟨_, _, h⟩ := bind_ok h
  obtain ⟨_, _, h⟩ := bind_ok h
  obtain ⟨s₁, h₁, h⟩ := bind_ok h
  obtain ⟨_, _, h⟩ := bind_ok h
  obtain ⟨_, _, h⟩ := bind_ok h
  obtain ⟨s₂, h₂, h⟩ := bind_ok h
  obtain ⟨hr, hn, hl⟩ := frame_initAta h₁
  have ht := (tokenTransfer_ok h₂).others
  cases h
  refine ⟨?_, ?_, ⟨[.IncomingBridgeDelivered acc.recipient acc.mint amount], ?_⟩⟩
  · simp only [State.emit, State.note]
    rw [ht, hr]
  · simp only [State.emit, State.note]
    rw [ht, hn]
  · simp only [State.emit, State.note]
    rw [ht, hl]
    rfl

theorem closeAccount_ok {addr destination authority : Pubkey}
    (h : closeAccount addr destination authority s = .ok s') :
    s'.requests = s.requests ∧ s'.now = s.now ∧ s'.log = s.log := by
  obtain ⟨a, ha, h⟩ := bind_ok h
  obtain ⟨_, _, h⟩ := bind_ok h
  obtain ⟨_, _, h⟩ := bind_ok h
  obtain ⟨_, _, h⟩ := bind_ok h
  cases h
  simp

/-- What a delivery of SOL has done: the transfer, and then whatever the
escrow's amount at the beginning asks for. -/
structure SolDelivered (acc : ReleaseSol) (amount : UInt64) (a b : TokenAccount)
    (s s₁ s₂ s' : State) : Prop where
  escrow : s.tokens.lookup acc.escrowWsol = some a
  native : a.mint = nativeMint
  authority : a.owner = .signPda
  recipient : s.tokens.lookup acc.recipientWsol = some b
  recipientMint : b.mint = nativeMint
  recipientOwner : b.owner = acc.recipient
  enough : amount ≤ a.amount
  transferred : Transferred acc.escrowWsol acc.recipientWsol .signPda none amount s s₁
  closed : closeIfEmpty acc.escrowWsol acc.escrowRefundDestination a.amount s₁ = .ok s₂
  final : s' = s₂.emit (.IncomingBridgeDelivered acc.recipient nativeMint amount)

theorem deliverTokensSol_delivered {acc : ReleaseSol} {amount : UInt64}
    (h : deliverTokensSol acc amount s = .ok s') :
    ∃ a b s₁ s₂, SolDelivered acc amount a b s s₁ s₂ s' := by
  obtain ⟨cfg, hcfg, h⟩ := bind_ok h
  obtain ⟨_, _, h⟩ := bind_ok h
  obtain ⟨a, ha, h⟩ := bind_ok h
  obtain ⟨_, hmint, h⟩ := bind_ok h
  obtain ⟨_, howner, h⟩ := bind_ok h
  obtain ⟨b, hb, h⟩ := bind_ok h
  obtain ⟨_, hbmint, h⟩ := bind_ok h
  obtain ⟨_, hbowner, h⟩ := bind_ok h
  obtain ⟨_, _, h⟩ := bind_ok h
  obtain ⟨_, hle, h⟩ := bind_ok h
  obtain ⟨s₁, h₁, h⟩ := bind_ok h
  obtain ⟨s₂, h₂, h⟩ := bind_ok h
  cases h
  exact ⟨a, b, s₁, s₂, okOr_ok ha, require_ok hmint, require_ok howner, okOr_ok hb,
    require_ok hbmint, require_ok hbowner, require_ok hle, tokenTransfer_ok h₁, h₂, rfl⟩

theorem closeIfEmpty_ok {escrowWsol destination : Pubkey} {amount : UInt64}
    (h : closeIfEmpty escrowWsol destination amount s = .ok s') :
    s'.requests = s.requests ∧ s'.now = s.now ∧ s'.log = s.log := by
  unfold closeIfEmpty at h
  split at h
  · exact closeAccount_ok h
  · cases h
    exact ⟨rfl, rfl, rfl⟩

theorem deliverTokensSol_ok {acc : ReleaseSol} {amount : UInt64}
    (h : deliverTokensSol acc amount s = .ok s') : Untouched s s' := by
  obtain ⟨a, b, s₁, s₂, hd⟩ := deliverTokensSol_delivered h
  have ht := hd.transferred.others
  obtain ⟨hr, hn, hl⟩ := closeIfEmpty_ok hd.closed
  rw [hd.final]
  refine ⟨?_, ?_, ⟨[.IncomingBridgeDelivered acc.recipient nativeMint amount], ?_⟩⟩
  · simp only [State.emit, State.note, hr]
    rw [ht]
  · simp only [State.emit, State.note, hn]
    rw [ht]
  · simp only [State.emit, State.note, hl]
    rw [ht]
    rfl

theorem initConfig_ok {payer : Signer} {args : ConfigArgs}
    (h : initConfig rt payer args s = .ok s') :
    Untouched s s' ∧ TokensKept s s' := by
  obtain ⟨_, _, h⟩ := bind_ok h
  obtain ⟨_, _, h⟩ := bind_ok h
  cases h
  exact ⟨⟨rfl, rfl, [], by simp [State.debit]⟩, .refl s⟩

theorem setConfig_ok {authority : Signer} {c : ConfigChange}
    (h : setConfig authority c s = .ok s') : Untouched s s' ∧ TokensKept s s' := by
  obtain ⟨cfg, hcfg, h⟩ := bind_ok h
  obtain ⟨_, _, h⟩ := bind_ok h
  cases h
  exact ⟨⟨rfl, rfl, [], by simp⟩, .refl s⟩

end LunarysBridge.Solana
