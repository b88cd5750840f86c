/-
LunarysBridge.Solana.Lifecycle — the life of a request on Solana.

`Change` is the state machine of one request: what an instruction may do to
it, and when. `exec_change` says that every instruction does nothing else to
any request, and `exec_created` what a request looks like when it is made.
The rest of this module, and the accounting of settlements, reads only
these two.
-/
import LunarysBridge.Solana.Effects

namespace LunarysBridge.Solana

variable {rt : Runtime} {s s' : State} {addr : Pubkey}

/-! ## Reachable states -/

/-- The states of a program that was called in any way. -/
def Reachable (rt : Runtime) (s : State) : Prop :=
  ∃ s₀, Initial s₀ ∧ Run rt (fun _ _ => True) s₀ s

theorem Reachable.run (h : Reachable rt s) (hrun : Run rt (fun _ _ => True) s s') :
    Reachable rt s' := by
  induction hrun with
  | nil => exact h
  | exec _ i meets succeeds ih =>
      obtain ⟨s₀, hinit, hrun⟩ := ih
      exact ⟨s₀, hinit, hrun.exec i meets succeeds⟩
  | outside _ move ih =>
      obtain ⟨s₀, hinit, hrun⟩ := ih
      exact ⟨s₀, hinit, hrun.outside move⟩

/-- What holds at first and is kept by every step holds of every reachable
state. -/
theorem Reachable.invariant {P : State → Prop} (initial : ∀ s, Initial s → P s)
    (exec : ∀ i s s', P s → exec rt i s = .ok s' → P s')
    (outside : ∀ s s', P s → Outside s s' → P s') (h : Reachable rt s) : P s := by
  obtain ⟨s₀, hinit, hrun⟩ := h
  induction hrun with
  | nil => exact initial _ hinit
  | exec _ i _ succeeds ih => exact exec i _ _ ih succeeds
  | outside _ move ih => exact outside _ _ ih move

/-! ## The state machine of one request -/

namespace BridgeRequest

def claimedBy (req : BridgeRequest) (solver : Pubkey) (deadline : Int) (bond : UInt64) :
    BridgeRequest :=
  { req with
    claimed := true
    solver := solver
    claimDeadline := deadline
    bondLamports := bond }

/-- The claim fields are reset. -/
def released (req : BridgeRequest) : BridgeRequest :=
  { req with
    claimed := false
    solver := .default
    claimDeadline := 0
    bondLamports := 0 }

def settled (req : BridgeRequest) : BridgeRequest := { req.released with finalized := true }

/-- Two records of one deposit. -/
structure SameDeposit (req req' : BridgeRequest) : Prop where
  requestId : req'.requestId = req.requestId
  payer : req'.payer = req.payer
  tokenMint : req'.tokenMint = req.tokenMint
  amountLocked : req'.amountLocked = req.amountLocked
  feeLocked : req'.feeLocked = req.feeLocked
  createdAt : req'.createdAt = req.createdAt
  clientPubkey : req'.clientPubkey = req.clientPubkey
  nonceLe : req'.nonceLe = req.nonceLe
  destCtW0 : req'.destCtW0 = req.destCtW0
  destCtW1 : req'.destCtW1 = req.destCtW1
  destCtW2 : req'.destCtW2 = req.destCtW2
  destCtW3 : req'.destCtW3 = req.destCtW3

theorem SameDeposit.refl (req : BridgeRequest) : SameDeposit req req :=
  ⟨rfl, rfl, rfl, rfl, rfl, rfl, rfl, rfl, rfl, rfl, rfl, rfl⟩

theorem SameDeposit.trans {req₁ req₂ req₃ : BridgeRequest} (h : SameDeposit req₁ req₂)
    (h' : SameDeposit req₂ req₃) : SameDeposit req₁ req₃ where
  requestId := h'.requestId.trans h.requestId
  payer := h'.payer.trans h.payer
  tokenMint := h'.tokenMint.trans h.tokenMint
  amountLocked := h'.amountLocked.trans h.amountLocked
  feeLocked := h'.feeLocked.trans h.feeLocked
  createdAt := h'.createdAt.trans h.createdAt
  clientPubkey := h'.clientPubkey.trans h.clientPubkey
  nonceLe := h'.nonceLe.trans h.nonceLe
  destCtW0 := h'.destCtW0.trans h.destCtW0
  destCtW1 := h'.destCtW1.trans h.destCtW1
  destCtW2 := h'.destCtW2.trans h.destCtW2
  destCtW3 := h'.destCtW3.trans h.destCtW3

/-- Two records of one claim. -/
structure SameClaim (req req' : BridgeRequest) : Prop where
  claimed : req'.claimed = req.claimed
  solver : req'.solver = req.solver
  claimDeadline : req'.claimDeadline = req.claimDeadline
  bondLamports : req'.bondLamports = req.bondLamports

end BridgeRequest

/-- The request an instruction settles. -/
def Instruction.settles : Instruction → Option Pubkey
  | .verifyAndSettleSpl acc requestId _ _ _ => some (.request acc.requestOwner requestId)
  | _ => none

/-- What an instruction may do at time `now` to the request at `addr`. -/
inductive Change (addr : Pubkey) (now : Int) :
    Instruction → BridgeRequest → BridgeRequest → Prop where
  | kept (i : Instruction) (req : BridgeRequest) : Change addr now i req req
  | claim (acc : ClaimRequest) (offset requestId : UInt64) (solverX25519 : Bytes32)
      (req : BridgeRequest) (deadline : Int) (bond : UInt64)
      (self : addr = .request acc.requestOwner requestId) (isOpen : req.finalized = false)
      (expired : req.claimed = true → now > req.claimDeadline) (bonded : 0 < bond) :
      Change addr now (.claimBridge acc offset requestId solverX25519) req
        (req.claimedBy acc.solver.key deadline bond)
  | release (acc : ReleaseExpiredClaim) (requestId : UInt64) (req : BridgeRequest)
      (self : addr = .request acc.requestOwner requestId) (claimed : req.claimed = true)
      (expired : now > req.claimDeadline) :
      Change addr now (.releaseExpiredClaim acc requestId) req req.released
  | settle (i : Instruction) (req : BridgeRequest) (settles : i.settles = some addr)
      (isOpen : req.finalized = false) (claimed : req.claimed = true)
      (intime : now ≤ req.claimDeadline) : Change addr now i req req.settled

/-- A rewrite of one request, seen from any address. -/
theorem lookup_rewritten {target : Pubkey} {req req' : BridgeRequest} {now : Int}
    {i : Instruction} {r : BridgeRequest} (ht : s.requests.lookup target = some req)
    (hr : s'.requests = s.requests.insert target req') (hc : Change target now i req req')
    (h : s.requests.lookup addr = some r) :
    ∃ r', s'.requests.lookup addr = some r' ∧ Change addr now i r r' := by
  by_cases ha : addr = target
  · subst ha
    rw [ht] at h
    cases h
    exact ⟨req', by rw [hr, AList.lookup_insert], hc⟩
  · exact ⟨r, by rw [hr, AList.lookup_insert_ne ha, h], .kept i r⟩

theorem Deposited.lookup_kept {payer : Signer} {mint : Pubkey} {storedId : UInt64}
    {args : DepositArgs} {req : BridgeRequest}
    (h : Deposited payer mint storedId args s s') (hl : s.requests.lookup addr = some req) :
    s'.requests.lookup addr = some req := by
  obtain ⟨cfg, _, hreq, _⟩ := h.stored
  have hne : addr ≠ .request payer.key args.requestId := by
    intro ha
    rw [ha, h.fresh] at hl
    cases hl
  rw [hreq, AList.lookup_insert_ne hne, hl]

/-- **One step of the state machine.** Every request is still there, and an
instruction changed it as `Change` says. -/
theorem exec_change {i : Instruction} {req : BridgeRequest} (h : exec rt i s = .ok s')
    (hl : s.requests.lookup addr = some req) :
    ∃ req', s'.requests.lookup addr = some req' ∧ Change addr s.now i req req' := by
  cases i with
  | initiateBridge acc args =>
      exact ⟨req, (initiateBridge_ok h).1.lookup_kept hl, .kept _ req⟩
  | initiateBridgeSol acc args =>
      exact ⟨req, (initiateBridgeSol_ok h).1.lookup_kept hl, .kept _ req⟩
  | claimBridge acc offset requestId solverX25519 =>
      obtain ⟨cfg, r, deadline, _, hlookup, hopen, hexpired, hbond, _, hreq, _⟩ :=
        claimBridge_ok h
      exact lookup_rewritten hlookup hreq
        (.claim acc offset requestId solverX25519 r deadline _ rfl hopen hexpired hbond) hl
  | releaseExpiredClaim acc requestId =>
      obtain ⟨cfg, r, slash, refund, _, hlookup, hclaimed, hexpired, _, _, _, _, _, hreq,
        _⟩ := releaseExpiredClaim_ok h
      exact lookup_rewritten hlookup hreq (.release acc requestId r rfl hclaimed hexpired) hl
  | verifyAndSettleSpl acc requestId destTxHash evidenceHash evidenceUrl =>
      obtain ⟨cfg, r, payout, s₁, _, _, hlookup, _, _, hopen, hclaimed, hintime, _, _, _, _,
        hreq, _⟩ := verifyAndSettleSpl_ok h
      exact lookup_rewritten hlookup hreq (.settle _ r rfl hopen hclaimed hintime) hl
  | deliverTokens acc amount =>
      exact ⟨req, by rw [(deliverTokens_ok h).requests, hl], .kept _ req⟩
  | deliverTokensSol acc amount =>
      exact ⟨req, by rw [(deliverTokensSol_ok h).requests, hl], .kept _ req⟩
  | initConfig payer args =>
      exact ⟨req, by rw [(initConfig_ok h).1.requests, hl], .kept _ req⟩
  | setConfig authority c =>
      exact ⟨req, by rw [(setConfig_ok h).1.requests, hl], .kept _ req⟩

/-- The signer and the arguments of a deposit, and the id it stores. -/
def Instruction.deposit : Instruction → Option (Signer × DepositArgs × UInt64)
  | .initiateBridge acc args => some (acc.payer, args, 0)
  | .initiateBridgeSol acc args => some (acc.payer, args, args.requestId)
  | _ => none

theorem exec_deposit {i : Instruction} {payer : Signer} {args : DepositArgs}
    {storedId : UInt64} (hd : i.deposit = some (payer, args, storedId))
    (h : exec rt i s = .ok s') : ∃ mint, Deposited payer mint storedId args s s' := by
  cases i with
  | initiateBridge acc args =>
      cases hd
      exact ⟨acc.mint, (initiateBridge_ok h).1⟩
  | initiateBridgeSol acc args =>
      cases hd
      exact ⟨nativeMint, (initiateBridgeSol_ok h).1⟩
  | _ => cases hd

/-- The request of a deposit, once it is stored. -/
theorem Deposited.lookup {payer : Signer} {mint : Pubkey} {storedId : UInt64}
    {args : DepositArgs} (h : Deposited payer mint storedId args s s') :
    ∃ cfg, s.config = some cfg ∧ s'.requests.lookup (.request payer.key args.requestId) =
      some (args.stored storedId payer.key mint cfg s.now) := by
  obtain ⟨cfg, hcfg, hreq, _⟩ := h.stored
  exact ⟨cfg, hcfg, by rw [hreq, AList.lookup_insert]⟩

/-- An instruction that makes a request is a deposit. -/
theorem exec_makes {i : Instruction} {req : BridgeRequest} (h : exec rt i s = .ok s')
    (hnew : s.requests.lookup addr = none) (hl : s'.requests.lookup addr = some req) :
    ∃ payer args storedId, i.deposit = some (payer, args, storedId) ∧
      addr = .request payer.key args.requestId := by
  have hdep : ∀ {payer args storedId}, i.deposit = some (payer, args, storedId) →
      ∃ payer args storedId, i.deposit = some (payer, args, storedId) ∧
        addr = .request payer.key args.requestId := by
    intro payer args storedId hd
    obtain ⟨mint, hdep⟩ := exec_deposit hd h
    obtain ⟨cfg, _, hreq, _⟩ := hdep.stored
    refine ⟨payer, args, storedId, hd, ?_⟩
    by_contra ha
    rw [hreq, AList.lookup_insert_ne ha, hnew] at hl
    cases hl
  -- the other instructions add no request
  have hno : ∀ {target req₀ req₁}, s.requests.lookup target = some req₀ →
      s'.requests = s.requests.insert target req₁ → False := by
    intro target req₀ req₁ ht hr
    have hne : addr ≠ target := by
      intro ha
      rw [ha, ht] at hnew
      cases hnew
    rw [hr, AList.lookup_insert_ne hne, hnew] at hl
    cases hl
  have hsame : s'.requests = s.requests → False := by
    intro hr
    rw [hr, hnew] at hl
    cases hl
  cases i with
  | initiateBridge acc args => exact hdep rfl
  | initiateBridgeSol acc args => exact hdep rfl
  | claimBridge acc offset requestId solverX25519 =>
      obtain ⟨cfg, r, deadline, _, hlookup, _, _, _, _, hreq, _⟩ := claimBridge_ok h
      exact (hno hlookup hreq).elim
  | releaseExpiredClaim acc requestId =>
      obtain ⟨cfg, r, slash, refund, _, hlookup, _, _, _, _, _, _, _, hreq, _⟩ :=
        releaseExpiredClaim_ok h
      exact (hno hlookup hreq).elim
  | verifyAndSettleSpl acc requestId destTxHash evidenceHash evidenceUrl =>
      obtain ⟨cfg, r, payout, s₁, _, _, hlookup, _, _, _, _, _, _, _, _, _, hreq, _⟩ :=
        verifyAndSettleSpl_ok h
      exact (hno hlookup hreq).elim
  | deliverTokens acc amount => exact (hsame (deliverTokens_ok h).requests).elim
  | deliverTokensSol acc amount => exact (hsame (deliverTokensSol_ok h).requests).elim
  | initConfig payer args => exact (hsame (initConfig_ok h).1.requests).elim
  | setConfig authority c => exact (hsame (setConfig_ok h).1.requests).elim

/-- A request that is new was made by a deposit. -/
theorem exec_created {i : Instruction} {req : BridgeRequest} (h : exec rt i s = .ok s')
    (hnew : s.requests.lookup addr = none) (hl : s'.requests.lookup addr = some req) :
    ∃ payer mint storedId args cfg, Deposited payer mint storedId args s s' ∧
      addr = .request payer.key args.requestId ∧
      req = args.stored storedId payer.key mint cfg s.now := by
  obtain ⟨payer, args, storedId, hd, ha⟩ := exec_makes h hnew hl
  obtain ⟨mint, hdep⟩ := exec_deposit hd h
  obtain ⟨cfg, _, hreq⟩ := hdep.lookup
  rw [ha, hreq] at hl
  cases hl
  exact ⟨payer, mint, storedId, args, cfg, hdep, ha, rfl⟩

/-! ## Redundant fields agree -/

/-- The fields of a request that say whether it is claimed agree; and the
solver is no address the program derives. -/
structure BridgeRequest.Consistent (req : BridgeRequest) : Prop where
  solver : req.claimed = true ↔ req.solver ≠ .default
  bond : req.claimed = true ↔ 0 < req.bondLamports
  deadline : req.claimed = false → req.claimDeadline = 0
  finalized : req.finalized = true → req.claimed = false
  wallet : ∃ bytes, req.solver = .key bytes

theorem Signer.key_ne_default (w : Signer) : w.key ≠ .default := by
  simpa [Signer.key, Pubkey.default] using w.nonzero

theorem BridgeRequest.consistent_stored (args : DepositArgs) (storedId : UInt64)
    (payer mint : Pubkey) (cfg : BridgeConfig) (now : Int) :
    (args.stored storedId payer mint cfg now).Consistent := by
  constructor <;> simp [DepositArgs.stored, Pubkey.default]

theorem BridgeRequest.consistent_released (req : BridgeRequest) :
    req.released.Consistent := by
  constructor <;> simp [BridgeRequest.released, Pubkey.default]

namespace Change

variable {now : Int} {i : Instruction} {req req' : BridgeRequest}

theorem consistent (h : Change addr now i req req') (hc : req.Consistent) :
    req'.Consistent := by
  cases h with
  | kept => exact hc
  | claim acc offset requestId solverX25519 _ deadline bond self isOpen expired bonded =>
      constructor
      · simpa [BridgeRequest.claimedBy] using acc.solver.key_ne_default
      · simpa [BridgeRequest.claimedBy] using bonded
      · simp [BridgeRequest.claimedBy]
      · simp [BridgeRequest.claimedBy, isOpen]
      · exact ⟨acc.solver.bytes, rfl⟩
  | release acc requestId _ self claimed expired => exact req.consistent_released
  | settle _ _ settles isOpen claimed intime =>
      have hr := req.consistent_released
      exact ⟨hr.solver, hr.bond, hr.deadline, fun _ => rfl, hr.wallet⟩

theorem sameDeposit (h : Change addr now i req req') : req.SameDeposit req' := by
  cases h with
  | kept => exact .refl req
  | claim => constructor <;> rfl
  | release => constructor <;> rfl
  | settle => constructor <;> rfl

/-- While a claim is in time, and on a request without one from time 1 on,
only a settlement changes the claim fields. -/
theorem sameClaim (h : Change addr now i req req') (hc : req.Consistent)
    (hlive : req.claimed = true ∨ 0 < now) (hin : now ≤ req.claimDeadline) :
    req.SameClaim req' ∨ i.settles = some addr := by
  have hclaimed : req.claimed = true := by
    by_contra hne
    have hfree : req.claimed = false := by simpa using hne
    have hdeadline := hc.deadline hfree
    have hpos : 0 < now := hlive.resolve_left hne
    omega
  cases h with
  | kept => exact .inl ⟨rfl, rfl, rfl, rfl⟩
  | claim acc offset requestId solverX25519 _ deadline bond self isOpen expired bonded =>
      have hlate := expired hclaimed
      omega
  | release acc requestId _ self claimed expired => omega
  | settle _ _ settles isOpen claimed intime => exact .inr settles

/-- A finalized request is not changed. -/
theorem final (h : Change addr now i req req') (hc : req.Consistent)
    (hf : req.finalized = true) : req' = req := by
  cases h with
  | kept => rfl
  | claim acc offset requestId solverX25519 _ deadline bond self isOpen expired bonded =>
      rw [hf] at isOpen
      cases isOpen
  | release acc requestId _ self claimed expired =>
      rw [hc.finalized hf] at claimed
      cases claimed
  | settle _ _ settles isOpen claimed intime =>
      rw [hf] at isOpen
      cases isOpen

end Change

/-! ## Runs -/

/-- Every request of the state has consistent fields. -/
def State.Consistent (s : State) : Prop :=
  ∀ addr req, s.requests.lookup addr = some req → req.Consistent

theorem consistent_exec {i : Instruction} (hc : s.Consistent) (h : exec rt i s = .ok s') :
    s'.Consistent := by
  intro addr req' hl
  cases hold : s.requests.lookup addr with
  | none =>
      obtain ⟨payer, mint, storedId, args, cfg, _, _, hreq⟩ := exec_created h hold hl
      rw [hreq]
      exact BridgeRequest.consistent_stored args storedId payer.key mint cfg s.now
  | some req =>
      obtain ⟨req'', hl', hchange⟩ := exec_change h hold
      rw [hl] at hl'
      cases hl'
      exact hchange.consistent (hc addr req hold)

theorem Reachable.consistent (h : Reachable rt s) : s.Consistent := by
  refine h.invariant ?_ (fun i s s' hc hexec => consistent_exec hc hexec) ?_
  · intro s₀ hinit addr req hl
    rw [hinit.requests] at hl
    simp at hl
  · intro s s' hc hout addr req hl
    rw [hout.requests] at hl
    exact hc addr req hl

/-- What a run keeps of a request. -/
structure BridgeRequest.Kept (req req' : BridgeRequest) : Prop where
  deposit : req.SameDeposit req'
  final : req.finalized = true → req' = req

theorem BridgeRequest.Kept.trans {req₁ req₂ req₃ : BridgeRequest} (h : Kept req₁ req₂)
    (h' : Kept req₂ req₃) : Kept req₁ req₃ where
  deposit := h.deposit.trans h'.deposit
  final := by
    intro hf
    have heq := h.final hf
    subst heq
    exact h'.final hf

/-- A request stays through a run, with its deposit; and once it is
finalized nothing of it changes. -/
theorem Reachable.kept {req : BridgeRequest} (h : Reachable rt s)
    (hrun : Run rt (fun _ _ => True) s s') (hl : s.requests.lookup addr = some req) :
    ∃ req', s'.requests.lookup addr = some req' ∧ req.Kept req' := by
  induction hrun with
  | nil => exact ⟨req, hl, .refl req, fun _ => rfl⟩
  | @exec s₁ s₂ hrun i _ succeeds ih =>
      obtain ⟨req₁, hl₁, hk⟩ := ih
      obtain ⟨req₂, hl₂, hchange⟩ := exec_change succeeds hl₁
      have hc := (h.run hrun).consistent addr req₁ hl₁
      exact ⟨req₂, hl₂, hk.trans ⟨hchange.sameDeposit, hchange.final hc⟩⟩
  | outside _ move ih =>
      obtain ⟨req₁, hl₁, hk⟩ := ih
      exact ⟨req₁, by rw [move.requests, hl₁], hk⟩

/-- **Request lifecycle.** In every reachable state the fields of every
request are consistent; a run keeps what the deposit wrote, and all of a
finalized request; and while a claim is in time only `verify_and_settle_spl`
changes the claim fields. (A request without a claim has deadline 0, and the
clock is past 0.) -/
theorem account_lifecycle (h : Reachable rt s) :
    (∀ addr req, s.requests.lookup addr = some req →
      (req.claimed = true ↔ req.solver ≠ .default) ∧
      (req.claimed = true ↔ 0 < req.bondLamports) ∧
      (req.claimed = false → req.claimDeadline = 0) ∧
      (req.finalized = true → req.claimed = false)) ∧
    (∀ s', Run rt (fun _ _ => True) s s' → ∀ addr req,
      s.requests.lookup addr = some req → ∃ req', s'.requests.lookup addr = some req' ∧
        req.SameDeposit req' ∧ (req.finalized = true → req' = req)) ∧
    (∀ i s', exec rt i s = .ok s' → ∀ addr req req',
      s.requests.lookup addr = some req → s'.requests.lookup addr = some req' →
      req.claimed = true ∨ 0 < s.now → s.now ≤ req.claimDeadline →
      ¬ req.SameClaim req' → i.settles = some addr) := by
  refine ⟨?_, ?_, ?_⟩
  · intro addr req hl
    have hc := h.consistent addr req hl
    exact ⟨hc.solver, hc.bond, hc.deadline, hc.finalized⟩
  · intro s' hrun addr req hl
    obtain ⟨req', hl', hk⟩ := h.kept hrun hl
    exact ⟨req', hl', hk.deposit, hk.final⟩
  · intro i s' hexec addr req req' hl hl' hlive hin hne
    obtain ⟨req'', hl'', hchange⟩ := exec_change hexec hl
    rw [hl'] at hl''
    cases hl''
    exact (hchange.sameClaim (h.consistent addr req hl) hlive hin).resolve_left hne

namespace Sample

theorem reachable_of_moves {moves : List (Nat × Instruction)}
    (h : runMoves runtime (fun _ _ => true) moves initial = some s) :
    Reachable runtime s :=
  ⟨initial, initial_initial, (run_of_moves (.nil _) h).mono fun _ _ _ => trivial⟩

/-- The request of the user. -/
def request : Pubkey := .request user.key 7

/-- A deposit that the solver claims. -/
def claimedOnce : List (Nat × Instruction) :=
  [(0, config), (0, deposit (.key 21)), (0, claim solver)]

end Sample

theorem account_lifecycle_claimed : ∃ s req, Reachable Sample.runtime s ∧
    s.requests.lookup Sample.request = some req ∧ req.claimed = true ∧
      0 < req.bondLamports := by
  have hrun : (runMoves Sample.runtime (fun _ _ => true) Sample.claimedOnce
      Sample.initial).map (fun s => (s.requests.lookup Sample.request).map (·.claimed)) =
        some (some true) := by
    decide +kernel
  obtain ⟨s, hs, hreq⟩ := Option.map_eq_some_iff.mp hrun
  obtain ⟨req, hl, hclaimed⟩ := Option.map_eq_some_iff.mp hreq
  have hreach := Sample.reachable_of_moves hs
  exact ⟨s, req, hreach, hl, hclaimed,
    ((account_lifecycle hreach).1 _ req hl).2.1.mp hclaimed⟩

end LunarysBridge.Solana
