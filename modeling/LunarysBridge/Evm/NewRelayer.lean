/-
LunarysBridge.Evm.NewRelayer — the `NewRelayer` contract (Competitive
Fast-Bridge, EVM ↔ Solana), function by function.

Every function runs as `Code` (`Lib/Reentrancy.lean`): its external calls
hand control over, and what follows reads the storage as the callee left
it. `req` and `c` are storage references in the source, so each use below
reads the mapping again. `contract ch` ties the functions to their entry
points and `Reachable` is every state a deployed contract can be in.
-/
import LunarysBridge.Evm.Chain

namespace LunarysBridge.Evm

abbrev Code := Reentrancy.Code State ExtCall Revert

variable (ch : Chain) (t : Tx ch.self)

/-! ## Modifiers -/

def nonReentrant (body : State → Code) (s : State) : Code :=
  if s.entered then .revert .ReentrancyGuardReentrantCall
  else body { s with entered := true }

/-- The end of a `nonReentrant` body: the guard is given back. -/
def leave (s : State) : Code := .done { s with entered := false }

def onlyOwner (body : State → Code) (s : State) : Code :=
  if t.sender ≠ s.owner then .revert (.OwnableUnauthorizedAccount t.sender)
  else body s

def onlyRelayer (body : State → Code) (s : State) : Code :=
  if t.sender ≠ s.relayer then .revert .OnlyRelayer else body s

def onlyAuthorizedNode (body : State → Code) (s : State) : Code :=
  if s.authorizedNodes t.sender = false then .revert .NotAuthorizedNode
  else body s

/-! ## EVM → Solana -/

/-- `_calculateFee`; `none` is the overflow of the percentage product. -/
def calculateFee (s : State) (amount : Nat) : Option Nat :=
  match checkedMul amount s.feePercentage with
  | none => none
  | some product =>
      let fee := product / 10000
      let fee := if fee < s.minFee then s.minFee else fee
      let fee := if fee > s.maxFee then s.maxFee else fee
      -- safety for small amounts: hard fallback, max 50%
      some (if fee ≥ amount then amount / 2 else fee)

/-- `initiateBridge` after the tokens have come in. -/
def recordRequest (token : Address) (amountAfterFee fee : Nat)
    (destinationHandle : Handle) (s : State) : Code :=
  let s := s.allow destinationHandle t.sender
  let s := s.allow destinationHandle ch.self
  let s := s.allow destinationHandle s.relayer
  match checkedAdd s.bridgeNonce 1 with
  | none => .revert .Panic
  | some requestId =>
      let s := { s with bridgeNonce := requestId }
      let s := s.setRequest requestId
        { sender := t.sender
          token := token
          amount := amountAfterFee
          encryptedSolanaDestination := destinationHandle
          timestamp := s.now
          finalized := false
          fee := fee }
      let s := s.setFeeEscrow requestId fee
      leave (s.emit (.BridgeInitiated requestId t.sender token amountAfterFee))

def initiateBridge (token : Address) (amount : Nat)
    (encryptedSolanaDestination : Bytes32) (destinationProof : List UInt8) :
    State → Code :=
  nonReentrant fun s =>
    if token = 0 then .revert .ZeroAddress
    else if amount = 0 then .revert .ZeroAmount
    else
      match calculateFee s amount with
      | none => .revert .Panic
      | some fee =>
        match checkedSub amount fee with
        | none => .revert .Panic
        | some amountAfterFee =>
            .call (.safeTransferFrom token t.sender amount) s fun ok s =>
              if ok = false then .revert (.SafeERC20FailedOperation token)
              else
                match ch.fromExternal t.sender encryptedSolanaDestination
                    destinationProof with
                | none => .revert .InvalidProof
                | some destinationHandle =>
                    recordRequest ch t token amountAfterFee fee
                      destinationHandle s

/-! ### The end of an expired claim

`claimBridge` and `releaseExpiredClaim` hold the same lines; what follows
them is `rest`. -/

/-- `emit BridgeClaimExpired`, and the claim is reset. -/
def resetExpired (requestId slashAmt : Nat) (rest : State → Code) (s : State) :
    Code :=
  let s := s.emit (.BridgeClaimExpired requestId
    (s.requestClaim requestId).solver slashAmt)
  rest (s.setClaim requestId
    { s.requestClaim requestId with solver := 0, claimedAt := 0, deadline := 0 })

/-- The leftover goes back to the old solver. -/
def refundLeftover (requestId leftover : Nat) (rest : State → Code)
    (s : State) : Code :=
  if 0 < leftover then
    .call (.send (s.requestClaim requestId).solver leftover) s fun ok s =>
      if ok then rest s else .revert (.failed "Bond refund failed")
  else rest s

/-- The slash goes to the collector, when there is one. -/
def slashTransfer (requestId slashAmt : Nat) (rest : State → Code)
    (s : State) : Code :=
  if 0 < slashAmt ∧ s.slashCollector ≠ 0 then
    .call (.send s.slashCollector slashAmt) s fun ok s =>
      if ok then rest s else .revert (.failed "Slash transfer failed")
  else if s.slashCollector = 0 then
    -- nothing is sent; the note is the model's own
    rest (s.note (.retained requestId slashAmt))
  else rest s

def endExpiredClaim (requestId : Nat) (rest : State → Code) (s : State) : Code :=
  match checkedMul (s.requestClaim requestId).bond s.slashBps with
  | none => .revert .Panic
  | some product =>
      let slashAmt := product / 10000
      match checkedSub (s.requestClaim requestId).bond slashAmt with
      | none => .revert .Panic
      | some leftover =>
          let s := s.setClaim requestId { s.requestClaim requestId with bond := 0 }
          slashTransfer requestId slashAmt
            (refundLeftover requestId leftover (resetExpired requestId slashAmt rest)) s

/-! ### Claiming, releasing -/

/-- `claimBridge` from the bond check on. -/
def registerClaim (requestId : Nat) (s : State) : Code :=
  if t.value < s.minSolverBond then .revert .BondTooLow
  else
    match checkedAdd s.now s.claimWindow with
    | none => .revert .Panic
    | some deadline =>
        let s := s.setClaim requestId
          { solver := t.sender
            claimedAt := uint64 s.now
            deadline := uint64 deadline
            bond := t.value }
        let s := s.allow (s.bridgeRequests requestId).encryptedSolanaDestination
          t.sender
        leave (s.emit (.BridgeClaimed requestId t.sender t.value
          (s.requestClaim requestId).deadline))

def claimBridge (requestId : Nat) : State → Code :=
  nonReentrant <| onlyAuthorizedNode ch t fun s =>
    if (s.bridgeRequests requestId).sender = 0 then .revert .RequestNotFound
    else if (s.bridgeRequests requestId).finalized then
      .revert .RequestAlreadyFinalized
    else if (s.requestClaim requestId).solver ≠ 0 ∧
        s.now < (s.requestClaim requestId).deadline then
      .revert .ActiveClaim
    else if (s.requestClaim requestId).solver ≠ 0 ∧
        s.now ≥ (s.requestClaim requestId).deadline then
      endExpiredClaim requestId (registerClaim ch t requestId) s
    else registerClaim ch t requestId s

def releaseExpiredClaim (requestId : Nat) : State → Code :=
  nonReentrant fun s =>
    if (s.requestClaim requestId).solver = 0 then .revert .NoClaim
    else if s.now < (s.requestClaim requestId).deadline then
      .revert .ActiveClaim
    else endExpiredClaim requestId leave s

/-! ### Settling -/

/-- `_verifyAndPay` after the payout: the bond goes back, the claim is
cleared. -/
def refundBond (requestId : Nat) (rest : State → Code) (s : State) : Code :=
  let bond := (s.requestClaim requestId).bond
  let s := s.setClaim requestId { s.requestClaim requestId with bond := 0 }
  .call (.send (s.requestClaim requestId).solver bond) s fun ok s =>
    if ok = false then .revert (.failed "Bond refund failed")
    else
      let s := s.emit (.SolverBondRefunded requestId
        (s.requestClaim requestId).solver bond)
      rest (s.setClaim requestId
        { s.requestClaim requestId with solver := 0, claimedAt := 0, deadline := 0 })

/-- `_verifyAndPay`; `rest` is the event of the overload. -/
def verifyAndPay (requestId : Nat) (rest : State → Code) (s : State) : Code :=
  if (s.bridgeRequests requestId).sender = 0 then .revert .RequestNotFound
  else if (s.bridgeRequests requestId).finalized then
    .revert .RequestAlreadyFinalized
  else if (s.requestClaim requestId).solver = 0 then .revert .NoClaim
  else if s.now > (s.requestClaim requestId).deadline then .revert .ClaimExpired
  else
    let fee := s.requestFeeEscrow requestId
    let s := s.setFeeEscrow requestId 0
    match checkedAdd (s.bridgeRequests requestId).amount fee with
    | none => .revert .Panic
    | some payout =>
        let s := s.setRequest requestId
          { s.bridgeRequests requestId with finalized := true }
        .call (.safeTransfer (s.bridgeRequests requestId).token
            (s.requestClaim requestId).solver payout) s fun ok s =>
          if ok = false then
            .revert (.SafeERC20FailedOperation (s.bridgeRequests requestId).token)
          else
            refundBond requestId rest
              (s.emit (.BridgePaidToSolver requestId (s.requestClaim requestId).solver
                (s.bridgeRequests requestId).token payout))

def verifyAndSettle (requestId : Nat) (destTxHash evidenceHash : Bytes32) :
    State → Code :=
  onlyRelayer ch t <| nonReentrant <| verifyAndPay requestId fun s =>
    leave (s.emit (.BridgeVerified requestId t.sender destTxHash evidenceHash))

def verifyAndSettleURL (requestId : Nat) (destTxHash evidenceHash : Bytes32)
    (evidenceURL : String) : State → Code :=
  onlyRelayer ch t <| nonReentrant <| verifyAndPay requestId fun s =>
    leave (s.emit (.BridgeVerifiedURL requestId t.sender destTxHash evidenceHash
      evidenceURL))

/-! ## Solana → EVM, legacy fees, emergency -/

/-- `safeTransfer` as the last external call of a function. -/
def payOut (token recipient : Address) (amount : Nat) (rest : State → Code)
    (s : State) : Code :=
  .call (.safeTransfer token recipient amount) s fun ok s =>
    if ok then rest s else .revert (.SafeERC20FailedOperation token)

def deliverTokens (recipient token : Address) (amount : Nat) : State → Code :=
  onlyRelayer ch t <| nonReentrant fun s =>
    if recipient = 0 then .revert .ZeroAddress
    else if amount = 0 then .revert .ZeroAmount
    else payOut token recipient amount (fun s =>
      leave (s.emit (.IncomingBridgeDelivered recipient token amount))) s

def collectFees (token recipient : Address) : State → Code :=
  onlyOwner ch t <| nonReentrant fun s =>
    if recipient = 0 then .revert .ZeroAddress
    else
      let fees := s.collectedFees token
      if fees = 0 then .revert .ZeroAmount
      else
        payOut token recipient fees (fun s =>
            leave (s.emit (.FeesCollected token fees recipient)))
          { s with collectedFees := Function.update s.collectedFees token 0 }

def emergencyWithdraw (token : Address) (amount : Nat) (recipient : Address) :
    State → Code :=
  onlyOwner ch t <| nonReentrant fun s =>
    if recipient = 0 then .revert .ZeroAddress
    else if amount = 0 then .revert .ZeroAmount
    else payOut token recipient amount leave s

/-! ## Admin -/

def updateRelayer (newRelayer : Address) : State → Code :=
  onlyOwner ch t fun s =>
    if newRelayer = 0 then .revert .ZeroAddress
    else .done (({ s with relayer := newRelayer } : State).emit
      (.RelayerUpdated s.relayer newRelayer))

def updateFeePercentage (newFeePercentage : Nat) : State → Code :=
  onlyOwner ch t fun s =>
    if newFeePercentage > 1000 then .revert .InvalidFee
    else .done (({ s with feePercentage := newFeePercentage } : State).emit
      (.FeePercentageUpdated s.feePercentage newFeePercentage))

def updateFeeLimits (newMinFee newMaxFee : Nat) : State → Code :=
  onlyOwner ch t fun s =>
    if newMinFee ≥ newMaxFee then .revert .InvalidFee
    else .done (({ s with minFee := newMinFee, maxFee := newMaxFee } : State).emit
      (.FeeLimitsUpdated newMinFee newMaxFee))

def updateClaimWindow (newWindow : Nat) : State → Code :=
  onlyOwner ch t fun s =>
    if newWindow ≥ 60 ∧ newWindow ≤ 86400 then
      .done { s with claimWindow := newWindow }
    else .revert (.failed "claimWindow out of range")

def updateMinSolverBond (newMinBond : Nat) : State → Code :=
  onlyOwner ch t fun s => .done { s with minSolverBond := newMinBond }

def updateSlashParams (newSlashBps : Nat) (newCollector : Address) :
    State → Code :=
  onlyOwner ch t fun s =>
    if newSlashBps ≤ 10000 then
      .done { s with slashBps := newSlashBps, slashCollector := newCollector }
    else .revert (.failed "slashBps too high")

def authorizeNode (node : Address) : State → Code :=
  onlyOwner ch t fun s =>
    if node = 0 then .revert .ZeroAddress
    else if s.authorizedNodes node = false then
      .done (({ s with
        authorizedNodes := Function.update s.authorizedNodes node true
        nodesList := s.nodesList ++ [node] } : State).emit (.NodeAuthorized node))
    else .done s

def revokeNode (node : Address) : State → Code :=
  onlyOwner ch t fun s =>
    if s.authorizedNodes node then
      .done (({ s with
        authorizedNodes := Function.update s.authorizedNodes node false } :
          State).emit (.NodeRevoked node))
    else .done s

/-- `Ownable.transferOwnership` -/
def transferOwnership (newOwner : Address) : State → Code :=
  onlyOwner ch t fun s =>
    if newOwner = 0 then .revert (.OwnableInvalidOwner 0)
    else .done (({ s with owner := newOwner } : State).emit
      (.OwnershipTransferred s.owner newOwner))

/-- `Ownable.renounceOwnership` -/
def renounceOwnership : State → Code :=
  onlyOwner ch t fun s =>
    .done (({ s with owner := 0 } : State).emit (.OwnershipTransferred s.owner 0))

/-! ## Entry points -/

/-- The ETH of a call reaches the contract before its code runs. -/
def payable (body : State → Code) (s : State) : Code :=
  if s.eth t.sender < t.value then .revert .InsufficientBalance
  else body ((s.moveEth t.sender ch.self t.value).note (.received t.fn t.value))

def nonPayable (body : State → Code) (s : State) : Code :=
  if t.value ≠ 0 then .revert .NonPayable else body s

def entry : State → Code :=
  match t.fn with
  | .initiateBridge token amount input proof =>
      nonPayable ch t (initiateBridge ch t token amount input proof)
  | .claimBridge requestId => payable ch t (claimBridge ch t requestId)
  | .verifyAndSettle requestId destTxHash evidenceHash =>
      nonPayable ch t (verifyAndSettle ch t requestId destTxHash evidenceHash)
  | .verifyAndSettleURL requestId destTxHash evidenceHash evidenceURL =>
      nonPayable ch t
        (verifyAndSettleURL ch t requestId destTxHash evidenceHash evidenceURL)
  | .releaseExpiredClaim requestId =>
      nonPayable ch t (releaseExpiredClaim requestId)
  | .deliverTokens recipient token amount =>
      nonPayable ch t (deliverTokens ch t recipient token amount)
  | .collectFees token recipient =>
      nonPayable ch t (collectFees ch t token recipient)
  | .emergencyWithdraw token amount recipient =>
      nonPayable ch t (emergencyWithdraw ch t token amount recipient)
  | .updateRelayer newRelayer => nonPayable ch t (updateRelayer ch t newRelayer)
  | .updateFeePercentage newFeePercentage =>
      nonPayable ch t (updateFeePercentage ch t newFeePercentage)
  | .updateFeeLimits newMinFee newMaxFee =>
      nonPayable ch t (updateFeeLimits ch t newMinFee newMaxFee)
  | .updateClaimWindow newWindow =>
      nonPayable ch t (updateClaimWindow ch t newWindow)
  | .updateMinSolverBond newMinBond =>
      nonPayable ch t (updateMinSolverBond ch t newMinBond)
  | .updateSlashParams newSlashBps newCollector =>
      nonPayable ch t (updateSlashParams ch t newSlashBps newCollector)
  | .authorizeNode node => nonPayable ch t (authorizeNode ch t node)
  | .revokeNode node => nonPayable ch t (revokeNode ch t node)
  | .transferOwnership newOwner =>
      nonPayable ch t (transferOwnership ch t newOwner)
  | .renounceOwnership => nonPayable ch t (renounceOwnership ch t)

/-- The contract among callees that may do anything. -/
def contract : Reentrancy.Contract (Tx ch.self) State ExtCall Revert where
  entry := entry ch
  deliver := deliver ch
  outside := Outside ch

/-! ## Deployment and runs -/

/-- The chain when the contract is deployed: it owns nothing yet. -/
structure Genesis where
  eth : Address → Nat
  bal : Address → Address → Nat
  now : Nat
  no_eth : eth ch.self = 0
  no_tokens : ∀ token, bal token ch.self = 0

/-- The constructor. -/
def deploy (g : Genesis ch) (relayer initialOwner : Address) :
    Except Revert State :=
  if initialOwner = 0 then .error (.OwnableInvalidOwner 0)
  else if relayer = 0 then .error .ZeroAddress
  else .ok
    { owner := initialOwner
      relayer := relayer
      feePercentage := 30
      minFee := 10 ^ 15
      maxFee := 10 ^ 20
      claimWindow := 1200
      minSolverBond := 2 * 10 ^ 16
      slashBps := 5000
      slashCollector := initialOwner
      authorizedNodes := fun _ => false
      nodesList := []
      bridgeNonce := 0
      collectedFees := fun _ => 0
      bridgeRequests := fun _ => BridgeRequest.empty
      requestClaim := fun _ => Claim.empty
      requestFeeEscrow := fun _ => 0
      entered := false
      eth := g.eth
      bal := g.bal
      now := g.now
      log := [] }

/-- One step of the chain between transactions. -/
inductive Step : State → State → Prop where
  | tx {s s' : State} (t : Tx ch.self)
      (commits : Reentrancy.Commits (contract ch) t s s') : Step s s'
  | outside {s s' : State} (move : Outside ch s s') : Step s s'
  | tick (s : State) (time : Nat) (later : s.now ≤ time) :
      Step s { s with now := time }

/-- The states between transactions of a deployed contract. -/
inductive Reachable : State → Prop where
  | deployed (g : Genesis ch) (relayer initialOwner : Address) {s : State}
      (h : deploy ch g relayer initialOwner = .ok s) : Reachable s
  | step {s s' : State} (before : Reachable s) (h : Step ch s s') : Reachable s'

/-! ## Runs in which every callee accepts -/

variable {ch} in
/-- The calls one after the other; `none` when one of them reverts. -/
def runAccepting : List (Tx ch.self) → State → Option State
  | [], s => some s
  | t :: ts, s =>
      match Reentrancy.accepting (contract ch) t (entry ch t s) with
      | some s' => runAccepting ts s'
      | none => none

variable {ch} in
/-- Such a run is a run of the chain. -/
theorem Reachable.runAccepting {s' : State} {ts : List (Tx ch.self)} :
    ∀ {s : State}, Reachable ch s → runAccepting ts s = some s' → Reachable ch s' := by
  induction ts with
  | nil =>
      intro s h hr
      cases hr
      exact h
  | cons t ts ih =>
      intro s h hr
      simp only [Evm.runAccepting] at hr
      split at hr
      · next s₁ hacc =>
        exact ih (h.step (.tx t (Reentrancy.exec_of_accepting _ hacc))) hr
      · cases hr

/-! ### One bridge request, claimed -/

namespace Sample

/-- Every token is exact and every encrypted input is accepted. -/
def chain : Chain where
  self := 1
  exact := fun _ => true
  fromExternal := fun _ input _ => some input

def genesis : Genesis chain where
  eth := fun a => if a = 1 then 0 else 10 ^ 20
  bal := fun _ a => if a = 1 then 0 else 10 ^ 21
  now := 1000
  no_eth := rfl
  no_tokens := fun _ => rfl

def call (sender : Address) (value : Nat) (fn : Fn) (h : sender ≠ 0 ∧ sender ≠ 1) :
    Tx chain.self :=
  ⟨sender, value, fn, h.1, h.2⟩

/-- The owner 3 admits the solver 5, the user 4 deposits tokens of 9, and
the solver claims. The relayer is 2. -/
def calls : List (Tx chain.self) :=
  [call 3 0 (.authorizeNode 5) (by decide),
    call 4 0 (.initiateBridge 9 (10 ^ 18) 77 []) (by decide),
    call 5 (2 * 10 ^ 16) (.claimBridge 1) (by decide)]

/-- A second deposit, claimed as well. -/
def moreCalls : List (Tx chain.self) :=
  [call 4 0 (.initiateBridge 9 (10 ^ 18) 78 []) (by decide),
    call 5 (2 * 10 ^ 16) (.claimBridge 2) (by decide)]

def settlement : Tx chain.self := call 2 0 (.verifyAndSettle 1 0 0) (by decide)

/-! The parties of later calls. -/

theorem relayer_ne : (2 : Address) ≠ 0 ∧ (2 : Address) ≠ 1 := by decide

theorem owner_ne : (3 : Address) ≠ 0 ∧ (3 : Address) ≠ 1 := by decide

theorem user_ne : (4 : Address) ≠ 0 ∧ (4 : Address) ≠ 1 := by decide

theorem solver_ne : (5 : Address) ≠ 0 ∧ (5 : Address) ≠ 1 := by decide

def after (ts : List (Tx chain.self)) : Option State :=
  match deploy chain genesis 2 3 with
  | .ok s => runAccepting ts s
  | .error _ => none

theorem reachable_after {ts : List (Tx chain.self)} {s : State}
    (h : after ts = some s) : Reachable chain s := by
  unfold after at h
  split at h
  · next s₀ hd => exact (Reachable.deployed genesis 2 3 hd).runAccepting h
  · cases h

theorem claimed_isSome : (after calls).isSome = true := rfl

/-- The state after the claim. -/
def claimed : State := (after calls).get claimed_isSome

theorem claimed_reachable : Reachable chain claimed :=
  reachable_after (Option.some_get claimed_isSome).symm

/-- What the claim of the solver leaves behind. -/
structure ClaimedByFive (s : State) : Prop where
  now : s.now = 1000
  unlocked : s.entered = false
  relayer : s.relayer = 2
  authorized : s.authorizedNodes 5 = true
  minSolverBond : s.minSolverBond = 2 * 10 ^ 16
  slashBps : s.slashBps = 5000
  funds : 2 * 10 ^ 16 ≤ s.eth 5
  escrow : s.bal 9 1 = 10 ^ 18 ∧ s.eth 1 = 2 * 10 ^ 16
  sender : (s.bridgeRequests 1).sender = 4
  isOpen : (s.bridgeRequests 1).finalized = false
  claim : s.requestClaim 1 = ⟨5, 1000, 2200, 2 * 10 ^ 16⟩

theorem claimed_byFive : ClaimedByFive claimed where
  now := rfl
  unlocked := rfl
  relayer := rfl
  authorized := rfl
  minSolverBond := rfl
  slashBps := rfl
  funds := by decide +kernel
  escrow := ⟨rfl, rfl⟩
  sender := rfl
  isOpen := rfl
  claim := rfl

theorem claimed_known : (claimed.bridgeRequests 1).sender ≠ 0 := by
  rw [claimed_byFive.sender]
  decide

theorem claimed_held : (claimed.requestClaim 1).solver ≠ 0 := by
  rw [claimed_byFive.claim]
  decide

theorem settled_isSome : (after (calls ++ [settlement])).isSome = true := rfl

/-- The state after the settlement. -/
def settled : State := (after (calls ++ [settlement])).get settled_isSome

theorem settled_reachable : Reachable chain settled :=
  reachable_after (Option.some_get settled_isSome).symm

end Sample

end LunarysBridge.Evm
