/-
LunarysBridge.Evm.LegacyRelayer — the `Relayer` contract, the predecessor
of `NewRelayer`, function by function.

Here the fee of a deposit is the owner's at once: `collectedFees` counts
it, and the tokens stay in the contract next to what the relayer delivers.
The contract takes no ETH, so the only ledger beside its storage is the
one of the tokens.
-/
import LunarysBridge.Evm.Chain

namespace LunarysBridge.Evm.LegacyRelayer

/-- The storage its fee depends on, with the defaults of the source. -/
structure FeeSettings where
  feePercentage : Nat := 30
  minFee : Nat := 10 ^ 15
  maxFee : Nat := 10 ^ 20

/-- `_calculateFee`; `none` is the overflow of the percentage product. -/
def calculateFee (s : FeeSettings) (amount : Nat) : Option Nat :=
  match checkedMul amount s.feePercentage with
  | none => none
  | some product =>
      let fee := product / 10000
      -- min/max limits
      let fee := if fee < s.minFee then s.minFee else fee
      let fee := if fee > s.maxFee then s.maxFee else fee
      -- emergency fallback: max 50% fee
      some (if fee ≥ amount then amount / 2 else fee)

/-! ## Calls, events, state -/

/-- The external functions of the contract that write, with their arguments. -/
inductive Fn where
  | initiateBridge (token : Address) (amount : Nat)
      (encryptedSolanaDestination : Bytes32) (destinationProof : List UInt8)
  | finalizeBridge (requestId : Nat)
  | deliverTokens (recipient token : Address) (amount : Nat)
  | collectFees (token recipient : Address)
  | emergencyWithdraw (token : Address) (amount : Nat) (recipient : Address)
  | updateRelayer (newRelayer : Address)
  | updateFeePercentage (newFeePercentage : Nat)
  | updateFeeLimits (newMinFee newMaxFee : Nat)
  | transferOwnership (newOwner : Address)
  | renounceOwnership
  deriving DecidableEq

/-- The external calls the contract makes. -/
inductive ExtCall where
  /-- `IERC20(token).safeTransfer(recipient, amount)` -/
  | safeTransfer (token recipient : Address) (amount : Nat)
  /-- `IERC20(token).safeTransferFrom(sender, address(this), amount)` -/
  | safeTransferFrom (token sender : Address) (amount : Nat)
  deriving DecidableEq

inductive Event where
  | RelayerUpdated (oldRelayer newRelayer : Address)
  | FeePercentageUpdated (oldFee newFee : Nat)
  | FeesCollected (token : Address) (amount : Nat) (recipient : Address)
  | BridgeInitiated (requestId : Nat) (sender token : Address) (amount : Nat)
  | BridgeFinalized (requestId : Nat) (relayer : Address)
  | IncomingBridgeDelivered (recipient token : Address) (amount : Nat)
  | OwnershipTransferred (previousOwner newOwner : Address)
  deriving DecidableEq

/-- What the chain keeps of a transaction that was not reverted. -/
inductive LogEntry where
  | emit (e : Event)
  /-- `FHE.allow(handle, account)` -/
  | allowed (handle : Handle) (account : Address)
  deriving DecidableEq

structure State extends FeeSettings where
  owner : Address
  relayer : Address
  collectedFees : Address → Nat
  bridgeNonce : Nat
  bridgeRequests : Nat → BridgeRequest
  /-- The status of the reentrancy guard. -/
  entered : Bool
  /-- Token balances, by token and holder. -/
  bal : Address → Address → Nat
  /-- `block.timestamp` -/
  now : Nat
  log : List LogEntry

/-- A call of the contract at `contract`. Nobody can sign for the zero
address, and the contract has no code that calls itself. -/
structure Tx (contract : Address) where
  sender : Address
  value : Nat
  fn : Fn
  sender_ne_zero : sender ≠ 0
  sender_ne_contract : sender ≠ contract

def State.note (s : State) (e : LogEntry) : State := { s with log := s.log ++ [e] }

def State.emit (s : State) (e : Event) : State := s.note (.emit e)

/-- `FHE.allow(handle, account)` -/
def State.allow (s : State) (handle : Handle) (account : Address) : State :=
  s.note (.allowed handle account)

def State.setRequest (s : State) (id : Nat) (r : BridgeRequest) : State :=
  { s with bridgeRequests := Function.update s.bridgeRequests id r }

def State.moveToken (s : State) (token sender recipient : Address) (amount : Nat) : State :=
  { s with bal := Function.update s.bal token (move (s.bal token) sender recipient amount) }

abbrev Code := Reentrancy.Code State ExtCall Revert

variable (ch : Chain) (t : Tx ch.self)

/-! ## Modifiers -/

def nonReentrant (body : State → Code) (s : State) : Code :=
  if s.entered then .revert .ReentrancyGuardReentrantCall
  else body { s with entered := true }

/-- The end of a `nonReentrant` body: the guard is given back. -/
def leave (s : State) : Code := .done { s with entered := false }

def onlyOwner (body : State → Code) (s : State) : Code :=
  if t.sender ≠ s.owner then .revert (.OwnableUnauthorizedAccount t.sender) else body s

def onlyRelayer (body : State → Code) (s : State) : Code :=
  if t.sender ≠ s.relayer then .revert .OnlyRelayer else body s

/-! ## EVM → Solana -/

/-- `initiateBridge` once the encrypted destination is accepted. -/
def recordRequest (token : Address) (amountAfterFee fee : Nat) (destinationHandle : Handle)
    (s : State) : Code :=
  let s := s.allow destinationHandle t.sender
  let s := s.allow destinationHandle ch.self
  let s := s.allow destinationHandle s.relayer
  match checkedAdd s.bridgeNonce 1 with
  | none => .revert .Panic
  | some requestId =>
      let s := { s with bridgeNonce := requestId }
      let s := s.setRequest requestId
        { sender := t.sender
          token := token
          amount := amountAfterFee
          encryptedSolanaDestination := destinationHandle
          timestamp := s.now
          finalized := false
          fee := fee }
      leave (s.emit (.BridgeInitiated requestId t.sender token amountAfterFee))

/-- `initiateBridge` after the tokens have come in. -/
def storeFee (token : Address) (amountAfterFee fee : Nat)
    (encryptedSolanaDestination : Bytes32) (destinationProof : List UInt8) (s : State) : Code :=
  match checkedAdd (s.collectedFees token) fee with
  | none => .revert .Panic
  | some total =>
      let s := { s with collectedFees := Function.update s.collectedFees token total }
      match ch.fromExternal t.sender encryptedSolanaDestination destinationProof with
      | none => .revert .InvalidProof
      | some destinationHandle => recordRequest ch t token amountAfterFee fee destinationHandle s

def initiateBridge (token : Address) (amount : Nat) (encryptedSolanaDestination : Bytes32)
    (destinationProof : List UInt8) : State → Code :=
  nonReentrant fun s =>
    if token = 0 then .revert .ZeroAddress
    else if amount = 0 then .revert .ZeroAmount
    else
      match calculateFee s.toFeeSettings amount with
      | none => .revert .Panic
      | some fee =>
        match checkedSub amount fee with
        | none => .revert .Panic
        | some amountAfterFee =>
            .call (.safeTransferFrom token t.sender amount) s fun ok s =>
              if ok = false then .revert (.SafeERC20FailedOperation token)
              else storeFee ch t token amountAfterFee fee encryptedSolanaDestination
                destinationProof s

def finalizeBridge (requestId : Nat) : State → Code :=
  onlyRelayer ch t <| nonReentrant fun s =>
    if (s.bridgeRequests requestId).sender = 0 then .revert .RequestNotFound
    else if (s.bridgeRequests requestId).finalized then .revert .RequestAlreadyFinalized
    else
      let s := s.setRequest requestId { s.bridgeRequests requestId with finalized := true }
      leave (s.emit (.BridgeFinalized requestId t.sender))

/-! ## Solana → EVM, fees, emergency -/

/-- `safeTransfer` as the last external call of a function. -/
def payOut (token recipient : Address) (amount : Nat) (rest : State → Code) (s : State) : Code :=
  .call (.safeTransfer token recipient amount) s fun ok s =>
    if ok then rest s else .revert (.SafeERC20FailedOperation token)

def deliverTokens (recipient token : Address) (amount : Nat) : State → Code :=
  onlyRelayer ch t <| nonReentrant fun s =>
    if recipient = 0 then .revert .ZeroAddress
    else if amount = 0 then .revert .ZeroAmount
    else payOut token recipient amount (fun s =>
      leave (s.emit (.IncomingBridgeDelivered recipient token amount))) s

def collectFees (token recipient : Address) : State → Code :=
  onlyOwner ch t <| nonReentrant fun s =>
    if recipient = 0 then .revert .ZeroAddress
    else
      let fees := s.collectedFees token
      if fees = 0 then .revert .ZeroAmount
      else
        payOut token recipient fees (fun s =>
            leave (s.emit (.FeesCollected token fees recipient)))
          { s with collectedFees := Function.update s.collectedFees token 0 }

def emergencyWithdraw (token : Address) (amount : Nat) (recipient : Address) : State → Code :=
  onlyOwner ch t <| nonReentrant fun s =>
    if recipient = 0 then .revert .ZeroAddress
    else if amount = 0 then .revert .ZeroAmount
    else payOut token recipient amount leave s

/-! ## Admin -/

def updateRelayer (newRelayer : Address) : State → Code :=
  onlyOwner ch t fun s =>
    if newRelayer = 0 then .revert .ZeroAddress
    else .done (({ s with relayer := newRelayer } : State).emit
      (.RelayerUpdated s.relayer newRelayer))

def updateFeePercentage (newFeePercentage : Nat) : State → Code :=
  onlyOwner ch t fun s =>
    if newFeePercentage > 1000 then .revert .InvalidFee
    else .done (({ s with feePercentage := newFeePercentage } : State).emit
      (.FeePercentageUpdated s.feePercentage newFeePercentage))

def updateFeeLimits (newMinFee newMaxFee : Nat) : State → Code :=
  onlyOwner ch t fun s =>
    if newMinFee ≥ newMaxFee then .revert .InvalidFee
    else .done { s with minFee := newMinFee, maxFee := newMaxFee }

/-- `Ownable.transferOwnership` -/
def transferOwnership (newOwner : Address) : State → Code :=
  onlyOwner ch t fun s =>
    if newOwner = 0 then .revert (.OwnableInvalidOwner 0)
    else .done (({ s with owner := newOwner } : State).emit
      (.OwnershipTransferred s.owner newOwner))

/-- `Ownable.renounceOwnership` -/
def renounceOwnership : State → Code :=
  onlyOwner ch t fun s =>
    .done (({ s with owner := 0 } : State).emit (.OwnershipTransferred s.owner 0))

/-! ## Entry points -/

/-- No function is payable. -/
def nonPayable (body : State → Code) (s : State) : Code :=
  if t.value ≠ 0 then .revert .NonPayable else body s

def run : State → Code :=
  match t.fn with
  | .initiateBridge token amount input proof => initiateBridge ch t token amount input proof
  | .finalizeBridge requestId => finalizeBridge ch t requestId
  | .deliverTokens recipient token amount => deliverTokens ch t recipient token amount
  | .collectFees token recipient => collectFees ch t token recipient
  | .emergencyWithdraw token amount recipient => emergencyWithdraw ch t token amount recipient
  | .updateRelayer newRelayer => updateRelayer ch t newRelayer
  | .updateFeePercentage newFeePercentage => updateFeePercentage ch t newFeePercentage
  | .updateFeeLimits newMinFee newMaxFee => updateFeeLimits ch t newMinFee newMaxFee
  | .transferOwnership newOwner => transferOwnership ch t newOwner
  | .renounceOwnership => renounceOwnership ch t

def entry : State → Code := nonPayable ch t (run ch t)

/-- What an external call does before the callee has control. What a token
that is not exact does to its own ledger is left to the callee. -/
def deliver (x : ExtCall) (s : State) : Option State :=
  match x with
  | .safeTransfer token recipient amount =>
      if ch.exact token then
        if amount ≤ s.bal token ch.self then some (s.moveToken token ch.self recipient amount)
        else none
      else some s
  | .safeTransferFrom token sender amount =>
      if ch.exact token then
        if amount ≤ s.bal token sender then some (s.moveToken token sender ch.self amount)
        else none
      else some s

/-- What others can do on the chain without calling the contract: give it
tokens, and whatever does not touch its exact tokens. -/
inductive Outside : State → State → Prop where
  | donate (s : State) (token : Address) (amount : Nat) :
      Outside s
        { s with
          bal := Function.update s.bal token
            (Function.update (s.bal token) ch.self (s.bal token ch.self + amount)) }
  | others (s : State) (bal : Address → Address → Nat)
      (sameBal : ∀ token, ch.exact token = true →
        bal token ch.self = s.bal token ch.self) :
      Outside s { s with bal := bal }

/-- The contract among callees that may do anything. -/
def contract : Reentrancy.Contract (Tx ch.self) State ExtCall Revert where
  entry := entry ch
  deliver := fun _ => deliver ch
  outside := Outside ch

/-! ## Deployment and runs -/

/-- The chain when the contract is deployed: it owns nothing yet. -/
structure Genesis where
  bal : Address → Address → Nat
  now : Nat
  no_tokens : ∀ token, bal token ch.self = 0

/-- The constructor. -/
def deploy (g : Genesis ch) (relayer initialOwner : Address) : Except Revert State :=
  if initialOwner = 0 then .error (.OwnableInvalidOwner 0)
  else if relayer = 0 then .error .ZeroAddress
  else .ok
    { owner := initialOwner
      relayer := relayer
      collectedFees := fun _ => 0
      bridgeNonce := 0
      bridgeRequests := fun _ => BridgeRequest.empty
      entered := false
      bal := g.bal
      now := g.now
      log := [] }

/-- The states between transactions of a deployed contract, in a history
whose calls all meet a condition on the state before them. -/
inductive Reachable (allowed : Fn → State → Prop) : State → Prop where
  | deployed (g : Genesis ch) (relayer initialOwner : Address) {s : State}
      (h : deploy ch g relayer initialOwner = .ok s) : Reachable allowed s
  | tx {s s' : State} (before : Reachable allowed s) (t : Tx ch.self)
      (allows : allowed t.fn s)
      (commits : Reentrancy.Commits (contract ch) t s s') : Reachable allowed s'
  | outside {s s' : State} (before : Reachable allowed s) (move : Outside ch s s') :
      Reachable allowed s'
  | tick {s : State} (before : Reachable allowed s) (time : Nat) (later : s.now ≤ time) :
      Reachable allowed { s with now := time }

end LunarysBridge.Evm.LegacyRelayer
