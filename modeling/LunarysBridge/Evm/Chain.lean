/-
LunarysBridge.Evm.Chain — the chain around the `NewRelayer` contract: its
storage, the ledgers it moves value on, and the record of what happened.

`State` is the contract's storage as the source declares it, next to the
two ledgers of the chain (ETH and ERC-20 balances), the clock, and `log`.
The log is what the chain keeps of a transaction that was not reverted:
the events, the value that came in and went out, the FHE permissions
granted. Accounting statements are statements about sums over it.

A `uint256` is a `Nat` that the code's checked arithmetic keeps below
`2 ^ 256`; a cast to `uint64` is `uint64`.
-/
import LunarysBridge.Lib.Reentrancy
import Mathlib.Algebra.GroupWithZero.Nat

namespace LunarysBridge.Evm

abbrev Address := BitVec 160

abbrev Bytes32 := BitVec 256

/-- An FHE ciphertext handle (`euint256`). -/
abbrev Handle := BitVec 256

/-! ## Checked arithmetic -/

def checkedAdd (a b : Nat) : Option Nat :=
  if a + b < 2 ^ 256 then some (a + b) else none

def checkedSub (a b : Nat) : Option Nat :=
  if b ≤ a then some (a - b) else none

def checkedMul (a b : Nat) : Option Nat :=
  if a * b < 2 ^ 256 then some (a * b) else none

theorem checkedAdd_some {a b c : Nat} (h : checkedAdd a b = some c) : c = a + b := by
  simp only [checkedAdd, Option.ite_none_right_eq_some, Option.some.injEq] at h
  exact h.2.symm

theorem checkedSub_some {a b c : Nat} (h : checkedSub a b = some c) : c + b = a := by
  simp only [checkedSub, Option.ite_none_right_eq_some, Option.some.injEq] at h
  omega

theorem checkedMul_some {a b c : Nat} (h : checkedMul a b = some c) : c = a * b := by
  simp only [checkedMul, Option.ite_none_right_eq_some, Option.some.injEq] at h
  exact h.2.symm

/-- The cast `uint64(n)`, which drops the high bits. -/
def uint64 (n : Nat) : Nat := n % 2 ^ 64

/-! ## Storage records -/

/-- EVM → Solana request. -/
structure BridgeRequest where
  sender : Address
  token : Address
  amount : Nat
  encryptedSolanaDestination : Handle
  timestamp : Nat
  finalized : Bool
  fee : Nat
  deriving DecidableEq

/-- Competitive claim per request. -/
structure Claim where
  solver : Address
  claimedAt : Nat
  deadline : Nat
  bond : Nat
  deriving DecidableEq

/-- An entry of the request mapping that was never written. -/
def BridgeRequest.empty : BridgeRequest := ⟨0, 0, 0, 0, 0, false, 0⟩

/-- An entry of the claim mapping that was never written, or was reset. -/
def Claim.empty : Claim := ⟨0, 0, 0, 0⟩

/-! ## Calls, external calls, events -/

/-- The external functions of the contract with their arguments. -/
inductive Fn where
  | initiateBridge (token : Address) (amount : Nat)
      (encryptedSolanaDestination : Bytes32) (destinationProof : List UInt8)
  | claimBridge (requestId : Nat)
  | verifyAndSettle (requestId : Nat) (destTxHash evidenceHash : Bytes32)
  | verifyAndSettleURL (requestId : Nat) (destTxHash evidenceHash : Bytes32)
      (evidenceURL : String)
  | releaseExpiredClaim (requestId : Nat)
  | deliverTokens (recipient token : Address) (amount : Nat)
  | collectFees (token recipient : Address)
  | emergencyWithdraw (token : Address) (amount : Nat) (recipient : Address)
  | updateRelayer (newRelayer : Address)
  | updateFeePercentage (newFeePercentage : Nat)
  | updateFeeLimits (newMinFee newMaxFee : Nat)
  | updateClaimWindow (newWindow : Nat)
  | updateMinSolverBond (newMinBond : Nat)
  | updateSlashParams (newSlashBps : Nat) (newCollector : Address)
  | authorizeNode (node : Address)
  | revokeNode (node : Address)
  | transferOwnership (newOwner : Address)
  | renounceOwnership
  deriving DecidableEq

/-- The request a call settles, if it is one of the two settlement
overloads. -/
def Fn.settles : Fn → Option Nat
  | .verifyAndSettle requestId _ _ => some requestId
  | .verifyAndSettleURL requestId _ _ _ => some requestId
  | _ => none

/-- The external calls the contract makes. -/
inductive ExtCall where
  /-- `payable(to).call{value: value}("")` -/
  | send (recipient : Address) (value : Nat)
  /-- `IERC20(token).safeTransfer(to, amount)` -/
  | safeTransfer (token recipient : Address) (amount : Nat)
  /-- `IERC20(token).safeTransferFrom(sender, address(this), amount)` -/
  | safeTransferFrom (token sender : Address) (amount : Nat)
  deriving DecidableEq

inductive Event where
  | RelayerUpdated (oldRelayer newRelayer : Address)
  | FeePercentageUpdated (oldFee newFee : Nat)
  | FeeLimitsUpdated (newMinFee newMaxFee : Nat)
  | BridgeInitiated (requestId : Nat) (sender token : Address)
      (amountAfterFee : Nat)
  | BridgeClaimed (requestId : Nat) (solver : Address) (bond deadline : Nat)
  | BridgeClaimExpired (requestId : Nat) (oldSolver : Address) (slashed : Nat)
  | BridgeVerified (requestId : Nat) (relayer : Address)
      (destTxHash evidenceHash : Bytes32)
  | BridgeVerifiedURL (requestId : Nat) (relayer : Address)
      (destTxHash evidenceHash : Bytes32) (evidenceURL : String)
  | BridgePaidToSolver (requestId : Nat) (solver token : Address)
      (payoutAmount : Nat)
  | SolverBondRefunded (requestId : Nat) (solver : Address) (refundedBond : Nat)
  | IncomingBridgeDelivered (recipient token : Address) (amount : Nat)
  | FeesCollected (token : Address) (amount : Nat) (recipient : Address)
  | NodeAuthorized (node : Address)
  | NodeRevoked (node : Address)
  | OwnershipTransferred (previousOwner newOwner : Address)
  deriving DecidableEq

/-- What the chain keeps of a transaction that was not reverted. -/
inductive LogEntry where
  | emit (e : Event)
  /-- ETH that came with a call of the contract. -/
  | received (fn : Fn) (value : Nat)
  /-- An external call made while the contract ran `fn`. -/
  | called (fn : Fn) (x : ExtCall)
  /-- `FHE.allow(handle, account)` -/
  | allowed (handle : Handle) (account : Address)
  /-- Tokens somebody moved to the contract by a plain transfer. -/
  | donated (token : Address) (amount : Nat)
  /-- ETH forced on the contract (it has no `receive` function). -/
  | forced (amount : Nat)
  /-- Bookkeeping the source does not do: a slash computed while
  `slashCollector` was the zero address, so it is sent to nobody. -/
  | retained (requestId slashAmt : Nat)
  deriving DecidableEq

/-- Why a call reverts. -/
inductive Revert where
  | OnlyRelayer
  | NotAuthorizedNode
  | ZeroAddress
  | ZeroAmount
  | InvalidFee
  | RequestAlreadyFinalized
  | RequestNotFound
  | ActiveClaim
  | ClaimExpired
  | NoClaim
  | BondTooLow
  /-- `require(_, reason)` -/
  | failed (reason : String)
  /-- Checked arithmetic went out of range. -/
  | Panic
  | ReentrancyGuardReentrantCall
  | OwnableUnauthorizedAccount (account : Address)
  | OwnableInvalidOwner (owner : Address)
  | SafeERC20FailedOperation (token : Address)
  /-- The FHE library rejects the proof of an encrypted input. -/
  | InvalidProof
  /-- ETH sent to a function that is not payable. -/
  | NonPayable
  /-- The caller does not have the ETH it sends. -/
  | InsufficientBalance
  deriving DecidableEq

/-! ## State -/

structure State where
  owner : Address
  relayer : Address
  feePercentage : Nat
  minFee : Nat
  maxFee : Nat
  claimWindow : Nat
  minSolverBond : Nat
  slashBps : Nat
  slashCollector : Address
  authorizedNodes : Address → Bool
  nodesList : List Address
  bridgeNonce : Nat
  collectedFees : Address → Nat
  bridgeRequests : Nat → BridgeRequest
  requestClaim : Nat → Claim
  requestFeeEscrow : Nat → Nat
  /-- The status of the reentrancy guard. -/
  entered : Bool
  /-- ETH balances. -/
  eth : Address → Nat
  /-- Token balances, by token and holder. -/
  bal : Address → Address → Nat
  /-- `block.timestamp` -/
  now : Nat
  log : List LogEntry

/-- What is outside this contract: its address, which tokens move exactly
the amount asked for, and the FHE library's check of an encrypted input
(by sender, input and proof). -/
structure Chain where
  self : Address
  exact : Address → Bool
  fromExternal : Address → Bytes32 → List UInt8 → Option Handle

/-- A call of the contract at `contract`. Nobody can sign for the zero
address, and the contract has no code that calls itself. -/
structure Tx (contract : Address) where
  sender : Address
  value : Nat
  fn : Fn
  sender_ne_zero : sender ≠ 0
  sender_ne_contract : sender ≠ contract

def State.note (s : State) (e : LogEntry) : State :=
  { s with log := s.log ++ [e] }

def State.emit (s : State) (e : Event) : State := s.note (.emit e)

def State.setRequest (s : State) (id : Nat) (r : BridgeRequest) : State :=
  { s with bridgeRequests := Function.update s.bridgeRequests id r }

def State.setClaim (s : State) (id : Nat) (c : Claim) : State :=
  { s with requestClaim := Function.update s.requestClaim id c }

def State.setFeeEscrow (s : State) (id fee : Nat) : State :=
  { s with requestFeeEscrow := Function.update s.requestFeeEscrow id fee }

/-- `FHE.allow(handle, account)` -/
def State.allow (s : State) (handle : Handle) (account : Address) : State :=
  s.note (.allowed handle account)

/-! ## Moving value -/

/-- Move `amount` from one holder to the other on one ledger. -/
def move (ledger : Address → Nat) (sender recipient : Address) (amount : Nat) :
    Address → Nat :=
  let debited := Function.update ledger sender (ledger sender - amount)
  Function.update debited recipient (debited recipient + amount)

def State.moveEth (s : State) (sender recipient : Address) (value : Nat) : State :=
  { s with eth := move s.eth sender recipient value }

def State.moveToken (s : State) (token sender recipient : Address) (amount : Nat) :
    State :=
  { s with
    bal := Function.update s.bal token (move (s.bal token) sender recipient amount) }

/-- What an external call does before the callee has control. The contract
cannot send ETH to itself, having no `receive` function. What a token that
is not exact does to its own ledger is left to the callee. -/
def deliver (ch : Chain) (t : Tx ch.self) (x : ExtCall) (s : State) :
    Option State :=
  match x with
  | .send recipient value =>
      if recipient ≠ ch.self ∧ value ≤ s.eth ch.self then
        some ((s.moveEth ch.self recipient value).note (.called t.fn x))
      else none
  | .safeTransfer token recipient amount =>
      if ch.exact token then
        if amount ≤ s.bal token ch.self then
          some ((s.moveToken token ch.self recipient amount).note (.called t.fn x))
        else none
      else some (s.note (.called t.fn x))
  | .safeTransferFrom token sender amount =>
      if ch.exact token then
        if amount ≤ s.bal token sender then
          some ((s.moveToken token sender ch.self amount).note (.called t.fn x))
        else none
      else some (s.note (.called t.fn x))

/-- What others can do on the chain without calling the contract: give it
tokens or ETH, and whatever does not touch its ETH and its exact tokens. -/
inductive Outside (ch : Chain) : State → State → Prop where
  | donate (s : State) (token : Address) (amount : Nat) :
      Outside ch s
        { s with
          bal := Function.update s.bal token
            (Function.update (s.bal token) ch.self (s.bal token ch.self + amount))
          log := s.log ++ [.donated token amount] }
  | force (s : State) (amount : Nat) :
      Outside ch s
        { s with
          eth := Function.update s.eth ch.self (s.eth ch.self + amount)
          log := s.log ++ [.forced amount] }
  | others (s : State) (eth : Address → Nat) (bal : Address → Address → Nat)
      (sameEth : eth ch.self = s.eth ch.self)
      (sameBal : ∀ token, ch.exact token = true →
        bal token ch.self = s.bal token ch.self) :
      Outside ch s { s with eth := eth, bal := bal }

end LunarysBridge.Evm
