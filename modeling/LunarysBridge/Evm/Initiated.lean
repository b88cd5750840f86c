/-
LunarysBridge.Evm.Initiated — what a deposit on `NewRelayer` leaves behind.

The last thing `initiateBridge` does is to announce the request it has
written. So who looks at the end of the log finds the number of the request,
and under it a deposit of the transaction's sender: the token, the whole
amount in two parts, and the handle that the FHE library made of the input.
-/
import LunarysBridge.Evm.Fees

namespace LunarysBridge.Evm

variable {ch : Chain} {t : Tx ch.self} {s s' : State} {token : Address} {amount : Nat}
  {input : Bytes32} {proof : List UInt8}

/-- The request announced at the end of a log. -/
def announcedLast (log : List LogEntry) : Option Nat :=
  match log.getLast? with
  | some (.emit (.BridgeInitiated requestId _ _ _)) => some requestId
  | _ => none

/-- The request is this deposit of the user. -/
structure BridgeRequest.DepositOf (ch : Chain) (user erc20 : Address) (amount : Nat)
    (input : Bytes32) (proof : List UInt8) (r : BridgeRequest) : Prop where
  sender : r.sender = user
  token : r.token = erc20
  total : r.amount + r.fee = amount
  destination : ch.fromExternal user input proof = some r.encryptedSolanaDestination

theorem BridgeRequest.DepositOf.kept {user : Address} {r r' : BridgeRequest}
    (h : r.DepositOf ch user token amount input proof) (hsame : r.SameDeposit r') :
    r'.DepositOf ch user token amount input proof where
  sender := hsame.sender.trans h.sender
  token := hsame.token.trans h.token
  total := by rw [hsame.amount, hsame.fee, h.total]
  destination := by rw [hsame.destination, h.destination]

/-- The newest request is this deposit, and announced last. -/
structure Initiated (ch : Chain) (t : Tx ch.self) (token : Address) (amount : Nat)
    (input : Bytes32) (proof : List UInt8) (s' : State) : Prop where
  deposit : (s'.bridgeRequests s'.bridgeNonce).DepositOf ch t.sender token amount input proof
  announced : announcedLast s'.log = some s'.bridgeNonce

theorem always_recordInitiated {amountAfterFee fee : Nat} {handle : Handle}
    (htotal : amountAfterFee + fee = amount)
    (hhandle : ch.fromExternal t.sender input proof = some handle) (s : State) :
    Reentrancy.Always (Initiated ch t token amount input proof)
      (recordRequest ch t token amountAfterFee fee handle s) := by
  unfold recordRequest
  simp only []
  split
  · trivial
  · constructor
    · constructor <;>
        simp [State.emit, State.note, State.allow, State.setRequest, State.setFeeEscrow, htotal,
          hhandle]
    · simp [announcedLast, State.emit, State.note, State.allow, State.setRequest,
        State.setFeeEscrow]

theorem always_initiated (s : State) :
    Reentrancy.Always (Initiated ch t token amount input proof)
      (initiateBridge ch t token amount input proof s) := by
  refine always_require fun _ => always_require fun _ => always_require fun _ => ?_
  split
  · trivial
  · next fee _ =>
    split
    · trivial
    · next amountAfterFee hsub =>
      have htotal := checkedSub_some hsub
      refine fun ok s₁ => always_require fun _ => ?_
      split
      · trivial
      · next handle hhandle => exact always_recordInitiated htotal hhandle s₁

/-- **A deposit that goes through** has the next number, and is what was sent,
whoever the token calls. -/
theorem Valid.initiated (h : Valid ch s) (hfn : t.fn = .initiateBridge token amount input proof)
    (hc : Reentrancy.Commits (contract ch) t s s') :
    s'.bridgeNonce = s.bridgeNonce + 1 ∧ Initiated ch t token amount input proof s' := by
  have hstep := (h.commits hc).step
  rw [hfn] at hstep
  refine ⟨hstep.deposited.1, ?_⟩
  refine Reentrancy.exec_of_always (Initiated ch t token amount input proof) (entry ch t s) hc ?_
  unfold entry
  rw [hfn]
  exact always_require fun _ => always_initiated s

end LunarysBridge.Evm
