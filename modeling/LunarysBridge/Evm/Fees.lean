/-
LunarysBridge.Evm.Fees — the fee of a deposit on `NewRelayer`, as a tariff.

`_calculateFee` is the tariff of the parameters, where its product does not
overflow. In a reachable state the parameters are in their ranges, and the
tariff is a moderate one. `Recorded` is what a deposit that went through has
written, with the parameters of the state it started in, whatever the token
did while the contract waited for it.
-/
import LunarysBridge.Lib.Tariff
import LunarysBridge.Evm.Receipts

namespace LunarysBridge.Evm

variable {ch : Chain} {t : Tx ch.self} {s s' : State} {token : Address} {amount : Nat}
  {input : Bytes32} {proof : List UInt8}

/-- The tariff of the parameters. -/
def State.tariff (s : State) : Tariff where
  share := Tariff.percentage s.feePercentage 10000
  floor := s.minFee
  ceiling := s.maxFee

theorem calculateFee_eq (s : State) (amount : Nat) : calculateFee s amount =
    if amount * s.feePercentage < 2 ^ 256 then some (s.tariff.fee amount) else none := by
  unfold calculateFee checkedMul
  by_cases hlt : amount * s.feePercentage < 2 ^ 256
  · simp only [if_pos hlt, Tariff.fee, Tariff.held_eq_ite]
    rfl
  · simp only [if_neg hlt]

theorem Sound.moderate (h : Sound ch s) : s.tariff.Moderate := by
  have hfee := h.fee
  exact Tariff.moderate_percentage (by omega) _ _

theorem Sound.least (h : Sound ch s) : s.tariff.least = s.minFee :=
  Nat.min_eq_left (Nat.le_of_lt h.limits)

/-! ## What a deposit writes -/

/-- The newest request of `s'` has the fee of `amount` at the parameters of
`s`. -/
structure Recorded (s : State) (amount : Nat) (s' : State) : Prop where
  positive : 0 < amount
  inRange : amount * s.feePercentage < 2 ^ 256
  fee : (s'.bridgeRequests s'.bridgeNonce).fee = s.tariff.fee amount
  net : (s'.bridgeRequests s'.bridgeNonce).amount = s.tariff.net amount
  escrow : s'.requestFeeEscrow s'.bridgeNonce = s.tariff.fee amount

theorem always_recordRequest {post : State → Prop} {amountAfterFee fee : Nat} {handle : Handle}
    (h : ∀ s' : State, (s'.bridgeRequests s'.bridgeNonce).fee = fee →
      (s'.bridgeRequests s'.bridgeNonce).amount = amountAfterFee →
      s'.requestFeeEscrow s'.bridgeNonce = fee → post s') (s : State) :
    Reentrancy.Always post (recordRequest ch t token amountAfterFee fee handle s) := by
  unfold recordRequest
  simp only []
  split
  · trivial
  · apply h <;>
      simp [State.emit, State.note, State.allow, State.setRequest, State.setFeeEscrow]

theorem always_require {post : State → Prop} {c : Prop} [Decidable c] {e : Revert} {p : Code}
    (h : ¬ c → Reentrancy.Always post p) :
    Reentrancy.Always post (if c then .revert e else p) := by
  split
  · trivial
  · next hc => exact h hc

theorem always_initiateBridge (s : State) :
    Reentrancy.Always (Recorded s amount) (initiateBridge ch t token amount input proof s) := by
  refine always_require fun _ => always_require fun _ => always_require fun hpos => ?_
  have htariff : calculateFee { s with entered := true } amount = calculateFee s amount := rfl
  rw [htariff, calculateFee_eq]
  by_cases hlt : amount * s.feePercentage < 2 ^ 256
  · have hle := s.tariff.fee_le amount
    simp only [if_pos hlt, checkedSub, if_pos hle]
    refine fun ok s₁ => always_require fun _ => ?_
    split
    · trivial
    · exact always_recordRequest
        (fun s' hfee hnet hescrow => ⟨Nat.pos_of_ne_zero hpos, hlt, hfee, hnet, hescrow⟩) s₁
  · rw [if_neg hlt]
    trivial

/-- **A deposit that goes through** records the fee and the rest of its
amount, whoever the token calls. -/
theorem recorded_of_commits (hfn : t.fn = .initiateBridge token amount input proof)
    (hc : Reentrancy.Commits (contract ch) t s s') : Recorded s amount s' := by
  refine Reentrancy.exec_of_always (Recorded s amount) (entry ch t s) hc ?_
  unfold entry
  rw [hfn]
  exact always_require fun _ => always_initiateBridge s

/-! ### The first deposit -/

namespace Sample

theorem deployed_isSome : (after []).isSome = true := rfl

def deployed : State := (after []).get deployed_isSome

theorem deployed_reachable : Reachable chain deployed :=
  reachable_after (Option.some_get deployed_isSome).symm

theorem deployed_fees : deployed.feePercentage = 30 ∧ deployed.minFee = 10 ^ 15 ∧
    deployed.maxFee = 10 ^ 20 := by decide +kernel

/-- The user deposits the amount. -/
def deposit (amount : Nat) : Tx chain.self :=
  call 4 0 (.initiateBridge 9 amount 77 []) user_ne

theorem deposit_commits (amount : Nat) (h : (Reentrancy.accepting (contract chain)
      (deposit amount) (entry chain (deposit amount) deployed)).isSome = true) :
    ∃ s', Reentrancy.Commits (contract chain) (deposit amount) deployed s' := by
  obtain ⟨s', hs⟩ := Option.isSome_iff_exists.mp h
  exact ⟨s', Reentrancy.exec_of_accepting _ hs⟩

end Sample

end LunarysBridge.Evm
