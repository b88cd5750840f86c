/-
LunarysBridge.Evm.AccruedFees — the owner's fees and the balance of the
legacy contract.

`collectedFees` is a number; the tokens it counts lie in the balance that
`deliverTokens` sends from. They stay there through a delivery exactly if
the delivery leaves them (`Spares`), and in a run whose withdrawals all do
the owner can collect what was counted, in every state.
-/
import LunarysBridge.Evm.LegacyRelayer
import LunarysBridge.Evm.Deliveries

namespace LunarysBridge.Evm.LegacyRelayer

variable {ch : Chain} {t : Tx ch.self} {s s' s₁ s₂ : State} {recipient token token' : Address}
  {amount : Nat}

/-- The contract has the tokens it counts as fees. -/
def Backed (ch : Chain) (token : Address) (s : State) : Prop :=
  s.collectedFees token ≤ s.bal token ch.self

/-- The recipient, the token and the amount of a call that sends what the
contract has. -/
def Fn.withdrawal : Fn → Option (Address × Address × Nat)
  | .deliverTokens recipient token amount => some (recipient, token, amount)
  | .emergencyWithdraw token amount recipient => some (recipient, token, amount)
  | _ => none

/-- If the call withdraws tokens of this kind, it leaves the fees. -/
def Spares (ch : Chain) (token : Address) (fn : Fn) (s : State) : Prop :=
  ∀ recipient amount, fn.withdrawal = some (recipient, token, amount) →
    leaving ch recipient amount + s.collectedFees token ≤ s.bal token ch.self

/-- A fee is counted and its deposit is there. -/
theorem Backed.counted {fee : Nat} (hb : Backed ch token s)
    (hfees : s'.collectedFees =
      Function.update s.collectedFees token' (s.collectedFees token' + fee))
    (hle : fee ≤ amount)
    (hbal : s.bal token ch.self + (if token' = token then amount else 0) ≤
      s'.bal token ch.self) : Backed ch token s' := by
  unfold Backed at hb ⊢
  rw [hfees]
  by_cases htok : token' = token
  · subst htok
    rw [if_pos rfl] at hbal
    rw [Function.update_self]
    omega
  · rw [if_neg htok] at hbal
    rw [Function.update_of_ne (Ne.symm htok)]
    omega

/-- The fees of a token are taken, and no other token is touched. -/
theorem Backed.emptied (hb : Backed ch token s)
    (hfees : s'.collectedFees = Function.update s.collectedFees token' 0)
    (hbal : s.bal token ch.self ≤ s'.bal token ch.self +
      (if token' = token then amount else 0)) : Backed ch token s' := by
  unfold Backed at hb ⊢
  rw [hfees]
  by_cases htok : token' = token
  · subst htok
    rw [Function.update_self]
    exact Nat.zero_le _
  · rw [if_neg htok] at hbal
    rw [Function.update_of_ne (Ne.symm htok)]
    exact hb.trans hbal

/-! ## External calls -/

theorem deliver_safeTransfer (h : deliver ch (.safeTransfer token recipient amount) s = some s₁) :
    (ch.exact token = true ∧ amount ≤ s.bal token ch.self ∧
      s₁ = s.moveToken token ch.self recipient amount) ∨ (ch.exact token = false ∧ s₁ = s) := by
  simp only [deliver] at h
  split at h
  · next hexact =>
    split at h
    · next hle => exact .inl ⟨hexact, hle, (Option.some.inj h).symm⟩
    · cases h
  · next hexact => exact .inr ⟨Bool.eq_false_iff.mpr hexact, (Option.some.inj h).symm⟩

theorem deliver_safeTransferFrom {sender : Address}
    (h : deliver ch (.safeTransferFrom token sender amount) s = some s₁) :
    (ch.exact token = true ∧ s₁ = s.moveToken token sender ch.self amount) ∨
      (ch.exact token = false ∧ s₁ = s) := by
  simp only [deliver] at h
  split at h
  · next hexact =>
    split at h
    · exact .inl ⟨hexact, (Option.some.inj h).symm⟩
    · cases h
  · next hexact => exact .inr ⟨Bool.eq_false_iff.mpr hexact, (Option.some.inj h).symm⟩

/-- An external call moves tokens, and nothing else. -/
theorem deliver_fees {x : ExtCall} (h : deliver ch x s = some s₁) :
    s₁.collectedFees = s.collectedFees ∧ s₁.entered = s.entered := by
  cases x with
  | safeTransfer token recipient amount =>
      rcases deliver_safeTransfer h with ⟨_, _, rfl⟩ | ⟨_, rfl⟩
      · exact ⟨rfl, rfl⟩
      · exact ⟨rfl, rfl⟩
  | safeTransferFrom token sender amount =>
      rcases deliver_safeTransferFrom h with ⟨_, rfl⟩ | ⟨_, rfl⟩
      · exact ⟨rfl, rfl⟩
      · exact ⟨rfl, rfl⟩

theorem deliver_out (hexact : ch.exact token = true)
    (h : deliver ch (.safeTransfer token' recipient amount) s = some s₁) :
    s₁.bal token ch.self + (if token' = token then leaving ch recipient amount else 0) =
      s.bal token ch.self := by
  by_cases htok : token' = token
  · subst htok
    rcases deliver_safeTransfer h with ⟨_, hle, rfl⟩ | ⟨hinexact, _⟩
    · simp only [State.moveToken, Function.update_self, if_true]
      exact move_leaving hle
    · exact absurd (hexact.symm.trans hinexact) (by decide)
  · rw [if_neg htok]
    rcases deliver_safeTransfer h with ⟨_, _, rfl⟩ | ⟨_, rfl⟩
    · simp [State.moveToken, Function.update_of_ne (Ne.symm htok)]
    · rfl

theorem deliver_in {sender : Address} (hsender : sender ≠ ch.self)
    (hexact : ch.exact token = true)
    (h : deliver ch (.safeTransferFrom token' sender amount) s = some s₁) :
    s₁.bal token ch.self = s.bal token ch.self + (if token' = token then amount else 0) := by
  by_cases htok : token' = token
  · subst htok
    rcases deliver_safeTransferFrom h with ⟨_, rfl⟩ | ⟨hinexact, _⟩
    · simp only [State.moveToken, Function.update_self, if_true]
      exact move_recipient hsender.symm
    · exact absurd (hexact.symm.trans hinexact) (by decide)
  · rw [if_neg htok]
    rcases deliver_safeTransferFrom h with ⟨_, rfl⟩ | ⟨_, rfl⟩
    · simp [State.moveToken, Function.update_of_ne (Ne.symm htok)]
    · rfl

/-! ## What others may do meanwhile -/

/-- The fees are counted as before, and no exact token was taken. -/
structure Undisturbed (ch : Chain) (s s' : State) : Prop where
  collectedFees : s'.collectedFees = s.collectedFees
  entered : s'.entered = s.entered
  bal : ∀ token, ch.exact token = true → s.bal token ch.self ≤ s'.bal token ch.self

theorem Undisturbed.of_eq (hfees : s'.collectedFees = s.collectedFees)
    (hentered : s'.entered = s.entered) (hbal : s'.bal = s.bal) : Undisturbed ch s s' :=
  ⟨hfees, hentered, fun _ _ => by rw [hbal]⟩

theorem undisturbed_outside (h : Outside ch s s') : Undisturbed ch s s' := by
  cases h with
  | donate given amount =>
      refine ⟨rfl, rfl, fun token _ => ?_⟩
      by_cases htok : token = given
      · subst htok
        simp
      · simp [Function.update_of_ne htok]
  | others bal sameBal =>
      exact ⟨rfl, rfl, fun token hexact => (sameBal token hexact).ge⟩

theorem Undisturbed.backed (h : Undisturbed ch s s') (hexact : ch.exact token = true)
    (hb : Backed ch token s) : Backed ch token s' := by
  unfold Backed at hb ⊢
  rw [h.collectedFees]
  exact hb.trans (h.bal token hexact)

/-- A function that only writes a parameter. -/
theorem quiet_onlyOwner {body : State → Code}
    (h : Reentrancy.Quiet (Undisturbed ch) s (body s)) :
    Reentrancy.Quiet (Undisturbed ch) s (onlyOwner ch t body s) :=
  Reentrancy.quiet_check fun _ => h

theorem quiet_updateRelayer (newRelayer : Address) :
    Reentrancy.Quiet (Undisturbed ch) s (updateRelayer ch t newRelayer s) :=
  quiet_onlyOwner (Reentrancy.quiet_check fun _ =>
    Reentrancy.quiet_done (.of_eq rfl rfl rfl))

theorem quiet_updateFeePercentage (newFeePercentage : Nat) :
    Reentrancy.Quiet (Undisturbed ch) s (updateFeePercentage ch t newFeePercentage s) :=
  quiet_onlyOwner (Reentrancy.quiet_check fun _ =>
    Reentrancy.quiet_done (.of_eq rfl rfl rfl))

theorem quiet_updateFeeLimits (newMinFee newMaxFee : Nat) :
    Reentrancy.Quiet (Undisturbed ch) s (updateFeeLimits ch t newMinFee newMaxFee s) :=
  quiet_onlyOwner (Reentrancy.quiet_check fun _ =>
    Reentrancy.quiet_done (.of_eq rfl rfl rfl))

theorem quiet_transferOwnership (newOwner : Address) :
    Reentrancy.Quiet (Undisturbed ch) s (transferOwnership ch t newOwner s) :=
  quiet_onlyOwner (Reentrancy.quiet_check fun _ =>
    Reentrancy.quiet_done (.of_eq rfl rfl rfl))

theorem quiet_renounceOwnership :
    Reentrancy.Quiet (Undisturbed ch) s (renounceOwnership ch t s) :=
  quiet_onlyOwner (Reentrancy.quiet_done (.of_eq rfl rfl rfl))

/-- The guard turns away every call while it is taken. -/
theorem quiet_nonReentrant (hl : s.entered = true) (body : State → Code) :
    Reentrancy.Quiet (Undisturbed ch) s (nonReentrant body s) :=
  Reentrancy.quiet_check fun hentered => absurd hl hentered

theorem entry_locked (t : Tx ch.self) (s : State) (hl : s.entered = true) :
    Reentrancy.Quiet (Undisturbed ch) s (entry ch t s) := by
  refine Reentrancy.quiet_check fun _ => ?_
  unfold run
  cases t.fn with
  | initiateBridge token amount input proof => exact quiet_nonReentrant hl _
  | finalizeBridge requestId =>
      exact Reentrancy.quiet_check fun _ => quiet_nonReentrant hl _
  | deliverTokens recipient token amount =>
      exact Reentrancy.quiet_check fun _ => quiet_nonReentrant hl _
  | collectFees token recipient => exact quiet_onlyOwner (quiet_nonReentrant hl _)
  | emergencyWithdraw token amount recipient =>
      exact quiet_onlyOwner (quiet_nonReentrant hl _)
  | updateRelayer newRelayer => exact quiet_updateRelayer newRelayer
  | updateFeePercentage newFeePercentage => exact quiet_updateFeePercentage newFeePercentage
  | updateFeeLimits newMinFee newMaxFee => exact quiet_updateFeeLimits newMinFee newMaxFee
  | transferOwnership newOwner => exact quiet_transferOwnership newOwner
  | renounceOwnership => exact quiet_renounceOwnership

theorem guarded (ch : Chain) :
    Reentrancy.Guarded (contract ch) (fun s => s.entered = true) (Undisturbed ch) where
  refl _ := .of_eq rfl rfl rfl
  trans h₁ h₂ := ⟨h₂.collectedFees.trans h₁.collectedFees, h₂.entered.trans h₁.entered,
    fun token hexact => (h₁.bal token hexact).trans (h₂.bal token hexact)⟩
  keeps h hl := h.entered.trans hl
  outside := undisturbed_outside
  entry := entry_locked

/-! ## Transfers out -/

/-- Code that ends at once, with fees and balances as they are. -/
def Ending (rest : State → Code) : Prop :=
  ∀ s, ∃ s', rest s = .done s' ∧ s'.collectedFees = s.collectedFees ∧ s'.bal = s.bal

theorem ending_emit (e : Event) : Ending fun s => leave (s.emit e) :=
  fun _ => ⟨_, rfl, rfl, rfl⟩

theorem ending_leave : Ending leave := fun _ => ⟨_, rfl, rfl, rfl⟩

/-- An external call under the guard, up to the return of its callee. -/
theorem call_returns {x : ExtCall} {k : Bool → State → Code} {e : Revert}
    (hl : s.entered = true) (hk : k false s = .revert e)
    (h : Reentrancy.Exec (contract ch) t (.call x s k) s') :
    ∃ s₁ s₂, deliver ch x s = some s₁ ∧ s₁.collectedFees = s.collectedFees ∧
      Undisturbed ch s₁ s₂ ∧ Reentrancy.Exec (contract ch) t (k true s₂) s' := by
  obtain ⟨s₁, s₂, sent, during, rest⟩ := Reentrancy.exec_call hk h
  have hsent : deliver ch x s = some s₁ := sent
  obtain ⟨hfees, hentered⟩ := deliver_fees hsent
  exact ⟨s₁, s₂, hsent, hfees, (guarded ch).callee during (hentered.trans hl), rest⟩

/-- What a transfer that ends a call leaves of an exact token. -/
theorem payOut_rest {rest : State → Code} (hrest : Ending rest) (hl : s.entered = true)
    (hexact : ch.exact token = true)
    (h : Reentrancy.Exec (contract ch) t (payOut token' recipient amount rest s) s') :
    s'.collectedFees = s.collectedFees ∧
      s.bal token ch.self ≤ s'.bal token ch.self +
        (if token' = token then leaving ch recipient amount else 0) := by
  obtain ⟨s₁, s₂, sent, hfees, hu, hend⟩ := call_returns hl rfl h
  obtain ⟨s₃, hdone, hfees₃, hbal₃⟩ := hrest s₂
  rw [if_pos rfl, hdone] at hend
  cases hend
  refine ⟨by rw [hfees₃, hu.collectedFees, hfees], ?_⟩
  have hout := deliver_out hexact sent
  have hle := hu.bal token hexact
  rw [hbal₃]
  omega

/-- The code of a withdrawal that goes through. -/
theorem entry_withdrawal (hfn : t.fn.withdrawal = some (recipient, token, amount))
    (hc : Reentrancy.Commits (contract ch) t s s') :
    ∃ rest, Ending rest ∧
      entry ch t s = payOut token recipient amount rest { s with entered := true } := by
  have h : Reentrancy.Exec (contract ch) t (nonPayable ch t (run ch t) s) s' := hc
  obtain ⟨hvalue, h⟩ := Reentrancy.exec_check h
  have hentry : entry ch t s = run ch t s := if_neg hvalue
  rw [hentry]
  unfold run at h ⊢
  cases hcall : t.fn with
  | deliverTokens recipient' token' amount' =>
      rw [hcall] at hfn h
      cases hfn
      obtain ⟨hrelayer, h⟩ := Reentrancy.exec_check h
      obtain ⟨hentered, h⟩ := Reentrancy.exec_check h
      obtain ⟨hrecipient, h⟩ := Reentrancy.exec_check h
      obtain ⟨hamount, h⟩ := Reentrancy.exec_check h
      refine ⟨_, ending_emit (.IncomingBridgeDelivered recipient token amount), ?_⟩
      exact (if_neg hrelayer).trans ((if_neg hentered).trans
        ((if_neg hrecipient).trans (if_neg hamount)))
  | emergencyWithdraw token' amount' recipient' =>
      rw [hcall] at hfn h
      cases hfn
      obtain ⟨howner, h⟩ := Reentrancy.exec_check h
      obtain ⟨hentered, h⟩ := Reentrancy.exec_check h
      obtain ⟨hrecipient, h⟩ := Reentrancy.exec_check h
      obtain ⟨hamount, h⟩ := Reentrancy.exec_check h
      refine ⟨leave, ending_leave, ?_⟩
      exact (if_neg howner).trans ((if_neg hentered).trans
        ((if_neg hrecipient).trans (if_neg hamount)))
  | _ =>
      rw [hcall] at hfn
      cases hfn

/-- Of an exact token a withdrawal leaves no less than the rest. -/
theorem withdrawal_rest (hfn : t.fn.withdrawal = some (recipient, token', amount))
    (hexact : ch.exact token = true) (hc : Reentrancy.Commits (contract ch) t s s') :
    s'.collectedFees = s.collectedFees ∧
      s.bal token ch.self ≤ s'.bal token ch.self +
        (if token' = token then leaving ch recipient amount else 0) := by
  obtain ⟨rest, hrest, hentry⟩ := entry_withdrawal hfn hc
  have h : Reentrancy.Exec (contract ch) t (entry ch t s) s' := hc
  rw [hentry] at h
  have hleft := payOut_rest hrest rfl hexact h
  exact hleft

/-- If its callee just accepts, it leaves the rest and no more. -/
theorem withdrawal_exact (hfn : t.fn.withdrawal = some (recipient, token, amount))
    (hexact : ch.exact token = true) (hc : Reentrancy.Commits (contract ch) t s s') :
    ∃ s'', Reentrancy.Commits (contract ch) t s s'' ∧
      s''.collectedFees = s.collectedFees ∧
      s''.bal token ch.self + leaving ch recipient amount = s.bal token ch.self := by
  obtain ⟨rest, hrest, hentry⟩ := entry_withdrawal hfn hc
  have h : Reentrancy.Exec (contract ch) t (entry ch t s) s' := hc
  rw [hentry] at h
  obtain ⟨s₁, _, sent, hfees, _, _⟩ := call_returns rfl rfl h
  obtain ⟨s₂, hdone, hfees₂, hbal₂⟩ := hrest s₁
  have hout := deliver_out hexact sent
  rw [if_pos rfl] at hout
  refine ⟨s₂, ?_, hfees₂.trans hfees, by rw [hbal₂]; exact hout⟩
  show Reentrancy.Exec (contract ch) t (entry ch t s) s₂
  rw [hentry]
  refine .returned sent .idle ?_
  rw [if_pos rfl, hdone]
  exact .done

/-- **A withdrawal leaves the fees**, whatever its callee does, exactly if
the balance has them beside the amount. -/
theorem withdrawal_backed (hfn : t.fn.withdrawal = some (recipient, token, amount))
    (hexact : ch.exact token = true) (hc : Reentrancy.Commits (contract ch) t s s') :
    (∀ s'', Reentrancy.Commits (contract ch) t s s'' → Backed ch token s'') ↔
      Spares ch token t.fn s := by
  unfold Backed
  constructor
  · intro hall recipient' amount' hfn'
    obtain ⟨s'', hc'', hfees, hrest⟩ := withdrawal_exact hfn hexact hc
    have hbacked := hall s'' hc''
    rw [hfn] at hfn'
    cases hfn'
    rw [hfees] at hbacked
    omega
  · intro hspares s'' hc''
    obtain ⟨hfees, hrest⟩ := withdrawal_rest hfn hexact hc''
    have hleft := hspares recipient amount hfn
    rw [if_pos rfl] at hrest
    rw [hfees]
    omega

/-! ## The other calls -/

/-- The end of a deposit: the fee is counted, and no token moves. -/
theorem storeFee_ends {amountAfterFee fee : Nat} {input : Bytes32} {proof : List UInt8}
    (h : Reentrancy.Exec (contract ch) t
      (storeFee ch t token amountAfterFee fee input proof s) s') :
    s'.collectedFees =
        Function.update s.collectedFees token (s.collectedFees token + fee) ∧
      s'.bal = s.bal := by
  unfold storeFee at h
  split at h
  · cases h
  · next total htotal =>
    rw [checkedAdd_some htotal] at h
    split at h
    · cases h
    · simp only [recordRequest] at h
      split at h
      · cases h
      · cases h
        exact ⟨rfl, rfl⟩

/-- A deposit brings what it adds to the fees. -/
theorem initiateBridge_backed {input : Bytes32} {proof : List UInt8}
    (hexact : ch.exact token = true) (hb : Backed ch token s)
    (h : Reentrancy.Exec (contract ch) t
      (initiateBridge ch t token' amount input proof s) s') : Backed ch token s' := by
  obtain ⟨_, h⟩ := Reentrancy.exec_check h
  obtain ⟨_, h⟩ := Reentrancy.exec_check h
  obtain ⟨_, h⟩ := Reentrancy.exec_check h
  split at h
  · cases h
  · next fee hfee =>
    split at h
    · cases h
    · next amountAfterFee hsub =>
      obtain ⟨s₁, s₂, sent, hfees, hu, h⟩ := call_returns rfl rfl h
      have hin := deliver_in t.sender_ne_contract hexact sent
      have hmore := hu.bal token hexact
      rw [if_neg (by decide)] at h
      obtain ⟨hcounted, hbal⟩ := storeFee_ends h
      have hle : fee ≤ amount := by
        have hsum := checkedSub_some hsub
        omega
      have hfees' : s'.collectedFees =
          Function.update s.collectedFees token' (s.collectedFees token' + fee) := by
        rw [hcounted, hu.collectedFees, hfees]
      refine hb.counted hfees' hle ?_
      rw [hbal]
      exact hin.ge.trans hmore

theorem collectFees_backed (hexact : ch.exact token = true) (hb : Backed ch token s)
    (h : Reentrancy.Exec (contract ch) t (collectFees ch t token' recipient s) s') :
    Backed ch token s' := by
  obtain ⟨_, h⟩ := Reentrancy.exec_check h
  obtain ⟨_, h⟩ := Reentrancy.exec_check h
  obtain ⟨_, h⟩ := Reentrancy.exec_check h
  obtain ⟨_, h⟩ := Reentrancy.exec_check h
  obtain ⟨hfees, hrest⟩ := payOut_rest (ending_emit _) rfl hexact h
  exact hb.emptied hfees hrest

theorem finalizeBridge_backed {requestId : Nat} (hb : Backed ch token s)
    (h : Reentrancy.Exec (contract ch) t (finalizeBridge ch t requestId s) s') :
    Backed ch token s' := by
  obtain ⟨_, h⟩ := Reentrancy.exec_check h
  obtain ⟨_, h⟩ := Reentrancy.exec_check h
  obtain ⟨_, h⟩ := Reentrancy.exec_check h
  obtain ⟨_, h⟩ := Reentrancy.exec_check h
  cases h
  exact hb

/-- One call: the fees stay backed if what it withdraws leaves them. -/
theorem backed_commits (hexact : ch.exact token = true) (hb : Backed ch token s)
    (hspares : Spares ch token t.fn s) (hc : Reentrancy.Commits (contract ch) t s s') :
    Backed ch token s' := by
  cases hw : t.fn.withdrawal with
  | some w =>
      obtain ⟨recipient, token', amount⟩ := w
      by_cases htok : token' = token
      · subst htok
        exact (withdrawal_backed hw hexact hc).mpr hspares s' hc
      · obtain ⟨hfees, hrest⟩ := withdrawal_rest hw hexact hc
        unfold Backed at hb ⊢
        rw [if_neg htok] at hrest
        rw [hfees]
        exact hb.trans hrest
  | none =>
      have h : Reentrancy.Exec (contract ch) t (nonPayable ch t (run ch t) s) s' := hc
      obtain ⟨_, h⟩ := Reentrancy.exec_check h
      unfold run at h
      cases hfn : t.fn with
      | initiateBridge token' amount input proof =>
          rw [hfn] at h
          exact initiateBridge_backed hexact hb h
      | finalizeBridge requestId =>
          rw [hfn] at h
          exact finalizeBridge_backed hb h
      | collectFees token' recipient =>
          rw [hfn] at h
          exact collectFees_backed hexact hb h
      | deliverTokens recipient token' amount =>
          rw [hfn] at hw
          cases hw
      | emergencyWithdraw token' amount recipient =>
          rw [hfn] at hw
          cases hw
      | updateRelayer newRelayer =>
          rw [hfn] at h
          exact ((quiet_updateRelayer newRelayer).exec h).backed hexact hb
      | updateFeePercentage newFeePercentage =>
          rw [hfn] at h
          exact ((quiet_updateFeePercentage newFeePercentage).exec h).backed hexact hb
      | updateFeeLimits newMinFee newMaxFee =>
          rw [hfn] at h
          exact ((quiet_updateFeeLimits newMinFee newMaxFee).exec h).backed hexact hb
      | transferOwnership newOwner =>
          rw [hfn] at h
          exact ((quiet_transferOwnership newOwner).exec h).backed hexact hb
      | renounceOwnership =>
          rw [hfn] at h
          exact (quiet_renounceOwnership.exec h).backed hexact hb

/-! ## Runs that spare the fees -/

theorem backed_of_spares (h : Reachable ch (Spares ch token) s)
    (hexact : ch.exact token = true) : Backed ch token s := by
  induction h with
  | deployed g relayer initialOwner h =>
      simp only [deploy] at h
      split at h
      · cases h
      · split at h
        · cases h
        · cases h
          exact Nat.zero_le _
  | tx before t allows commits ih => exact backed_commits hexact ih allows commits
  | outside before move ih => exact (undisturbed_outside move).backed hexact ih
  | tick before time later ih => exact ih

/-- The transfer of the fees can be made where they are backed. -/
theorem collectFees_sends {x : ExtCall} (hfn : t.fn = .collectFees token recipient)
    (hexact : ch.exact token = true) (hb : Backed ch token s)
    (h : Reentrancy.Arrives (contract ch) t (entry ch t s) x s₁) :
    ∃ s₂, deliver ch x s₁ = some s₂ := by
  have h : Reentrancy.Arrives (contract ch) t (nonPayable ch t (run ch t) s) x s₁ := h
  obtain ⟨_, h⟩ := Reentrancy.arrives_check h
  unfold run at h
  rw [hfn] at h
  obtain ⟨_, h⟩ := Reentrancy.arrives_check h
  obtain ⟨_, h⟩ := Reentrancy.arrives_check h
  obtain ⟨_, h⟩ := Reentrancy.arrives_check h
  obtain ⟨_, h⟩ := Reentrancy.arrives_check h
  cases h with
  | here =>
      simp only [deliver, hexact, if_true]
      exact ⟨_, if_pos hb⟩
  | returned sent during rest => cases rest
  | failed rest => cases rest

/-- **Fees and deliveries.** In every run whose withdrawals of an exact token
leave its fees, the contract has the fees in every state, and collecting them
never lacks tokens. A withdrawal that goes through leaves the fees, whatever
its callee does, exactly if the balance had them beside the amount. -/
theorem fees_backed_iff (ch : Chain) (token : Address) (hexact : ch.exact token = true) :
    (∀ s, Reachable ch (Spares ch token) s →
      Backed ch token s ∧
      ∀ (t : Tx ch.self) recipient x s₁, t.fn = .collectFees token recipient →
        Reentrancy.Arrives (contract ch) t (entry ch t s) x s₁ →
          ∃ s₂, deliver ch x s₁ = some s₂) ∧
    ∀ (s s' : State) (t : Tx ch.self) recipient amount,
      t.fn.withdrawal = some (recipient, token, amount) →
      Reentrancy.Commits (contract ch) t s s' →
        ((∀ s'', Reentrancy.Commits (contract ch) t s s'' → Backed ch token s'') ↔
          Spares ch token t.fn s) := by
  refine ⟨fun s h => ?_, fun s s' t recipient amount hfn hc => withdrawal_backed hfn hexact hc⟩
  have hb := backed_of_spares h hexact
  exact ⟨hb, fun t recipient x s₁ hfn harrives => collectFees_sends hfn hexact hb harrives⟩

namespace Sample

def genesis : Genesis Evm.Sample.chain where
  bal := Evm.Sample.genesis.bal
  now := Evm.Sample.genesis.now
  no_tokens := Evm.Sample.genesis.no_tokens

theorem sender_ne_zero {sender : Address} (h : sender ≠ 0 ∧ sender ≠ 1) : sender ≠ 0 := h.1

theorem sender_ne_self {sender : Address} (h : sender ≠ 0 ∧ sender ≠ 1) :
    sender ≠ Evm.Sample.chain.self := h.2

def call (sender : Address) (fn : Fn) (h : sender ≠ 0 ∧ sender ≠ 1) : Tx Evm.Sample.chain.self :=
  ⟨sender, 0, fn, sender_ne_zero h, sender_ne_self h⟩

/-- The user 4 deposits tokens of 9. -/
def deposit : Tx Evm.Sample.chain.self :=
  call 4 (.initiateBridge 9 (10 ^ 18) 77 []) Evm.Sample.user_ne

/-- The relayer 2 delivers tokens of 9 to 6. -/
def delivery (amount : Nat) : Tx Evm.Sample.chain.self :=
  call 2 (.deliverTokens 6 9 amount) Evm.Sample.relayer_ne

/-- The owner 3 collects the fees. -/
def collection : Tx Evm.Sample.chain.self := call 3 (.collectFees 9 3) Evm.Sample.owner_ne

def accept (t : Tx Evm.Sample.chain.self) (s : State) : Option State :=
  Reentrancy.accepting (contract Evm.Sample.chain) t (entry Evm.Sample.chain t s)

def deployed : Option State := (deploy Evm.Sample.chain genesis 2 3).toOption

theorem deposited_isSome : (deployed.bind (accept deposit)).isSome = true := rfl

/-- The state after the deposit. -/
def deposited : State := (deployed.bind (accept deposit)).get deposited_isSome

theorem delivered_isSome : (accept (delivery (10 ^ 18)) deposited).isSome = true := rfl

/-- The state after a delivery of all that was deposited. -/
def delivered : State := (accept (delivery (10 ^ 18)) deposited).get delivered_isSome

theorem deposited_reachable {allowed : Fn → State → Prop}
    (h : ∀ s, allowed deposit.fn s) : Reachable Evm.Sample.chain allowed deposited := by
  have hsome : deployed.bind (accept deposit) = some deposited :=
    (Option.some_get deposited_isSome).symm
  obtain ⟨s, hs, hcommits⟩ := Option.bind_eq_some_iff.mp hsome
  have hdeploy : deploy Evm.Sample.chain genesis 2 3 = .ok s := by
    unfold deployed at hs
    cases hd : deploy Evm.Sample.chain genesis 2 3 with
    | error e =>
        rw [hd] at hs
        cases hs
    | ok s₀ =>
        rw [hd] at hs
        cases hs
        rfl
  exact .tx (.deployed genesis 2 3 hdeploy) deposit (h s) (Reentrancy.exec_of_accepting _ hcommits)

theorem delivery_commits {s : State} {amount : Nat}
    (h : (accept (delivery amount) s).isSome = true) :
    Reentrancy.Commits (contract Evm.Sample.chain) (delivery amount) s
      ((accept (delivery amount) s).get h) :=
  Reentrancy.exec_of_accepting _ (Option.some_get h).symm

/-- The call the collection makes after that delivery. -/
def collecting : Option (ExtCall × State) :=
  Reentrancy.firstCall (entry Evm.Sample.chain collection delivered)

theorem collection_calls : collecting.isSome = true := rfl

theorem collection_fails :
    (collecting.bind fun c => deliver Evm.Sample.chain c.1 c.2).isSome = false :=
  rfl

end Sample

theorem fees_backed_iff_deposited :
    Backed Evm.Sample.chain 9 Sample.deposited ∧
      ∀ s', Reentrancy.Commits (contract Evm.Sample.chain) (Sample.delivery 5)
        Sample.deposited s' → Backed Evm.Sample.chain 9 s' := by
  have hfees := fees_backed_iff Evm.Sample.chain 9 rfl
  have hreach : Reachable Evm.Sample.chain (Spares Evm.Sample.chain 9) Sample.deposited :=
    Sample.deposited_reachable fun _ _ _ h => by cases h
  have hcommits := Sample.delivery_commits
    (show (Sample.accept (Sample.delivery 5) Sample.deposited).isSome = true from rfl)
  refine ⟨(hfees.1 _ hreach).1, (hfees.2 _ _ _ _ _ rfl hcommits).mpr fun recipient amount h => ?_⟩
  cases h
  show leaving Evm.Sample.chain 6 5 + Sample.deposited.collectedFees 9 ≤ Sample.deposited.bal 9 1
  decide +kernel

/-- The calls of a run without emergencies and changes of the parties. -/
def Fn.ordinary : Fn → Bool
  | .initiateBridge _ _ _ _ | .finalizeBridge _ | .deliverTokens _ _ _ | .collectFees _ _
  | .updateFeePercentage _ | .updateFeeLimits _ _ => true
  | _ => false

/-- The relayer delivers all that was deposited: no token is left for the fee
that was counted, and the owner cannot collect it. -/
theorem delivered_spends_fees :
    (¬ ∀ (ch : Chain) (s : State) token,
      Reachable ch (fun fn _ => fn.ordinary = true) s → ch.exact token = true →
        s.collectedFees token ≤ s.bal token ch.self) ∧
    ¬ ∀ (ch : Chain) (s : State) token,
      Reachable ch (fun fn _ => fn.ordinary = true) s → ch.exact token = true →
        ∀ (t : Tx ch.self) recipient x s₁, t.fn = .collectFees token recipient →
          Reentrancy.Arrives (contract ch) t (entry ch t s) x s₁ →
            ∃ s₂, deliver ch x s₁ = some s₂ := by
  have hreach : Reachable Evm.Sample.chain (fun fn _ => fn.ordinary = true) Sample.delivered :=
    .tx (Sample.deposited_reachable fun _ => rfl) (Sample.delivery (10 ^ 18)) rfl
      (Sample.delivery_commits Sample.delivered_isSome)
  constructor
  · intro hall
    have hbacked := hall Evm.Sample.chain Sample.delivered 9 hreach rfl
    revert hbacked
    decide +kernel
  · intro hall
    obtain ⟨⟨x, s₁⟩, hfirst⟩ := Option.isSome_iff_exists.mp Sample.collection_calls
    obtain ⟨s₂, hsent⟩ := hall Evm.Sample.chain Sample.delivered 9 hreach rfl Sample.collection 3
      x s₁ rfl (Reentrancy.arrives_firstCall hfirst)
    have hnone := Sample.collection_fails
    rw [hfirst, Option.bind_some, hsent] at hnone
    cases hnone

end LunarysBridge.Evm.LegacyRelayer
