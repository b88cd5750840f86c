/-
LunarysBridge.Evm.LegacyEffects — all that a call of the legacy contract can
change.

While a token has control the guard is taken, so of the whole storage only
the parameters and the parties may change, by calls of the owner (`Kept`). A
call that goes through has then one of six effects (`Effect`), each with
what it writes, what it puts on the log, and what it leaves of the exact
tokens.
-/
import LunarysBridge.Evm.AccruedFees

namespace LunarysBridge.Evm.LegacyRelayer

variable {ch : Chain} {t : Tx ch.self} {s s' s₁ s₂ : State} {recipient token token' : Address}
  {amount : Nat}

/-! ## While somebody else has control -/

/-- An event of the owner's functions that only write parameters. -/
def LogEntry.admin : LogEntry → Bool
  | .emit (.RelayerUpdated _ _) | .emit (.FeePercentageUpdated _ _)
  | .emit (.OwnershipTransferred _ _) => true
  | _ => false

/-- These entries were put on the log, all by such functions. -/
def Extends (s s' : State) : Prop :=
  ∃ extra, s'.log = s.log ++ extra ∧ ∀ e ∈ extra, LogEntry.admin e = true

/-- Requests and fees are as they were, and of exact tokens none was taken. -/
structure Kept (ch : Chain) (s s' : State) : Prop where
  bridgeRequests : s'.bridgeRequests = s.bridgeRequests
  bridgeNonce : s'.bridgeNonce = s.bridgeNonce
  collectedFees : s'.collectedFees = s.collectedFees
  entered : s'.entered = s.entered
  now : s'.now = s.now
  log : Extends s s'
  bal : ∀ token, ch.exact token = true → s.bal token ch.self ≤ s'.bal token ch.self

theorem Extends.refl (s : State) : Extends s s :=
  ⟨[], (List.append_nil _).symm, fun _ h => absurd h List.not_mem_nil⟩

theorem Extends.trans (h₁ : Extends s s₁) (h₂ : Extends s₁ s₂) : Extends s s₂ := by
  obtain ⟨l₁, hlog₁, hadmin₁⟩ := h₁
  obtain ⟨l₂, hlog₂, hadmin₂⟩ := h₂
  exact ⟨l₁ ++ l₂, by rw [hlog₂, hlog₁, List.append_assoc],
    List.forall_mem_append.mpr ⟨hadmin₁, hadmin₂⟩⟩

theorem extends_emit {e : Event} (h : LogEntry.admin (.emit e) = true)
    (hlog : s'.log = s.log ++ [.emit e]) : Extends s s' :=
  ⟨[.emit e], hlog, fun _ hmem => by rwa [List.mem_singleton.mp hmem]⟩

theorem Kept.refl (s : State) : Kept ch s s :=
  ⟨rfl, rfl, rfl, rfl, rfl, .refl s, fun _ _ => Nat.le_refl _⟩

theorem Kept.trans (h₁ : Kept ch s s₁) (h₂ : Kept ch s₁ s₂) : Kept ch s s₂ where
  bridgeRequests := h₂.bridgeRequests.trans h₁.bridgeRequests
  bridgeNonce := h₂.bridgeNonce.trans h₁.bridgeNonce
  collectedFees := h₂.collectedFees.trans h₁.collectedFees
  entered := h₂.entered.trans h₁.entered
  now := h₂.now.trans h₁.now
  log := h₁.log.trans h₂.log
  bal := fun token hexact => (h₁.bal token hexact).trans (h₂.bal token hexact)

theorem kept_outside (h : Outside ch s s') : Kept ch s s' := by
  have hbal := (undisturbed_outside h).bal
  cases h with
  | donate given amount => exact ⟨rfl, rfl, rfl, rfl, rfl, .refl _, hbal⟩
  | others bal sameBal => exact ⟨rfl, rfl, rfl, rfl, rfl, .refl _, hbal⟩

/-- A function of the owner that writes no request, no fee and no balance. -/
theorem quiet_admin {R : State → Code} (h : Reentrancy.Quiet (Kept ch) s (R s)) :
    Reentrancy.Quiet (Kept ch) s (onlyOwner ch t R s) :=
  Reentrancy.quiet_check fun _ => h

/-- The functions that are not `nonReentrant`. -/
def Fn.parameter : Fn → Bool
  | .updateRelayer _ | .updateFeePercentage _ | .updateFeeLimits _ _ | .transferOwnership _
  | .renounceOwnership => true
  | _ => false

theorem quiet_parameter (hfn : t.fn.parameter = true) (s : State) :
    Reentrancy.Quiet (Kept ch) s (run ch t s) := by
  have hbal : ∀ token, ch.exact token = true → s.bal token ch.self ≤ s.bal token ch.self :=
    fun _ _ => Nat.le_refl _
  unfold run
  cases hcall : t.fn with
  | updateRelayer newRelayer =>
      exact quiet_admin (Reentrancy.quiet_check fun _ =>
        Reentrancy.quiet_done ⟨rfl, rfl, rfl, rfl, rfl, extends_emit rfl rfl, hbal⟩)
  | updateFeePercentage newFeePercentage =>
      exact quiet_admin (Reentrancy.quiet_check fun _ =>
        Reentrancy.quiet_done ⟨rfl, rfl, rfl, rfl, rfl, extends_emit rfl rfl, hbal⟩)
  | updateFeeLimits newMinFee newMaxFee =>
      exact quiet_admin (Reentrancy.quiet_check fun _ =>
        Reentrancy.quiet_done ⟨rfl, rfl, rfl, rfl, rfl, .refl _, hbal⟩)
  | transferOwnership newOwner =>
      exact quiet_admin (Reentrancy.quiet_check fun _ =>
        Reentrancy.quiet_done ⟨rfl, rfl, rfl, rfl, rfl, extends_emit rfl rfl, hbal⟩)
  | renounceOwnership =>
      exact quiet_admin
        (Reentrancy.quiet_done ⟨rfl, rfl, rfl, rfl, rfl, extends_emit rfl rfl, hbal⟩)
  | _ =>
      rw [hcall] at hfn
      cases hfn

/-- The other functions are turned away while the guard is taken. -/
theorem quiet_guarded (hfn : t.fn.parameter = false) (hl : s.entered = true) :
    Reentrancy.Quiet (Kept ch) s (run ch t s) := by
  have hguard : ∀ body : State → Code, Reentrancy.Quiet (Kept ch) s (nonReentrant body s) :=
    fun body => Reentrancy.quiet_check fun hentered => absurd hl hentered
  unfold run
  cases hcall : t.fn with
  | initiateBridge token amount input proof => exact hguard _
  | finalizeBridge requestId => exact Reentrancy.quiet_check fun _ => hguard _
  | deliverTokens recipient token amount => exact Reentrancy.quiet_check fun _ => hguard _
  | collectFees token recipient => exact quiet_admin (hguard _)
  | emergencyWithdraw token amount recipient => exact quiet_admin (hguard _)
  | _ =>
      rw [hcall] at hfn
      cases hfn

theorem guarded_kept (ch : Chain) :
    Reentrancy.Guarded (contract ch) (fun s => s.entered = true) (Kept ch) where
  refl := .refl
  trans := .trans
  keeps h hl := h.entered.trans hl
  outside := kept_outside
  entry t s hl := by
    refine Reentrancy.quiet_check fun _ => ?_
    cases hfn : t.fn.parameter with
    | true => exact quiet_parameter hfn s
    | false => exact quiet_guarded hfn hl

/-! ## A call that goes through -/

/-- What an exact token has lost by a payment. -/
def PaidOut (ch : Chain) (recipient token : Address) (amount : Nat) (s s' : State) : Prop :=
  ∀ token', ch.exact token' = true → s.bal token' ch.self ≤ s'.bal token' ch.self +
    if token = token' then leaving ch recipient amount else 0

/-- Requests and time are as they were, and these entries end the log. -/
structure Payment (s s' : State) (entries : List LogEntry) : Prop where
  bridgeRequests : s'.bridgeRequests = s.bridgeRequests
  bridgeNonce : s'.bridgeNonce = s.bridgeNonce
  now : s'.now = s.now
  log : ∃ extra, s'.log = s.log ++ extra ++ entries ∧ ∀ e ∈ extra, LogEntry.admin e = true

/-- What `initiateBridge` puts on the log for a request. -/
def receipt (self : Address) (id : Nat) (r : BridgeRequest) (relayer : Address) :
    List LogEntry :=
  [.allowed r.encryptedSolanaDestination r.sender, .allowed r.encryptedSolanaDestination self,
    .allowed r.encryptedSolanaDestination relayer,
    .emit (.BridgeInitiated id r.sender r.token r.amount)]

/-- A new request, the fee that was counted for it, and what came in. -/
structure Initiated (ch : Chain) (t : Tx ch.self) (r : BridgeRequest) (relayer : Address)
    (s s' : State) : Prop where
  sender : r.sender = t.sender
  token : r.token ≠ 0
  timestamp : r.timestamp = s.now
  finalized : r.finalized = false
  gross : 0 < r.amount + r.fee
  fee : calculateFee s.toFeeSettings (r.amount + r.fee) = some r.fee
  bridgeNonce : s'.bridgeNonce = s.bridgeNonce + 1
  bridgeRequests : s'.bridgeRequests = Function.update s.bridgeRequests (s.bridgeNonce + 1) r
  collectedFees : s'.collectedFees =
    Function.update s.collectedFees r.token (s.collectedFees r.token + r.fee)
  now : s'.now = s.now
  log : ∃ extra, s'.log = s.log ++ extra ++ receipt ch.self (s.bridgeNonce + 1) r relayer ∧
    ∀ e ∈ extra, LogEntry.admin e = true
  bal : ∀ token', ch.exact token' = true → s.bal token' ch.self +
    (if r.token = token' then r.amount + r.fee else 0) ≤ s'.bal token' ch.self

/-- The effect of a call that goes through. -/
inductive Effect (ch : Chain) (t : Tx ch.self) (s s' : State) : Prop where
  | initiated (r : BridgeRequest) (relayer : Address) (h : Initiated ch t r relayer s s')
  | finalized (requestId : Nat) (fn : t.fn = .finalizeBridge requestId)
      (relayer : t.sender = s.relayer)
      (found : (s.bridgeRequests requestId).sender ≠ 0)
      (first : (s.bridgeRequests requestId).finalized = false)
      (is : s' = (s.setRequest requestId
        { s.bridgeRequests requestId with finalized := true }).emit
          (.BridgeFinalized requestId t.sender))
  | delivered (recipient token : Address) (amount : Nat) (relayer : t.sender = s.relayer)
      (fn : t.fn = .deliverTokens recipient token amount)
      (payment : Payment s s' [.emit (.IncomingBridgeDelivered recipient token amount)])
      (fees : s'.collectedFees = s.collectedFees)
      (bal : PaidOut ch recipient token amount s s')
  | collected (token recipient : Address) (owner : t.sender = s.owner)
      (fn : t.fn = .collectFees token recipient) (some : s.collectedFees token ≠ 0)
      (payment : Payment s s' [.emit (.FeesCollected token (s.collectedFees token) recipient)])
      (fees : s'.collectedFees = Function.update s.collectedFees token 0)
      (bal : PaidOut ch recipient token (s.collectedFees token) s s')
  | withdrawn (token : Address) (amount : Nat) (recipient : Address) (owner : t.sender = s.owner)
      (fn : t.fn = .emergencyWithdraw token amount recipient) (payment : Payment s s' [])
      (fees : s'.collectedFees = s.collectedFees)
      (bal : PaidOut ch recipient token amount s s')
  | kept (fn : t.fn.parameter = true) (h : Kept ch s s')

/-! ## External calls -/

theorem deliver_bal {x : ExtCall} (h : deliver ch x s = some s₁) :
    ∃ bal, s₁ = { s with bal := bal } := by
  cases x with
  | safeTransfer token recipient amount =>
      rcases deliver_safeTransfer h with ⟨_, _, rfl⟩ | ⟨_, rfl⟩
      · exact ⟨_, rfl⟩
      · exact ⟨s₁.bal, rfl⟩
  | safeTransferFrom token sender amount =>
      rcases deliver_safeTransferFrom h with ⟨_, rfl⟩ | ⟨_, rfl⟩
      · exact ⟨_, rfl⟩
      · exact ⟨s₁.bal, rfl⟩

/-- An external call under the guard, and what its callee left. -/
theorem call_kept {x : ExtCall} {k : Bool → State → Code} {e : Revert}
    (hl : s.entered = true) (hk : k false s = .revert e)
    (h : Reentrancy.Exec (contract ch) t (.call x s k) s') :
    ∃ bal s₂, deliver ch x s = some { s with bal := bal } ∧
      Kept ch { s with bal := bal } s₂ ∧ Reentrancy.Exec (contract ch) t (k true s₂) s' := by
  obtain ⟨s₁, s₂, sent, during, rest⟩ := Reentrancy.exec_call hk h
  have hsent : deliver ch x s = some s₁ := sent
  obtain ⟨bal, rfl⟩ := deliver_bal hsent
  exact ⟨bal, s₂, hsent, (guarded_kept ch).callee during hl, rest⟩

/-- Code that ends at once and only puts these entries on the log. -/
def EndsWith (rest : State → Code) (entries : List LogEntry) : Prop :=
  ∀ s, ∃ s', rest s = .done s' ∧ s' = { s with entered := s'.entered, log := s.log ++ entries }

theorem endsWith_emit (e : Event) : EndsWith (fun s => leave (s.emit e)) [.emit e] :=
  fun _ => ⟨_, rfl, rfl⟩

theorem endsWith_leave : EndsWith leave [] :=
  fun s => ⟨{ s with entered := false }, rfl, by rw [List.append_nil]⟩

theorem payOut_payment {rest : State → Code} {entries : List LogEntry}
    (hrest : EndsWith rest entries) (hl : s.entered = true)
    (h : Reentrancy.Exec (contract ch) t (payOut token recipient amount rest s) s') :
    Payment s s' entries ∧ s'.collectedFees = s.collectedFees ∧
      PaidOut ch recipient token amount s s' := by
  obtain ⟨bal, s₂, sent, hk, hend⟩ := call_kept hl rfl h
  obtain ⟨s₃, hdone, heq⟩ := hrest s₂
  rw [if_pos rfl, hdone] at hend
  cases hend
  obtain ⟨extra, hlog, hadmin⟩ := hk.log
  have hrequests : s'.bridgeRequests = s₂.bridgeRequests := by rw [heq]
  have hnonce : s'.bridgeNonce = s₂.bridgeNonce := by rw [heq]
  have hnow : s'.now = s₂.now := by rw [heq]
  have hfees : s'.collectedFees = s₂.collectedFees := by rw [heq]
  have hlog' : s'.log = s₂.log ++ entries := by rw [heq]
  have hbal : s'.bal = s₂.bal := by rw [heq]
  refine ⟨⟨hrequests.trans hk.bridgeRequests, hnonce.trans hk.bridgeNonce, hnow.trans hk.now,
    extra, ?_, hadmin⟩, hfees.trans hk.collectedFees, ?_⟩
  · rw [hlog', hlog]
  · intro token' hexact
    have hout := deliver_out hexact sent
    have hle := hk.bal token' hexact
    rw [hbal]
    omega

/-! ## Functions -/

theorem effect_deliverTokens (hfn : t.fn = .deliverTokens recipient token amount)
    (h : Reentrancy.Exec (contract ch) t (deliverTokens ch t recipient token amount s) s') :
    Effect ch t s s' := by
  obtain ⟨hrelayer, h⟩ := Reentrancy.exec_check h
  obtain ⟨_, h⟩ := Reentrancy.exec_check h
  obtain ⟨_, h⟩ := Reentrancy.exec_check h
  obtain ⟨_, h⟩ := Reentrancy.exec_check h
  obtain ⟨hpay, hfees, hbal⟩ := payOut_payment (endsWith_emit _) rfl h
  exact .delivered recipient token amount (not_not.mp hrelayer) hfn
    ⟨hpay.bridgeRequests, hpay.bridgeNonce, hpay.now, hpay.log⟩ hfees hbal

theorem effect_collectFees (hfn : t.fn = .collectFees token recipient)
    (h : Reentrancy.Exec (contract ch) t (collectFees ch t token recipient s) s') :
    Effect ch t s s' := by
  obtain ⟨howner, h⟩ := Reentrancy.exec_check h
  obtain ⟨_, h⟩ := Reentrancy.exec_check h
  obtain ⟨_, h⟩ := Reentrancy.exec_check h
  obtain ⟨hsome, h⟩ := Reentrancy.exec_check h
  obtain ⟨hpay, hfees, hbal⟩ := payOut_payment (endsWith_emit _) rfl h
  exact .collected token recipient (not_not.mp howner) hfn hsome
    ⟨hpay.bridgeRequests, hpay.bridgeNonce, hpay.now, hpay.log⟩ hfees hbal

theorem effect_emergencyWithdraw (hfn : t.fn = .emergencyWithdraw token amount recipient)
    (h : Reentrancy.Exec (contract ch) t (emergencyWithdraw ch t token amount recipient s) s') :
    Effect ch t s s' := by
  obtain ⟨howner, h⟩ := Reentrancy.exec_check h
  obtain ⟨_, h⟩ := Reentrancy.exec_check h
  obtain ⟨_, h⟩ := Reentrancy.exec_check h
  obtain ⟨_, h⟩ := Reentrancy.exec_check h
  obtain ⟨hpay, hfees, hbal⟩ := payOut_payment endsWith_leave rfl h
  exact .withdrawn token amount recipient (not_not.mp howner) hfn
    ⟨hpay.bridgeRequests, hpay.bridgeNonce, hpay.now, hpay.log⟩ hfees hbal

theorem effect_finalizeBridge {requestId : Nat} (hfn : t.fn = .finalizeBridge requestId)
    (h : Reentrancy.Exec (contract ch) t (finalizeBridge ch t requestId s) s') :
    Effect ch t s s' := by
  obtain ⟨hrelayer, h⟩ := Reentrancy.exec_check h
  obtain ⟨hentered, h⟩ := Reentrancy.exec_check h
  obtain ⟨hfound, h⟩ := Reentrancy.exec_check h
  obtain ⟨hfirst, h⟩ := Reentrancy.exec_check h
  cases h
  refine .finalized requestId hfn (not_not.mp hrelayer) hfound ((Bool.not_eq_true _).mp hfirst) ?_
  have hfalse : s.entered = false := (Bool.not_eq_true _).mp hentered
  cases s
  cases hfalse
  rfl

/-- The end of a deposit. -/
theorem storeFee_records {amountAfterFee fee : Nat} {input : Bytes32} {proof : List UInt8}
    (h : Reentrancy.Exec (contract ch) t
      (storeFee ch t token amountAfterFee fee input proof s) s') :
    ∃ handle, s'.bridgeNonce = s.bridgeNonce + 1 ∧
      s'.bridgeRequests = Function.update s.bridgeRequests (s.bridgeNonce + 1)
        ⟨t.sender, token, amountAfterFee, handle, s.now, false, fee⟩ ∧
      s'.now = s.now ∧
      s'.log = s.log ++ receipt ch.self (s.bridgeNonce + 1)
        ⟨t.sender, token, amountAfterFee, handle, s.now, false, fee⟩ s.relayer := by
  unfold storeFee at h
  split at h
  · cases h
  · next total htotal =>
    split at h
    · cases h
    · next handle hhandle =>
      simp only [recordRequest] at h
      split at h
      · cases h
      · next requestId hid =>
        have hnonce : requestId = s.bridgeNonce + 1 := checkedAdd_some hid
        subst hnonce
        cases h
        refine ⟨handle, rfl, rfl, rfl, ?_⟩
        simp [State.emit, State.note, State.allow, State.setRequest, receipt]

theorem effect_initiateBridge {input : Bytes32} {proof : List UInt8}
    (h : Reentrancy.Exec (contract ch) t (initiateBridge ch t token amount input proof s) s') :
    Effect ch t s s' := by
  obtain ⟨_, h⟩ := Reentrancy.exec_check h
  obtain ⟨htoken, h⟩ := Reentrancy.exec_check h
  obtain ⟨hamount, h⟩ := Reentrancy.exec_check h
  split at h
  · cases h
  · next fee hfee =>
    split at h
    · cases h
    · next amountAfterFee hsub =>
      obtain ⟨bal, s₂, sent, hk, h⟩ := call_kept rfl rfl h
      rw [if_neg (by decide)] at h
      obtain ⟨hcounted, hbal⟩ := storeFee_ends h
      obtain ⟨handle, hnonce, hrequests, hnow, hlog⟩ := storeFee_records h
      obtain ⟨extra, hextra, hadmin⟩ := hk.log
      have hgross : amountAfterFee + fee = amount := checkedSub_some hsub
      have hnonce₂ : s₂.bridgeNonce = s.bridgeNonce := hk.bridgeNonce
      have hrequests₂ : s₂.bridgeRequests = s.bridgeRequests := hk.bridgeRequests
      have hfees₂ : s₂.collectedFees = s.collectedFees := hk.collectedFees
      have hnow₂ : s₂.now = s.now := hk.now
      have hlog₂ : s₂.log = s.log ++ extra := hextra
      rw [hnonce₂] at hnonce
      rw [hrequests₂, hnonce₂, hnow₂] at hrequests
      rw [hlog₂, hnonce₂, hnow₂] at hlog
      rw [hfees₂] at hcounted
      refine .initiated ⟨t.sender, token, amountAfterFee, handle, s.now, false, fee⟩ s₂.relayer
        ⟨rfl, htoken, rfl, rfl, ?_, ?_, hnonce, hrequests, hcounted, hnow.trans hnow₂,
          ⟨extra, hlog, hadmin⟩, ?_⟩
      · show 0 < amountAfterFee + fee
        omega
      · show calculateFee s.toFeeSettings (amountAfterFee + fee) = some fee
        rw [hgross]
        exact hfee
      · intro token' hexact
        have hin := deliver_in t.sender_ne_contract hexact sent
        have hmore := hk.bal token' hexact
        show s.bal token' ch.self + (if token = token' then amountAfterFee + fee else 0) ≤ _
        rw [hbal, hgross]
        exact hin.ge.trans hmore

/-- **What a call can do** to the contract, whatever the token it calls does
meanwhile. -/
theorem effect_of_commits (hc : Reentrancy.Commits (contract ch) t s s') :
    Effect ch t s s' := by
  have h : Reentrancy.Exec (contract ch) t (nonPayable ch t (run ch t) s) s' := hc
  obtain ⟨_, h⟩ := Reentrancy.exec_check h
  cases hparameter : t.fn.parameter with
  | true => exact .kept hparameter ((quiet_parameter hparameter s).exec h)
  | false =>
      unfold run at h
      cases hfn : t.fn with
      | initiateBridge token amount input proof =>
          rw [hfn] at h
          exact effect_initiateBridge h
      | finalizeBridge requestId =>
          rw [hfn] at h
          exact effect_finalizeBridge hfn h
      | deliverTokens recipient token amount =>
          rw [hfn] at h
          exact effect_deliverTokens hfn h
      | collectFees token recipient =>
          rw [hfn] at h
          exact effect_collectFees hfn h
      | emergencyWithdraw token amount recipient =>
          rw [hfn] at h
          exact effect_emergencyWithdraw hfn h
      | _ =>
          rw [hfn] at hparameter
          cases hparameter

end LunarysBridge.Evm.LegacyRelayer
