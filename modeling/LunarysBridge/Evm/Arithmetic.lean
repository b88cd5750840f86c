/-
LunarysBridge.Evm.Arithmetic — the arithmetic of `NewRelayer` stays in range.

Each bound rests on a check that an admin function made, at another time; in
a reachable state they are `Sound`, also in the middle of a call, while a
callee may change them. `Calm` is code that does not revert for an arithmetic
reason, whatever its callees do. With deposits below 2^240, bonds below 2^128
and the clock below 2^63 every function is calm; the one counter that can run
out is the number of requests.
-/
import LunarysBridge.Evm.Fees
import LunarysBridge.Evm.Record
import LunarysBridge.Evm.Takeover

namespace LunarysBridge.Evm

variable {ch : Chain} {t : Tx ch.self} {s s' : State} {b : Book} {id : Nat}

/-! ## Single operations -/

/-- `amount - fee` does not underflow. -/
theorem Sound.fee_fits (h : Sound ch s) {amount : Nat} (hamount : amount < 2 ^ 240) :
    calculateFee s amount = some (s.tariff.fee amount) ∧
      checkedSub amount (s.tariff.fee amount) = some (s.tariff.net amount) := by
  have hproduct : amount * s.feePercentage ≤ 2 ^ 240 * 1000 :=
    Nat.mul_le_mul (Nat.le_of_lt hamount) h.fee
  have hlt : amount * s.feePercentage < 2 ^ 256 := Nat.lt_of_le_of_lt hproduct (by decide)
  exact ⟨by rw [calculateFee_eq, if_pos hlt], if_pos (s.tariff.fee_le amount)⟩

/-- The slash is a part of the bond. -/
theorem Sound.slash_fits (h : Sound ch s) {bond : Nat} (hbond : bond < 2 ^ 128) :
    checkedMul bond s.slashBps = some (bond * s.slashBps) ∧
      bond * s.slashBps / 10000 ≤ bond ∧
      checkedSub bond (bond * s.slashBps / 10000) =
        some (bond - bond * s.slashBps / 10000) := by
  have hproduct : bond * s.slashBps ≤ bond * 10000 := Nat.mul_le_mul_left _ h.bps
  have hlt : bond * s.slashBps < 2 ^ 256 :=
    Nat.lt_of_le_of_lt hproduct (Nat.lt_of_lt_of_le (Nat.mul_lt_mul_of_pos_right hbond
      (by decide)) (by decide))
  have hle : bond * s.slashBps / 10000 ≤ bond := by omega
  exact ⟨if_pos hlt, hle, if_pos hle⟩

/-- The deadline of a claim fits, and the casts keep it. -/
theorem Sound.deadline_fits (h : Sound ch s) (hnow : s.now < 2 ^ 63) :
    checkedAdd s.now s.claimWindow = some (s.now + s.claimWindow) ∧
      uint64 s.now = s.now ∧ uint64 (s.now + s.claimWindow) = s.now + s.claimWindow := by
  have hwindow := h.window.2
  have hlt : s.now + s.claimWindow < 2 ^ 64 := by omega
  exact ⟨if_pos (Nat.lt_trans hlt (by decide)), Nat.mod_eq_of_lt (by omega),
    Nat.mod_eq_of_lt hlt⟩

/-- What a settlement adds up is the deposit, or nothing was left in escrow. -/
theorem Valid.payout_fits (h : Valid ch s) (hdeposits : ∀ p ∈ deposits s.log, p.2 < 2 ^ 240)
    (hknown : (s.bridgeRequests id).sender ≠ 0) :
    checkedAdd (s.bridgeRequests id).amount (s.requestFeeEscrow id) =
        some ((s.bridgeRequests id).amount + s.requestFeeEscrow id) ∧
      ((s.bridgeRequests id).finalized = false →
        (s.bridgeRequests id).amount + s.requestFeeEscrow id = s.gross id) := by
  have hk := (h.lifecycle.known id).mp hknown
  have hdep := h.accounts.deposited id hk.1 hk.2
  rw [deposits_acts] at hdep
  have hgross := hdeposits _ (List.mem_of_getElem? hdep)
  simp only [book_requests] at hgross
  have hescrow : s.requestFeeEscrow id ≤ (s.bridgeRequests id).fee := by
    cases hf : (s.bridgeRequests id).finalized with
    | false => exact Nat.le_of_eq (h.lifecycle.escrowed id hf)
    | true =>
        have hzero : s.requestFeeEscrow id = 0 := (h.lifecycle.closed id hf).2
        omega
  refine ⟨if_pos ?_, fun hf => ?_⟩
  · have hsmall : (s.bridgeRequests id).amount + s.requestFeeEscrow id < 2 ^ 240 := by omega
    exact Nat.lt_trans hsmall (by decide)
  · have hfee : s.requestFeeEscrow id = (s.bridgeRequests id).fee := h.lifecycle.escrowed id hf
    rw [hfee, State.gross]

/-! ## Code that does not panic -/

/-- The code does not revert for an arithmetic reason. -/
abbrev Calm (t : Tx ch.self) : Code → Prop :=
  Reentrancy.FailsOnly (contract ch) t (fun s => s.entered = true) (Undisturbed ch)
    (· ≠ .Panic)

theorem calm_require {c : Prop} [Decidable c] {e : Revert} {p : Code} (he : e ≠ .Panic)
    (h : ¬ c → Calm t p) : Calm t (if c then .revert e else p) := by
  split
  · exact he
  · next hc => exact h hc

theorem calm_call {x : ExtCall} {k : Bool → State → Code} (h : Running ch s b)
    (hx : ∀ token amount, x ≠ .safeTransferFrom token ch.self amount)
    (hfail : Calm t (k false s))
    (hok : ∀ s', Running ch s' (b.act [.called t.fn x]) → Calm t (k true s')) :
    Calm t (.call x s k) := by
  refine ⟨fun s₁ h₁ => ?_, hfail⟩
  have hc : Called t x s s₁ := called_of_deliver hx h₁
  exact ⟨hc.entered.trans h.locked, fun s₂ h₂ => hok s₂ (h.called hc h₂)⟩

theorem calm_send {recipient : Address} {value : Nat} {rest : State → Code} {reason : String}
    (h : Running ch s b)
    (hrest : ∀ s', Running ch s' (b.act [.called t.fn (.send recipient value)]) →
      Calm t (rest s')) :
    Calm t (.call (.send recipient value) s fun ok s =>
      if ok then rest s else .revert (.failed reason)) :=
  calm_call h (by simp) (by simp [Reentrancy.FailsOnly]) hrest

theorem calm_payOut {token recipient : Address} {amount : Nat} {rest : State → Code}
    (h : Running ch s b) (hrest : ∀ s, Calm t (rest s)) :
    Calm t (payOut token recipient amount rest s) :=
  calm_call h (by simp) (by simp [Reentrancy.FailsOnly]) fun s' _ => hrest s'

/-- What follows the payments of an expired claim, at the same time. -/
abbrev CalmAfter (t : Tx ch.self) (b : Book) (rest : State → Code) : Prop :=
  ∀ s' b', Running ch s' b' → b'.now = b.now → Calm t (rest s')

theorem calm_refundLeftover {leftover slashAmt : Nat} {rest : State → Code}
    (h : Running ch s b) (hrest : CalmAfter t b rest) :
    Calm t (refundLeftover id leftover (resetExpired id slashAmt rest) s) := by
  have hreset : ∀ s' b', Running ch s' b' → b'.now = b.now →
      Calm t (resetExpired id slashAmt rest s') :=
    fun s' b' h' hnow => hrest _ _ ((h'.emit _).setClaim id _) hnow
  unfold refundLeftover
  split
  · exact calm_send h fun s' h' => hreset s' _ h' rfl
  · exact hreset s b h rfl

theorem calm_endExpiredClaim {rest : State → Code} (h : Running ch s b)
    (hbond : (s.requestClaim id).bond < 2 ^ 128) (hrest : CalmAfter t b rest) :
    Calm t (endExpiredClaim id rest s) := by
  obtain ⟨hmul, _, hsub⟩ := h.sound.slash_fits hbond
  have hbooked := h.setClaim id { s.requestClaim id with bond := 0 }
  unfold endExpiredClaim
  simp only [hmul, hsub]
  unfold slashTransfer
  split
  · exact calm_send hbooked fun s' h' => calm_refundLeftover h' hrest
  · split
    · exact calm_refundLeftover (hbooked.retained id _) hrest
    · exact calm_refundLeftover hbooked hrest

theorem calm_registerClaim (h : Running ch s b) (hnow : b.now < 2 ^ 63) :
    Calm t (registerClaim ch t id s) := by
  refine calm_require (by simp) fun _ => ?_
  rw [(h.sound.deadline_fits (h.time ▸ hnow)).1]
  trivial

/-! ### The functions -/

theorem calm_nonReentrant {body : State → Code} (hs : Sound ch s)
    (hbody : ∀ s', s' = { s with entered := true } → Running ch s' s.book → Calm t (body s')) :
    Calm t (nonReentrant body s) := by
  refine calm_require (by simp) fun _ => hbody _ rfl ⟨rfl, ?_, rfl⟩
  exact hs.congr rfl rfl rfl rfl rfl rfl rfl (fun _ _ => rfl) rfl

theorem calm_initiateBridge {token : Address} {amount : Nat} {input : Bytes32}
    {proof : List UInt8} (hs : Sound ch s) (hamount : amount < 2 ^ 240)
    (hnonce : s.bridgeNonce + 1 < 2 ^ 256) :
    Calm t (initiateBridge ch t token amount input proof s) := by
  refine calm_nonReentrant hs fun s₁ hs₁ h => ?_
  refine calm_require (by simp) fun _ => calm_require (by simp) fun _ => ?_
  obtain ⟨hfee, hsub⟩ := h.sound.fee_fits hamount
  rw [hfee]
  simp only [hsub]
  refine calm_call h (by simpa using t.sender_ne_contract) (by simp [Reentrancy.FailsOnly])
    fun s₂ h₂ => calm_require (by simp) fun _ => ?_
  split
  · simp [Reentrancy.FailsOnly]
  · have hadd : checkedAdd s₂.bridgeNonce 1 = some (s₂.bridgeNonce + 1) := by
      refine if_pos ?_
      rw [h₂.nonce]
      exact hnonce
    unfold recordRequest
    simp only [State.allow, State.note, hadd]
    trivial

theorem calm_claimBridge (hs : Sound ch s) (hbond : (s.requestClaim id).bond < 2 ^ 128)
    (hnow : s.now < 2 ^ 63) : Calm t (claimBridge ch t id s) := by
  refine calm_nonReentrant hs fun s₁ hs₁ h => ?_
  refine calm_require (by simp) fun _ => calm_require (by simp) fun _ => ?_
  refine calm_require (by simp) fun _ => calm_require (by simp) fun _ => ?_
  split
  · refine calm_endExpiredClaim h (by rw [hs₁]; exact hbond) fun s' b' h' hnow' => ?_
    exact calm_registerClaim h' (hnow'.trans_lt hnow)
  · exact calm_registerClaim h hnow

theorem calm_releaseExpiredClaim (hs : Sound ch s)
    (hbond : (s.requestClaim id).bond < 2 ^ 128) :
    Calm t (releaseExpiredClaim id s) := by
  refine calm_nonReentrant hs fun s₁ hs₁ h => ?_
  refine calm_require (by simp) fun _ => calm_require (by simp) fun _ => ?_
  exact calm_endExpiredClaim h (by rw [hs₁]; exact hbond) fun _ _ _ _ => trivial

theorem calm_verifyAndPay {rest : State → Code} (h : Running ch s b)
    (hpayout : (s.bridgeRequests id).sender ≠ 0 →
      checkedAdd (s.bridgeRequests id).amount (s.requestFeeEscrow id) =
        some ((s.bridgeRequests id).amount + s.requestFeeEscrow id))
    (hrest : ∀ s, Calm t (rest s)) : Calm t (verifyAndPay id rest s) := by
  refine calm_require (by simp) fun hknown => calm_require (by simp) fun _ => ?_
  refine calm_require (by simp) fun _ => calm_require (by simp) fun _ => ?_
  simp only [State.setFeeEscrow, hpayout hknown]
  refine calm_call ((h.setFeeEscrow id 0).setRequest id _) (by simp)
    (by simp [Reentrancy.FailsOnly]) fun s₁ h₁ => calm_require (by simp) fun _ => ?_
  refine calm_call ((h₁.emit _).setClaim id _) (by simp) (by simp [Reentrancy.FailsOnly])
    fun s₂ h₂ => calm_require (by simp) fun _ => hrest _

/-- The functions without the guard do no arithmetic. -/
theorem calm_unguarded (h : t.fn.unguarded = true) (s : State) : Calm t (entry ch t s) := by
  unfold entry
  cases hfn : t.fn with
  | updateRelayer newRelayer =>
      exact calm_require (by simp) fun _ => calm_require (by simp) fun _ =>
        calm_require (by simp) fun _ => trivial
  | updateFeePercentage newFeePercentage =>
      exact calm_require (by simp) fun _ => calm_require (by simp) fun _ =>
        calm_require (by simp) fun _ => trivial
  | updateFeeLimits newMinFee newMaxFee =>
      exact calm_require (by simp) fun _ => calm_require (by simp) fun _ =>
        calm_require (by simp) fun _ => trivial
  | updateClaimWindow newWindow =>
      refine calm_require (by simp) fun _ => calm_require (by simp) fun _ => ?_
      split
      · trivial
      · simp [Reentrancy.FailsOnly]
  | updateMinSolverBond newMinBond =>
      exact calm_require (by simp) fun _ => calm_require (by simp) fun _ => trivial
  | updateSlashParams newSlashBps newCollector =>
      refine calm_require (by simp) fun _ => calm_require (by simp) fun _ => ?_
      split
      · trivial
      · simp [Reentrancy.FailsOnly]
  | authorizeNode node =>
      refine calm_require (by simp) fun _ => calm_require (by simp) fun _ =>
        calm_require (by simp) fun _ => ?_
      split <;> trivial
  | revokeNode node =>
      refine calm_require (by simp) fun _ => calm_require (by simp) fun _ => ?_
      split <;> trivial
  | transferOwnership newOwner =>
      exact calm_require (by simp) fun _ => calm_require (by simp) fun _ =>
        calm_require (by simp) fun _ => trivial
  | renounceOwnership =>
      exact calm_require (by simp) fun _ => calm_require (by simp) fun _ => trivial
  | _ =>
      rw [hfn] at h
      exact absurd h Bool.false_ne_true

/-- The amounts and the clock are within the bounds. -/
structure Bounded (s : State) : Prop where
  deposits : ∀ p ∈ deposits s.log, p.2 < 2 ^ 240
  bonds : ∀ id, (s.requestClaim id).bond < 2 ^ 128
  now : s.now < 2 ^ 63

theorem calm_settlement {rest : State → Code} (hv : Valid ch s) (hb : Bounded s)
    (hrest : ∀ s, Calm t (rest s)) : Calm t (nonReentrant (verifyAndPay id rest) s) := by
  refine calm_nonReentrant hv.sound fun s₁ hs₁ h => ?_
  refine calm_verifyAndPay h (fun hknown => ?_) hrest
  subst hs₁
  exact (hv.payout_fits hb.deposits hknown).1

theorem calm_entry (hv : Valid ch s) (hb : Bounded s)
    (hamount : ∀ token amount, t.fn.gross = some (token, amount) →
      amount < 2 ^ 240 ∧ s.bridgeNonce + 1 < 2 ^ 256) : Calm t (entry ch t s) := by
  cases hu : t.fn.unguarded with
  | true => exact calm_unguarded hu s
  | false =>
      unfold entry
      cases hfn : t.fn with
      | initiateBridge token amount input proof =>
          obtain ⟨hlt, hnonce⟩ := hamount token amount (by rw [hfn]; rfl)
          exact calm_require (by simp) fun _ => calm_initiateBridge hv.sound hlt hnonce
      | claimBridge requestId =>
          exact calm_require (by simp) fun _ =>
            calm_claimBridge hv.sound.receive (hb.bonds requestId) hb.now
      | verifyAndSettle requestId destTxHash evidenceHash =>
          exact calm_require (by simp) fun _ => calm_require (by simp) fun _ =>
            calm_settlement hv hb fun _ => trivial
      | verifyAndSettleURL requestId destTxHash evidenceHash evidenceURL =>
          exact calm_require (by simp) fun _ => calm_require (by simp) fun _ =>
            calm_settlement hv hb fun _ => trivial
      | releaseExpiredClaim requestId =>
          exact calm_require (by simp) fun _ =>
            calm_releaseExpiredClaim hv.sound (hb.bonds requestId)
      | deliverTokens recipient token amount =>
          refine calm_require (by simp) fun _ => calm_require (by simp) fun _ => ?_
          refine calm_nonReentrant hv.sound fun s₁ _ h => ?_
          exact calm_require (by simp) fun _ => calm_require (by simp) fun _ =>
            calm_payOut h fun _ => trivial
      | collectFees token recipient =>
          refine calm_require (by simp) fun _ => calm_require (by simp) fun _ => ?_
          refine calm_nonReentrant hv.sound fun s₁ hs₁ _ => ?_
          subst hs₁
          refine calm_require (by simp) fun _ => ?_
          simp [hv.sound.noFees token, Reentrancy.FailsOnly]
      | emergencyWithdraw token amount recipient =>
          refine calm_require (by simp) fun _ => calm_require (by simp) fun _ => ?_
          refine calm_nonReentrant hv.sound fun s₁ _ h => ?_
          exact calm_require (by simp) fun _ => calm_require (by simp) fun _ =>
            calm_payOut h fun _ => trivial
      | _ =>
          rw [hfn] at hu
          exact absurd hu.symm Bool.false_ne_true

/-! ## Every reachable state -/

theorem Book.Step.now {home : Address} {fn : Fn} {b b' : Book} (st : Book.Step home fn b b') :
    b'.now = b.now := by
  cases st <;> rfl

/-- A claim that is mined has the time of its transaction, and its deadline a
whole window later. -/
theorem Valid.deadline_exact (hv : Valid ch s) (hnow : s.now < 2 ^ 63)
    (hfn : t.fn = .claimBridge id) (hc : Reentrancy.Commits (contract ch) t s s') :
    (s'.requestClaim id).claimedAt = s.now ∧
      (s'.requestClaim id).deadline = s.now + s'.claimWindow := by
  have he := hv.commits hc
  have hsame : s'.now = s.now := he.step.now
  obtain ⟨_, hclaimed, hdeadline⟩ := he.sound.deadline_fits (hsame ▸ hnow)
  rw [commits_newClaim hfn hc, State.newClaim, hclaimed, hdeadline, hsame]
  exact ⟨rfl, rfl⟩

/-- **The arithmetic of the contract.** In every reachable state with
deposits below 2^240, bonds below 2^128 and the clock below 2^63: the fee of
such an amount is taken from it without underflow; the slash of every bond is
a part of it; what a settlement adds up fits, and is the deposit; a claim has
the time of its transaction and a deadline of exactly one window later; and
no call reverts for an arithmetic reason, unless the requests have run out of
numbers. -/
theorem arithmetic_safe (h : Reachable ch s) (hb : Bounded s) :
    (∀ amount, amount < 2 ^ 240 → ∃ fee net, calculateFee s amount = some fee ∧
      checkedSub amount fee = some net ∧ net + fee = amount) ∧
    (∀ id, ∃ product leftover, checkedMul (s.requestClaim id).bond s.slashBps = some product ∧
      product / 10000 ≤ (s.requestClaim id).bond ∧
      checkedSub (s.requestClaim id).bond (product / 10000) = some leftover ∧
      leftover + product / 10000 = (s.requestClaim id).bond) ∧
    (∀ id, (s.bridgeRequests id).sender ≠ 0 → (s.bridgeRequests id).finalized = false →
      checkedAdd (s.bridgeRequests id).amount (s.requestFeeEscrow id) = some (s.gross id)) ∧
    (∀ (t : Tx ch.self) id s', t.fn = .claimBridge id →
      Reentrancy.Commits (contract ch) t s s' →
      (s'.requestClaim id).claimedAt = s.now ∧
        (s'.requestClaim id).deadline = (s'.requestClaim id).claimedAt + s'.claimWindow) ∧
    ∀ t : Tx ch.self, Reentrancy.Fails (contract ch) t (entry ch t s) .Panic →
      ∃ token amount, t.fn.gross = some (token, amount) ∧
        (2 ^ 240 ≤ amount ∨ 2 ^ 256 ≤ s.bridgeNonce + 1) := by
  have hv := h.valid
  refine ⟨fun amount hlt => ?_, fun id => ?_, fun id hknown hf => ?_,
    fun t id s' hfn hc => ?_, fun t hpanic => ?_⟩
  · obtain ⟨hfee, hsub⟩ := hv.sound.fee_fits hlt
    exact ⟨_, _, hfee, hsub, checkedSub_some hsub⟩
  · obtain ⟨hmul, hle, hsub⟩ := hv.sound.slash_fits (hb.bonds id)
    exact ⟨_, _, hmul, hle, hsub, checkedSub_some hsub⟩
  · obtain ⟨hadd, hgross⟩ := hv.payout_fits hb.deposits hknown
    rw [hadd, hgross hf]
  · obtain ⟨hclaimed, hdeadline⟩ := hv.deadline_exact hb.now hfn hc
    exact ⟨hclaimed, by rw [hdeadline, hclaimed]⟩
  · by_contra hnone
    refine (guarded ch).fails _ hpanic (calm_entry hv hb fun token amount hgross => ?_) rfl
    rw [not_exists] at hnone
    have hthis := hnone token
    rw [not_exists] at hthis
    have hbounds := hthis amount
    simp only [hgross, true_and, not_or, Nat.not_le] at hbounds
    exact hbounds

theorem Sample.expired_bounded : Bounded Sample.expired where
  deposits := by decide +kernel
  bonds := by
    intro id
    by_cases hid : id = 1
    · subst hid
      have hclaim : Sample.expired.requestClaim 1 = ⟨5, 1000, 2200, 2 * 10 ^ 16⟩ :=
        Sample.claimed_byFive.claim
      rw [hclaim]
      decide
    · have hl := Sample.expired_reachable.valid.lifecycle
      have hfree : (Sample.expired.requestClaim id).solver = 0 := by
        by_contra hheld
        have hknown := (hl.known id).mp (hl.held id hheld).1
        have hnonce : Sample.expired.bridgeNonce = 1 := by decide +kernel
        simp only [book_nonce, hnonce] at hknown
        omega
      have hempty : Sample.expired.requestClaim id = Claim.empty := hl.free id hfree
      rw [hempty]
      decide
  now := by decide

/-- The claim has expired; half of its bond is slashed, and the next claim
ends one window later. -/
theorem arithmetic_safe_expired :
    (∃ product, checkedMul (Sample.expired.requestClaim 1).bond 5000 = some product ∧
      product / 10000 ≤ (Sample.expired.requestClaim 1).bond) ∧
    (∃ s', Reentrancy.Commits (contract Sample.chain) Sample.takeover Sample.expired s' ∧
      (s'.requestClaim 1).claimedAt = 2200) ∧
    ¬ Reentrancy.Fails (contract Sample.chain) Sample.takeover
      (entry Sample.chain Sample.takeover Sample.expired) .Panic := by
  obtain ⟨_, hslash, _, hdeadline, hpanic⟩ :=
    arithmetic_safe Sample.expired_reachable Sample.expired_bounded
  refine ⟨?_, ?_, fun hfails => ?_⟩
  · obtain ⟨product, leftover, hmul, hle, _⟩ := hslash 1
    have hbps : Sample.expired.slashBps = 5000 := Sample.claimed_byFive.slashBps
    rw [hbps] at hmul
    exact ⟨product, hmul, hle⟩
  · have hsome : (Reentrancy.accepting (contract Sample.chain) Sample.takeover
        (entry Sample.chain Sample.takeover Sample.expired)).isSome = true := by decide +kernel
    obtain ⟨s', hs'⟩ := Option.isSome_iff_exists.mp hsome
    have hc := Reentrancy.exec_of_accepting _ hs'
    exact ⟨s', hc, (hdeadline Sample.takeover 1 s' rfl hc).1⟩
  · obtain ⟨token, amount, hgross, _⟩ := hpanic Sample.takeover hfails
    cases hgross

end LunarysBridge.Evm
