/-
LunarysBridge.Evm.Record — what is on the log stays on it.

One pass over the code, with the same rules as for the escrow: whatever a
callee does, the log of the caller is only added to. So what others gave
to the contract never goes down, and a balance can be compared over a
transaction.
-/
import LunarysBridge.Evm.Refinement

namespace LunarysBridge.Evm

variable {ch : Chain} {t : Tx ch.self} {s s' : State} {l : List LogEntry}

/-! ## Calls under the guard -/

/-- If the code ends at once, the log has only been added to. -/
def Adds (s : State) (p : Code) : Prop := ∀ s', p = .done s' → s.log <+: s'.log

theorem adds_revert (e : Revert) : Adds s (.revert e) := by
  intro s' h
  cases h

theorem adds_done (h : s'.log = s.log) : Adds s (.done s') := by
  intro s'' hs''
  cases hs''
  rw [h]

theorem adds_emit (e : Event) (h : s'.log = s.log) : Adds s (.done (s'.emit e)) := by
  intro s'' hs''
  cases hs''
  exact h ▸ List.prefix_append ..

theorem adds_ite {c : Prop} [Decidable c] {p q : Code} (hp : Adds s p) (hq : Adds s q) :
    Adds s (if c then p else q) := by
  split
  · exact hp
  · exact hq

theorem adds_owned {body : State → Code} (h : Adds s (body s)) :
    Adds s (nonPayable ch t (onlyOwner ch t body) s) :=
  adds_ite (adds_revert _) (adds_ite (adds_revert _) h)

/-- The functions without the guard add to the log. -/
theorem adds_unguarded (h : t.fn.unguarded = true) : Adds s (entry ch t s) := by
  unfold entry
  cases hfn : t.fn with
  | updateRelayer newRelayer => exact adds_owned (adds_ite (adds_revert _) (adds_emit _ rfl))
  | updateFeePercentage newFeePercentage =>
      exact adds_owned (adds_ite (adds_revert _) (adds_emit _ rfl))
  | updateFeeLimits newMinFee newMaxFee =>
      exact adds_owned (adds_ite (adds_revert _) (adds_emit _ rfl))
  | updateClaimWindow newWindow =>
      exact adds_owned (adds_ite (adds_done rfl) (adds_revert _))
  | updateMinSolverBond newMinBond => exact adds_owned (adds_done rfl)
  | updateSlashParams newSlashBps newCollector =>
      exact adds_owned (adds_ite (adds_done rfl) (adds_revert _))
  | authorizeNode node =>
      exact adds_owned (adds_ite (adds_revert _)
        (adds_ite (adds_emit _ rfl) (adds_done rfl)))
  | revokeNode node => exact adds_owned (adds_ite (adds_emit _ rfl) (adds_done rfl))
  | transferOwnership newOwner =>
      exact adds_owned (adds_ite (adds_revert _) (adds_emit _ rfl))
  | renounceOwnership => exact adds_owned (adds_emit _ rfl)
  | _ =>
      rw [hfn] at h
      exact absurd h Bool.false_ne_true

theorem adds_locked (hl : s'.entered = true) (body : State → Code) :
    Adds s (nonReentrant body s') := by
  rw [nonReentrant, if_pos hl]
  exact adds_revert _

/-- Under the guard all functions do. -/
theorem adds_entry (hl : s.entered = true) : Adds s (entry ch t s) := by
  cases hu : t.fn.unguarded with
  | true => exact adds_unguarded hu
  | false =>
      have hlocked : ∀ body, Adds s (nonReentrant body s) := adds_locked hl
      unfold entry
      cases hfn : t.fn with
      | initiateBridge token amount input proof => exact adds_ite (adds_revert _) (hlocked _)
      | claimBridge requestId =>
          refine adds_ite (adds_revert _) (adds_locked ?_ _)
          exact hl
      | verifyAndSettle requestId destTxHash evidenceHash =>
          exact adds_ite (adds_revert _) (adds_ite (adds_revert _) (hlocked _))
      | verifyAndSettleURL requestId destTxHash evidenceHash evidenceURL =>
          exact adds_ite (adds_revert _) (adds_ite (adds_revert _) (hlocked _))
      | releaseExpiredClaim requestId => exact adds_ite (adds_revert _) (hlocked _)
      | deliverTokens recipient token amount =>
          exact adds_ite (adds_revert _) (adds_ite (adds_revert _) (hlocked _))
      | collectFees token recipient => exact adds_owned (hlocked _)
      | emergencyWithdraw token amount recipient => exact adds_owned (hlocked _)
      | _ =>
          rw [hfn] at hu
          exact absurd hu.symm Bool.false_ne_true

/-- The guard stays as it is, and the log has only been added to. -/
structure Logged (s s' : State) : Prop where
  entered : s'.entered = s.entered
  log : s.log <+: s'.log

theorem logged_outside (h : Outside ch s s') : Logged s s' := by
  cases h with
  | donate token amount => exact ⟨rfl, List.prefix_append ..⟩
  | force amount => exact ⟨rfl, List.prefix_append ..⟩
  | others eth bal sameEth sameBal => exact ⟨rfl, List.prefix_refl _⟩

/-- Whatever others do under the guard, they only add to the log. -/
theorem guarded_log (ch : Chain) :
    Reentrancy.Guarded (contract ch) (fun s => s.entered = true) Logged where
  refl _ := ⟨rfl, List.prefix_refl _⟩
  trans h₁ h₂ := ⟨h₂.entered.trans h₁.entered, h₁.log.trans h₂.log⟩
  keeps h hl := h.entered.trans hl
  outside := logged_outside
  entry t s hl := by
    rcases entry_locked t s hl with ⟨e, he⟩ | ⟨s', hs', hundisturbed⟩
    · exact .inl ⟨e, he⟩
    · exact .inr ⟨s', hs', hundisturbed.entered, adds_entry hl s' hs'⟩

/-! ## The pass -/

/-- The code ends with a log that begins with `l`. -/
abbrev Records (t : Tx ch.self) (l : List LogEntry) : Code → Prop :=
  Reentrancy.Sat (contract ch) t (fun s => s.entered = true) Logged (fun _ _ => True)
    fun s => l <+: s.log

/-- The guard is taken, and the log begins with `l`. -/
structure Since (l : List LogEntry) (s : State) : Prop where
  locked : s.entered = true
  log : l <+: s.log

theorem Since.note (h : Since l s) (e : LogEntry) : Since l (s.note e) :=
  ⟨h.locked, h.log.trans (List.prefix_append ..)⟩

theorem records_revert (e : Revert) : Records t l (.revert e) := trivial

theorem records_leave (h : Since l s) : Records t l (leave s) := h.log

theorem records_call {x : ExtCall} {k : Bool → State → Code} (h : Since l s)
    (hfail : Records t l (k false s))
    (hok : ∀ s', Since l s' → Records t l (k true s')) : Records t l (.call x s k) := by
  refine ⟨trivial, fun s₁ hsent => ?_, hfail⟩
  have hlog : s₁.entered = s.entered ∧ s₁.log = s.log ++ [.called t.fn x] := by
    have hdeliver : deliver ch t x s = some s₁ := hsent
    unfold deliver at hdeliver
    split at hdeliver <;> (repeat' split at hdeliver) <;> cases hdeliver <;> exact ⟨rfl, rfl⟩
  have hl : s₁.entered = true := hlog.1.trans h.locked
  refine ⟨hl, fun s₂ hreturn => hok s₂ ⟨hreturn.entered.trans hl, ?_⟩⟩
  exact (h.log.trans (hlog.2 ▸ List.prefix_append ..)).trans hreturn.log

/-- A payment that must succeed. -/
theorem records_pay {x : ExtCall} {rest : State → Code} {e : Revert} (h : Since l s)
    (hrest : ∀ s', Since l s' → Records t l (rest s')) :
    Records t l (.call x s fun ok s => if ok then rest s else .revert e) :=
  records_call h (records_revert e) hrest

theorem records_nonReentrant {body : State → Code} (h : l <+: s.log)
    (hbody : ∀ s', Since l s' → Records t l (body s')) :
    Records t l (nonReentrant body s) := by
  unfold nonReentrant
  split
  · exact records_revert _
  · exact hbody _ ⟨rfl, h⟩

theorem records_ite {c : Prop} [Decidable c] {p q : Code} (hp : Records t l p)
    (hq : Records t l q) : Records t l (if c then p else q) := by
  split
  · exact hp
  · exact hq

theorem records_recordRequest {token : Address} {amountAfterFee fee : Nat} {handle : Handle}
    (h : Since l s) : Records t l (recordRequest ch t token amountAfterFee fee handle s) := by
  have hallowed := ((h.note (.allowed handle t.sender)).note (.allowed handle ch.self)).note
    (.allowed handle s.relayer)
  unfold recordRequest
  simp only []
  split
  · exact records_revert _
  · refine records_leave (Since.note ?_ _)
    exact ⟨hallowed.locked, hallowed.log⟩

theorem records_initiateBridge {token : Address} {amount : Nat} {input : Bytes32}
    {proof : List UInt8} (h : l <+: s.log) :
    Records t l (initiateBridge ch t token amount input proof s) := by
  refine records_nonReentrant h fun s₁ h₁ => ?_
  refine records_ite (records_revert _) (records_ite (records_revert _) ?_)
  split
  · exact records_revert _
  · split
    · exact records_revert _
    · refine records_call h₁ (records_revert _) fun s₂ h₂ => ?_
      simp only [Bool.true_eq_false, if_false]
      split
      · exact records_revert _
      · exact records_recordRequest h₂

theorem records_endExpiredClaim {id : Nat} {rest : State → Code} (h : Since l s)
    (hrest : ∀ s', Since l s' → Records t l (rest s')) :
    Records t l (endExpiredClaim id rest s) := by
  have hreset : ∀ slashAmt s', Since l s' → Records t l (resetExpired id slashAmt rest s') := by
    intro slashAmt s' h'
    have hemit := h'.note (.emit (.BridgeClaimExpired id (s'.requestClaim id).solver slashAmt))
    exact hrest _ ⟨hemit.locked, hemit.log⟩
  have hrefund : ∀ leftover slashAmt s', Since l s' →
      Records t l (refundLeftover id leftover (resetExpired id slashAmt rest) s') := by
    intro leftover slashAmt s' h'
    exact records_ite (records_pay h' fun s₂ h₂ => hreset slashAmt s₂ h₂)
      (hreset slashAmt s' h')
  unfold endExpiredClaim
  split
  · exact records_revert _
  · simp only []
    split
    · exact records_revert _
    · next leftover _ =>
      generalize hs₁ : s.setClaim id { s.requestClaim id with bond := 0 } = s₁
      have h₁ : Since l s₁ := by
        rw [← hs₁]
        exact ⟨h.locked, h.log⟩
      unfold slashTransfer
      refine records_ite (records_pay h₁ fun s₂ h₂ => hrefund leftover _ s₂ h₂) ?_
      exact records_ite (hrefund leftover _ _ (h₁.note _)) (hrefund leftover _ _ h₁)

theorem records_registerClaim {id : Nat} (h : Since l s) :
    Records t l (registerClaim ch t id s) := by
  unfold registerClaim
  split
  · exact records_revert _
  · split
    · exact records_revert _
    · refine records_leave (Since.note (Since.note ?_ _) _)
      exact ⟨h.locked, h.log⟩

theorem records_claimBridge {id : Nat} (h : l <+: s.log) :
    Records t l (claimBridge ch t id s) := by
  refine records_nonReentrant h fun s₁ h₁ => ?_
  refine records_ite (records_revert _) (records_ite (records_revert _)
    (records_ite (records_revert _) (records_ite (records_revert _) ?_)))
  exact records_ite (records_endExpiredClaim h₁ fun s₂ h₂ => records_registerClaim h₂)
    (records_registerClaim h₁)

theorem records_releaseExpiredClaim {id : Nat} (h : l <+: s.log) :
    Records t l (releaseExpiredClaim id s) := by
  refine records_nonReentrant h fun s₁ h₁ => ?_
  exact records_ite (records_revert _) (records_ite (records_revert _)
    (records_endExpiredClaim h₁ fun s₂ h₂ => records_leave h₂))

theorem records_refundBond {id : Nat} {rest : State → Code} (h : Since l s)
    (hrest : ∀ s', Since l s' → Records t l (rest s')) :
    Records t l (refundBond id rest s) := by
  refine records_call ⟨h.locked, h.log⟩ (records_revert _) fun s₁ h₁ => ?_
  have hemit := h₁.note (.emit (.SolverBondRefunded id (s₁.requestClaim id).solver
    (s.requestClaim id).bond))
  exact hrest _ ⟨hemit.locked, hemit.log⟩

theorem records_verifyAndPay {id : Nat} {rest : State → Code} (h : Since l s)
    (hrest : ∀ s', Since l s' → Records t l (rest s')) :
    Records t l (verifyAndPay id rest s) := by
  refine records_ite (records_revert _) (records_ite (records_revert _)
    (records_ite (records_revert _) (records_ite (records_revert _) ?_)))
  simp only []
  split
  · exact records_revert _
  · refine records_call ⟨h.locked, h.log⟩ (records_revert _) fun s₂ h₂ => ?_
    exact records_refundBond (h₂.note _) hrest

theorem records_payOut {token recipient : Address} {amount : Nat} {rest : State → Code}
    (h : Since l s) (hrest : ∀ s', Since l s' → Records t l (rest s')) :
    Records t l (payOut token recipient amount rest s) :=
  records_pay h hrest

theorem records_entry (t : Tx ch.self) (s : State) : Records t s.log (entry ch t s) := by
  have hl : s.log <+: s.log := List.prefix_refl _
  have hsettle : ∀ id (e : Event), Records t s.log (nonReentrant (verifyAndPay id fun s =>
      leave (s.emit e)) s) := by
    intro id e
    exact records_nonReentrant hl fun s₁ h₁ => records_verifyAndPay h₁ fun s₂ h₂ =>
      records_leave (h₂.note _)
  cases hu : t.fn.unguarded with
  | true =>
      rcases harmless_unguarded (t := t) (s := s) hu with ⟨e, he⟩ | ⟨s', hs', _⟩
      · rw [he]
        exact records_revert e
      · rw [hs']
        exact adds_unguarded hu s' hs'
  | false =>
      unfold entry
      cases hfn : t.fn with
      | initiateBridge token amount input proof =>
          exact records_ite (records_revert _) (records_initiateBridge hl)
      | claimBridge requestId =>
          refine records_ite (records_revert _) (records_claimBridge ?_)
          exact List.prefix_append ..
      | verifyAndSettle requestId destTxHash evidenceHash =>
          exact records_ite (records_revert _) (records_ite (records_revert _) (hsettle _ _))
      | verifyAndSettleURL requestId destTxHash evidenceHash evidenceURL =>
          exact records_ite (records_revert _) (records_ite (records_revert _) (hsettle _ _))
      | releaseExpiredClaim requestId =>
          exact records_ite (records_revert _) (records_releaseExpiredClaim hl)
      | deliverTokens recipient token amount =>
          refine records_ite (records_revert _) (records_ite (records_revert _)
            (records_nonReentrant hl fun s₁ h₁ => ?_))
          exact records_ite (records_revert _) (records_ite (records_revert _)
            (records_payOut h₁ fun s₂ h₂ => records_leave (h₂.note _)))
      | collectFees token recipient =>
          refine records_ite (records_revert _) (records_ite (records_revert _)
            (records_nonReentrant hl fun s₁ h₁ => ?_))
          exact records_ite (records_revert _) (records_ite (records_revert _)
            (records_payOut ⟨h₁.locked, h₁.log⟩ fun s₂ h₂ => records_leave (h₂.note _)))
      | emergencyWithdraw token amount recipient =>
          refine records_ite (records_revert _) (records_ite (records_revert _)
            (records_nonReentrant hl fun s₁ h₁ => ?_))
          exact records_ite (records_revert _) (records_ite (records_revert _)
            (records_payOut h₁ fun s₂ h₂ => records_leave h₂))
      | _ =>
          rw [hfn] at hu
          exact absurd hu.symm Bool.false_ne_true

/-- **The log only grows**, over a transaction and over every other step. -/
theorem commits_log (hc : Reentrancy.Commits (contract ch) t s s') : s.log <+: s'.log :=
  (guarded_log ch).exec _ hc (records_entry t s)

/-! ## Who claims -/

/-- The claim a call makes, with the clock and the window of its end. -/
def State.newClaim (s : State) (t : Tx ch.self) : Claim where
  solver := t.sender
  claimedAt := uint64 s.now
  deadline := uint64 (s.now + s.claimWindow)
  bond := t.value

/-- The request is the sender's at every end of the code. -/
abbrev Claimed (t : Tx ch.self) (id : Nat) : Code → Prop :=
  Reentrancy.Always fun s => s.requestClaim id = s.newClaim t

theorem claimed_ite {id : Nat} {c : Prop} [Decidable c] {p q : Code} (hp : Claimed t id p)
    (hq : Claimed t id q) : Claimed t id (if c then p else q) := by
  split
  · exact hp
  · exact hq

theorem claimed_registerClaim {id : Nat} (s : State) :
    Claimed t id (registerClaim ch t id s) := by
  unfold registerClaim
  split
  · trivial
  · split
    · trivial
    · next deadline hadd =>
      simp [Claimed, Reentrancy.Always, leave, State.emit, State.allow, State.note,
        State.setClaim, State.newClaim, checkedAdd_some hadd]

theorem claimed_endExpiredClaim {id : Nat} {rest : State → Code}
    (hrest : ∀ s, Claimed t id (rest s)) (s : State) :
    Claimed t id (endExpiredClaim id rest s) := by
  have hpay : ∀ {x : ExtCall} {s : State} {e : Revert} {rest : State → Code},
      (∀ s, Claimed t id (rest s)) →
      Claimed t id (.call x s fun ok s => if ok then rest s else .revert e) :=
    fun hrest ok s => claimed_ite (hrest s) trivial
  have hreset : ∀ slashAmt s, Claimed t id (resetExpired id slashAmt rest s) :=
    fun slashAmt s => hrest _
  have hrefund : ∀ leftover slashAmt s,
      Claimed t id (refundLeftover id leftover (resetExpired id slashAmt rest) s) :=
    fun leftover slashAmt s => claimed_ite (hpay (hreset slashAmt)) (hreset slashAmt s)
  unfold endExpiredClaim
  split
  · trivial
  · simp only []
    split
    · trivial
    · exact claimed_ite (hpay (hrefund _ _)) (claimed_ite (hrefund _ _ _) (hrefund _ _ _))

/-- **A claim that is mined** is the new one. -/
theorem commits_newClaim {id : Nat} (hfn : t.fn = .claimBridge id)
    (hc : Reentrancy.Commits (contract ch) t s s') : s'.requestClaim id = s'.newClaim t := by
  refine Reentrancy.exec_of_always (fun s => s.requestClaim id = s.newClaim t)
    (entry ch t s) hc ?_
  have hclaim : ∀ s, Claimed t id (claimBridge ch t id s) := by
    intro s
    unfold claimBridge nonReentrant onlyAuthorizedNode
    refine claimed_ite trivial (claimed_ite trivial ?_)
    refine claimed_ite trivial (claimed_ite trivial (claimed_ite trivial ?_))
    exact claimed_ite (claimed_endExpiredClaim claimed_registerClaim _)
      (claimed_registerClaim _)
  rw [entry, hfn]
  exact claimed_ite trivial (hclaim _)

/-- So it is its sender's. -/
theorem commits_claim {id : Nat} (hfn : t.fn = .claimBridge id)
    (hc : Reentrancy.Commits (contract ch) t s s') :
    (s'.requestClaim id).solver = t.sender := by
  rw [commits_newClaim hfn hc]
  rfl

end LunarysBridge.Evm
