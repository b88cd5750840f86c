/-
LunarysBridge.Evm.Payee — whom a settlement pays.

The payout and the bond of a request leave the contract in its settlement
and in no other call, and both go to the account that holds the claim when
the settlement is mined (`Valid.settledTo`). Nothing changes that later.
-/
import LunarysBridge.Evm.Settlement

namespace LunarysBridge.Evm

/-- The account an external call sends value to. -/
def ExtCall.payee : ExtCall → Option Address
  | .send recipient _ => some recipient
  | .safeTransfer _ recipient _ => some recipient
  | .safeTransferFrom _ _ _ => none

/-- Settlement of the request has paid this account, and nobody else. -/
structure SettledTo (s : State) (id : Nat) (account : Address) : Prop where
  paid : ∃ token amount, payouts id s.log = [(token, account, amount)]
  only : ∀ fn x, .called fn x ∈ s.log → fn.settles = some id → x.payee = some account

/-- Settlement has sent nothing for a request that is not finalised. -/
def Unsettled (s : State) : Prop :=
  ∀ id, (s.bridgeRequests id).finalized = false → ∀ fn x, .called fn x ∈ s.log →
    fn.settles ≠ some id

namespace Book

variable {home : Address} {fn f : Fn} {b b' : Book} {id : Nat} {x : ExtCall}

theorem called_slashActs {i slash : Nat} {collector : Address}
    (h : .called f x ∈ slashActs fn i collector slash) : f = fn := by
  unfold slashActs at h
  split at h
  · simp at h
    exact h.1
  · split at h <;> simp at h

theorem called_refundActs {solver : Address} {leftover : Nat}
    (h : .called f x ∈ refundActs fn solver leftover) : f = fn := by
  unfold refundActs at h
  split at h
  · simp at h
    exact h.1
  · simp at h

/-- What an operation sends for a settlement goes to the claim holder of an
open request. -/
theorem Step.called (st : Step home fn b b') (h : .called f x ∈ b'.acts)
    (hf : f.settles = some id) :
    .called f x ∈ b.acts ∨ (b.bridgeRequests id).finalized = false ∧
      (b'.bridgeRequests id).finalized = true ∧ x.payee = some (b.requestClaim id).solver := by
  have hother : ∀ {fn' : Fn}, f = fn' → fn'.settles = none → False := by
    rintro _ rfl hnone
    rw [hnone] at hf
    cases hf
  cases st with
  | deposit _ relayer r sender gross sameToken fresh =>
      simp at h
      exact h.imp (fun h => h) fun h => (hother h.1 rfl).elim
  | claim _ i solver value claimWindow known isOpen free someone other window =>
      simp [register, receive, act, setClaim] at h
      exact .inl h
  | takeover _ i solver value claimWindow collector slashBps known isOpen held due
      someone other window bps =>
      simp [register, expire, receive, act, setClaim] at h
      rcases h with hold | hslash | hrefund
      · exact .inl hold
      · exact (hother (called_slashActs hslash) rfl).elim
      · exact (hother (called_refundActs hrefund) rfl).elim
  | release _ i collector slashBps held due bps =>
      simp [expire, act, setClaim] at h
      rcases h with hold | hslash | hrefund
      · exact .inl hold
      · exact (hother (called_slashActs hslash) rfl).elim
      · exact (hother (called_refundActs hrefund) rfl).elim
  | settle _ _ i settles known isOpen held intime =>
      simp at h
      rcases h with hold | ⟨rfl, rfl⟩ | ⟨rfl, rfl⟩
      · exact .inl hold
      · rw [hf] at settles
        cases settles
        exact .inr ⟨isOpen, by simp, rfl⟩
      · rw [hf] at settles
        cases settles
        exact .inr ⟨isOpen, by simp, rfl⟩
  | withdraw _ _ token recipient amount withdraws =>
      simp [act] at h
      exact h.imp (fun h => h) fun h => (hother h.1 (Fn.settles_of_withdraws withdraws)).elim
  | idle _ _ unguarded => exact .inl h

/-- A settlement ends an open request, and its payout goes to the solver. -/
theorem Step.of_settles (st : Step home fn b b') (hfn : fn.settles = some id) :
    b' = b.settle fn id ∧ (b.bridgeRequests id).finalized = false := by
  cases st with
  | settle _ _ i settles known isOpen held intime =>
      rw [hfn] at settles
      cases settles
      exact ⟨rfl, isOpen⟩
  | withdraw _ _ token recipient amount withdraws =>
      rw [Fn.settles_of_withdraws withdraws] at hfn
      cases hfn
  | idle _ _ unguarded =>
      cases fn <;> first | exact absurd unguarded Bool.false_ne_true | cases hfn
  | _ => cases hfn

end Book

variable {ch : Chain} {t : Tx ch.self} {s s' : State} {id : Nat} {account : Address}

theorem called_book {fn : Fn} {x : ExtCall} :
    .called fn x ∈ s.book.acts ↔ .called fn x ∈ s.log := by
  simp [State.book, LogEntry.isAct]

/-- What a step of the chain sends for a settlement. -/
theorem Valid.called (h : Valid ch s) (hstep : Step ch s s') {fn : Fn} {x : ExtCall}
    (hmem : .called fn x ∈ s'.log) (hfn : fn.settles = some id) :
    .called fn x ∈ s.log ∨ (s.bridgeRequests id).finalized = false ∧
      (s'.bridgeRequests id).finalized = true ∧ x.payee = some (s.requestClaim id).solver := by
  cases hstep with
  | tx t commits =>
      rw [← called_book] at hmem ⊢
      exact (h.commits commits).step.called hmem hfn
  | outside move =>
      rw [← called_book, (undisturbed_outside move).book, called_book] at hmem
      exact .inl hmem
  | tick time later => exact .inl hmem

theorem log_deploy (g : Genesis ch) (relayer initialOwner : Address)
    (h : deploy ch g relayer initialOwner = .ok s) : s.log = [] := by
  unfold deploy at h
  split at h
  · cases h
  split at h
  · cases h
  cases h
  rfl

theorem Reachable.unsettled (h : Reachable ch s) : Unsettled s := by
  induction h with
  | deployed g relayer initialOwner h =>
      intro id _ fn x hmem
      rw [log_deploy g relayer initialOwner h] at hmem
      cases hmem
  | @step s s' before hstep ih =>
      intro id hopen fn x hmem hfn
      rcases before.valid.called hstep hmem hfn with hold | ⟨-, hfin, -⟩
      · cases hwas : (s.bridgeRequests id).finalized with
        | false => exact ih id hwas fn x hold hfn
        | true =>
            rw [((before.valid.kept hstep).final hwas).1, hwas] at hopen
            cases hopen
      · rw [hfin] at hopen
        cases hopen

/-- **Settlement pays the claim holder** of that moment, and nobody else. -/
theorem Reachable.settledTo (h : Reachable ch s) (hc : Reentrancy.Commits (contract ch) t s s')
    (hfn : t.fn.settles = some id) :
    (s'.bridgeRequests id).finalized = true ∧ SettledTo s' id (s.requestClaim id).solver := by
  have hv := h.valid
  obtain ⟨hbook, hopen⟩ := (hv.commits hc).step.of_settles hfn
  have hfin : (s'.book.bridgeRequests id).finalized = true := by
    rw [hbook]
    simp
  have hpaid : payouts id s'.log = [((s.bridgeRequests id).token, (s.requestClaim id).solver,
      (s.bridgeRequests id).amount + s.requestFeeEscrow id)] := by
    rw [← payouts_acts, hbook, Book.settle_acts, payouts_append, hv.accounts.unpaid id hopen]
    simp [Book.payout, hfn]
  refine ⟨hfin, ⟨⟨_, _, hpaid⟩, fun fn x hmem hx => ?_⟩⟩
  rcases hv.called (.tx t hc) hmem hx with hold | ⟨-, -, hpayee⟩
  · exact absurd hx (h.unsettled id hopen fn x hold)
  · exact hpayee

theorem SettledTo.recipients (h : SettledTo s id account) :
    (payouts id s.log).map (fun paid => paid.2.1) = [account] := by
  obtain ⟨token, amount, hpaid⟩ := h.paid
  rw [hpaid]
  rfl

theorem SettledTo.unique {account' : Address} (h : SettledTo s id account)
    (h' : SettledTo s id account') : account = account' := by
  exact List.singleton_inj.mp (h.recipients.symm.trans h'.recipients)

/-- It is settled. -/
theorem SettledTo.finalized (h : SettledTo s id account) (hv : Valid ch s) :
    (s.bridgeRequests id).finalized = true := by
  obtain ⟨token, amount, hpaid⟩ := h.paid
  cases hfin : (s.bridgeRequests id).finalized with
  | true => rfl
  | false =>
      have hnone := hv.accounts.unpaid id hfin
      rw [payouts_acts, hpaid] at hnone
      cases hnone

/-- Nothing that happens later changes whom it paid. -/
theorem SettledTo.step (h : SettledTo s id account) (hv : Valid ch s) (hstep : Step ch s s') :
    SettledTo s' id account := by
  have hfin := h.finalized hv
  obtain ⟨token, amount, hpaid⟩ := h.paid
  refine ⟨⟨token, amount, ?_⟩, fun fn x hmem hfn => ?_⟩
  · rw [((hv.kept hstep).final hfin).2.2.2]
    exact hpaid
  · rcases hv.called hstep hmem hfn with hold | ⟨hopen, -⟩
    · exact h.only fn x hold hfn
    · rw [hfin] at hopen
      cases hopen

end LunarysBridge.Evm
