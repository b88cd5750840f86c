/-
LunarysBridge.Evm.Guard — what nobody can do to the contract while it
waits for an external call.

`State.book` is the contract's state as an escrow sees it. `Sound` is what
holds of the parameters and of the two ledgers at any moment, also in the
middle of a call. `Undisturbed` says what a callee may do under the
reentrancy guard: give the contract value, and change parameters when it
can act for the owner. `guarded` is the proof that nothing else is left
to it.
-/
import LunarysBridge.Evm.NewRelayer
import LunarysBridge.Evm.Accounts

namespace LunarysBridge.Evm

/-! ## The book of a state -/

def State.book (s : State) : Book where
  bridgeNonce := s.bridgeNonce
  bridgeRequests := s.bridgeRequests
  requestClaim := s.requestClaim
  requestFeeEscrow := s.requestFeeEscrow
  now := s.now
  acts := s.log.filter LogEntry.isAct

section Book

variable (s : State)

@[simp] theorem book_nonce : s.book.bridgeNonce = s.bridgeNonce := rfl

@[simp] theorem book_requests : s.book.bridgeRequests = s.bridgeRequests := rfl

@[simp] theorem book_claim : s.book.requestClaim = s.requestClaim := rfl

@[simp] theorem book_escrow : s.book.requestFeeEscrow = s.requestFeeEscrow := rfl

@[simp] theorem book_now : s.book.now = s.now := rfl

@[simp] theorem book_emit (e : Event) : (s.emit e).book = s.book := by
  simp [State.emit, State.note, State.book, LogEntry.isAct]

theorem book_note {e : LogEntry} (h : e.isAct = true) :
    (s.note e).book = s.book.act [e] := by
  simp [State.note, State.book, Book.act, h]

@[simp] theorem book_allow (handle : Handle) (account : Address) :
    (s.allow handle account).book = s.book.act [.allowed handle account] :=
  book_note s rfl

@[simp] theorem book_setRequest (id : Nat) (r : BridgeRequest) :
    (s.setRequest id r).book = s.book.setRequest id r := rfl

@[simp] theorem book_setClaim (id : Nat) (c : Claim) :
    (s.setClaim id c).book = s.book.setClaim id c := rfl

@[simp] theorem book_setFeeEscrow (id fee : Nat) :
    (s.setFeeEscrow id fee).book = s.book.setFeeEscrow id fee := rfl

end Book

/-! ## Soundness of parameters and ledgers -/

/-- The parameters are in their ranges, no legacy fees were ever collected,
and the contract has what the log says came in, less what went out. -/
structure Sound (ch : Chain) (s : State) : Prop where
  fee : s.feePercentage ≤ 1000
  limits : s.minFee < s.maxFee
  window : 60 ≤ s.claimWindow ∧ s.claimWindow ≤ 86400
  bps : s.slashBps ≤ 10000
  noFees : ∀ token, s.collectedFees token = 0
  ethFlow : s.eth ch.self + Tally.total LogEntry.ethOut s.log =
    Tally.total LogEntry.ethIn s.log + Tally.total LogEntry.ethForced s.log
  tokenFlow : ∀ token, ch.exact token = true →
    s.bal token ch.self + Tally.total (LogEntry.tokensOut ch.self token) s.log =
      Tally.total (LogEntry.tokensIn token) s.log +
        Tally.total (LogEntry.tokensDonated token) s.log

variable {ch : Chain} {t : Tx ch.self} {s s' s₁ : State}

/-- An entry that moves no value keeps the ledgers right. -/
theorem Sound.note (h : Sound ch s) {e : LogEntry} (heth : e.ethIn = 0 ∧ e.ethOut = 0 ∧
    e.ethForced = 0) (htok : ∀ token, e.tokensIn token = 0 ∧
    e.tokensOut ch.self token = 0 ∧ e.tokensDonated token = 0) :
    Sound ch (s.note e) where
  fee := h.fee
  limits := h.limits
  window := h.window
  bps := h.bps
  noFees := h.noFees
  ethFlow := by
    obtain ⟨hin, hout, hforced⟩ := heth
    simpa only [State.note, Tally.total_append, Tally.total_cons, Tally.total_nil, hin,
      hout, hforced, Nat.add_zero] using h.ethFlow
  tokenFlow := by
    intro token hexact
    obtain ⟨hin, hout, hdon⟩ := htok token
    simpa only [State.note, Tally.total_append, Tally.total_cons, Tally.total_nil, hin,
      hout, hdon, Nat.add_zero] using h.tokenFlow token hexact

theorem Sound.emit (h : Sound ch s) (e : Event) : Sound ch (s.emit e) :=
  h.note (by simp) (by simp)

theorem Sound.allow (h : Sound ch s) (handle : Handle) (account : Address) :
    Sound ch (s.allow handle account) :=
  h.note (by simp) (by simp)

theorem Sound.retained (h : Sound ch s) (id slashAmt : Nat) :
    Sound ch (s.note (.retained id slashAmt)) :=
  h.note (by simp) (by simp)

/-- Soundness is about parameters, ledgers and the log only. -/
theorem Sound.congr (h : Sound ch s) (hfee : s'.feePercentage = s.feePercentage)
    (hmin : s'.minFee = s.minFee) (hmax : s'.maxFee = s.maxFee)
    (hw : s'.claimWindow = s.claimWindow) (hb : s'.slashBps = s.slashBps)
    (hc : s'.collectedFees = s.collectedFees) (heth : s'.eth ch.self = s.eth ch.self)
    (hbal : ∀ token, ch.exact token = true → s'.bal token ch.self = s.bal token ch.self)
    (hlog : s'.log = s.log) : Sound ch s' where
  fee := hfee ▸ h.fee
  limits := by rw [hmin, hmax]; exact h.limits
  window := hw ▸ h.window
  bps := hb ▸ h.bps
  noFees := hc ▸ h.noFees
  ethFlow := by rw [heth, hlog]; exact h.ethFlow
  tokenFlow := by
    intro token hexact
    rw [hbal token hexact, hlog]
    exact h.tokenFlow token hexact

/-! ## Moves on the ledgers -/

theorem move_sender {ledger : Address → Nat} {sender recipient : Address} {amount : Nat}
    (h : recipient ≠ sender) :
    move ledger sender recipient amount sender = ledger sender - amount := by
  simp [move, Function.update_of_ne h.symm]

theorem move_recipient {ledger : Address → Nat} {sender recipient : Address}
    {amount : Nat} (h : recipient ≠ sender) :
    move ledger sender recipient amount recipient = ledger recipient + amount := by
  simp [move, Function.update_of_ne h]

theorem move_self {ledger : Address → Nat} {holder : Address} {amount : Nat}
    (h : amount ≤ ledger holder) :
    move ledger holder holder amount holder = ledger holder := by
  simp [move]
  omega

/-! ## An external call that was made -/

/-- What is left when an external call has returned. -/
structure Called (t : Tx ch.self) (x : ExtCall) (s s' : State) : Prop where
  book : s'.book = s.book.act [.called t.fn x]
  entered : s'.entered = s.entered
  sound : Sound ch s → Sound ch s'

theorem called_send {recipient : Address} {value : Nat}
    (h : deliver ch t (.send recipient value) s = some s') :
    Called t (.send recipient value) s s' := by
  simp only [deliver, Option.ite_none_right_eq_some, Option.some.injEq] at h
  obtain ⟨⟨hne, hle⟩, rfl⟩ := h
  refine ⟨book_note _ rfl, rfl, fun hs => ?_⟩
  refine ⟨hs.fee, hs.limits, hs.window, hs.bps, hs.noFees, ?_, ?_⟩
  · have hflow := hs.ethFlow
    simp only [State.note, State.moveEth, Tally.total_append, Tally.total_cons,
      Tally.total_nil, LogEntry.ethOut, LogEntry.ethIn, LogEntry.ethForced,
      move_sender hne]
    omega
  · intro token hexact
    simpa [State.note, State.moveEth] using hs.tokenFlow token hexact

/-- Of a token that is not exact only the call is known. -/
theorem called_inexact {x : ExtCall} {token : Address} (hexact : ¬ ch.exact token = true)
    (hx : (∃ recipient amount, x = .safeTransfer token recipient amount) ∨
      ∃ sender amount, x = .safeTransferFrom token sender amount) :
    Called t x s (s.note (.called t.fn x)) := by
  refine ⟨book_note _ rfl, rfl, fun hs => ?_⟩
  refine ⟨hs.fee, hs.limits, hs.window, hs.bps, hs.noFees, ?_, ?_⟩
  · obtain ⟨_, _, rfl⟩ | ⟨_, _, rfl⟩ := hx
    · simpa [State.note] using hs.ethFlow
    · simpa [State.note] using hs.ethFlow
  · intro token' hexact'
    have htok : token ≠ token' := by
      intro heq
      rw [heq] at hexact
      exact hexact hexact'
    have hflow := hs.tokenFlow token' hexact'
    obtain ⟨_, _, rfl⟩ | ⟨_, _, rfl⟩ := hx
    · simpa [State.note, htok] using hflow
    · simpa [State.note, htok] using hflow

theorem called_safeTransfer {token recipient : Address} {amount : Nat}
    (h : deliver ch t (.safeTransfer token recipient amount) s = some s') :
    Called t (.safeTransfer token recipient amount) s s' := by
  simp only [deliver] at h
  split at h
  · next hexact =>
    simp only [Option.ite_none_right_eq_some, Option.some.injEq] at h
    obtain ⟨hle, rfl⟩ := h
    refine ⟨book_note _ rfl, rfl, fun hs => ?_⟩
    refine ⟨hs.fee, hs.limits, hs.window, hs.bps, hs.noFees, ?_, ?_⟩
    · simpa [State.note, State.moveToken] using hs.ethFlow
    · intro token' hexact'
      have hflow := hs.tokenFlow token' hexact'
      by_cases htok : token' = token
      · subst htok
        by_cases hne : recipient = ch.self
        · subst hne
          simpa [State.note, State.moveToken, move_self hle] using hflow
        · simp [State.note, State.moveToken, move_sender hne, hne]
          omega
      · simpa [State.note, State.moveToken, Function.update_of_ne htok,
          Ne.symm htok] using hflow
  · next hexact =>
    obtain rfl := Option.some.inj h
    exact called_inexact hexact (.inl ⟨recipient, amount, rfl⟩)

theorem called_safeTransferFrom {token sender : Address} {amount : Nat}
    (hne : ch.self ≠ sender)
    (h : deliver ch t (.safeTransferFrom token sender amount) s = some s') :
    Called t (.safeTransferFrom token sender amount) s s' := by
  simp only [deliver] at h
  split at h
  · next hexact =>
    simp only [Option.ite_none_right_eq_some, Option.some.injEq] at h
    obtain ⟨hle, rfl⟩ := h
    refine ⟨book_note _ rfl, rfl, fun hs => ?_⟩
    refine ⟨hs.fee, hs.limits, hs.window, hs.bps, hs.noFees, ?_, ?_⟩
    · simpa [State.note, State.moveToken] using hs.ethFlow
    · intro token' hexact'
      have hflow := hs.tokenFlow token' hexact'
      by_cases htok : token' = token
      · subst htok
        simp [State.note, State.moveToken, move_recipient hne]
        omega
      · simpa [State.note, State.moveToken, Function.update_of_ne htok,
          Ne.symm htok] using hflow
  · next hexact =>
    obtain rfl := Option.some.inj h
    exact called_inexact hexact (.inr ⟨sender, amount, rfl⟩)

/-- A call moves value between the contract and somebody else. -/
theorem called_of_deliver {x : ExtCall}
    (hx : ∀ token amount, x ≠ .safeTransferFrom token ch.self amount)
    (h : deliver ch t x s = some s') : Called t x s s' := by
  cases x with
  | send recipient value => exact called_send h
  | safeTransfer token recipient amount => exact called_safeTransfer h
  | safeTransferFrom token sender amount =>
      apply called_safeTransferFrom _ h
      intro hself
      exact hx token amount (hself ▸ rfl)

/-- The ETH of a payable call has come in. -/
theorem Sound.receive (h : Sound ch s) :
    Sound ch ((s.moveEth t.sender ch.self t.value).note (.received t.fn t.value)) where
  fee := h.fee
  limits := h.limits
  window := h.window
  bps := h.bps
  noFees := h.noFees
  ethFlow := by
    have hflow := h.ethFlow
    simp [State.note, State.moveEth, move_recipient t.sender_ne_contract.symm]
    omega
  tokenFlow := by
    intro token hexact
    simpa [State.note, State.moveEth] using h.tokenFlow token hexact

/-! ## What others may do under the guard -/

/-- The escrow is untouched, the guard stays taken, the ledgers stay right. -/
structure Undisturbed (ch : Chain) (s s' : State) : Prop where
  book : s'.book = s.book
  entered : s'.entered = s.entered
  sound : Sound ch s → Sound ch s'

theorem undisturbed_outside (h : Outside ch s s') : Undisturbed ch s s' := by
  cases h with
  | donate token amount =>
      refine ⟨by simp [State.book, LogEntry.isAct], rfl, fun hs => ?_⟩
      refine ⟨hs.fee, hs.limits, hs.window, hs.bps, hs.noFees, ?_, ?_⟩
      · simpa using hs.ethFlow
      · intro token' hexact
        have hflow := hs.tokenFlow token' hexact
        by_cases htok : token' = token
        · subst htok
          simp
          omega
        · simpa [Function.update_of_ne htok, Ne.symm htok] using hflow
  | force amount =>
      refine ⟨by simp [State.book, LogEntry.isAct], rfl, fun hs => ?_⟩
      refine ⟨hs.fee, hs.limits, hs.window, hs.bps, hs.noFees, ?_, ?_⟩
      · have hflow := hs.ethFlow
        simp
        omega
      · intro token' hexact
        simpa using hs.tokenFlow token' hexact
  | others eth bal sameEth sameBal =>
      exact ⟨rfl, rfl, fun hs => hs.congr rfl rfl rfl rfl rfl rfl sameEth sameBal rfl⟩

/-! ### Calls that do no harm -/

/-- The code reverts, or ends at once with the escrow untouched. -/
def Harmless (ch : Chain) (s : State) (p : Code) : Prop :=
  (∃ e, p = .revert e) ∨ ∃ s', p = .done s' ∧ Undisturbed ch s s'

theorem harmless_revert (e : Revert) : Harmless ch s (.revert e) := Reentrancy.quiet_revert e

theorem harmless_done (h : Undisturbed ch s s') : Harmless ch s (.done s') :=
  Reentrancy.quiet_done h

theorem harmless_check {cond : Prop} [Decidable cond] {e : Revert} {p : Code}
    (h : ¬ cond → Harmless ch s p) : Harmless ch s (if cond then .revert e else p) :=
  Reentrancy.quiet_check h

theorem harmless_require {cond : Prop} [Decidable cond] {e : Revert} {p : Code}
    (h : cond → Harmless ch s p) : Harmless ch s (if cond then p else .revert e) := by
  split
  · next hcond => exact h hcond
  · exact harmless_revert e

theorem harmless_emit (e : Event) (h : Undisturbed ch s s') :
    Harmless ch s (.done (s'.emit e)) :=
  harmless_done ⟨by rw [book_emit, h.book], h.entered, fun hs => (h.sound hs).emit e⟩

theorem harmless_nonReentrant (hl : s'.entered = true) (body : State → Code) :
    Harmless ch s (nonReentrant body s') :=
  harmless_check fun hentered => absurd hl hentered

theorem harmless_onlyOwner {body : State → Code} (h : Harmless ch s (body s)) :
    Harmless ch s (onlyOwner ch t body s) :=
  harmless_check fun _ => h

theorem harmless_onlyRelayer {body : State → Code} (h : Harmless ch s (body s)) :
    Harmless ch s (onlyRelayer ch t body s) :=
  harmless_check fun _ => h

theorem harmless_nonPayable {body : State → Code} (h : Harmless ch s (body s)) :
    Harmless ch s (nonPayable ch t body s) :=
  harmless_check fun _ => h

/-- The settings that no invariant is about. -/
theorem undisturbed_settings (owner relayer : Address) (minSolverBond : Nat)
    (authorizedNodes : Address → Bool) (nodesList : List Address) :
    Undisturbed ch s
      { s with
        owner := owner
        relayer := relayer
        minSolverBond := minSolverBond
        authorizedNodes := authorizedNodes
        nodesList := nodesList } where
  book := rfl
  entered := rfl
  sound hs := hs.congr rfl rfl rfl rfl rfl rfl rfl (fun _ _ => rfl) rfl

theorem harmless_updateRelayer (newRelayer : Address) :
    Harmless ch s (updateRelayer ch t newRelayer s) :=
  harmless_onlyOwner (harmless_check fun _ =>
    harmless_emit _ (undisturbed_settings _ newRelayer _ _ _))

theorem harmless_updateFeePercentage (newFeePercentage : Nat) :
    Harmless ch s (updateFeePercentage ch t newFeePercentage s) := by
  refine harmless_onlyOwner (harmless_check fun hfee => harmless_emit _ ⟨rfl, rfl, fun hs => ?_⟩)
  exact ⟨Nat.le_of_not_lt hfee, hs.limits, hs.window, hs.bps, hs.noFees, hs.ethFlow, hs.tokenFlow⟩

theorem harmless_updateFeeLimits (newMinFee newMaxFee : Nat) :
    Harmless ch s (updateFeeLimits ch t newMinFee newMaxFee s) := by
  refine harmless_onlyOwner (harmless_check fun hlimits =>
    harmless_emit _ ⟨rfl, rfl, fun hs => ?_⟩)
  exact ⟨hs.fee, Nat.lt_of_not_le hlimits, hs.window, hs.bps, hs.noFees, hs.ethFlow, hs.tokenFlow⟩

theorem harmless_updateClaimWindow (newWindow : Nat) :
    Harmless ch s (updateClaimWindow ch t newWindow s) := by
  refine harmless_onlyOwner (harmless_require fun hwindow =>
    harmless_done ⟨rfl, rfl, fun hs => ?_⟩)
  exact ⟨hs.fee, hs.limits, hwindow, hs.bps, hs.noFees, hs.ethFlow, hs.tokenFlow⟩

theorem harmless_updateMinSolverBond (newMinBond : Nat) :
    Harmless ch s (updateMinSolverBond ch t newMinBond s) :=
  harmless_onlyOwner (harmless_done (undisturbed_settings _ _ newMinBond _ _))

theorem harmless_updateSlashParams (newSlashBps : Nat) (newCollector : Address) :
    Harmless ch s (updateSlashParams ch t newSlashBps newCollector s) := by
  refine harmless_onlyOwner (harmless_require fun hbps => harmless_done ⟨rfl, rfl, fun hs => ?_⟩)
  exact ⟨hs.fee, hs.limits, hs.window, hbps, hs.noFees, hs.ethFlow, hs.tokenFlow⟩

theorem harmless_authorizeNode (node : Address) :
    Harmless ch s (authorizeNode ch t node s) := by
  refine harmless_onlyOwner (harmless_check fun _ => ?_)
  split
  · exact harmless_emit _ (undisturbed_settings _ _ _ _ _)
  · exact harmless_done (undisturbed_settings _ _ _ _ _)

theorem harmless_revokeNode (node : Address) :
    Harmless ch s (revokeNode ch t node s) := by
  apply harmless_onlyOwner
  split
  · exact harmless_emit _ (undisturbed_settings _ _ _ _ _)
  · exact harmless_done (undisturbed_settings _ _ _ _ _)

theorem harmless_transferOwnership (newOwner : Address) :
    Harmless ch s (transferOwnership ch t newOwner s) :=
  harmless_onlyOwner (harmless_check fun _ =>
    harmless_emit _ (undisturbed_settings newOwner _ _ _ _))

theorem harmless_renounceOwnership : Harmless ch s (renounceOwnership ch t s) :=
  harmless_onlyOwner (harmless_emit _ (undisturbed_settings 0 _ _ _ _))

/-- Every function without the guard is harmless, at any time. -/
theorem harmless_unguarded (h : t.fn.unguarded = true) :
    Harmless ch s (entry ch t s) := by
  unfold entry
  cases hfn : t.fn with
  | updateRelayer newRelayer =>
      exact harmless_nonPayable (harmless_updateRelayer newRelayer)
  | updateFeePercentage newFeePercentage =>
      exact harmless_nonPayable (harmless_updateFeePercentage newFeePercentage)
  | updateFeeLimits newMinFee newMaxFee =>
      exact harmless_nonPayable (harmless_updateFeeLimits newMinFee newMaxFee)
  | updateClaimWindow newWindow =>
      exact harmless_nonPayable (harmless_updateClaimWindow newWindow)
  | updateMinSolverBond newMinBond =>
      exact harmless_nonPayable (harmless_updateMinSolverBond newMinBond)
  | updateSlashParams newSlashBps newCollector =>
      exact harmless_nonPayable (harmless_updateSlashParams newSlashBps newCollector)
  | authorizeNode node => exact harmless_nonPayable (harmless_authorizeNode node)
  | revokeNode node => exact harmless_nonPayable (harmless_revokeNode node)
  | transferOwnership newOwner =>
      exact harmless_nonPayable (harmless_transferOwnership newOwner)
  | renounceOwnership => exact harmless_nonPayable harmless_renounceOwnership
  | _ =>
      rw [hfn] at h
      exact absurd h Bool.false_ne_true

/-- **Under the guard a nested call of the contract reverts or changes a
parameter**: no function that moves value or touches a request runs. -/
theorem entry_locked (t : Tx ch.self) (s : State) (hl : s.entered = true) :
    Harmless ch s (entry ch t s) := by
  cases hu : t.fn.unguarded with
  | true => exact harmless_unguarded hu
  | false =>
      unfold entry
      cases hfn : t.fn with
      | initiateBridge token amount input proof =>
          exact harmless_nonPayable (harmless_nonReentrant hl _)
      | claimBridge requestId =>
          refine harmless_check fun _ => harmless_nonReentrant ?_ _
          exact hl
      | verifyAndSettle requestId destTxHash evidenceHash =>
          exact harmless_nonPayable
            (harmless_onlyRelayer (harmless_nonReentrant hl _))
      | verifyAndSettleURL requestId destTxHash evidenceHash evidenceURL =>
          exact harmless_nonPayable
            (harmless_onlyRelayer (harmless_nonReentrant hl _))
      | releaseExpiredClaim requestId =>
          exact harmless_nonPayable (harmless_nonReentrant hl _)
      | deliverTokens recipient token amount =>
          exact harmless_nonPayable
            (harmless_onlyRelayer (harmless_nonReentrant hl _))
      | collectFees token recipient =>
          exact harmless_nonPayable (harmless_onlyOwner (harmless_nonReentrant hl _))
      | emergencyWithdraw token amount recipient =>
          exact harmless_nonPayable (harmless_onlyOwner (harmless_nonReentrant hl _))
      | _ =>
          rw [hfn] at hu
          exact absurd hu.symm Bool.false_ne_true

/-- The reentrancy guard of the contract guards it. -/
theorem guarded (ch : Chain) :
    Reentrancy.Guarded (contract ch) (fun s => s.entered = true) (Undisturbed ch) where
  refl _ := ⟨rfl, rfl, id⟩
  trans h₁ h₂ := ⟨h₂.book.trans h₁.book, h₂.entered.trans h₁.entered,
    fun hs => h₂.sound (h₁.sound hs)⟩
  keeps h hl := h.entered.trans hl
  outside := undisturbed_outside
  entry := entry_locked

end LunarysBridge.Evm
