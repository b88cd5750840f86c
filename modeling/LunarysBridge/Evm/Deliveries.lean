/-
LunarysBridge.Evm.Deliveries — deliveries of the reverse flow and the tokens
that the open requests have in escrow.

`deliverTokens` sends whatever the contract holds. After it the contract
still has what it owes exactly if the delivery was paid from the surplus,
and a run whose deliveries all are keeps what it owes in every state.
-/
import LunarysBridge.Evm.Receipts

namespace LunarysBridge.Evm

variable {ch : Chain} {t : Tx ch.self} {s s' : State} {recipient token : Address}
  {amount : Nat}

/-- What the open requests have in escrow of a token. -/
def State.owed (s : State) (token : Address) : Nat :=
  ∑ id ∈ Finset.Icc 1 s.bridgeNonce, s.book.locked token id

/-- What a transfer takes from the contract. -/
def leaving (ch : Chain) (recipient : Address) (amount : Nat) : Nat :=
  if recipient = ch.self then 0 else amount

theorem move_leaving {ledger : Address → Nat} (h : amount ≤ ledger ch.self) :
    move ledger ch.self recipient amount ch.self + leaving ch recipient amount =
      ledger ch.self := by
  unfold leaving
  by_cases hself : recipient = ch.self
  · subst hself
    simp [move_self h]
  · rw [move_sender hself, if_neg hself]
    omega

/-- The delivery is paid from what is not owed. -/
def FromSurplus (ch : Chain) (recipient token : Address) (amount : Nat) (s : State) : Prop :=
  leaving ch recipient amount + s.owed token ≤ s.bal token ch.self

/-- The code of a delivery that goes through. -/
theorem entry_deliverTokens (hfn : t.fn = .deliverTokens recipient token amount)
    (hc : Reentrancy.Commits (contract ch) t s s') :
    entry ch t s = payOut token recipient amount
      (fun s => leave (s.emit (.IncomingBridgeDelivered recipient token amount)))
      { s with entered := true } := by
  have hentry : entry ch t s =
      nonPayable ch t (deliverTokens ch t recipient token amount) s := by rw [entry, hfn]
  have h : Reentrancy.Exec (contract ch) t (entry ch t s) s' := hc
  rw [hentry] at h ⊢
  unfold nonPayable deliverTokens onlyRelayer nonReentrant at h ⊢
  obtain ⟨hvalue, h⟩ := Reentrancy.exec_check h
  obtain ⟨hrelayer, h⟩ := Reentrancy.exec_check h
  obtain ⟨hentered, h⟩ := Reentrancy.exec_check h
  obtain ⟨hrecipient, h⟩ := Reentrancy.exec_check h
  obtain ⟨hamount, h⟩ := Reentrancy.exec_check h
  rw [if_neg hvalue, if_neg hrelayer, if_neg hentered]
  exact (if_neg hrecipient).trans (if_neg hamount)

/-- While a callee has control the contract loses no tokens. -/
theorem callee_bal {s₁ s₂ : State} (hs : Sound ch s₁) (hl : s₁.entered = true)
    (during : Reentrancy.Callee (contract ch) s₁ s₂) (hexact : ch.exact token = true) :
    s₁.bal token ch.self ≤ s₂.bal token ch.self := by
  have hu := (guarded ch).callee during hl
  have hlog := ((guarded_log ch).callee during hl).log
  have hbefore := hs.tokenFlow token hexact
  have hafter := (hu.sound hs).tokenFlow token hexact
  have hdonated : Tally.total (LogEntry.tokensDonated token) s₁.log ≤
      Tally.total (LogEntry.tokensDonated token) s₂.log := Tally.total_le_of_prefix hlog
  have hin := congrArg (fun b : Book => Tally.total (LogEntry.tokensIn token) b.acts) hu.book
  have hout := congrArg
    (fun b : Book => Tally.total (LogEntry.tokensOut ch.self token) b.acts) hu.book
  simp only [tokensIn_acts, tokensOut_acts] at hin hout
  omega

/-- A withdrawal leaves the requests alone. -/
theorem Book.Step.withdraw_locked {home : Address} {fn : Fn} {b b' : Book}
    (st : Book.Step home fn b b') (h : fn.withdraws = true) :
    b'.bridgeNonce = b.bridgeNonce ∧ ∀ token id, b'.locked token id = b.locked token id := by
  cases st with
  | withdraw _ _ token recipient amount withdraws => exact ⟨rfl, fun _ _ => rfl⟩
  | settle _ _ id settles known isOpen held intime =>
      rw [Fn.settles_of_withdraws h] at settles
      cases settles
  | idle _ _ unguarded => exact ⟨rfl, fun _ _ => rfl⟩
  | _ => cases h

theorem Valid.owed_withdraw (h : Valid ch s) (hw : t.fn.withdraws = true)
    (hc : Reentrancy.Commits (contract ch) t s s') (token : Address) :
    s'.owed token = s.owed token := by
  obtain ⟨hnonce, hlocked⟩ := (h.commits hc).step.withdraw_locked hw
  simp only [book_nonce] at hnonce
  unfold State.owed
  rw [hnonce]
  exact Finset.sum_congr rfl fun id _ => hlocked token id

theorem deliver_exact {s₁ : State} (hexact : ch.exact token = true)
    (h : deliver ch t (.safeTransfer token recipient amount) s = some s₁) :
    s₁.bal token ch.self + leaving ch recipient amount = s.bal token ch.self := by
  simp only [deliver, hexact, if_true] at h
  split at h
  · next hle =>
    cases h
    simp only [State.moveToken, State.note, Function.update_self]
    exact move_leaving hle
  · cases h

theorem deliver_ne {token' : Address} {s₁ : State} (hne : token ≠ token')
    (h : deliver ch t (.safeTransfer token' recipient amount) s = some s₁) :
    s₁.bal token = s.bal token := by
  simp only [deliver] at h
  split at h
  · split at h
    · cases h
      exact Function.update_of_ne hne _ _
    · cases h
  · cases h
    rfl

/-- A delivery that goes through, up to the return of its callee. -/
theorem delivery_returns (h : Valid ch s) (hfn : t.fn = .deliverTokens recipient token amount)
    (hc : Reentrancy.Commits (contract ch) t s s') : ∃ s₁,
    deliver ch t (.safeTransfer token recipient amount) { s with entered := true } = some s₁ ∧
      ∀ token', ch.exact token' = true → s₁.bal token' ch.self ≤ s'.bal token' ch.self := by
  have hentry := entry_deliverTokens hfn hc
  have hexec : Reentrancy.Exec (contract ch) t (entry ch t s) s' := hc
  rw [hentry] at hexec
  obtain ⟨s₁, s₂, sent, during, rest⟩ := Reentrancy.exec_call rfl hexec
  have hlocked : Sound ch { s with entered := true } :=
    h.sound.congr rfl rfl rfl rfl rfl rfl rfl (fun _ _ => rfl) rfl
  have hcalled : Called t (.safeTransfer token recipient amount) { s with entered := true } s₁ :=
    called_safeTransfer sent
  have hend : s'.bal = s₂.bal := by
    cases rest
    rfl
  refine ⟨s₁, sent, fun token' hexact => ?_⟩
  rw [hend]
  exact callee_bal (hcalled.sound hlocked) hcalled.entered during hexact

/-- Of every exact token a delivery leaves no less than the rest. -/
theorem delivered_le (h : Valid ch s) {token' : Address}
    (hfn : t.fn = .deliverTokens recipient token' amount) (hexact : ch.exact token = true)
    (hc : Reentrancy.Commits (contract ch) t s s') :
    s.bal token ch.self ≤ s'.bal token ch.self +
      if token' = token then leaving ch recipient amount else 0 := by
  obtain ⟨s₁, sent, hkeep⟩ := delivery_returns h hfn hc
  have hle := hkeep token hexact
  by_cases htok : token' = token
  · subst htok
    have hbal := deliver_exact hexact sent
    rw [if_pos rfl]
    simp only at hbal
    omega
  · have hbal := deliver_ne (Ne.symm htok) sent
    rw [hbal] at hle
    rw [if_neg htok]
    exact hle

/-- If nobody gives tokens meanwhile, it leaves just the rest. -/
theorem delivered_eq (h : Valid ch s) (hfn : t.fn = .deliverTokens recipient token amount)
    (hexact : ch.exact token = true) (hc : Reentrancy.Commits (contract ch) t s s') :
    ∃ s'', Reentrancy.Commits (contract ch) t s s'' ∧
      s''.bal token ch.self + leaving ch recipient amount = s.bal token ch.self := by
  obtain ⟨s₁, sent, _⟩ := delivery_returns h hfn hc
  have hbal := deliver_exact hexact sent
  refine ⟨{ s₁.emit (.IncomingBridgeDelivered recipient token amount) with
    entered := false }, ?_, hbal⟩
  show Reentrancy.Exec (contract ch) t (entry ch t s) _
  rw [entry_deliverTokens hfn hc]
  exact .returned sent .idle .done

/-- **Paid from the surplus.** After a delivery the contract has what it
owes, whatever its callee does, exactly if it was paid from the surplus. -/
theorem delivery_surplus (h : Valid ch s)
    (hfn : t.fn = .deliverTokens recipient token amount) (hexact : ch.exact token = true)
    (hsome : ∃ s', Reentrancy.Commits (contract ch) t s s') :
    (∀ s', Reentrancy.Commits (contract ch) t s s' →
      s'.owed token ≤ s'.bal token ch.self) ↔ FromSurplus ch recipient token amount s := by
  have hw : t.fn.withdraws = true := by rw [hfn]; rfl
  unfold FromSurplus
  constructor
  · intro hall
    obtain ⟨s₁, hc₁⟩ := hsome
    obtain ⟨s', hc, hrest⟩ := delivered_eq h hfn hexact hc₁
    have hsolvent := hall s' hc
    rw [h.owed_withdraw hw hc] at hsolvent
    omega
  · intro hsurplus s' hc
    have hrest := delivered_le h hfn hexact hc
    rw [if_pos rfl] at hrest
    rw [h.owed_withdraw hw hc]
    omega

/-- What a token that is not exact does to its ledger meanwhile is its own
affair. -/
theorem delivered_nothing (h : Valid ch s)
    (hfn : t.fn = .deliverTokens recipient token amount) (hexact : ch.exact token = false)
    (hc : Reentrancy.Commits (contract ch) t s s') :
    ∃ s'', Reentrancy.Commits (contract ch) t s s'' ∧ s''.bal token ch.self = 0 := by
  obtain ⟨s₁, sent, _⟩ := delivery_returns h hfn hc
  have hkeep : ∀ token', ch.exact token' = true →
      Function.update s₁.bal token (fun _ => 0) token' ch.self = s₁.bal token' ch.self := by
    intro token' hexact'
    have hne : token' ≠ token := by
      rintro rfl
      rw [hexact] at hexact'
      cases hexact'
    rw [Function.update_of_ne hne]
  refine ⟨{ s₁ with
    bal := Function.update s₁.bal token (fun _ => 0)
    log := s₁.log ++ [.emit (.IncomingBridgeDelivered recipient token amount)]
    entered := false }, ?_, by simp⟩
  show Reentrancy.Exec (contract ch) t (entry ch t s) _
  rw [entry_deliverTokens hfn hc]
  exact .returned sent (.outside (.others s₁ s₁.eth _ rfl hkeep) .idle) .done

/-- After a delivery the contract has what it owes, whatever its callee does,
exactly if it owes nothing of the token, or the token is exact and the
delivery is paid from the surplus. -/
theorem delivery_covered (h : Valid ch s)
    (hfn : t.fn = .deliverTokens recipient token amount)
    (hsome : ∃ s', Reentrancy.Commits (contract ch) t s s') :
    (∀ s', Reentrancy.Commits (contract ch) t s s' →
      s'.owed token ≤ s'.bal token ch.self) ↔
    s.owed token = 0 ∨ ch.exact token = true ∧ FromSurplus ch recipient token amount s := by
  have hw : t.fn.withdraws = true := by rw [hfn]; rfl
  by_cases hzero : s.owed token = 0
  · refine ⟨fun _ => .inl hzero, fun _ s' hc => ?_⟩
    rw [h.owed_withdraw hw hc]
    omega
  · cases hexact : ch.exact token with
    | true =>
        rw [delivery_surplus h hfn hexact hsome]
        simp [hzero]
    | false =>
        refine ⟨fun hall => ?_, fun hor => ?_⟩
        · obtain ⟨s₁, hc₁⟩ := hsome
          obtain ⟨s', hc, hbal⟩ := delivered_nothing h hfn hexact hc₁
          have hsolvent := hall s' hc
          rw [h.owed_withdraw hw hc, hbal] at hsolvent
          omega
        · simp [hzero] at hor

/-- The surplus of an exact token is what was given to the contract outside
deposits and not withdrawn since. -/
theorem Valid.fromSurplus_iff (h : Valid ch s) (hexact : ch.exact token = true) :
    FromSurplus ch recipient token amount s ↔
      leaving ch recipient amount + Tally.total (LogEntry.withdrawn ch.self token) s.log ≤
        Tally.total (LogEntry.tokensDonated token) s.log := by
  have hflow := h.tokens hexact
  unfold FromSurplus State.owed
  omega

/-! ## Runs that spare the escrow -/

/-- The call pays its deliveries from the surplus, and is no emergency
withdrawal. -/
def Spares (ch : Chain) (fn : Fn) (s : State) : Prop :=
  match fn with
  | .deliverTokens recipient token amount => FromSurplus ch recipient token amount s
  | .emergencyWithdraw _ _ _ => False
  | _ => True

inductive Sparing (ch : Chain) : State → Prop where
  | deployed (g : Genesis ch) (relayer initialOwner : Address) {s : State}
      (h : deploy ch g relayer initialOwner = .ok s) : Sparing ch s
  | tx {s s' : State} (before : Sparing ch s) (t : Tx ch.self) (spares : Spares ch t.fn s)
      (commits : Reentrancy.Commits (contract ch) t s s') : Sparing ch s'
  | outside {s s' : State} (before : Sparing ch s) (move : Outside ch s s') : Sparing ch s'
  | tick {s : State} (before : Sparing ch s) (time : Nat) (later : s.now ≤ time) :
      Sparing ch { s with now := time }

theorem Sparing.reachable (h : Sparing ch s) : Reachable ch s := by
  induction h with
  | deployed g relayer initialOwner h => exact .deployed g relayer initialOwner h
  | tx _ t _ commits ih => exact ih.step (.tx t commits)
  | outside _ move ih => exact ih.step (.outside move)
  | tick _ time later ih => exact ih.step (.tick _ time later)

/-- A run of calls that withdraw nothing. -/
theorem Sparing.runAccepting {ts : List (Tx ch.self)} (hkeeps : ∀ t ∈ ts, t.fn.withdraws = false) :
    ∀ {s : State}, Sparing ch s → runAccepting ts s = some s' → Sparing ch s' := by
  induction ts with
  | nil =>
      intro s h hr
      cases hr
      exact h
  | cons t ts ih =>
      intro s h hr
      obtain ⟨hhead, htail⟩ := List.forall_mem_cons.mp hkeeps
      have hspares : Spares ch t.fn s := by
        cases hfn : t.fn with
        | deliverTokens recipient token amount =>
            rw [hfn] at hhead
            cases hhead
        | emergencyWithdraw token amount recipient =>
            rw [hfn] at hhead
            cases hhead
        | _ => trivial
      unfold Evm.runAccepting at hr
      split at hr
      · next s₁ hacc =>
        exact ih htail (h.tx t hspares (Reentrancy.exec_of_accepting _ hacc)) hr
      · cases hr

/-- A solvent contract stays so as long as nothing is withdrawn. -/
theorem Valid.solvent_of_withdrawn {token : Address} (h : Valid ch s) (h' : Valid ch s')
    (hexact : ch.exact token = true) (hlog : s.log <+: s'.log)
    (hw : Tally.total (LogEntry.withdrawn ch.self token) s'.log =
      Tally.total (LogEntry.withdrawn ch.self token) s.log)
    (hs : s.owed token ≤ s.bal token ch.self) : s'.owed token ≤ s'.bal token ch.self := by
  have hbefore := h.tokens hexact
  have hafter := h'.tokens hexact
  have hdonated : Tally.total (LogEntry.tokensDonated token) s.log ≤
      Tally.total (LogEntry.tokensDonated token) s'.log := Tally.total_le_of_prefix hlog
  unfold State.owed at hs ⊢
  omega

/-- **What is owed stays there** in every run whose deliveries are paid from
the surplus. -/
theorem Sparing.solvent (h : Sparing ch s) (hexact : ch.exact token = true) :
    s.owed token ≤ s.bal token ch.self := by
  induction h with
  | deployed g relayer initialOwner h =>
      unfold State.owed
      rw [nonce_deploy g relayer initialOwner h]
      simp
  | @tx s s' before t spares commits ih =>
      have hv := before.reachable.valid
      have hv' := (before.tx t spares commits).reachable.valid
      cases hw : t.fn.withdraws with
      | false =>
          refine hv.solvent_of_withdrawn hv' hexact (commits_log commits) ?_ ih
          have hkeep : Tally.total (LogEntry.withdrawn ch.self token) s'.book.acts =
              Tally.total (LogEntry.withdrawn ch.self token) s.book.acts :=
            (hv.commits commits).step.withdrawn hw token
          rwa [withdrawn_acts, withdrawn_acts] at hkeep
      | true =>
          cases hfn : t.fn with
          | deliverTokens recipient token' amount =>
              rw [hfn] at spares
              by_cases htok : token' = token
              · subst htok
                exact (delivery_surplus hv hfn hexact ⟨s', commits⟩).mpr spares s' commits
              · have hrest := delivered_le hv hfn hexact commits
                rw [if_neg htok] at hrest
                rw [hv.owed_withdraw hw commits]
                omega
          | emergencyWithdraw token' amount recipient =>
              rw [hfn] at spares
              exact absurd spares id
          | _ =>
              rw [hfn] at hw
              cases hw
  | outside before move ih =>
      have hv := before.reachable.valid
      refine hv.solvent_of_withdrawn (before.outside move).reachable.valid hexact
        (logged_outside move).log ?_ ih
      rw [← withdrawn_acts, (undisturbed_outside move).book, withdrawn_acts]
  | tick before time later ih => exact ih

end LunarysBridge.Evm
