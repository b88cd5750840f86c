/-
LunarysBridge.Evm.Conservation — where the contract's tokens and its ETH
are, in every state of every run.

The two balances are read off `Valid`: the ledgers are what came in less
what went out (`Sound`), and the book says what is still owed
(`Book.Accounts`). The same two facts at an external call give that no
payment lacks the means.
-/
import LunarysBridge.Evm.Refinement

namespace LunarysBridge.Evm

variable {ch : Chain} {s s' : State}

/-! ## Totals of the log and of the book -/

/-- What counts only for acts is counted by the book. -/
theorem total_acts {f : LogEntry → Nat} (h : ∀ e, e.isAct = false → f e = 0) :
    Tally.total f s.book.acts = Tally.total f s.log :=
  Tally.total_filter s.log h

theorem ethIn_acts (s : State) :
    Tally.total LogEntry.ethIn s.book.acts = Tally.total LogEntry.ethIn s.log :=
  total_acts fun e he => by cases e <;> first | rfl | cases he

theorem ethOut_acts (s : State) :
    Tally.total LogEntry.ethOut s.book.acts = Tally.total LogEntry.ethOut s.log :=
  total_acts fun e he => by cases e <;> first | rfl | cases he

theorem slashKept_acts (s : State) :
    Tally.total LogEntry.slashKept s.book.acts = Tally.total LogEntry.slashKept s.log :=
  total_acts fun e he => by cases e <;> first | rfl | cases he

theorem tokensIn_acts (s : State) (token : Address) :
    Tally.total (LogEntry.tokensIn token) s.book.acts =
      Tally.total (LogEntry.tokensIn token) s.log :=
  total_acts fun e he => by cases e <;> first | rfl | cases he

theorem tokensOut_acts (s : State) (home token : Address) :
    Tally.total (LogEntry.tokensOut home token) s.book.acts =
      Tally.total (LogEntry.tokensOut home token) s.log :=
  total_acts fun e he => by cases e <;> first | rfl | cases he

theorem withdrawn_acts (s : State) (home token : Address) :
    Tally.total (LogEntry.withdrawn home token) s.book.acts =
      Tally.total (LogEntry.withdrawn home token) s.log :=
  total_acts fun e he => by cases e <;> first | rfl | cases he

/-! ## Balances -/

/-- The token balance of a valid state. -/
theorem Valid.tokens (h : Valid ch s) {token : Address} (hexact : ch.exact token = true) :
    s.bal token ch.self + Tally.total (LogEntry.withdrawn ch.self token) s.log =
      ∑ id ∈ Finset.Icc 1 s.bridgeNonce, s.book.locked token id +
        Tally.total (LogEntry.tokensDonated token) s.log := by
  have hflow := h.sound.tokenFlow token hexact
  have hbook := h.accounts.tokens token
  rw [tokensIn_acts, tokensOut_acts, withdrawn_acts, book_nonce] at hbook
  omega

/-- The ETH balance of a valid state. -/
theorem Valid.eth (h : Valid ch s) :
    s.eth ch.self = ∑ id ∈ Finset.Icc 1 s.bridgeNonce, (s.requestClaim id).bond +
      Tally.total LogEntry.slashKept s.log + Tally.total LogEntry.ethForced s.log := by
  have hflow := h.sound.ethFlow
  have hbook := h.accounts.bonds
  rw [ethIn_acts, ethOut_acts, slashKept_acts, book_nonce, book_claim] at hbook
  omega

/-- No bond is held outside the requests that exist. -/
theorem Valid.no_bond (h : Valid ch s) {id : Nat}
    (hid : id ∉ Finset.Icc 1 s.bridgeNonce) : (s.requestClaim id).bond = 0 := by
  by_cases hs : (s.requestClaim id).solver = 0
  · exact congrArg Claim.bond (h.lifecycle.free id hs)
  · have hk := (h.lifecycle.known id).mp (h.lifecycle.held id hs).1
    exact absurd (Finset.mem_Icc.mpr hk) hid

/-- Spare ETH of the book is ETH on the ledger, next to everything that is
held for others. -/
theorem Sound.pays_eth (h : Sound ch s) {value : Nat} (hb : s.book.SpareEth value) :
    value + ∑ id ∈ Finset.Icc 1 s.bridgeNonce, (s.requestClaim id).bond +
      Tally.total LogEntry.slashKept s.log + Tally.total LogEntry.ethForced s.log ≤
        s.eth ch.self := by
  have hflow := h.ethFlow
  unfold Book.SpareEth at hb
  rw [ethIn_acts, ethOut_acts, slashKept_acts, book_nonce, book_claim] at hb
  omega

theorem Sound.pays_tokens (h : Sound ch s) {token : Address} {amount : Nat}
    (hexact : ch.exact token = true) (hb : s.book.SpareTokens ch.self token amount) :
    amount + ∑ id ∈ Finset.Icc 1 s.bridgeNonce, s.book.locked token id ≤
      s.bal token ch.self + Tally.total (LogEntry.withdrawn ch.self token) s.log := by
  have hflow := h.tokenFlow token hexact
  unfold Book.SpareTokens at hb
  rw [tokensIn_acts, tokensOut_acts, withdrawn_acts, book_nonce] at hb
  omega

/-! ## Runs without withdrawals -/

/-- The states of runs in which no `deliverTokens` and no
`emergencyWithdraw` was made. -/
inductive Untapped (ch : Chain) : State → Prop where
  | deployed (g : Genesis ch) (relayer initialOwner : Address) {s : State}
      (h : deploy ch g relayer initialOwner = .ok s) : Untapped ch s
  | tx {s s' : State} (before : Untapped ch s) (t : Tx ch.self)
      (keeps : t.fn.withdraws = false)
      (commits : Reentrancy.Commits (contract ch) t s s') : Untapped ch s'
  | outside {s s' : State} (before : Untapped ch s) (move : Outside ch s s') :
      Untapped ch s'
  | tick {s : State} (before : Untapped ch s) (time : Nat) (later : s.now ≤ time) :
      Untapped ch { s with now := time }

theorem Untapped.reachable (h : Untapped ch s) : Reachable ch s := by
  induction h with
  | deployed g relayer initialOwner h => exact .deployed g relayer initialOwner h
  | tx _ t _ commits ih => exact ih.step (.tx t commits)
  | outside _ move ih => exact ih.step (.outside move)
  | tick _ time later ih => exact ih.step (.tick _ time later)

/-- An operation of a call that withdraws nothing withdraws nothing. -/
theorem Book.Step.withdrawn {home : Address} {fn : Fn} {b b' : Book}
    (st : Book.Step home fn b b') (h : fn.withdraws = false) (token : Address) :
    Tally.total (LogEntry.withdrawn home token) b'.acts =
      Tally.total (LogEntry.withdrawn home token) b.acts := by
  have hclear : ∀ fn id (c : Claim) collector bps, fn.withdraws = false →
      Tally.total (LogEntry.withdrawn home token)
        (Book.expireActs fn id c collector bps) = 0 := fun fn id c collector bps _ =>
    (Book.ethOnly_expireActs fn id c collector bps).total (fun _ _ => rfl)
      (fun _ _ _ => rfl) (fun _ _ => rfl) (fun _ _ => rfl)
  cases st with
  | deposit _ relayer r sender gross sameToken fresh =>
      simp
  | claim _ id solver value claimWindow known isOpen free someone other window =>
      simp [Book.register, Book.receive, Book.act, Book.setClaim]
  | takeover _ id solver value claimWindow collector slashBps known isOpen held due
      someone other window bps =>
      have hz := hclear (.claimBridge id) id (b.requestClaim id) collector slashBps h
      simpa [Book.register, Book.receive, Book.expire, Book.act, Book.setClaim,
        Book.expireActs] using hz
  | release _ id collector slashBps held due bps =>
      have hz := hclear (.releaseExpiredClaim id) id (b.requestClaim id) collector slashBps h
      simpa [Book.expire, Book.act, Book.setClaim, Book.expireActs] using hz
  | settle _ _ id settles known isOpen held intime =>
      simp [h]
  | withdraw _ _ token' recipient amount withdraws => simp [withdraws] at h
  | idle _ _ unguarded => rfl

theorem Untapped.withdrawn (h : Untapped ch s) (token : Address) :
    Tally.total (LogEntry.withdrawn ch.self token) s.log = 0 := by
  induction h with
  | deployed g relayer initialOwner h =>
      unfold deploy at h
      split at h
      · cases h
      split at h
      · cases h
      cases h
      rfl
  | tx before t keeps commits ih =>
      have he := before.reachable.valid.commits commits
      rw [← withdrawn_acts, he.step.withdrawn keeps, withdrawn_acts]
      exact ih
  | outside before move ih =>
      rw [← withdrawn_acts, (undisturbed_outside move).book, withdrawn_acts]
      exact ih
  | tick before time later ih => exact ih

/-! ## Conservation -/

/-- **Token conservation.** In every reachable state the contract holds, of
every exact token, what the open requests lock and what it was given, less
what was withdrawn to others; a call of `collectFees` always reverts; and
in a run without withdrawals the contract has what a settlement pays. -/
theorem token_conservation (h : Reachable ch s) :
    (∀ token, ch.exact token = true →
      s.bal token ch.self + Tally.total (LogEntry.withdrawn ch.self token) s.log =
        ∑ id ∈ Finset.Icc 1 s.bridgeNonce, s.book.locked token id +
          Tally.total (LogEntry.tokensDonated token) s.log) ∧
    (∀ (t : Tx ch.self) token recipient, t.fn = .collectFees token recipient →
      ∃ e, entry ch t s = .revert e) ∧
    (Untapped ch s → ∀ (t : Tx ch.self) (token recipient : Address) (amount : Nat) s',
      t.fn.settles ≠ none →
      Reentrancy.Arrives (contract ch) t (entry ch t s)
        (.safeTransfer token recipient amount) s' →
      ch.exact token = true → amount ≤ s'.bal token ch.self) := by
  refine ⟨fun token hexact => h.valid.tokens hexact, fun t token recipient hfn => ?_,
    fun hun t token recipient amount s' hset harr hexact => ?_⟩
  · rw [entry, hfn]
    show ∃ e, nonPayable ch t (collectFees ch t token recipient) s = .revert e
    unfold nonPayable
    split
    · exact ⟨_, rfl⟩
    · exact collectFees_reverts h.valid.sound token recipient
  · have hcov := h.valid.arrives harr
    obtain ⟨hspare, hacts⟩ := hcov.2 hset
    have hpays := hcov.1.pays_tokens hexact hspare
    have hzero : Tally.total (LogEntry.withdrawn ch.self token) s'.log = 0 := by
      rw [← withdrawn_acts, hacts, withdrawn_acts]
      exact hun.withdrawn token
    omega

theorem token_conservation_claimed :
    Sample.claimed.bal 9 1 + Tally.total (LogEntry.withdrawn 1 9) Sample.claimed.log =
      ∑ id ∈ Finset.Icc 1 Sample.claimed.bridgeNonce, Sample.claimed.book.locked 9 id +
        Tally.total (LogEntry.tokensDonated 9) Sample.claimed.log ∧
      Sample.claimed.bal 9 1 = 10 ^ 18 :=
  ⟨(token_conservation Sample.claimed_reachable).1 9 rfl, Sample.claimed_byFive.escrow.1⟩

/-- **ETH conservation.** In every reachable state the contract's ETH is
the bonds of all claims, the slashes kept for want of a collector and what
was forced on it; and every ETH payment of a transaction, however deep in
its calls, is covered on top of all three. -/
theorem eth_conservation (h : Reachable ch s) :
    s.eth ch.self = ∑ id ∈ Finset.Icc 1 s.bridgeNonce, (s.requestClaim id).bond +
        Tally.total LogEntry.slashKept s.log + Tally.total LogEntry.ethForced s.log ∧
    (∀ id, id ∉ Finset.Icc 1 s.bridgeNonce → (s.requestClaim id).bond = 0) ∧
    ∀ (t : Tx ch.self) (recipient : Address) (value : Nat) s',
      Reentrancy.Arrives (contract ch) t (entry ch t s) (.send recipient value) s' →
        value + ∑ id ∈ Finset.Icc 1 s'.bridgeNonce, (s'.requestClaim id).bond +
          Tally.total LogEntry.slashKept s'.log + Tally.total LogEntry.ethForced s'.log ≤
            s'.eth ch.self := by
  refine ⟨h.valid.eth, fun id hid => h.valid.no_bond hid,
    fun t recipient value s' harr => ?_⟩
  have hcov := h.valid.arrives harr
  exact hcov.1.pays_eth hcov.2

theorem eth_conservation_claimed :
    Sample.claimed.eth 1 =
        ∑ id ∈ Finset.Icc 1 Sample.claimed.bridgeNonce, (Sample.claimed.requestClaim id).bond +
          Tally.total LogEntry.slashKept Sample.claimed.log +
            Tally.total LogEntry.ethForced Sample.claimed.log ∧
      Sample.claimed.eth 1 = 2 * 10 ^ 16 :=
  ⟨(eth_conservation Sample.claimed_reachable).1, Sample.claimed_byFive.escrow.2⟩

end LunarysBridge.Evm
