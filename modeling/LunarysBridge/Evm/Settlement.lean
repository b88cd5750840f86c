/-
LunarysBridge.Evm.Settlement — the life of one request: what is fixed at
its deposit, who may claim it, and the one payment that ends it.

The facts about a single operation are inversions of `Book.Step`; runs are
`Relation.ReflTransGen` of the chain's steps, and carry them by induction.
-/
import LunarysBridge.Evm.Conservation

namespace LunarysBridge.Evm

/-- The fields a deposit fixes. -/
structure BridgeRequest.SameDeposit (r r' : BridgeRequest) : Prop where
  sender : r'.sender = r.sender
  token : r'.token = r.token
  amount : r'.amount = r.amount
  fee : r'.fee = r.fee
  timestamp : r'.timestamp = r.timestamp
  destination : r'.encryptedSolanaDestination = r.encryptedSolanaDestination

theorem BridgeRequest.SameDeposit.refl (r : BridgeRequest) : SameDeposit r r :=
  ⟨rfl, rfl, rfl, rfl, rfl, rfl⟩

theorem BridgeRequest.SameDeposit.trans {r₁ r₂ r₃ : BridgeRequest}
    (h : SameDeposit r₁ r₂) (h' : SameDeposit r₂ r₃) : SameDeposit r₁ r₃ :=
  ⟨h'.sender.trans h.sender, h'.token.trans h.token, h'.amount.trans h.amount,
    h'.fee.trans h.fee, h'.timestamp.trans h.timestamp,
    h'.destination.trans h.destination⟩

/-! ## One operation -/

namespace Book

variable {home : Address} {fn : Fn} {b b' : Book} {id : Nat}

/-- Requests are numbered in the order of their deposits. -/
theorem Step.nonce_le (st : Step home fn b b') : b.bridgeNonce ≤ b'.bridgeNonce := by
  cases st with
  | deposit _ relayer r sender gross sameToken fresh => exact Nat.le_succ _
  | _ => exact Nat.le_refl _

/-- No operation rewrites a deposit. -/
theorem Step.sameDeposit (st : Step home fn b b') (hid : id ≤ b.bridgeNonce) :
    (b.bridgeRequests id).SameDeposit (b'.bridgeRequests id) := by
  cases st with
  | deposit _ relayer r sender gross sameToken fresh =>
      have hne : id ≠ b.bridgeNonce + 1 := by omega
      rw [deposit_request_ne b _ hne]
      exact .refl _
  | settle _ _ i settles known isOpen held intime =>
      by_cases hi : id = i
      · subst hi
        rw [settle_request]
        exact ⟨rfl, rfl, rfl, rfl, rfl, rfl⟩
      · rw [settle_request_ne b fn hi]
        exact .refl _
  | _ => exact .refl _

/-- What is final about a settled request. -/
structure Final (b b' : Book) (id : Nat) : Prop where
  request : b'.bridgeRequests id = b.bridgeRequests id
  claim : b'.requestClaim id = b.requestClaim id
  escrow : b'.requestFeeEscrow id = b.requestFeeEscrow id
  payouts : payouts id b'.acts = payouts id b.acts

theorem Final.refl : Final b b id := ⟨rfl, rfl, rfl, rfl⟩

/-- An operation on one claim, with entries that move ETH only, leaves all
other requests alone. -/
theorem final_setClaim {i : Nat} (hi : id ≠ i) (c : Claim) {entries : List LogEntry}
    (he : EthOnly entries) : Final b ((b.setClaim i c).act entries) id where
  request := rfl
  claim := by simp only [act, setClaim, Function.update_of_ne hi]
  escrow := rfl
  payouts := by simp only [act, setClaim, payouts_append, he.payouts, List.append_nil]

/-- A finalised request is never touched again. -/
theorem Step.final (st : Step home fn b b') (l : Lifecycle home b)
    (hf : (b.bridgeRequests id).finalized = true) : Final b b' id := by
  cases st with
  | deposit _ relayer r sender gross sameToken fresh =>
      have hk := (l.known id).mp (l.settled id hf)
      have hne : id ≠ b.bridgeNonce + 1 := by omega
      exact ⟨deposit_request_ne b _ hne, rfl, deposit_escrow_ne b _ hne, by simp⟩
  | claim _ i solver value claimWindow known isOpen free someone other window =>
      have hne : id ≠ i := by
        rintro rfl
        exact absurd hf (by simp [isOpen])
      refine ⟨rfl, ?_, rfl, ?_⟩
      · simp only [register, act, setClaim, Function.update_of_ne hne, receive]
      · simp [register, act, setClaim, receive]
  | takeover _ i solver value claimWindow collector slashBps known isOpen held due
      someone other window bps =>
      have hne : id ≠ i := by
        rintro rfl
        exact absurd hf (by simp [isOpen])
      have hp := (ethOnly_expireActs (.claimBridge i) i (b.requestClaim i) collector
        slashBps).payouts id
      refine ⟨rfl, ?_, rfl, ?_⟩
      · simp only [register, expire, act, setClaim, Function.update_of_ne hne, receive]
      · simp [register, expire, act, setClaim, receive, expireActs] at hp ⊢
        exact hp
  | release _ i collector slashBps held due bps =>
      have hne : id ≠ i := by
        rintro rfl
        exact absurd hf (by simp [(l.held id held).2.1])
      exact final_setClaim hne _ (ethOnly_expireActs _ _ _ _ _)
  | settle _ _ i settles known isOpen held intime =>
      have hne : id ≠ i := by
        rintro rfl
        exact absurd hf (by simp [isOpen])
      exact ⟨settle_request_ne b fn hne, settle_claim_ne b fn hne, settle_escrow_ne b fn hne,
        payouts_settle_ne settles hne⟩
  | withdraw _ _ token recipient amount withdraws =>
      refine ⟨rfl, rfl, rfl, ?_⟩
      simp [act, Fn.settles_of_withdraws withdraws]
  | idle _ _ unguarded => exact .refl

/-- Before its deadline a claim is ended by settlement only. -/
theorem Step.claim_kept (st : Step home fn b b')
    (hdue : b.now < (b.requestClaim id).deadline) (l : Lifecycle home b) :
    fn.settles = some id ∨ b'.requestClaim id = b.requestClaim id := by
  cases st with
  | claim _ i solver value claimWindow known isOpen free someone other window =>
      have hne : id ≠ i := by
        rintro rfl
        rw [l.free id free] at hdue
        exact absurd hdue (Nat.not_lt_zero _)
      right
      simp only [register, act, setClaim, Function.update_of_ne hne, receive]
  | takeover _ i solver value claimWindow collector slashBps known isOpen held due
      someone other window bps =>
      have hne : id ≠ i := by
        rintro rfl
        omega
      right
      simp only [register, expire, act, setClaim, Function.update_of_ne hne, receive]
  | release _ i collector slashBps held due bps =>
      have hne : id ≠ i := by
        rintro rfl
        omega
      right
      simp only [expire, act, setClaim, Function.update_of_ne hne]
  | settle _ _ i settles known isOpen held intime =>
      by_cases hi : id = i
      · subst hi
        exact .inl settles
      · right
        rw [settle_claim_ne b fn hi]
  | _ => exact .inr rfl

/-- A settlement pays the solver that holds the claim, in time, in the token
and the gross amount of the deposit; nothing else pays for a request. -/
theorem Step.payouts (st : Step home fn b b') (l : Lifecycle home b) (id : Nat) :
    payouts id b'.acts = payouts id b.acts ∨
      fn.settles = some id ∧ (b.bridgeRequests id).finalized = false ∧
        (b'.bridgeRequests id).finalized = true ∧
        (b.requestClaim id).solver ≠ 0 ∧ b.now ≤ (b.requestClaim id).deadline ∧
        payouts id b'.acts = payouts id b.acts ++
          [((b.bridgeRequests id).token, (b.requestClaim id).solver,
            (b.bridgeRequests id).amount + (b.bridgeRequests id).fee)] := by
  cases st with
  | deposit _ relayer r sender gross sameToken fresh =>
      left
      simp
  | claim _ i solver value claimWindow known isOpen free someone other window =>
      left
      simp [register, act, setClaim, receive]
  | takeover _ i solver value claimWindow collector slashBps known isOpen held due
      someone other window bps =>
      left
      have hp := (ethOnly_expireActs (.claimBridge i) i (b.requestClaim i) collector
        slashBps).payouts id
      simp [register, expire, act, setClaim, receive, expireActs] at hp ⊢
      exact hp
  | release _ i collector slashBps held due bps =>
      left
      have hp := (ethOnly_expireActs (.releaseExpiredClaim i) i (b.requestClaim i)
        collector slashBps).payouts id
      simp [expire, act, setClaim, expireActs] at hp ⊢
      exact hp
  | settle _ _ i settles known isOpen held intime =>
      by_cases hi : id = i
      · subst hi
        right
        refine ⟨settles, isOpen, ?_, held, intime, ?_⟩
        · simp
        · simp [settles, payout, l.escrowed id isOpen]
      · exact .inl (payouts_settle_ne settles hi)
  | withdraw _ _ token recipient amount withdraws =>
      left
      simp [act, Fn.settles_of_withdraws withdraws]
  | idle _ _ unguarded => exact .inl rfl

/-- A deposit is the next on the record, with its gross amount. -/
theorem Step.deposited {token : Address} {amount : Nat} {input : Bytes32}
    {proof : List UInt8}
    (st : Step home (.initiateBridge token amount input proof) b b') :
    b'.bridgeNonce = b.bridgeNonce + 1 ∧
      deposits b'.acts = deposits b.acts ++ [(token, amount)] := by
  cases st with
  | deposit _ relayer r sender gross sameToken fresh =>
      refine ⟨rfl, ?_⟩
      simp [sameToken, gross]
  | settle _ _ i settles known isOpen held intime => cases settles
  | withdraw _ _ token recipient amount withdraws => cases withdraws
  | idle _ _ unguarded => exact absurd unguarded Bool.false_ne_true

/-- Claiming, releasing and settling need an open request. -/
theorem Step.isOpen (st : Step home fn b b') (l : Lifecycle home b)
    (h : fn = .claimBridge id ∨ fn = .releaseExpiredClaim id ∨ fn.settles = some id) :
    (b.bridgeRequests id).finalized = false := by
  obtain rfl | rfl | h := h
  · cases st with
    | claim _ i solver value claimWindow known isOpen free someone other window =>
        exact isOpen
    | takeover _ i solver value claimWindow collector slashBps known isOpen held due
        someone other window bps => exact isOpen
    | settle _ _ i settles known isOpen held intime => cases settles
    | withdraw _ _ token recipient amount withdraws => cases withdraws
    | idle _ _ unguarded => exact absurd unguarded Bool.false_ne_true
  · cases st with
    | release _ i collector slashBps held due bps => exact (l.held id held).2.1
    | settle _ _ i settles known isOpen held intime => cases settles
    | withdraw _ _ token recipient amount withdraws => cases withdraws
    | idle _ _ unguarded => exact absurd unguarded Bool.false_ne_true
  · cases st with
    | settle _ _ i settles known isOpen held intime =>
        have hi : i = id := by simpa [settles] using h
        exact hi ▸ isOpen
    | withdraw _ _ token recipient amount withdraws =>
        rw [Fn.settles_of_withdraws withdraws] at h
        cases h
    | idle _ _ unguarded =>
        cases fn <;> first | exact absurd unguarded Bool.false_ne_true | cases h
    | _ => cases h

end Book

/-! ## Runs -/

variable {ch : Chain} {s s' : State} {id : Nat}

theorem payouts_acts (id : Nat) (s : State) :
    payouts id s.book.acts = payouts id s.log := by
  show payouts id (s.log.filter LogEntry.isAct) = payouts id s.log
  induction s.log with
  | nil => rfl
  | cons e l ih =>
      cases he : e.isAct with
      | true => simp [he, ih]
      | false =>
          have hp : e.payout? id = none := by
            cases e <;> first | rfl | cases he
          rw [List.filter_cons_of_neg (by simp [he]), payouts_cons, hp, ih]
          rfl

theorem deposits_acts (s : State) : deposits s.book.acts = deposits s.log := by
  show deposits (s.log.filter LogEntry.isAct) = deposits s.log
  induction s.log with
  | nil => rfl
  | cons e l ih =>
      cases he : e.isAct with
      | true => simp [he, ih]
      | false =>
          have hp : e.deposit? = none := by
            cases e <;> first | rfl | cases he
          rw [List.filter_cons_of_neg (by simp [he]), deposits_cons, hp, ih]
          rfl

/-- What a run may do to the deposits made before it, and to a request that
is settled. -/
structure Kept (s s' : State) (id : Nat) : Prop where
  nonce : s.bridgeNonce ≤ s'.bridgeNonce
  deposit : id ≤ s.bridgeNonce → (s.bridgeRequests id).SameDeposit (s'.bridgeRequests id)
  final : (s.bridgeRequests id).finalized = true →
    s'.bridgeRequests id = s.bridgeRequests id ∧ s'.requestClaim id = s.requestClaim id ∧
      s'.requestFeeEscrow id = s.requestFeeEscrow id ∧ payouts id s'.log = payouts id s.log

theorem Kept.of_book (h : s'.book = s.book) : Kept s s' id := by
  have hn : s'.bridgeNonce = s.bridgeNonce := congrArg Book.bridgeNonce h
  have hr : s'.bridgeRequests = s.bridgeRequests := congrArg Book.bridgeRequests h
  have hc : s'.requestClaim = s.requestClaim := congrArg Book.requestClaim h
  have he : s'.requestFeeEscrow = s.requestFeeEscrow := congrArg Book.requestFeeEscrow h
  refine ⟨Nat.le_of_eq hn.symm, fun _ => hr ▸ .refl _, fun _ => ?_⟩
  rw [hr, hc, he, ← payouts_acts, h, payouts_acts]
  exact ⟨rfl, rfl, rfl, rfl⟩

/-- One step of the chain keeps the deposits and the settled requests. -/
theorem Valid.kept (h : Valid ch s) (hstep : Step ch s s') : Kept s s' id := by
  cases hstep with
  | tx t commits =>
      have he := h.commits commits
      refine ⟨he.step.nonce_le, fun hid => he.step.sameDeposit hid, fun hf => ?_⟩
      have hfin := he.step.final h.lifecycle hf
      refine ⟨hfin.request, hfin.claim, hfin.escrow, ?_⟩
      rw [← payouts_acts, hfin.payouts, payouts_acts]
  | outside move => exact .of_book (undisturbed_outside move).book
  | tick time later => exact ⟨Nat.le_refl _, fun _ => .refl _, fun _ => ⟨rfl, rfl, rfl, rfl⟩⟩

/-- A whole run keeps them. -/
theorem Valid.kept_run (h : Valid ch s) (hrun : Relation.ReflTransGen (Step ch) s s') :
    Valid ch s' ∧ Kept s s' id := by
  induction hrun with
  | refl => exact ⟨h, .of_book rfl⟩
  | tail _ hstep ih =>
      obtain ⟨hv, hk⟩ := ih
      refine ⟨hv.step hstep, ?_⟩
      have hk' : Kept _ _ id := hv.kept hstep
      refine ⟨Nat.le_trans hk.nonce hk'.nonce, fun hid => ?_, fun hf => ?_⟩
      · exact (hk.deposit hid).trans (hk'.deposit (Nat.le_trans hid hk.nonce))
      · obtain ⟨hr, hc, he, hp⟩ := hk.final hf
        obtain ⟨hr', hc', he', hp'⟩ := hk'.final (hr ▸ hf)
        exact ⟨hr'.trans hr, hc'.trans hc, he'.trans he, hp'.trans hp⟩

/-! ## Main results -/

/-- **Exactly-once payout.** For every request: nothing was paid while it
is open; once it is finalised, its gross deposit was paid, in one transfer
and in its token. A payment is made by settlement alone, to the solver
whose claim is not expired. A finalised request stays as it is in every
run, and no call claims, releases or settles it. -/
theorem exactly_once_payout (h : Reachable ch s) (id : Nat) :
    ((s.bridgeRequests id).finalized = false → payouts id s.log = []) ∧
    ((s.bridgeRequests id).finalized = true → ∃ token solver gross,
      (deposits s.log)[id - 1]? = some (token, gross) ∧
        payouts id s.log = [(token, solver, gross)]) ∧
    (∀ (t : Tx ch.self) s', Reentrancy.Commits (contract ch) t s s' →
      payouts id s'.log = payouts id s.log ∨
        t.fn.settles = some id ∧ (s.bridgeRequests id).finalized = false ∧
          (s'.bridgeRequests id).finalized = true ∧
          (s.requestClaim id).solver ≠ 0 ∧ s.now ≤ (s.requestClaim id).deadline ∧
          ∃ token gross, (deposits s.log)[id - 1]? = some (token, gross) ∧
            payouts id s'.log = [(token, (s.requestClaim id).solver, gross)]) ∧
    (∀ (t : Tx ch.self) s' token amount input proof,
      t.fn = .initiateBridge token amount input proof →
      Reentrancy.Commits (contract ch) t s s' →
        s'.bridgeNonce = s.bridgeNonce + 1 ∧
          deposits s'.log = deposits s.log ++ [(token, amount)]) ∧
    ((s.bridgeRequests id).finalized = true →
      (∀ s', Relation.ReflTransGen (Step ch) s s' →
        s'.bridgeRequests id = s.bridgeRequests id ∧
          s'.requestClaim id = s.requestClaim id ∧
          s'.requestFeeEscrow id = s.requestFeeEscrow id ∧
          payouts id s'.log = payouts id s.log) ∧
      ∀ (t : Tx ch.self) s', t.fn = .claimBridge id ∨ t.fn = .releaseExpiredClaim id ∨
        t.fn.settles = some id → ¬ Reentrancy.Commits (contract ch) t s s') := by
  have hv := h.valid
  have hgross : ∀ i, (s.bridgeRequests i).sender ≠ 0 → (deposits s.log)[i - 1]? =
      some ((s.bridgeRequests i).token,
        (s.bridgeRequests i).amount + (s.bridgeRequests i).fee) := by
    intro i hi
    have hk := (hv.lifecycle.known i).mp hi
    rw [← deposits_acts]
    exact hv.accounts.deposited i hk.1 hk.2
  refine ⟨fun hf => ?_, fun hf => ?_, fun t s' hc => ?_, fun t s' token amount input proof
    hfn hc => ?_, fun hf => ⟨fun s' hrun => ?_, fun t s' hfn hc => ?_⟩⟩
  · rw [← payouts_acts]
    exact hv.accounts.unpaid id hf
  · obtain ⟨solver, hp⟩ := hv.accounts.paid id hf
    rw [payouts_acts] at hp
    exact ⟨_, solver, _, hgross id (hv.lifecycle.settled id hf), hp⟩
  · have he := hv.commits hc
    rcases he.step.payouts hv.lifecycle id with hp | ⟨hset, hopen, hfin, hheld,
      hdue, hp⟩
    · left
      rw [← payouts_acts, hp, payouts_acts]
    · have hnone := hv.accounts.unpaid id hopen
      rw [hnone, List.nil_append, payouts_acts] at hp
      exact .inr ⟨hset, hopen, hfin, hheld, hdue, _, _,
        hgross id (hv.lifecycle.held id hheld).1, hp⟩
  · have he := hv.commits hc
    have hd := (hfn ▸ he.step).deposited
    rw [deposits_acts, deposits_acts] at hd
    exact hd
  · exact (hv.kept_run hrun).2.final hf
  · have hopen := (hv.commits hc).step.isOpen hv.lifecycle hfn
    rw [book_requests, hf] at hopen
    cases hopen

theorem exactly_once_payout_settled :
    (∃ token solver gross, (deposits Sample.settled.log)[1 - 1]? = some (token, gross) ∧
      payouts 1 Sample.settled.log = [(token, solver, gross)]) ∧
      payouts 1 Sample.settled.log = [(9, 5, 10 ^ 18)] :=
  ⟨(exactly_once_payout Sample.settled_reachable 1).2.1 (by decide +kernel),
    by decide +kernel⟩

/-- **The life of a request and its claim**, in every reachable state. -/
theorem request_lifecycle (h : Reachable ch s) :
    (∀ id, (s.bridgeRequests id).sender ≠ 0 ↔ 1 ≤ id ∧ id ≤ s.bridgeNonce) ∧
    (∀ s' id, Relation.ReflTransGen (Step ch) s s' → 1 ≤ id → id ≤ s.bridgeNonce →
      (s.bridgeRequests id).SameDeposit (s'.bridgeRequests id)) ∧
    (∀ id, (s.bridgeRequests id).finalized = true →
      s.requestClaim id = ⟨0, 0, 0, 0⟩ ∧ s.requestFeeEscrow id = 0) ∧
    (∀ id, (s.bridgeRequests id).finalized = false →
      s.requestFeeEscrow id = (s.bridgeRequests id).fee) ∧
    (∀ id, (s.requestClaim id).solver = 0 → (s.requestClaim id).claimedAt = 0 ∧
      (s.requestClaim id).deadline = 0 ∧ (s.requestClaim id).bond = 0) ∧
    (∀ id, (s.requestClaim id).solver ≠ 0 →
      (s.bridgeRequests id).sender ≠ 0 ∧ (s.bridgeRequests id).finalized = false) ∧
    (s.now < 2 ^ 63 → ∀ id, (s.requestClaim id).solver ≠ 0 →
      (s.requestClaim id).claimedAt + 60 ≤ (s.requestClaim id).deadline ∧
        (s.requestClaim id).deadline ≤ (s.requestClaim id).claimedAt + 86400) ∧
    (∀ s' id, Step ch s s' → s.now < (s.requestClaim id).deadline →
      s'.requestClaim id = s.requestClaim id ∨
        ∃ t : Tx ch.self, t.fn.settles = some id ∧
          Reentrancy.Commits (contract ch) t s s') := by
  have hv := h.valid
  have hl := hv.lifecycle
  refine ⟨hl.known, fun s' id hrun _ hid => (hv.kept_run hrun).2.deposit hid, hl.closed,
    hl.escrowed, fun id hs => ?_, fun id hs => ?_, hl.window, fun s' id hstep hdue => ?_⟩
  · have hempty : s.requestClaim id = Claim.empty := hl.free id hs
    rw [hempty]
    exact ⟨rfl, rfl, rfl⟩
  · obtain ⟨hknown, hopen, _⟩ := hl.held id hs
    exact ⟨hknown, hopen⟩
  · cases hstep with
    | tx t commits =>
        rcases (hv.commits commits).step.claim_kept hdue hl with hset | hsame
        · exact .inr ⟨t, hset, commits⟩
        · exact .inl hsame
    | outside move =>
        left
        exact congrFun (congrArg Book.requestClaim (undisturbed_outside move).book) id
    | tick time later => exact .inl rfl

theorem request_lifecycle_claimed :
    (Sample.claimed.requestClaim 1).claimedAt + 60 ≤
        (Sample.claimed.requestClaim 1).deadline ∧
      (Sample.claimed.requestClaim 1).deadline ≤
        (Sample.claimed.requestClaim 1).claimedAt + 86400 :=
  (request_lifecycle Sample.claimed_reachable).2.2.2.2.2.2.1
    (by rw [Sample.claimed_byFive.now]; decide) 1 Sample.claimed_held

end LunarysBridge.Evm
