/-
LunarysBridge.Evm.Refinement — every transaction of the contract is one
operation of the escrow, whatever its callees do.

Each function is passed over once. `Running s b` says that the contract
runs in state `s` with the guard taken and the book `b`; the lemmas below
carry it from one line of a function to the next, over external calls by
the rules of `Lib/Reentrancy.lean`. At every external call `Covered` is
proved: what is sent is there, on top of all that is held for others.
-/
import LunarysBridge.Evm.Guard

namespace LunarysBridge.Evm

/-! ## What is owed at an external call -/

/-- The ETH the book does not owe to anybody else covers `value`. -/
def Book.SpareEth (b : Book) (value : Nat) : Prop :=
  Tally.total LogEntry.ethOut b.acts + Tally.total LogEntry.slashKept b.acts +
    ∑ id ∈ Finset.Icc 1 b.bridgeNonce, (b.requestClaim id).bond + value ≤
      Tally.total LogEntry.ethIn b.acts

/-- The tokens the book does not owe to other requests cover `amount`,
unless they were withdrawn. -/
def Book.SpareTokens (home : Address) (b : Book) (token : Address) (amount : Nat) :
    Prop :=
  Tally.total (LogEntry.tokensOut home token) b.acts +
    ∑ id ∈ Finset.Icc 1 b.bridgeNonce, b.locked token id + amount ≤
      Tally.total (LogEntry.tokensIn token) b.acts +
        Tally.total (LogEntry.withdrawn home token) b.acts

/-- What holds at an external call of a transaction that started with the
book `b`: the ledgers are right, a payment of ETH is covered, and so is the
payment of a settlement, which comes before any other act. -/
def Covered {ch : Chain} (t : Tx ch.self) (b : Book) (x : ExtCall) (s : State) :
    Prop :=
  Sound ch s ∧
    match x with
    | .send _ value => s.book.SpareEth value
    | .safeTransfer token _ amount =>
        t.fn.settles ≠ none →
          s.book.SpareTokens ch.self token amount ∧ s.book.acts = b.acts
    | .safeTransferFrom _ _ _ => True

/-- How a transaction that started with the book `b` ends. -/
structure Ends {ch : Chain} (t : Tx ch.self) (b : Book) (s : State) : Prop where
  step : Book.Step ch.self t.fn b s.book
  sound : Sound ch s
  unlocked : s.entered = false

abbrev Good {ch : Chain} (t : Tx ch.self) (b : Book) : Code → Prop :=
  Reentrancy.Sat (contract ch) t (fun s => s.entered = true) (Undisturbed ch)
    (Covered t b) (Ends t b)

/-! ## The contract while it runs -/

/-- The guard is taken, the ledgers are right, and the book is `b`. -/
structure Running (ch : Chain) (s : State) (b : Book) : Prop where
  book : s.book = b
  sound : Sound ch s
  locked : s.entered = true

variable {ch : Chain} {t : Tx ch.self} {s : State} {b b₁ : Book}

section Running

theorem Running.emit (h : Running ch s b) (e : Event) : Running ch (s.emit e) b :=
  ⟨by rw [book_emit, h.book], h.sound.emit e, h.locked⟩

theorem Running.allow (h : Running ch s b) (handle : Handle) (account : Address) :
    Running ch (s.allow handle account) (b.act [.allowed handle account]) :=
  ⟨by rw [book_allow, h.book], h.sound.allow handle account, h.locked⟩

theorem Running.retained (h : Running ch s b) (id slashAmt : Nat) :
    Running ch (s.note (.retained id slashAmt)) (b.act [.retained id slashAmt]) :=
  ⟨by rw [book_note s rfl, h.book], h.sound.retained id slashAmt, h.locked⟩

theorem Running.setRequest (h : Running ch s b) (id : Nat) (r : BridgeRequest) :
    Running ch (s.setRequest id r) (b.setRequest id r) :=
  ⟨by rw [book_setRequest, h.book],
    h.sound.congr rfl rfl rfl rfl rfl rfl rfl (fun _ _ => rfl) rfl, h.locked⟩

theorem Running.setClaim (h : Running ch s b) (id : Nat) (c : Claim) :
    Running ch (s.setClaim id c) (b.setClaim id c) :=
  ⟨by rw [book_setClaim, h.book],
    h.sound.congr rfl rfl rfl rfl rfl rfl rfl (fun _ _ => rfl) rfl, h.locked⟩

theorem Running.setFeeEscrow (h : Running ch s b) (id fee : Nat) :
    Running ch (s.setFeeEscrow id fee) (b.setFeeEscrow id fee) :=
  ⟨by rw [book_setFeeEscrow, h.book],
    h.sound.congr rfl rfl rfl rfl rfl rfl rfl (fun _ _ => rfl) rfl, h.locked⟩

theorem Running.setNonce (h : Running ch s b) (n : Nat) :
    Running ch { s with bridgeNonce := n } { b with bridgeNonce := n } :=
  ⟨by rw [← h.book]; rfl,
    h.sound.congr rfl rfl rfl rfl rfl rfl rfl (fun _ _ => rfl) rfl, h.locked⟩

/-- A call is made, and the callee acts before it returns. -/
theorem Running.called {x : ExtCall} {s₁ s₂ : State} (h : Running ch s b) (hc : Called t x s s₁)
    (hu : Undisturbed ch s₁ s₂) : Running ch s₂ (b.act [.called t.fn x]) where
  book := by rw [hu.book, hc.book, h.book]
  sound := hu.sound (hc.sound h.sound)
  locked := by rw [hu.entered, hc.entered, h.locked]

theorem Running.claim (h : Running ch s b) (id : Nat) :
    s.requestClaim id = b.requestClaim id := by rw [← h.book, book_claim]

theorem Running.request (h : Running ch s b) (id : Nat) :
    s.bridgeRequests id = b.bridgeRequests id := by rw [← h.book, book_requests]

theorem Running.escrow (h : Running ch s b) (id : Nat) :
    s.requestFeeEscrow id = b.requestFeeEscrow id := by rw [← h.book, book_escrow]

theorem Running.nonce (h : Running ch s b) : s.bridgeNonce = b.bridgeNonce := by
  rw [← h.book, book_nonce]

theorem Running.time (h : Running ch s b) : s.now = b.now := by rw [← h.book, book_now]

end Running

/-! ## Rules -/

theorem good_revert (e : Revert) : Good t b (.revert e) := trivial

theorem good_check {cond : Prop} [Decidable cond] {e : Revert} {p : Code}
    (h : ¬ cond → Good t b p) : Good t b (if cond then .revert e else p) := by
  split
  · exact good_revert e
  · next hcond => exact h hcond

/-- A function that gives the guard back has made one operation. -/
theorem good_leave (h : Running ch s b₁) (hstep : Book.Step ch.self t.fn b b₁) :
    Good t b (leave s) :=
  ⟨show Book.Step ch.self t.fn b s.book from h.book ▸ hstep,
    h.sound.congr rfl rfl rfl rfl rfl rfl rfl (fun _ _ => rfl) rfl, rfl⟩

/-- Over an external call the book changes by the call itself. -/
theorem good_call {x : ExtCall} {k : Bool → State → Code} (h : Running ch s b₁)
    (hx : ∀ token amount, x ≠ .safeTransferFrom token ch.self amount)
    (hcov : Covered t b x s) (hfail : Good t b (k false s))
    (hok : ∀ s', Running ch s' (b₁.act [.called t.fn x]) → Good t b (k true s')) :
    Good t b (.call x s k) := by
  refine ⟨hcov, fun s₁ h₁ => ?_, hfail⟩
  have hc : Called t x s s₁ := called_of_deliver hx h₁
  exact ⟨hc.entered.trans h.locked, fun s₂ h₂ => hok s₂ (h.called hc h₂)⟩

/-- ETH is sent, or the call reverts. -/
theorem good_send {recipient : Address} {value : Nat} {rest : State → Code}
    {e : Revert} (h : Running ch s b₁) (hcov : b₁.SpareEth value)
    (hrest : ∀ s', Running ch s' (b₁.act [.called t.fn (.send recipient value)]) →
      Good t b (rest s')) :
    Good t b (.call (.send recipient value) s fun ok s =>
      if ok then rest s else .revert e) := by
  refine good_call h (by simp) ⟨h.sound, ?_⟩ trivial fun s' h' => hrest s' h'
  rw [h.book]
  exact hcov

/-- `safeTransfer` as the last external call of a withdrawal. -/
theorem good_payOut {token recipient : Address} {amount : Nat} {rest : State → Code}
    (h : Running ch s b₁) (hfn : t.fn.withdraws = true)
    (hrest : ∀ s', Running ch s'
        (b₁.act [.called t.fn (.safeTransfer token recipient amount)]) →
      Good t b (rest s')) :
    Good t b (payOut token recipient amount rest s) := by
  refine good_call h (by simp) ⟨h.sound, fun hset => ?_⟩ trivial fun s' h' => hrest s' h'
  exact absurd (Fn.settles_of_withdraws hfn) hset

/-! ## Deposit -/

theorem good_recordRequest {token : Address} {amount amountAfterFee fee : Nat}
    {input : Bytes32} {proof : List UInt8} (destinationHandle : Handle)
    (h : Running ch s (b.act [.called t.fn (.safeTransferFrom token t.sender amount)]))
    (hfn : t.fn = .initiateBridge token amount input proof)
    (hgross : amountAfterFee + fee = amount) :
    Good t b (recordRequest ch t token amountAfterFee fee destinationHandle s) := by
  unfold recordRequest
  simp only []
  split
  · exact good_revert _
  · next requestId hadd =>
    have hnonce : requestId = b.bridgeNonce + 1 :=
      (checkedAdd_some hadd).trans (congrArg (· + 1) h.nonce)
    have h₁ := ((h.allow destinationHandle t.sender).allow destinationHandle ch.self).allow
      destinationHandle s.relayer
    have h₂ := (((h₁.setNonce requestId).setRequest requestId
      { sender := t.sender
        token := token
        amount := amountAfterFee
        encryptedSolanaDestination := destinationHandle
        timestamp := s.now
        finalized := false
        fee := fee }).setFeeEscrow requestId fee).emit
      (.BridgeInitiated requestId t.sender token amountAfterFee)
    refine good_leave h₂ ?_
    have hdep : Book.Step ch.self (.initiateBridge token amount input proof) b _ :=
      .deposit b s.relayer
        ⟨t.sender, token, amountAfterFee, destinationHandle, s.now, false, fee⟩
        t.sender_ne_zero hgross rfl rfl
    rw [hfn, hnonce]
    simpa [Book.deposit, Book.addRequest, Book.act, Book.setRequest, Book.setFeeEscrow,
      hgross] using hdep

theorem good_nonReentrant {body : State → Code} (hs : Sound ch s)
    (hbody : ∀ s', Running ch s' s.book → Good t b (body s')) :
    Good t b (nonReentrant body s) := by
  refine good_check fun _ => hbody _ ⟨rfl, ?_, rfl⟩
  exact hs.congr rfl rfl rfl rfl rfl rfl rfl (fun _ _ => rfl) rfl

theorem good_onlyOwner {body : State → Code} (h : Good t b (body s)) :
    Good t b (onlyOwner ch t body s) :=
  good_check fun _ => h

theorem good_onlyRelayer {body : State → Code} (h : Good t b (body s)) :
    Good t b (onlyRelayer ch t body s) :=
  good_check fun _ => h

theorem good_onlyAuthorizedNode {body : State → Code} (h : Good t b (body s)) :
    Good t b (onlyAuthorizedNode ch t body s) :=
  good_check fun _ => h

theorem good_initiateBridge {token : Address} {amount : Nat} {input : Bytes32}
    {proof : List UInt8} (hfn : t.fn = .initiateBridge token amount input proof)
    (hs : Sound ch s) :
    Good t s.book (initiateBridge ch t token amount input proof s) := by
  apply good_nonReentrant hs
  intro s₁ h₁
  refine good_check fun _ => good_check fun _ => ?_
  split
  · exact good_revert _
  · next fee _ =>
    split
    · exact good_revert _
    · next amountAfterFee hsub =>
      refine good_call h₁ ?_ ⟨h₁.sound, trivial⟩ (good_revert _) fun s₂ h₂ => ?_
      · simpa using t.sender_ne_contract
      · simp only [Bool.true_eq_false, if_false]
        split
        · exact good_revert _
        · exact good_recordRequest _ h₂ hfn (checkedSub_some hsub)

/-! ## The end of an expired claim -/

section Spare

variable {id v w : Nat} {fn : Fn}

theorem Book.Accounts.spareEth {home : Address} (h : b.Accounts home) : b.SpareEth 0 := by
  have hb := h.bonds
  unfold Book.SpareEth
  omega

theorem Book.SpareEth.mono (h : b.SpareEth v) (hle : w ≤ v) : b.SpareEth w := by
  unfold Book.SpareEth at *
  omega

theorem Book.SpareEth.receive (h : b.SpareEth v) : (b.receive fn w).SpareEth v := by
  simp only [Book.SpareEth, Book.receive, Book.act, Tally.total_append, Tally.total_cons,
    Tally.total_nil, LogEntry.ethIn, LogEntry.ethOut, LogEntry.slashKept] at *
  omega

/-- A bond struck from the book can be paid out. -/
theorem Book.SpareEth.clearBond (h : b.SpareEth 0) (hid : id ∈ Finset.Icc 1 b.bridgeNonce)
    {c : Claim} (hc : c.bond = 0) : (b.setClaim id c).SpareEth (b.requestClaim id).bond := by
  have hsum := Tally.sum_change hid (f := fun i => (b.requestClaim i).bond)
    (g := fun i => (Function.update b.requestClaim id c i).bond)
    (fun j hj => by simp only [Function.update_of_ne hj])
  simp only [Function.update_self] at hsum
  simp only [Book.SpareEth, Book.setClaim] at *
  omega

/-- The slash leaves what is left of the bond. -/
theorem Book.SpareEth.slash (h : b.SpareEth (v + w)) (collector : Address) :
    (b.act (Book.slashActs fn id collector v)).SpareEth w := by
  have hs := Book.total_slashActs fn id v collector
  simp only [Book.SpareEth, Book.act, Tally.total_append, Book.slashActs_in] at *
  omega

end Spare

@[simp] theorem Book.act_nil : b.act [] = b := by simp [Book.act]

theorem good_slashTransfer {id slashAmt : Nat} {rest : State → Code}
    (h : Running ch s b₁) (hcov : b₁.SpareEth slashAmt)
    (hrest : ∀ s' collector,
      Running ch s' (b₁.act (Book.slashActs t.fn id collector slashAmt)) →
        Good t b (rest s')) :
    Good t b (slashTransfer id slashAmt rest s) := by
  unfold slashTransfer
  split
  · next hsome =>
    refine good_send h hcov fun s' h' => hrest s' s.slashCollector ?_
    rwa [Book.slashActs, if_pos hsome]
  · next hnone =>
    split
    · next hzero =>
      apply hrest _ s.slashCollector
      rw [Book.slashActs, if_neg hnone, if_pos hzero]
      exact h.retained id slashAmt
    · next hset =>
      apply hrest _ s.slashCollector
      rw [Book.slashActs, if_neg hnone, if_neg hset, Book.act_nil]
      exact h

theorem good_refundLeftover {id leftover : Nat} {rest : State → Code}
    (h : Running ch s b₁) (hcov : b₁.SpareEth leftover)
    (hrest : ∀ s', Running ch s'
        (b₁.act (Book.refundActs t.fn (b₁.requestClaim id).solver leftover)) →
      Good t b (rest s')) :
    Good t b (refundLeftover id leftover rest s) := by
  unfold refundLeftover
  split
  · next hpos =>
    refine good_send h hcov fun s' h' => hrest s' ?_
    rwa [Book.refundActs, if_pos hpos, ← h.claim]
  · next hzero =>
    apply hrest s
    rwa [Book.refundActs, if_neg hzero, Book.act_nil]

theorem good_endExpiredClaim {id : Nat} {rest : State → Code} (h : Running ch s b₁)
    (hid : id ∈ Finset.Icc 1 b₁.bridgeNonce) (hspare : b₁.SpareEth 0)
    (hrest : ∀ s' collector slashBps, slashBps ≤ 10000 →
      Running ch s' (b₁.expire t.fn id collector slashBps) → Good t b (rest s')) :
    Good t b (endExpiredClaim id rest s) := by
  unfold endExpiredClaim
  split
  · exact good_revert _
  · next product hmul =>
    simp only []
    split
    · exact good_revert _
    · next leftover hsub =>
      have hprod := checkedMul_some hmul
      have hslash : product / 10000 = Book.slashOf (b₁.requestClaim id).bond s.slashBps := by
        rw [hprod, h.claim, Book.slashOf]
      have hleft := checkedSub_some hsub
      rw [h.claim] at hleft
      have h₁ := h.setClaim id { s.requestClaim id with bond := 0 }
      have hcov : (b₁.setClaim id { s.requestClaim id with bond := 0 }).SpareEth
          (product / 10000 + leftover) := by
        rw [Nat.add_comm, hleft]
        exact hspare.clearBond hid rfl
      refine good_slashTransfer h₁ (hcov.mono (Nat.le_add_right _ _))
        fun s₂ collector h₂ => ?_
      refine good_refundLeftover h₂ (hcov.slash collector) fun s₃ h₃ => ?_
      unfold resetExpired
      apply hrest _ collector s.slashBps h.sound.bps
      have h₄ := (h₃.emit (.BridgeClaimExpired id (s₃.requestClaim id).solver
        (product / 10000))).setClaim id
          { s₃.requestClaim id with solver := 0, claimedAt := 0, deadline := 0 }
      have hfinal : ({ s₃.requestClaim id with solver := 0, claimedAt := 0, deadline := 0 } :
          Claim) = Claim.empty := by
        rw [h₃.claim]
        simp [Book.act, Book.setClaim, Claim.empty]
      have hleftover : (b₁.requestClaim id).bond - product / 10000 = leftover := by
        omega
      refine (congrArg (Running ch _) ?_).mp h₄
      rw [hfinal]
      simp [Book.expire, ← hslash, hleftover, Book.act, Book.setClaim, h.claim]

/-! ## Claiming and releasing -/

theorem good_registerClaim {id : Nat} (h : Running ch s b₁)
    (hstep : ∀ claimWindow, 60 ≤ claimWindow ∧ claimWindow ≤ 86400 →
      Book.Step ch.self t.fn b (b₁.register id t.sender t.value claimWindow)) :
    Good t b (registerClaim ch t id s) := by
  refine good_check fun _ => ?_
  split
  · exact good_revert _
  · next deadline hadd =>
    have hd := checkedAdd_some hadd
    have h₁ := (h.setClaim id
      { solver := t.sender
        claimedAt := uint64 s.now
        deadline := uint64 deadline
        bond := t.value }).allow (s.bridgeRequests id).encryptedSolanaDestination t.sender
    refine good_leave (h₁.emit _) ?_
    have hst := hstep s.claimWindow h.sound.window
    rw [hd, h.time, h.request]
    exact hst

theorem good_claimBridge {id : Nat} {b₀ : Book} (hs : Sound ch s)
    (hbook : s.book = b₀.receive t.fn t.value) (hfn : t.fn = .claimBridge id)
    (hl : b₀.Lifecycle ch.self) (ha : b₀.Accounts ch.self) :
    Good t b₀ (claimBridge ch t id s) := by
  refine good_nonReentrant hs fun s₁ h => good_onlyAuthorizedNode ?_
  rw [hbook] at h
  have hclaim : s₁.requestClaim id = b₀.requestClaim id := h.claim id
  have hreq : s₁.bridgeRequests id = b₀.bridgeRequests id := h.request id
  have htime : s₁.now = b₀.now := h.time
  rw [hclaim, hreq, htime]
  refine good_check fun known => good_check fun isOpen => good_check fun hnot => ?_
  split
  · next hdue =>
    obtain ⟨held, due⟩ := hdue
    have hid : id ∈ Finset.Icc 1 b₀.bridgeNonce :=
      Finset.mem_Icc.mpr ((hl.known id).mp known)
    refine good_endExpiredClaim h hid ha.spareEth.receive
      fun s₂ collector slashBps hbps h₂ => good_registerClaim h₂ fun claimWindow hw => ?_
    rw [hfn]
    exact .takeover b₀ id t.sender t.value claimWindow collector slashBps known
      (by simpa using isOpen) held due t.sender_ne_zero t.sender_ne_contract hw hbps
  · next hlate =>
    have free : (b₀.requestClaim id).solver = 0 := by
      by_contra held
      exact hlate ⟨held, Nat.le_of_not_lt fun hlt => hnot ⟨held, hlt⟩⟩
    apply good_registerClaim h
    intro claimWindow hw
    rw [hfn]
    exact .claim b₀ id t.sender t.value claimWindow known (by simpa using isOpen) free
      t.sender_ne_zero t.sender_ne_contract hw

theorem good_releaseExpiredClaim {id : Nat} (hs : Sound ch s)
    (hfn : t.fn = .releaseExpiredClaim id) (hl : s.book.Lifecycle ch.self)
    (ha : s.book.Accounts ch.self) :
    Good t s.book (releaseExpiredClaim id s) := by
  apply good_nonReentrant hs
  intro s₁ h
  rw [h.claim, h.time]
  refine good_check fun held => good_check fun due => ?_
  have hid : id ∈ Finset.Icc 1 s.book.bridgeNonce :=
    Finset.mem_Icc.mpr ((hl.known id).mp (hl.held id held).1)
  refine good_endExpiredClaim h hid ha.spareEth fun s₂ collector slashBps hbps h₂ =>
    good_leave h₂ ?_
  rw [hfn]
  exact .release s.book id collector slashBps held (Nat.le_of_not_lt due) hbps

/-! ## Settling -/

/-- A request struck from the open ones can be paid out. -/
theorem Book.Accounts.spareTokens {home : Address} (h : b.Accounts home) {id : Nat}
    (hid : id ∈ Finset.Icc 1 b.bridgeNonce)
    (isOpen : (b.bridgeRequests id).finalized = false) :
    ((b.setFeeEscrow id 0).setRequest id
      { b.bridgeRequests id with finalized := true }).SpareTokens home
        (b.bridgeRequests id).token (b.payout id) := by
  have htok := h.tokens (b.bridgeRequests id).token
  have hsum := Tally.sum_change hid (f := b.locked (b.bridgeRequests id).token)
    (g := ((b.setFeeEscrow id 0).setRequest id
      { b.bridgeRequests id with finalized := true }).locked (b.bridgeRequests id).token)
    (fun j hj => by
      simp only [Book.locked, Book.payout, Book.setFeeEscrow, Book.setRequest,
        Function.update_of_ne hj])
  have hold : b.locked (b.bridgeRequests id).token id = b.payout id := by
    simp [Book.locked, isOpen]
  have hnew : ((b.setFeeEscrow id 0).setRequest id
      { b.bridgeRequests id with finalized := true }).locked
        (b.bridgeRequests id).token id = 0 := by
    simp [Book.locked, Book.setRequest]
  rw [hold, hnew] at hsum
  simp only [Book.SpareTokens]
  simp only [Book.setFeeEscrow, Book.setRequest] at hsum ⊢
  omega

theorem Book.SpareEth.safeTransfer {v amount : Nat} {fn : Fn} {token recipient : Address}
    (h : b.SpareEth v) :
    (b.act [.called fn (.safeTransfer token recipient amount)]).SpareEth v := by
  simpa [Book.SpareEth, Book.act] using h

theorem good_refundBond {id : Nat} {rest : State → Code} (h : Running ch s b₁)
    (hid : id ∈ Finset.Icc 1 b₁.bridgeNonce) (hspare : b₁.SpareEth 0)
    (hrest : ∀ s', Running ch s'
        ((b₁.setClaim id Claim.empty).act [.called t.fn
          (.send (b₁.requestClaim id).solver (b₁.requestClaim id).bond)]) →
      Good t b (rest s')) :
    Good t b (refundBond id rest s) := by
  have h₁ := h.setClaim id { s.requestClaim id with bond := 0 }
  have hcov : (b₁.setClaim id { s.requestClaim id with bond := 0 }).SpareEth
      (s.requestClaim id).bond := by
    rw [h.claim id]
    exact hspare.clearBond hid rfl
  refine good_call h₁ (by simp) ⟨h₁.sound, ?_⟩ (good_revert _) fun s₂ h₂ => ?_
  · rw [h₁.book]
    exact hcov
  · simp only [Bool.true_eq_false, if_false]
    apply hrest
    have h₃ := (h₂.emit (.SolverBondRefunded id (s₂.requestClaim id).solver
      (s.requestClaim id).bond)).setClaim id
        { s₂.requestClaim id with solver := 0, claimedAt := 0, deadline := 0 }
    have hfinal : ({ s₂.requestClaim id with solver := 0, claimedAt := 0, deadline := 0 } :
        Claim) = Claim.empty := by
      rw [h₂.claim]
      simp [Book.act, Book.setClaim, Claim.empty]
    refine (congrArg (Running ch _) ?_).mp h₃
    rw [hfinal]
    simp [Book.act, Book.setClaim, State.setClaim, h.claim]

theorem good_verifyAndPay {id : Nat} {rest : State → Code} (h : Running ch s b)
    (hfn : t.fn.settles = some id) (hl : b.Lifecycle ch.self) (ha : b.Accounts ch.self)
    (hrest : ∀ s', Running ch s' (b.settle t.fn id) →
      Book.Step ch.self t.fn b (b.settle t.fn id) → Good t b (rest s')) :
    Good t b (verifyAndPay id rest s) := by
  unfold verifyAndPay
  rw [h.request, h.claim, h.time, h.escrow]
  refine good_check fun known => good_check fun isOpen => ?_
  refine good_check fun held => good_check fun intime => ?_
  have isOpen' : (b.bridgeRequests id).finalized = false := by simpa using isOpen
  have hid : id ∈ Finset.Icc 1 b.bridgeNonce := Finset.mem_Icc.mpr ((hl.known id).mp known)
  simp only []
  split
  · exact good_revert _
  · next payout hadd =>
    have hpay : payout = b.payout id := by
      rw [checkedAdd_some hadd]
      simp [State.setFeeEscrow, h.request, Book.payout]
    have hreq : (s.setFeeEscrow id 0).bridgeRequests id = b.bridgeRequests id := h.request id
    rw [hreq, hpay]
    have h₁ := (h.setFeeEscrow id 0).setRequest id
      { b.bridgeRequests id with finalized := true }
    generalize (s.setFeeEscrow id 0).setRequest id
      { b.bridgeRequests id with finalized := true } = s₁ at h₁ ⊢
    have htoken : (s₁.bridgeRequests id).token = (b.bridgeRequests id).token := by
      rw [h₁.request]
      simp [Book.setRequest]
    have hsolver : (s₁.requestClaim id).solver = (b.requestClaim id).solver := by
      rw [h₁.claim]
      rfl
    rw [htoken, hsolver]
    refine good_call h₁ (by simp) ⟨h₁.sound, fun _ => ?_⟩ (good_revert _) fun s₂ h₂ => ?_
    · rw [h₁.book]
      exact ⟨ha.spareTokens hid isOpen', rfl⟩
    · simp only [Bool.true_eq_false, if_false]
      refine good_refundBond (h₂.emit _) hid ?_ fun s₃ h₃ => hrest s₃ ?_
        (.settle b t.fn id hfn known isOpen' held (Nat.le_of_not_lt intime))
      · exact Book.SpareEth.safeTransfer ha.spareEth
      · refine (congrArg (Running ch _) ?_).mp h₃
        simp [Book.settle, Book.act, Book.setRequest, Book.setFeeEscrow, Book.setClaim]

theorem good_verifyAndSettle {id : Nat} {destTxHash evidenceHash : Bytes32}
    (hs : Sound ch s) (hfn : t.fn.settles = some id) (hl : s.book.Lifecycle ch.self)
    (ha : s.book.Accounts ch.self) :
    Good t s.book (verifyAndSettle ch t id destTxHash evidenceHash s) :=
  good_onlyRelayer <| good_nonReentrant hs fun _ h =>
    good_verifyAndPay h hfn hl ha fun _ h' hstep => good_leave (h'.emit _) hstep

theorem good_verifyAndSettleURL {id : Nat} {destTxHash evidenceHash : Bytes32}
    {evidenceURL : String} (hs : Sound ch s) (hfn : t.fn.settles = some id)
    (hl : s.book.Lifecycle ch.self) (ha : s.book.Accounts ch.self) :
    Good t s.book
      (verifyAndSettleURL ch t id destTxHash evidenceHash evidenceURL s) :=
  good_onlyRelayer <| good_nonReentrant hs fun _ h =>
    good_verifyAndPay h hfn hl ha fun _ h' hstep => good_leave (h'.emit _) hstep

/-! ## Withdrawals -/

theorem good_deliverTokens {recipient token : Address} {amount : Nat} (hs : Sound ch s)
    (hfn : t.fn.withdraws = true) :
    Good t s.book (deliverTokens ch t recipient token amount s) := by
  apply good_onlyRelayer
  apply good_nonReentrant hs
  intro s₁ h
  refine good_check fun _ => good_check fun _ => good_payOut h hfn fun s₂ h₂ => ?_
  exact good_leave (h₂.emit _) (.withdraw s.book t.fn token recipient amount hfn)

theorem good_emergencyWithdraw {recipient token : Address} {amount : Nat}
    (hs : Sound ch s) (hfn : t.fn.withdraws = true) :
    Good t s.book (emergencyWithdraw ch t token amount recipient s) := by
  apply good_onlyOwner
  apply good_nonReentrant hs
  intro s₁ h
  refine good_check fun _ => good_check fun _ => good_payOut h hfn fun s₂ h₂ => ?_
  exact good_leave h₂ (.withdraw s.book t.fn token recipient amount hfn)

/-- **`collectFees` never moves anything**: the legacy counter it pays from
is zero, so it reverts. -/
theorem collectFees_reverts (hs : Sound ch s) (token recipient : Address) :
    ∃ e, collectFees ch t token recipient s = .revert e := by
  unfold collectFees onlyOwner
  split
  · exact ⟨_, rfl⟩
  unfold nonReentrant
  split
  · exact ⟨_, rfl⟩
  split
  · exact ⟨_, rfl⟩
  · simp only [hs.noFees token, if_true]
    exact ⟨_, rfl⟩

/-! ## Every transaction is one operation -/

theorem good_nonPayable {body : State → Code} (h : Good t b (body s)) :
    Good t b (nonPayable ch t body s) :=
  good_check fun _ => h

theorem good_harmless {p : Code} (hs : Sound ch s) (hu : s.entered = false)
    (hfn : t.fn.unguarded = true) (h : Harmless ch s p) : Good t s.book p := by
  rcases h with ⟨e, rfl⟩ | ⟨s', rfl, hd⟩
  · exact good_revert e
  · refine ⟨?_, hd.sound hs, hd.entered.trans hu⟩
    rw [hd.book]
    exact .idle s.book t.fn hfn

/-- Every entry point keeps to the escrow. -/
theorem good_entry (t : Tx ch.self) (hs : Sound ch s) (hu : s.entered = false)
    (hl : s.book.Lifecycle ch.self) (ha : s.book.Accounts ch.self) :
    Good t s.book (entry ch t s) := by
  cases hun : t.fn.unguarded with
  | true => exact good_harmless hs hu hun (harmless_unguarded hun)
  | false =>
      unfold entry
      cases hfn : t.fn with
      | initiateBridge token amount input proof =>
          exact good_nonPayable (good_initiateBridge hfn hs)
      | claimBridge requestId =>
          refine good_check fun _ => ?_
          exact good_claimBridge hs.receive (book_note _ rfl) hfn hl ha
      | verifyAndSettle requestId destTxHash evidenceHash =>
          exact good_nonPayable (good_verifyAndSettle hs (by rw [hfn]; rfl) hl ha)
      | verifyAndSettleURL requestId destTxHash evidenceHash evidenceURL =>
          exact good_nonPayable (good_verifyAndSettleURL hs (by rw [hfn]; rfl) hl ha)
      | releaseExpiredClaim requestId =>
          exact good_nonPayable (good_releaseExpiredClaim hs hfn hl ha)
      | deliverTokens recipient token amount =>
          exact good_nonPayable (good_deliverTokens hs (by rw [hfn]; rfl))
      | collectFees token recipient =>
          apply good_nonPayable
          obtain ⟨e, he⟩ := collectFees_reverts (t := t) hs token recipient
          rw [he]
          exact good_revert e
      | emergencyWithdraw token amount recipient =>
          exact good_nonPayable (good_emergencyWithdraw hs (by rw [hfn]; rfl))
      | _ =>
          rw [hfn] at hun
          exact absurd hun.symm Bool.false_ne_true

/-- What holds of every state between transactions. -/
structure Valid (ch : Chain) (s : State) : Prop where
  sound : Sound ch s
  unlocked : s.entered = false
  lifecycle : s.book.Lifecycle ch.self
  accounts : s.book.Accounts ch.self

/-- **Refinement**: a transaction that commits is one operation of the
escrow, however its callees call back. -/
theorem Valid.commits {s s' : State} (h : Valid ch s)
    (hc : Reentrancy.Commits (contract ch) t s s') : Ends t s.book s' :=
  (guarded ch).exec _ hc (good_entry t h.sound h.unlocked h.lifecycle h.accounts)

/-- Every external call of a transaction is covered, at every depth. -/
theorem Valid.arrives {s s' : State} {x : ExtCall} (h : Valid ch s)
    (hc : Reentrancy.Arrives (contract ch) t (entry ch t s) x s') : Covered t s.book x s' :=
  (guarded ch).arrives _ hc (good_entry t h.sound h.unlocked h.lifecycle h.accounts)

/-! ## Every reachable state -/

theorem valid_deploy (g : Genesis ch) (relayer initialOwner : Address)
    (h : deploy ch g relayer initialOwner = .ok s) : Valid ch s := by
  unfold deploy at h
  split at h
  · cases h
  split at h
  · cases h
  cases h
  refine ⟨⟨(by decide : 30 ≤ 1000), (by decide : 10 ^ 15 < 10 ^ 20),
    (by decide : 60 ≤ 1200 ∧ 1200 ≤ 86400), (by decide : 5000 ≤ 10000),
    fun _ => rfl, ?_, ?_⟩, rfl, Book.lifecycle_opened g.now, Book.accounts_opened g.now⟩
  · simpa using g.no_eth
  · intro token _
    simpa using g.no_tokens token

/-- One step of the chain keeps a state valid. -/
theorem Valid.step {s s' : State} (h : Valid ch s) (hstep : Step ch s s') :
    Valid ch s' := by
  cases hstep with
  | tx t commits =>
      have he := h.commits commits
      exact ⟨he.sound, he.unlocked, he.step.lifecycle h.lifecycle,
        he.step.accounts h.accounts h.lifecycle⟩
  | outside move =>
      have hd := undisturbed_outside move
      exact ⟨hd.sound h.sound, hd.entered.trans h.unlocked, hd.book ▸ h.lifecycle,
        hd.book ▸ h.accounts⟩
  | tick time later =>
      exact ⟨h.sound.congr rfl rfl rfl rfl rfl rfl rfl (fun _ _ => rfl) rfl, h.unlocked,
        h.lifecycle.tick later, h.accounts.tick time⟩

/-- **Every reachable state is valid.** -/
theorem Reachable.valid {s : State} (h : Reachable ch s) : Valid ch s := by
  induction h with
  | deployed g relayer initialOwner h => exact valid_deploy g relayer initialOwner h
  | step before hstep ih => exact ih.step hstep

end LunarysBridge.Evm
