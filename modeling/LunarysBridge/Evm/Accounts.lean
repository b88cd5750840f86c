/-
LunarysBridge.Evm.Accounts — the accounting of the escrow: where its ETH
and its tokens are, and what was deposited and paid for each request.

Every quantity is a total over the record, or a list read off it. The
invariants equate these with sums over the requests. `Step.accounts` keeps
all of them through any operation of the escrow, with the lifecycle of
`Evm/Escrow.lean` as the only assumption.
-/
import LunarysBridge.Evm.Escrow

namespace LunarysBridge.Evm

/-! ## What one entry of the log counts for -/

namespace LogEntry

/-- ETH that came with a call. -/
@[simp] def ethIn : LogEntry → Nat
  | .received _ value => value
  | _ => 0

/-- ETH the contract sent. -/
@[simp] def ethOut : LogEntry → Nat
  | .called _ (.send _ value) => value
  | _ => 0

/-- ETH forced on the contract. -/
@[simp] def ethForced : LogEntry → Nat
  | .forced amount => amount
  | _ => 0

/-- A slash that was sent to nobody. -/
@[simp] def slashKept : LogEntry → Nat
  | .retained _ slashAmt => slashAmt
  | _ => 0

/-- Tokens the contract took in. -/
@[simp] def tokensIn (token : Address) : LogEntry → Nat
  | .called _ (.safeTransferFrom token' _ amount) =>
      if token' = token then amount else 0
  | _ => 0

/-- Tokens given to the contract. -/
@[simp] def tokensDonated (token : Address) : LogEntry → Nat
  | .donated token' amount => if token' = token then amount else 0
  | _ => 0

/-- Tokens the contract sent to others. -/
@[simp] def tokensOut (home token : Address) : LogEntry → Nat
  | .called _ (.safeTransfer token' recipient amount) =>
      if token' = token ∧ recipient ≠ home then amount else 0
  | _ => 0

/-- Tokens `deliverTokens` and `emergencyWithdraw` sent to others. -/
@[simp] def withdrawn (home token : Address) : LogEntry → Nat
  | .called fn (.safeTransfer token' recipient amount) =>
      if fn.withdraws = true ∧ token' = token ∧ recipient ≠ home then amount else 0
  | _ => 0

/-- A deposit: its token and its gross amount. -/
@[simp] def deposit? : LogEntry → Option (Address × Nat)
  | .called _ (.safeTransferFrom token _ amount) => some (token, amount)
  | _ => none

/-- A payment by settlement of the request `id`: token, recipient, amount. -/
@[simp] def payout? (id : Nat) : LogEntry → Option (Address × Address × Nat)
  | .called fn (.safeTransfer token recipient amount) =>
      if fn.settles = some id then some (token, recipient, amount) else none
  | _ => none

end LogEntry

/-- The deposits on a record, in the order they were made. -/
def deposits (log : List LogEntry) : List (Address × Nat) :=
  log.filterMap LogEntry.deposit?

/-- Everything settlement of the request `id` paid out. -/
def payouts (id : Nat) (log : List LogEntry) : List (Address × Address × Nat) :=
  log.filterMap (LogEntry.payout? id)

@[simp] theorem deposits_nil : deposits [] = [] := rfl

@[simp] theorem payouts_nil (id : Nat) : payouts id [] = [] := rfl

@[simp] theorem deposits_cons (e : LogEntry) (l : List LogEntry) :
    deposits (e :: l) = e.deposit?.toList ++ deposits l := by
  simp only [deposits, List.filterMap_cons]
  cases e.deposit? <;> rfl

@[simp] theorem payouts_cons (id : Nat) (e : LogEntry) (l : List LogEntry) :
    payouts id (e :: l) = (e.payout? id).toList ++ payouts id l := by
  simp only [payouts, List.filterMap_cons]
  cases e.payout? id <;> rfl

@[simp] theorem deposits_append (l₁ l₂ : List LogEntry) :
    deposits (l₁ ++ l₂) = deposits l₁ ++ deposits l₂ := List.filterMap_append

@[simp] theorem payouts_append (id : Nat) (l₁ l₂ : List LogEntry) :
    payouts id (l₁ ++ l₂) = payouts id l₁ ++ payouts id l₂ := List.filterMap_append

/-- A settlement is no withdrawal. -/
theorem Fn.not_withdraws_of_settles {fn : Fn} {id : Nat}
    (h : fn.settles = some id) : fn.withdraws = false := by
  cases fn <;> simp_all [Fn.settles, Fn.withdraws]

theorem Fn.settles_of_withdraws {fn : Fn} (h : fn.withdraws = true) :
    fn.settles = none := by
  cases fn <;> simp_all [Fn.settles, Fn.withdraws]

/-! ## Invariants -/

/-- The tokens an open request holds: its net amount and its fee. -/
def Book.locked (b : Book) (token : Address) (id : Nat) : Nat :=
  if (b.bridgeRequests id).finalized = false ∧ (b.bridgeRequests id).token = token
  then b.payout id else 0

structure Book.Accounts (home : Address) (b : Book) : Prop where
  bonds : Tally.total LogEntry.ethIn b.acts =
    Tally.total LogEntry.ethOut b.acts + Tally.total LogEntry.slashKept b.acts +
      ∑ id ∈ Finset.Icc 1 b.bridgeNonce, (b.requestClaim id).bond
  tokens : ∀ token, Tally.total (LogEntry.tokensIn token) b.acts +
      Tally.total (LogEntry.withdrawn home token) b.acts =
    Tally.total (LogEntry.tokensOut home token) b.acts +
      ∑ id ∈ Finset.Icc 1 b.bridgeNonce, b.locked token id
  counted : (deposits b.acts).length = b.bridgeNonce
  deposited : ∀ id, 1 ≤ id → id ≤ b.bridgeNonce → (deposits b.acts)[id - 1]? =
    some ((b.bridgeRequests id).token,
      (b.bridgeRequests id).amount + (b.bridgeRequests id).fee)
  unpaid : ∀ id, (b.bridgeRequests id).finalized = false → payouts id b.acts = []
  paid : ∀ id, (b.bridgeRequests id).finalized = true → ∃ solver,
    payouts id b.acts = [((b.bridgeRequests id).token, solver,
      (b.bridgeRequests id).amount + (b.bridgeRequests id).fee)]

namespace Book

variable {home : Address} {b b' : Book} {fn : Fn}

theorem accounts_opened (now : Nat) : Accounts home (opened now) where
  bonds := by simp [opened]
  tokens := by simp [opened]
  counted := rfl
  deposited := by
    intro id h₁ h₂
    simp only [opened] at h₂
    omega
  unpaid := fun _ _ => rfl
  paid := by simp [opened, BridgeRequest.empty]

/-! ## Operations on a claim -/

/-- Entries that move no tokens. -/
def EthOnly (entries : List LogEntry) : Prop :=
  ∀ e ∈ entries, (∃ fn value, e = .received fn value) ∨
    (∃ fn recipient value, e = .called fn (.send recipient value)) ∨
    (∃ handle account, e = .allowed handle account) ∨
    ∃ id slashAmt, e = .retained id slashAmt

theorem EthOnly.total {entries : List LogEntry} (h : EthOnly entries)
    {f : LogEntry → Nat} (received : ∀ fn value, f (.received fn value) = 0)
    (send : ∀ fn recipient value, f (.called fn (.send recipient value)) = 0)
    (allowed : ∀ handle account, f (.allowed handle account) = 0)
    (retained : ∀ id slashAmt, f (.retained id slashAmt) = 0) :
    Tally.total f entries = 0 := by
  apply Tally.total_eq_zero
  intro e he
  obtain ⟨_, _, rfl⟩ | ⟨_, _, _, rfl⟩ | ⟨_, _, rfl⟩ | ⟨_, _, rfl⟩ := h e he
  · exact received _ _
  · exact send _ _ _
  · exact allowed _ _
  · exact retained _ _

theorem EthOnly.deposits {entries : List LogEntry} (h : EthOnly entries) :
    deposits entries = [] := by
  apply List.filterMap_eq_nil_iff.mpr
  intro e he
  obtain ⟨_, _, rfl⟩ | ⟨_, _, _, rfl⟩ | ⟨_, _, rfl⟩ | ⟨_, _, rfl⟩ := h e he <;> rfl

theorem EthOnly.payouts {entries : List LogEntry} (h : EthOnly entries) (id : Nat) :
    payouts id entries = [] := by
  apply List.filterMap_eq_nil_iff.mpr
  intro e he
  obtain ⟨_, _, rfl⟩ | ⟨_, _, _, rfl⟩ | ⟨_, _, rfl⟩ | ⟨_, _, rfl⟩ := h e he <;> rfl

/-- A claim is replaced while ETH moves: the accounts stay right when the
ETH that stays is the difference of the bonds. -/
theorem Accounts.setClaim (h : Accounts home b) {id : Nat}
    (hid : id ∈ Finset.Icc 1 b.bridgeNonce) (c : Claim) (entries : List LogEntry)
    (he : EthOnly entries)
    (hb : Tally.total LogEntry.ethIn entries + (b.requestClaim id).bond =
      Tally.total LogEntry.ethOut entries + Tally.total LogEntry.slashKept entries +
        c.bond) :
    Accounts home ((b.setClaim id c).act entries) where
  bonds := by
    have hsum := Tally.sum_change hid
      (f := fun i => (b.requestClaim i).bond)
      (g := fun i => (Function.update b.requestClaim id c i).bond)
      (fun j hj => by simp only [Function.update_of_ne hj])
    have hold := h.bonds
    simp only [Function.update_self] at hsum
    simp only [act, Book.setClaim, Tally.total_append]
    omega
  tokens := by
    intro token
    have hold := h.tokens token
    have hlocked : ∀ i, ((b.setClaim id c).act entries).locked token i =
        b.locked token i := fun _ => rfl
    simp only [hlocked]
    simp only [act, Book.setClaim, Tally.total_append]
    rw [he.total (f := LogEntry.tokensIn token), he.total (f := LogEntry.withdrawn home token),
      he.total (f := LogEntry.tokensOut home token)]
    · omega
    all_goals intros; rfl
  counted := by
    simp only [act, Book.setClaim, deposits_append, he.deposits, List.append_nil]
    exact h.counted
  deposited := by
    simp only [act, Book.setClaim, deposits_append, he.deposits, List.append_nil]
    exact h.deposited
  unpaid := by
    intro i
    simp only [act, Book.setClaim, payouts_append, he.payouts, List.append_nil]
    exact h.unpaid i
  paid := by
    intro i
    simp only [act, Book.setClaim, payouts_append, he.payouts, List.append_nil]
    exact h.paid i

theorem ethOnly_slashActs (fn : Fn) (id slash : Nat) (collector : Address) :
    EthOnly (slashActs fn id collector slash) := by
  intro e he
  unfold slashActs at he
  split at he
  · exact .inr (.inl ⟨_, _, _, by simpa using he⟩)
  · split at he
    · exact .inr (.inr (.inr ⟨_, _, by simpa using he⟩))
    · cases he

theorem ethOnly_refundActs (fn : Fn) (solver : Address) (leftover : Nat) :
    EthOnly (refundActs fn solver leftover) := by
  intro e he
  unfold refundActs at he
  split at he
  · exact .inr (.inl ⟨_, _, _, by simpa using he⟩)
  · cases he

/-- A slash is sent or kept. -/
theorem total_slashActs (fn : Fn) (id slash : Nat) (collector : Address) :
    Tally.total LogEntry.ethOut (slashActs fn id collector slash) +
      Tally.total LogEntry.slashKept (slashActs fn id collector slash) = slash := by
  unfold slashActs
  split
  · simp
  · split
    · simp
    · next hn hc =>
        have : slash = 0 := by
          by_contra h
          exact hn ⟨by omega, hc⟩
        simp [this]

theorem total_refundActs (fn : Fn) (solver : Address) (leftover : Nat) :
    Tally.total LogEntry.ethOut (refundActs fn solver leftover) = leftover := by
  unfold refundActs
  split
  · simp
  · simp
    omega

@[simp] theorem refundActs_kept (fn : Fn) (solver : Address) (leftover : Nat) :
    Tally.total LogEntry.slashKept (refundActs fn solver leftover) = 0 := by
  unfold refundActs
  split <;> simp

@[simp] theorem slashActs_in (fn : Fn) (id slash : Nat) (collector : Address) :
    Tally.total LogEntry.ethIn (slashActs fn id collector slash) = 0 := by
  unfold slashActs
  split
  · simp
  · split <;> simp

@[simp] theorem refundActs_in (fn : Fn) (solver : Address) (leftover : Nat) :
    Tally.total LogEntry.ethIn (refundActs fn solver leftover) = 0 := by
  unfold refundActs
  split <;> simp

/-- No more than the bond is slashed. -/
theorem slashOf_le {bond slashBps : Nat} (h : slashBps ≤ 10000) :
    slashOf bond slashBps ≤ bond := by
  have : bond * slashBps ≤ bond * 10000 := Nat.mul_le_mul_left bond h
  unfold slashOf
  omega

/-- The acts that end an expired claim. -/
def expireActs (fn : Fn) (id : Nat) (c : Claim) (collector : Address)
    (slashBps : Nat) : List LogEntry :=
  slashActs fn id collector (slashOf c.bond slashBps) ++
    refundActs fn c.solver (c.bond - slashOf c.bond slashBps)

theorem ethOnly_expireActs (fn : Fn) (id : Nat) (c : Claim) (collector : Address)
    (slashBps : Nat) : EthOnly (expireActs fn id c collector slashBps) := by
  intro e he
  rcases List.mem_append.mp he with he | he
  · exact ethOnly_slashActs _ _ _ _ e he
  · exact ethOnly_refundActs _ _ _ e he

/-- The end of an expired claim gives up exactly the bond. -/
theorem total_expireActs (fn : Fn) (id : Nat) (c : Claim) (collector : Address)
    {slashBps : Nat} (h : slashBps ≤ 10000) :
    Tally.total LogEntry.ethOut (expireActs fn id c collector slashBps) +
      Tally.total LogEntry.slashKept (expireActs fn id c collector slashBps) =
        c.bond := by
  have hs := total_slashActs fn id (slashOf c.bond slashBps) collector
  have hr := total_refundActs fn c.solver (c.bond - slashOf c.bond slashBps)
  have hle : slashOf c.bond slashBps ≤ c.bond := slashOf_le h
  simp only [expireActs, Tally.total_append, refundActs_kept]
  omega

/-! ## Operations that move tokens -/

theorem Accounts.deposit (h : Accounts home b) (l : Lifecycle home b)
    {token : Address} {amount : Nat} {input : Bytes32} {proof : List UInt8}
    (relayer : Address) {r : BridgeRequest} (hg : r.amount + r.fee = amount)
    (ht : r.token = token) (hf : r.finalized = false) :
    Accounts home
      (b.deposit home (.initiateBridge token amount input proof) relayer r) where
  bonds := by
    have hold := h.bonds
    have hsum := Tally.sum_Icc_succ (n := b.bridgeNonce)
      (f := fun i => (b.requestClaim i).bond) (g := fun i => (b.requestClaim i).bond)
      (fun _ _ => rfl)
    have hnext : (b.requestClaim (b.bridgeNonce + 1)).bond = 0 :=
      congrArg Claim.bond l.next_free
    simp only [deposit_acts, deposit_bridgeNonce, deposit_requestClaim, Tally.total_append,
      Tally.total_cons, Tally.total_nil, LogEntry.ethIn, LogEntry.ethOut, LogEntry.slashKept]
    omega
  tokens := by
    intro t
    have hold := h.tokens t
    have hsum := Tally.sum_Icc_succ (n := b.bridgeNonce) (f := b.locked t)
      (g := (b.deposit home (.initiateBridge token amount input proof) relayer r).locked t)
      (fun j hj => by
        simp only [locked, payout, deposit_request_ne b _ hj, deposit_escrow_ne b _ hj])
    have hnew : (b.deposit home (.initiateBridge token amount input proof) relayer r).locked t
        (b.bridgeNonce + 1) = if token = t then amount else 0 := by
      simp [locked, payout, hf, ht, hg]
    simp only [deposit_acts, deposit_bridgeNonce, Tally.total_append, Tally.total_cons,
      Tally.total_nil, LogEntry.tokensIn, LogEntry.tokensOut, LogEntry.withdrawn, ht, hg]
    omega
  counted := by simp [← h.counted]
  deposited := by
    intro id h₁ h₂
    have hd : deposits (b.deposit home (.initiateBridge token amount input proof)
        relayer r).acts = deposits b.acts ++ [(r.token, r.amount + r.fee)] := by simp
    rw [hd]
    by_cases hid : id = b.bridgeNonce + 1
    · subst hid
      simp [h.counted]
    · have hle : id ≤ b.bridgeNonce := by
        rw [deposit_bridgeNonce] at h₂
        omega
      rw [List.getElem?_append_left (by rw [h.counted]; omega), h.deposited id h₁ hle,
        deposit_request_ne b _ hid]
  unpaid := by
    intro id hid
    have hp : payouts id (b.deposit home (.initiateBridge token amount input proof)
        relayer r).acts = payouts id b.acts := by simp
    rw [hp]
    by_cases hn : id = b.bridgeNonce + 1
    · refine h.unpaid id (Bool.eq_false_iff.mpr fun hc => ?_)
      have hk := (l.known id).mp (l.settled id hc)
      omega
    · rw [deposit_request_ne b _ hn] at hid
      exact h.unpaid id hid
  paid := by
    intro id hid
    have hp : payouts id (b.deposit home (.initiateBridge token amount input proof)
        relayer r).acts = payouts id b.acts := by simp
    have hn : id ≠ b.bridgeNonce + 1 := by
      rintro rfl
      simp [hf] at hid
    rw [deposit_request_ne b _ hn] at hid
    rw [hp, deposit_request_ne b _ hn]
    exact h.paid id hid

/-- A settlement is on the record of its own request only. -/
theorem payouts_settle_ne {id i : Nat} (hfn : fn.settles = some id) (hne : i ≠ id) :
    payouts i (b.settle fn id).acts = payouts i b.acts := by
  simp [hfn, Ne.symm hne]

theorem Accounts.settle (h : Accounts home b) (l : Lifecycle home b) {id : Nat}
    (hfn : fn.settles = some id) (known : (b.bridgeRequests id).sender ≠ 0)
    (isOpen : (b.bridgeRequests id).finalized = false)
    (held : (b.requestClaim id).solver ≠ 0) : Accounts home (b.settle fn id) where
  bonds := by
    have hold := h.bonds
    have hsum := Tally.sum_change (Finset.mem_Icc.mpr ((l.known id).mp known))
      (f := fun i => (b.requestClaim i).bond)
      (g := fun i => ((b.settle fn id).requestClaim i).bond)
      (fun j hj => by rw [settle_claim_ne b fn hj])
    simp only [settle_claim, Claim.empty] at hsum
    simp only [settle_acts, settle_bridgeNonce, Tally.total_append, Tally.total_cons,
      Tally.total_nil, LogEntry.ethIn, LogEntry.ethOut, LogEntry.slashKept]
    omega
  tokens := by
    intro t
    have hold := h.tokens t
    have hsum := Tally.sum_change (Finset.mem_Icc.mpr ((l.known id).mp known))
      (f := b.locked t) (g := (b.settle fn id).locked t) (fun j hj => by
        simp only [locked, payout, settle_request_ne b fn hj, settle_escrow_ne b fn hj])
    have hnew : (b.settle fn id).locked t id = 0 := by simp [locked]
    have hbefore : b.locked t id =
        if (b.bridgeRequests id).token = t then b.payout id else 0 := by
      simp [locked, isOpen]
    have hother : (b.requestClaim id).solver ≠ home := (l.held id held).2.2
    have hout : Tally.total (LogEntry.tokensOut home t) (b.settle fn id).acts =
        Tally.total (LogEntry.tokensOut home t) b.acts + b.locked t id := by
      simp [hother, hbefore]
    have hin : Tally.total (LogEntry.tokensIn t) (b.settle fn id).acts =
        Tally.total (LogEntry.tokensIn t) b.acts := by simp
    have hw : Tally.total (LogEntry.withdrawn home t) (b.settle fn id).acts =
        Tally.total (LogEntry.withdrawn home t) b.acts := by
      simp [Fn.not_withdraws_of_settles hfn]
    rw [hin, hw, hout, settle_bridgeNonce]
    omega
  counted := by simpa using h.counted
  deposited := by
    intro i h₁ h₂
    have hd : deposits (b.settle fn id).acts = deposits b.acts := by simp
    rw [hd, h.deposited i h₁ h₂]
    by_cases hi : i = id
    · subst hi
      rw [settle_request]
    · rw [settle_request_ne b fn hi]
  unpaid := by
    intro i hi
    have hne : i ≠ id := by
      rintro rfl
      simp at hi
    rw [settle_request_ne b fn hne] at hi
    rw [payouts_settle_ne hfn hne]
    exact h.unpaid i hi
  paid := by
    intro i hi
    by_cases hne : i = id
    · subst hne
      refine ⟨(b.requestClaim i).solver, ?_⟩
      have hfee : b.requestFeeEscrow i = (b.bridgeRequests i).fee := l.escrowed i isOpen
      have hp := h.unpaid i isOpen
      simp [hfn, hp, payout, hfee]
    · rw [settle_request_ne b fn hne] at hi ⊢
      obtain ⟨solver, hs⟩ := h.paid i hi
      exact ⟨solver, by rw [payouts_settle_ne hfn hne, hs]⟩

theorem Accounts.withdraw (h : Accounts home b) (hfn : fn.withdraws = true)
    (token recipient : Address) (amount : Nat) :
    Accounts home (b.act [.called fn (.safeTransfer token recipient amount)]) where
  bonds := by simpa [act] using h.bonds
  tokens := by
    intro t
    have hold := h.tokens t
    have hlocked : ∀ i, (b.act [.called fn (.safeTransfer token recipient amount)]).locked
        t i = b.locked t i := fun _ => rfl
    simp only [hlocked]
    simp only [act, Tally.total_append, Tally.total_cons, Tally.total_nil,
      LogEntry.tokensIn, LogEntry.withdrawn, LogEntry.tokensOut, hfn, true_and]
    omega
  counted := by simpa [act] using h.counted
  deposited := by simpa [act] using h.deposited
  unpaid := by simpa [act, Fn.settles_of_withdraws hfn] using h.unpaid
  paid := by simpa [act, Fn.settles_of_withdraws hfn] using h.paid

/-- **Every operation of the escrow keeps the accounts right.** -/
theorem Step.accounts (st : Step home fn b b') (h : Accounts home b)
    (l : Lifecycle home b) : Accounts home b' := by
  cases st with
  | deposit _ relayer r sender gross sameToken fresh =>
      exact h.deposit l relayer gross sameToken fresh
  | claim _ id solver value claimWindow known isOpen free someone other window =>
      have hid := Finset.mem_Icc.mpr ((l.known id).mp known)
      have hbond : (b.requestClaim id).bond = 0 := congrArg Claim.bond (l.free id free)
      have hreg := h.setClaim hid (b.newClaim solver value claimWindow)
        [.received (.claimBridge id) value,
          .allowed (b.bridgeRequests id).encryptedSolanaDestination solver]
        (by simp [EthOnly]) (by simp [hbond, newClaim])
      simpa [act, receive, register, Book.setClaim, newClaim] using hreg
  | takeover _ id solver value claimWindow collector slashBps known isOpen held due
      someone other window bps =>
      have hid := Finset.mem_Icc.mpr ((l.known id).mp known)
      have hexp := total_expireActs (.claimBridge id) id (b.requestClaim id) collector bps
      have heth := ethOnly_expireActs (.claimBridge id) id (b.requestClaim id) collector
        slashBps
      have hreg := h.setClaim hid (b.newClaim solver value claimWindow)
        ([.received (.claimBridge id) value] ++
          expireActs (.claimBridge id) id (b.requestClaim id) collector slashBps ++
          [.allowed (b.bridgeRequests id).encryptedSolanaDestination solver])
        (by
          intro e he
          simp only [List.mem_append, List.mem_singleton] at he
          obtain (rfl | he) | rfl := he
          · exact .inl ⟨_, _, rfl⟩
          · exact heth e he
          · exact .inr (.inr (.inl ⟨_, _, rfl⟩)))
        (by
          simp [newClaim, expireActs] at hexp ⊢
          omega)
      simpa [act, receive, register, expire, expireActs, Book.setClaim, newClaim]
        using hreg
  | release _ id collector slashBps held due bps =>
      have hid := Finset.mem_Icc.mpr ((l.known id).mp (l.held id held).1)
      have hexp := total_expireActs (.releaseExpiredClaim id) id (b.requestClaim id)
        collector bps
      have hset := h.setClaim hid Claim.empty _
        (ethOnly_expireActs (.releaseExpiredClaim id) id (b.requestClaim id) collector
          slashBps)
        (by
          simp [expireActs, Claim.empty] at hexp ⊢
          omega)
      exact hset
  | settle _ _ id settles known isOpen held intime =>
      exact h.settle l settles known isOpen held
  | withdraw _ _ token recipient amount withdraws =>
      exact h.withdraw withdraws token recipient amount
  | idle _ _ unguarded => exact h

/-- The clock changes no account. -/
theorem Accounts.tick (h : Accounts home b) (time : Nat) :
    Accounts home { b with now := time } where
  bonds := h.bonds
  tokens := h.tokens
  counted := h.counted
  deposited := h.deposited
  unpaid := h.unpaid
  paid := h.paid

end Book

end LunarysBridge.Evm
