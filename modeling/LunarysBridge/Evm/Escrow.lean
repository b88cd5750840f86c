/-
LunarysBridge.Evm.Escrow — what the bridge contract is for, without its
code: a book of requests and claims in which value is held in escrow.

A `Book` has the requests, the claims, the fee escrow, the clock, and
`acts`, the record of the value that came in and went out. `Book.Step`
says which operations exist and when they are allowed; each is atomic, so
nothing here mentions external calls. `Evm/Refinement.lean` shows that
every transaction of the contract, whatever its callees do, is one such
step.

The lifecycle invariant of a book is proved here; the accounting
invariants follow in `Evm/Accounts.lean`.
-/
import LunarysBridge.Lib.Tally
import LunarysBridge.Evm.Chain

namespace LunarysBridge.Evm

/-- The entries of the log that the contract makes with the guard taken. -/
def LogEntry.isAct : LogEntry → Bool
  | .received _ _ => true
  | .called _ _ => true
  | .allowed _ _ => true
  | .retained _ _ => true
  | _ => false

structure Book where
  bridgeNonce : Nat
  bridgeRequests : Nat → BridgeRequest
  requestClaim : Nat → Claim
  requestFeeEscrow : Nat → Nat
  now : Nat
  acts : List LogEntry

namespace Book

/-- The book of a fresh contract. -/
def opened (now : Nat) : Book where
  bridgeNonce := 0
  bridgeRequests := fun _ => BridgeRequest.empty
  requestClaim := fun _ => Claim.empty
  requestFeeEscrow := fun _ => 0
  now := now
  acts := []

/-! ## Entries -/

def act (b : Book) (entries : List LogEntry) : Book :=
  { b with acts := b.acts ++ entries }

def setRequest (b : Book) (id : Nat) (r : BridgeRequest) : Book :=
  { b with bridgeRequests := Function.update b.bridgeRequests id r }

def setClaim (b : Book) (id : Nat) (c : Claim) : Book :=
  { b with requestClaim := Function.update b.requestClaim id c }

def setFeeEscrow (b : Book) (id fee : Nat) : Book :=
  { b with requestFeeEscrow := Function.update b.requestFeeEscrow id fee }

/-- The request `r` gets the next id, with its fee in escrow. -/
def addRequest (b : Book) (r : BridgeRequest) : Book :=
  { b with
    bridgeNonce := b.bridgeNonce + 1
    bridgeRequests := Function.update b.bridgeRequests (b.bridgeNonce + 1) r
    requestFeeEscrow := Function.update b.requestFeeEscrow (b.bridgeNonce + 1) r.fee }

/-! ## Operations -/

def deposit (b : Book) (home : Address) (fn : Fn) (relayer : Address)
    (r : BridgeRequest) : Book :=
  (b.addRequest r).act
    [.called fn (.safeTransferFrom r.token r.sender (r.amount + r.fee)),
      .allowed r.encryptedSolanaDestination r.sender,
      .allowed r.encryptedSolanaDestination home,
      .allowed r.encryptedSolanaDestination relayer]

def receive (b : Book) (fn : Fn) (value : Nat) : Book :=
  b.act [.received fn value]

/-- Where a slash goes: to the collector, or nowhere when there is none. -/
def slashActs (fn : Fn) (id : Nat) (collector : Address) (slash : Nat) :
    List LogEntry :=
  if 0 < slash ∧ collector ≠ 0 then [.called fn (.send collector slash)]
  else if collector = 0 then [.retained id slash]
  else []

/-- What is left of the bond goes back to its solver. -/
def refundActs (fn : Fn) (solver : Address) (leftover : Nat) : List LogEntry :=
  if 0 < leftover then [.called fn (.send solver leftover)] else []

/-- The share of a bond that is slashed. -/
def slashOf (bond slashBps : Nat) : Nat := bond * slashBps / 10000

/-- The end of an expired claim. -/
def expire (b : Book) (fn : Fn) (id : Nat) (collector : Address)
    (slashBps : Nat) : Book :=
  (b.setClaim id Claim.empty).act
    (slashActs fn id collector (slashOf (b.requestClaim id).bond slashBps) ++
      refundActs fn (b.requestClaim id).solver
        ((b.requestClaim id).bond - slashOf (b.requestClaim id).bond slashBps))

/-- The claim a solver registers now. -/
def newClaim (b : Book) (solver : Address) (value claimWindow : Nat) : Claim where
  solver := solver
  claimedAt := uint64 b.now
  deadline := uint64 (b.now + claimWindow)
  bond := value

def register (b : Book) (id : Nat) (solver : Address) (value claimWindow : Nat) :
    Book :=
  (b.setClaim id (b.newClaim solver value claimWindow)).act
    [.allowed (b.bridgeRequests id).encryptedSolanaDestination solver]

/-- What a settlement pays: the net amount and the escrowed fee. -/
def payout (b : Book) (id : Nat) : Nat :=
  (b.bridgeRequests id).amount + b.requestFeeEscrow id

def settle (b : Book) (fn : Fn) (id : Nat) : Book :=
  (((b.setRequest id { b.bridgeRequests id with finalized := true }).setFeeEscrow
    id 0).setClaim id Claim.empty).act
    [.called fn (.safeTransfer (b.bridgeRequests id).token
        (b.requestClaim id).solver (b.payout id)),
      .called fn (.send (b.requestClaim id).solver (b.requestClaim id).bond)]

/-! ### What a deposit and a settlement leave -/

section Fields

variable (b : Book) (fn : Fn) {id i : Nat} {home relayer : Address} {r : BridgeRequest}

@[simp] theorem deposit_bridgeNonce :
    (b.deposit home fn relayer r).bridgeNonce = b.bridgeNonce + 1 := rfl

@[simp] theorem deposit_requestClaim :
    (b.deposit home fn relayer r).requestClaim = b.requestClaim := rfl

@[simp] theorem deposit_acts :
    (b.deposit home fn relayer r).acts = b.acts ++
      [.called fn (.safeTransferFrom r.token r.sender (r.amount + r.fee)),
        .allowed r.encryptedSolanaDestination r.sender,
        .allowed r.encryptedSolanaDestination home,
        .allowed r.encryptedSolanaDestination relayer] := rfl

@[simp] theorem deposit_request :
    (b.deposit home fn relayer r).bridgeRequests (b.bridgeNonce + 1) = r :=
  Function.update_self ..

theorem deposit_request_ne (h : i ≠ b.bridgeNonce + 1) :
    (b.deposit home fn relayer r).bridgeRequests i = b.bridgeRequests i :=
  Function.update_of_ne h ..

@[simp] theorem deposit_escrow :
    (b.deposit home fn relayer r).requestFeeEscrow (b.bridgeNonce + 1) = r.fee :=
  Function.update_self ..

theorem deposit_escrow_ne (h : i ≠ b.bridgeNonce + 1) :
    (b.deposit home fn relayer r).requestFeeEscrow i = b.requestFeeEscrow i :=
  Function.update_of_ne h ..

@[simp] theorem settle_bridgeNonce : (b.settle fn id).bridgeNonce = b.bridgeNonce := rfl

@[simp] theorem settle_acts :
    (b.settle fn id).acts = b.acts ++
      [.called fn (.safeTransfer (b.bridgeRequests id).token
          (b.requestClaim id).solver (b.payout id)),
        .called fn (.send (b.requestClaim id).solver (b.requestClaim id).bond)] := rfl

@[simp] theorem settle_request :
    (b.settle fn id).bridgeRequests id = { b.bridgeRequests id with finalized := true } :=
  Function.update_self ..

theorem settle_request_ne (h : i ≠ id) :
    (b.settle fn id).bridgeRequests i = b.bridgeRequests i :=
  Function.update_of_ne h ..

@[simp] theorem settle_claim : (b.settle fn id).requestClaim id = Claim.empty :=
  Function.update_self ..

theorem settle_claim_ne (h : i ≠ id) :
    (b.settle fn id).requestClaim i = b.requestClaim i :=
  Function.update_of_ne h ..

theorem settle_escrow_ne (h : i ≠ id) :
    (b.settle fn id).requestFeeEscrow i = b.requestFeeEscrow i :=
  Function.update_of_ne h ..

end Fields

end Book

/-- The calls that pay out tokens of no request. -/
def Fn.withdraws : Fn → Bool
  | .deliverTokens _ _ _ => true
  | .emergencyWithdraw _ _ _ => true
  | _ => false

/-- The functions without a reentrancy guard. -/
def Fn.unguarded : Fn → Bool
  | .updateRelayer _ => true
  | .updateFeePercentage _ => true
  | .updateFeeLimits _ _ => true
  | .updateClaimWindow _ => true
  | .updateMinSolverBond _ => true
  | .updateSlashParams _ _ => true
  | .authorizeNode _ => true
  | .revokeNode _ => true
  | .transferOwnership _ => true
  | .renounceOwnership => true
  | _ => false

/-- The operations of the escrow and when they are allowed, by the entry
point they belong to. -/
inductive Book.Step (home : Address) : Fn → Book → Book → Prop where
  | deposit (b : Book) {token : Address} {amount : Nat} {input : Bytes32}
      {proof : List UInt8} (relayer : Address) (r : BridgeRequest)
      (sender : r.sender ≠ 0) (gross : r.amount + r.fee = amount)
      (sameToken : r.token = token) (fresh : r.finalized = false) :
      Step home (.initiateBridge token amount input proof) b
        (b.deposit home (.initiateBridge token amount input proof) relayer r)
  | claim (b : Book) (id : Nat) (solver : Address) (value claimWindow : Nat)
      (known : (b.bridgeRequests id).sender ≠ 0)
      (isOpen : (b.bridgeRequests id).finalized = false)
      (free : (b.requestClaim id).solver = 0)
      (someone : solver ≠ 0) (other : solver ≠ home)
      (window : 60 ≤ claimWindow ∧ claimWindow ≤ 86400) :
      Step home (.claimBridge id) b
        ((b.receive (.claimBridge id) value).register id solver value claimWindow)
  | takeover (b : Book) (id : Nat) (solver : Address) (value claimWindow : Nat)
      (collector : Address) (slashBps : Nat)
      (known : (b.bridgeRequests id).sender ≠ 0)
      (isOpen : (b.bridgeRequests id).finalized = false)
      (held : (b.requestClaim id).solver ≠ 0)
      (due : (b.requestClaim id).deadline ≤ b.now)
      (someone : solver ≠ 0) (other : solver ≠ home)
      (window : 60 ≤ claimWindow ∧ claimWindow ≤ 86400)
      (bps : slashBps ≤ 10000) :
      Step home (.claimBridge id) b
        (((b.receive (.claimBridge id) value).expire (.claimBridge id) id collector
          slashBps).register id solver value claimWindow)
  | release (b : Book) (id : Nat) (collector : Address) (slashBps : Nat)
      (held : (b.requestClaim id).solver ≠ 0)
      (due : (b.requestClaim id).deadline ≤ b.now) (bps : slashBps ≤ 10000) :
      Step home (.releaseExpiredClaim id) b
        (b.expire (.releaseExpiredClaim id) id collector slashBps)
  | settle (b : Book) (fn : Fn) (id : Nat) (settles : fn.settles = some id)
      (known : (b.bridgeRequests id).sender ≠ 0)
      (isOpen : (b.bridgeRequests id).finalized = false)
      (held : (b.requestClaim id).solver ≠ 0)
      (intime : b.now ≤ (b.requestClaim id).deadline) :
      Step home fn b (b.settle fn id)
  | withdraw (b : Book) (fn : Fn) (token recipient : Address) (amount : Nat)
      (withdraws : fn.withdraws = true) :
      Step home fn b (b.act [.called fn (.safeTransfer token recipient amount)])
  | idle (b : Book) (fn : Fn) (unguarded : fn.unguarded = true) : Step home fn b b

/-! ## The lifecycle of a request and its claim -/

/-- What a request and its claim can look like. The window of a claim is
exact as long as the clock is in range. -/
structure Book.Lifecycle (home : Address) (b : Book) : Prop where
  known : ∀ id, (b.bridgeRequests id).sender ≠ 0 ↔ 1 ≤ id ∧ id ≤ b.bridgeNonce
  settled : ∀ id, (b.bridgeRequests id).finalized = true →
    (b.bridgeRequests id).sender ≠ 0
  closed : ∀ id, (b.bridgeRequests id).finalized = true →
    b.requestClaim id = Claim.empty ∧ b.requestFeeEscrow id = 0
  escrowed : ∀ id, (b.bridgeRequests id).finalized = false →
    b.requestFeeEscrow id = (b.bridgeRequests id).fee
  free : ∀ id, (b.requestClaim id).solver = 0 → b.requestClaim id = Claim.empty
  held : ∀ id, (b.requestClaim id).solver ≠ 0 →
    (b.bridgeRequests id).sender ≠ 0 ∧ (b.bridgeRequests id).finalized = false ∧
      (b.requestClaim id).solver ≠ home
  window : b.now < 2 ^ 63 → ∀ id, (b.requestClaim id).solver ≠ 0 →
    (b.requestClaim id).claimedAt + 60 ≤ (b.requestClaim id).deadline ∧
      (b.requestClaim id).deadline ≤ (b.requestClaim id).claimedAt + 86400

namespace Book

variable {home : Address} {b b' : Book} {fn : Fn}

theorem lifecycle_opened (now : Nat) : Lifecycle home (opened now) where
  known := by
    intro id
    simp only [opened, BridgeRequest.empty, ne_eq, not_true_eq_false, false_iff]
    omega
  settled := by simp [opened, BridgeRequest.empty]
  closed := by simp [opened, BridgeRequest.empty]
  escrowed := by simp [opened, BridgeRequest.empty]
  free := by simp [opened]
  held := by simp [opened, Claim.empty]
  window := by simp [opened, Claim.empty]

theorem Lifecycle.act (h : Lifecycle home b) (entries : List LogEntry) :
    Lifecycle home (b.act entries) where
  known := h.known
  settled := h.settled
  closed := h.closed
  escrowed := h.escrowed
  free := h.free
  held := h.held
  window := h.window

/-- The id the next request gets is not in use. -/
theorem Lifecycle.next_free (h : Lifecycle home b) :
    b.requestClaim (b.bridgeNonce + 1) = Claim.empty := by
  apply h.free
  by_contra hs
  have hk := (h.known _).mp (h.held _ hs).1
  omega

theorem Lifecycle.addRequest (h : Lifecycle home b) {r : BridgeRequest}
    (hs : r.sender ≠ 0) (hf : r.finalized = false) :
    Lifecycle home (b.addRequest r) where
  known := by
    intro id
    by_cases hid : id = b.bridgeNonce + 1
    · subst hid
      simpa [Book.addRequest] using hs
    · simp only [Book.addRequest, Function.update_of_ne hid, h.known id]
      omega
  settled := by
    intro id
    by_cases hid : id = b.bridgeNonce + 1
    · subst hid
      simp [Book.addRequest, hf]
    · simpa only [Book.addRequest, Function.update_of_ne hid] using h.settled id
  closed := by
    intro id
    by_cases hid : id = b.bridgeNonce + 1
    · subst hid
      simp [Book.addRequest, hf]
    · simpa only [Book.addRequest, Function.update_of_ne hid] using h.closed id
  escrowed := by
    intro id
    by_cases hid : id = b.bridgeNonce + 1
    · subst hid
      simp [Book.addRequest]
    · simpa only [Book.addRequest, Function.update_of_ne hid] using h.escrowed id
  free := h.free
  held := by
    intro id hheld
    by_cases hid : id = b.bridgeNonce + 1
    · subst hid
      exact absurd (congrArg Claim.solver h.next_free) hheld
    · simpa only [Book.addRequest, Function.update_of_ne hid] using h.held id hheld
  window := h.window

/-- Clearing a claim keeps the lifecycle. -/
theorem Lifecycle.clearClaim (h : Lifecycle home b) (id : Nat) :
    Lifecycle home (b.setClaim id Claim.empty) where
  known := h.known
  settled := h.settled
  closed := by
    intro i hi
    by_cases hid : i = id
    · subst hid
      simpa [setClaim] using (h.closed i hi).2
    · simpa only [setClaim, Function.update_of_ne hid] using h.closed i hi
  escrowed := h.escrowed
  free := by
    intro i hi
    by_cases hid : i = id
    · subst hid
      simp [setClaim]
    · simp only [setClaim, Function.update_of_ne hid] at hi ⊢
      exact h.free i hi
  held := by
    intro i hi
    by_cases hid : i = id
    · subst hid
      simp [setClaim, Claim.empty] at hi
    · simp only [setClaim, Function.update_of_ne hid] at hi ⊢
      exact h.held i hi
  window := by
    intro hn i hi
    by_cases hid : i = id
    · subst hid
      simp [setClaim, Claim.empty] at hi
    · simp only [setClaim, Function.update_of_ne hid] at hi ⊢
      exact h.window hn i hi

/-- A cast of an in-range time to `uint64` changes nothing. -/
theorem uint64_of_lt {n : Nat} (h : n < 2 ^ 64) : uint64 n = n :=
  Nat.mod_eq_of_lt h

/-- Registering a claim on an open request keeps the lifecycle. -/
theorem Lifecycle.setNewClaim (h : Lifecycle home b) {id : Nat} {solver : Address}
    {value claimWindow : Nat} (known : (b.bridgeRequests id).sender ≠ 0)
    (isOpen : (b.bridgeRequests id).finalized = false) (someone : solver ≠ 0)
    (other : solver ≠ home) (hw : 60 ≤ claimWindow ∧ claimWindow ≤ 86400) :
    Lifecycle home (b.setClaim id (b.newClaim solver value claimWindow)) where
  known := h.known
  settled := h.settled
  closed := by
    intro i hi
    have hid : i ≠ id := by
      rintro rfl
      exact absurd hi (by simp [setClaim, isOpen])
    simpa only [setClaim, Function.update_of_ne hid] using h.closed i hi
  escrowed := h.escrowed
  free := by
    intro i hi
    by_cases hid : i = id
    · subst hid
      exact absurd (by simpa [setClaim, newClaim] using hi) someone
    · simp only [setClaim, Function.update_of_ne hid] at hi ⊢
      exact h.free i hi
  held := by
    intro i hi
    by_cases hid : i = id
    · subst hid
      simpa [setClaim, newClaim] using ⟨known, isOpen, other⟩
    · simp only [setClaim, Function.update_of_ne hid] at hi ⊢
      exact h.held i hi
  window := by
    intro hn i hi
    by_cases hid : i = id
    · subst hid
      replace hn : b.now < 2 ^ 63 := hn
      simp only [setClaim, newClaim, Function.update_self]
      rw [uint64_of_lt (by omega), uint64_of_lt (by omega)]
      omega
    · simp only [setClaim, Function.update_of_ne hid] at hi ⊢
      exact h.window hn i hi

/-- Closing a request, its claim and its fee escrow keeps the lifecycle. -/
theorem Lifecycle.close (h : Lifecycle home b) {id : Nat}
    (known : (b.bridgeRequests id).sender ≠ 0) :
    Lifecycle home (((b.setRequest id
      { b.bridgeRequests id with finalized := true }).setFeeEscrow id 0).setClaim id
        Claim.empty) where
  known := by
    intro i
    by_cases hid : i = id
    · subst hid
      simpa [setRequest, setFeeEscrow, setClaim] using h.known i
    · simpa only [setRequest, setFeeEscrow, setClaim, Function.update_of_ne hid]
        using h.known i
  settled := by
    intro i hi
    by_cases hid : i = id
    · subst hid
      simpa [setRequest, setFeeEscrow, setClaim] using known
    · simp only [setRequest, setFeeEscrow, setClaim, Function.update_of_ne hid] at hi ⊢
      exact h.settled i hi
  closed := by
    intro i hi
    by_cases hid : i = id
    · subst hid
      simp [setRequest, setFeeEscrow, setClaim]
    · simp only [setRequest, setFeeEscrow, setClaim, Function.update_of_ne hid] at hi ⊢
      exact h.closed i hi
  escrowed := by
    intro i hi
    by_cases hid : i = id
    · subst hid
      simp [setRequest, setFeeEscrow, setClaim] at hi
    · simp only [setRequest, setFeeEscrow, setClaim, Function.update_of_ne hid] at hi ⊢
      exact h.escrowed i hi
  free := (h.clearClaim id).free
  held := by
    intro i hi
    by_cases hid : i = id
    · subst hid
      simp [setRequest, setFeeEscrow, setClaim, Claim.empty] at hi
    · simp only [setRequest, setFeeEscrow, setClaim, Function.update_of_ne hid] at hi ⊢
      exact h.held i hi
  window := (h.clearClaim id).window

/-- Every operation keeps the lifecycle. -/
theorem Step.lifecycle (st : Step home fn b b') (h : Lifecycle home b) :
    Lifecycle home b' := by
  cases st with
  | deposit _ relayer r sender gross sameToken fresh =>
      exact (h.addRequest sender fresh).act _
  | claim _ id solver value claimWindow known isOpen free someone other window =>
      exact ((h.act _).setNewClaim known isOpen someone other window).act _
  | takeover _ id solver value claimWindow collector slashBps known isOpen held due
      someone other window bps =>
      have hexp := ((h.act [.received (.claimBridge id) value]).clearClaim id).act
        (slashActs (.claimBridge id) id collector
            (slashOf (b.requestClaim id).bond slashBps) ++
          refundActs (.claimBridge id) (b.requestClaim id).solver
            ((b.requestClaim id).bond - slashOf (b.requestClaim id).bond slashBps))
      exact (hexp.setNewClaim known isOpen someone other window).act _
  | release _ id collector slashBps held due bps => exact (h.clearClaim id).act _
  | settle _ _ id settles known isOpen held intime => exact (h.close known).act _
  | withdraw _ _ token recipient amount withdraws => exact h.act _
  | idle _ _ unguarded => exact h

/-- Time passing keeps the lifecycle. -/
theorem Lifecycle.tick (h : Lifecycle home b) {time : Nat} (later : b.now ≤ time) :
    Lifecycle home { b with now := time } where
  known := h.known
  settled := h.settled
  closed := h.closed
  escrowed := h.escrowed
  free := h.free
  held := h.held
  window := fun hn => h.window (Nat.lt_of_le_of_lt later hn)

end Book

end LunarysBridge.Evm
