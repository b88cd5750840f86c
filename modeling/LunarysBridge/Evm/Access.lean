/-
LunarysBridge.Evm.Access — who can read the destination of a request.

`FHE.allow` is never taken back, and the contract calls it in two places: a
deposit lets sender, contract and relayer read, a claim its solver. The
roles on a request change in other places too. When a claim ends without a
settlement, or the relayer is replaced, the access set stays as it was.
`access_follows_roles` says which steps keep the two together, over any run.
-/
import LunarysBridge.Evm.Receipts
import LunarysBridge.Evm.Takeover

namespace LunarysBridge.Evm

/-! ## Access sets and roles -/

/-- The account is in the access set of the handle. -/
def State.CanRead (s : State) (handle : Handle) (account : Address) : Prop :=
  .allowed handle account ∈ s.log

def State.handle (s : State) (id : Nat) : Handle :=
  (s.bridgeRequests id).encryptedSolanaDestination

def State.IsOpen (s : State) (id : Nat) : Prop :=
  (s.bridgeRequests id).sender ≠ 0 ∧ (s.bridgeRequests id).finalized = false

/-- The account holds the claim of the request. -/
def State.Holds (s : State) (id : Nat) (account : Address) : Prop :=
  (s.requestClaim id).solver ≠ 0 ∧ account = (s.requestClaim id).solver

/-- Sender, contract, relayer and claim holder. -/
def Role (ch : Chain) (s : State) (id : Nat) (account : Address) : Prop :=
  account = (s.bridgeRequests id).sender ∨ account = ch.self ∨ account = s.relayer ∨
    s.Holds id account

/-- Those who can read the destination of an open request are those with a
role on it. -/
def Confined (ch : Chain) (s : State) : Prop :=
  ∀ id, s.IsOpen id → ∀ account, s.CanRead (s.handle id) account ↔ Role ch s id account

/-- A step after which access still follows the roles. -/
structure Steady (ch : Chain) (s s' : State) : Prop where
  /-- On a request that stays open nobody loses the last role: no claim
  expires, and the relayer is not replaced, but for accounts that have
  another role. -/
  keeps : ∀ id, s.IsOpen id → s'.IsOpen id → ∀ account, Role ch s id account →
    Role ch s' id account
  /-- The relayer is one who had a role on it, or gets access with a deposit
  or a claim of this step. -/
  relayer : ∀ id, s.IsOpen id → s'.IsOpen id → Role ch s id s'.relayer ∨
    ∃ id', s'.IsOpen id' ∧ s'.handle id' = s'.handle id ∧
      (¬ s.IsOpen id' ∨ s'.Holds id' s'.relayer)
  /-- Nobody else could read the destination of a new request. -/
  fresh : ∀ id, ¬ s.IsOpen id → s'.IsOpen id → ∀ account,
    s.CanRead (s'.handle id) account → Role ch s' id account
  /-- Open requests with one handle have the same roles. -/
  shared : ∀ id id', s'.IsOpen id → s'.IsOpen id' → s'.handle id' = s'.handle id →
    ∀ account, Role ch s' id' account → Role ch s' id account

/-! ## What one operation grants -/

namespace Book

def IsOpen (b : Book) (id : Nat) : Prop :=
  (b.bridgeRequests id).sender ≠ 0 ∧ (b.bridgeRequests id).finalized = false

/-- An operation that leaves the book `b'` gives access to a request that is
new, or to its claim holder. -/
def Grants (home relayer : Address) (b b' : Book) (handle : Handle) (account : Address) : Prop :=
  ∃ id, b'.IsOpen id ∧ (b'.bridgeRequests id).encryptedSolanaDestination = handle ∧
    ((¬ b.IsOpen id ∧ (account = (b'.bridgeRequests id).sender ∨ account = home ∨
        account = relayer)) ∨
      ((b'.requestClaim id).solver ≠ 0 ∧ account = (b'.requestClaim id).solver))

/-- Claim holders can read. -/
def HoldersRead (b : Book) : Prop :=
  ∀ id, (b.requestClaim id).solver ≠ 0 →
    .allowed (b.bridgeRequests id).encryptedSolanaDestination (b.requestClaim id).solver ∈ b.acts

variable {home relayer account : Address} {handle : Handle} {fn : Fn} {b b' : Book}

/-- The last act of a deposit lets the relayer read. -/
def LetsRelayer (relayer : Address) (b : Book) : Prop :=
  ∃ handle, b.acts.getLast? = some (.allowed handle relayer)

/-- An operation without deposit or claim grants only what was granted. -/
theorem Grants.mem (hheld : b.HoldersRead)
    (hreq : ∀ id, b'.IsOpen id → b'.bridgeRequests id = b.bridgeRequests id)
    (hclaim : ∀ id, (b'.requestClaim id).solver ≠ 0 → b'.requestClaim id = b.requestClaim id)
    (h : Grants home relayer b b' handle account) : .allowed handle account ∈ b.acts := by
  obtain ⟨id, hopen, rfl, ⟨hnew, -⟩ | ⟨hsolver, rfl⟩⟩ := h
  · refine absurd ?_ hnew
    rw [IsOpen, ← hreq id hopen]
    exact hopen
  · have hsame := hclaim id hsolver
    rw [hsame] at hsolver ⊢
    rw [hreq id hopen]
    exact hheld id hsolver

theorem reads_kept (hheld : b.HoldersRead)
    (hacts : .allowed handle account ∈ b'.acts ↔ .allowed handle account ∈ b.acts)
    (hreq : ∀ id, b'.IsOpen id → b'.bridgeRequests id = b.bridgeRequests id)
    (hclaim : ∀ id, (b'.requestClaim id).solver ≠ 0 → b'.requestClaim id = b.requestClaim id) :
    .allowed handle account ∈ b'.acts ↔
      .allowed handle account ∈ b.acts ∨ Grants home relayer b b' handle account := by
  rw [hacts]
  exact (or_iff_left_of_imp (Grants.mem hheld hreq hclaim)).symm

/-- A claim grants access to its solver. -/
theorem reads_registered {id : Nat} {c : Claim} (hheld : b.HoldersRead) (hid : b.IsOpen id)
    (hsolver : c.solver ≠ 0) (hreq : b'.bridgeRequests = b.bridgeRequests)
    (hclaim : b'.requestClaim = Function.update b.requestClaim id c)
    (hacts : ∀ handle account, .allowed handle account ∈ b'.acts ↔
      .allowed handle account ∈ b.acts ∨
        handle = (b.bridgeRequests id).encryptedSolanaDestination ∧ account = c.solver) :
    .allowed handle account ∈ b'.acts ↔
      .allowed handle account ∈ b.acts ∨ Grants home relayer b b' handle account := by
  have hopen : ∀ i, b'.IsOpen i ↔ b.IsOpen i := fun i => by rw [IsOpen, hreq, IsOpen]
  rw [hacts]
  constructor
  · intro hreads
    rcases hreads with hold | ⟨rfl, rfl⟩
    · exact .inl hold
    · exact .inr ⟨id, (hopen id).mpr hid, by rw [hreq], .inr (by simpa [hclaim] using hsolver)⟩
  · intro hreads
    rcases hreads with hold | ⟨i, hi, rfl, ⟨hnew, -⟩ | ⟨hheld', rfl⟩⟩
    · exact .inl hold
    · exact absurd ((hopen i).mp hi) hnew
    · by_cases hid : i = id
      · subst hid
        simp [hclaim, hreq]
      · rw [hclaim, Function.update_of_ne hid] at hheld' ⊢
        rw [hreq]
        exact .inl (hheld i hheld')

theorem mem_slashActs {id : Nat} {collector : Address} {slash : Nat} :
    .allowed handle account ∉ slashActs fn id collector slash := by
  unfold slashActs
  split
  · simp
  · split <;> simp

theorem mem_refundActs {solver : Address} {leftover : Nat} :
    .allowed handle account ∉ refundActs fn solver leftover := by
  unfold refundActs
  split <;> simp

/-- A deposit grants access to sender, contract and relayer. -/
theorem reads_deposit {token : Address} {amount : Nat} {input : Handle} {proof : List UInt8}
    {r : BridgeRequest} (l : Lifecycle home b) (hheld : b.HoldersRead) (sender : r.sender ≠ 0)
    (fresh : r.finalized = false) :
    .allowed handle account ∈
        (b.deposit home (.initiateBridge token amount input proof) relayer r).acts ↔
      .allowed handle account ∈ b.acts ∨ Grants home relayer b
        (b.deposit home (.initiateBridge token amount input proof) relayer r) handle account := by
  have hnew : ¬ b.IsOpen (b.bridgeNonce + 1) := by
    intro hopen
    have hknown := (l.known _).mp hopen.1
    omega
  have hsame : ∀ i, i ≠ b.bridgeNonce + 1 →
      ((b.deposit home (.initiateBridge token amount input proof) relayer r).IsOpen i ↔
        b.IsOpen i) := by
    intro i hi
    rw [IsOpen, deposit_request_ne b _ hi, IsOpen]
  constructor
  · intro hreads
    simp only [deposit_acts, List.mem_append, List.mem_cons, List.not_mem_nil, or_false,
      reduceCtorEq, false_or, LogEntry.allowed.injEq] at hreads
    rcases hreads with hold | hgranted
    · exact .inl hold
    · refine .inr ⟨b.bridgeNonce + 1, ?_, ?_, .inl ⟨hnew, ?_⟩⟩
      · rw [IsOpen, deposit_request]
        exact ⟨sender, fresh⟩
      · rw [deposit_request]
        rcases hgranted with ⟨rfl, -⟩ | ⟨rfl, -⟩ | ⟨rfl, -⟩ <;> rfl
      · rw [deposit_request]
        rcases hgranted with ⟨-, rfl⟩ | ⟨-, rfl⟩ | ⟨-, rfl⟩ <;> simp
  · intro hreads
    rw [deposit_acts, List.mem_append]
    rcases hreads with hold | ⟨i, hi, rfl, ⟨hnew', hgranted⟩ | ⟨hsolver, rfl⟩⟩
    · exact .inl hold
    · obtain rfl : i = b.bridgeNonce + 1 := by
        by_contra hne
        exact hnew' ((hsame i hne).mp hi)
      rw [deposit_request] at hgranted ⊢
      rcases hgranted with rfl | rfl | rfl <;> simp
    · have hne : i ≠ b.bridgeNonce + 1 := by
        rintro rfl
        rw [deposit_requestClaim, l.next_free] at hsolver
        exact hsolver rfl
      rw [deposit_request_ne b _ hne]
      exact .inl (hheld i hsolver)

/-- What an operation adds to the access sets. -/
theorem Step.reads (st : Step home fn b b') (l : Lifecycle home b) (hheld : b.HoldersRead)
    (hlast : fn.gross ≠ none → b'.LetsRelayer relayer) :
    .allowed handle account ∈ b'.acts ↔
      .allowed handle account ∈ b.acts ∨ Grants home relayer b b' handle account := by
  cases st with
  | @deposit _ token amount input proof relayer' r sender gross sameToken fresh =>
      obtain ⟨_, hgetLast⟩ := hlast (by simp [Fn.gross])
      obtain rfl : relayer' = relayer := by
        simp at hgetLast
        exact hgetLast.2
      exact reads_deposit l hheld sender fresh
  | claim _ id solver value claimWindow known isOpen free someone other window =>
      refine reads_registered (c := b.newClaim solver value claimWindow) hheld ⟨known, isOpen⟩
        someone rfl rfl fun handle account => ?_
      simp [register, receive, act, setClaim, newClaim]
  | takeover _ id solver value claimWindow collector slashBps known isOpen held due
      someone other window bps =>
      refine reads_registered (c := b.newClaim solver value claimWindow) hheld ⟨known, isOpen⟩
        someone rfl ?_ fun handle account => ?_
      · simp [register, expire, receive, act, setClaim, newClaim]
      · simp [register, expire, receive, act, setClaim, newClaim, mem_slashActs, mem_refundActs]
  | release _ id collector slashBps held due bps =>
      refine reads_kept hheld ?_ (fun _ _ => rfl) fun i hi => ?_
      · simp [expire, act, setClaim, mem_slashActs, mem_refundActs]
      · by_cases hid : i = id
        · subst hid
          simp [expire, act, setClaim, Claim.empty] at hi
        · simp [expire, act, setClaim, Function.update_of_ne hid]
  | settle _ _ id settles known isOpen held intime =>
      refine reads_kept hheld (by simp) (fun i hi => ?_) fun i hi => ?_
      · by_cases hid : i = id
        · subst hid
          simp [IsOpen] at hi
        · exact settle_request_ne b fn hid
      · by_cases hid : i = id
        · subst hid
          simp [Claim.empty] at hi
        · exact settle_claim_ne b fn hid
  | withdraw _ _ token recipient amount withdraws =>
      exact reads_kept hheld (by simp [act]) (fun _ _ => rfl) fun _ _ => rfl
  | idle _ _ unguarded => exact reads_kept hheld Iff.rfl (fun _ _ => rfl) fun _ _ => rfl

end Book

/-! ## What one step grants -/

variable {ch : Chain} {t : Tx ch.self} {s s' : State} {handle : Handle} {account : Address}

theorem canRead_book : s.CanRead handle account ↔ .allowed handle account ∈ s.book.acts := by
  simp [State.CanRead, State.book, LogEntry.isAct]

/-- At every end of the code the last act lets the relayer read. -/
abbrev LetsRelayer : Code → Prop :=
  Reentrancy.Always fun s => s.book.LetsRelayer s.relayer

theorem letsRelayer_recordRequest {token : Address} {amountAfterFee fee : Nat} :
    LetsRelayer (recordRequest ch t token amountAfterFee fee handle s) := by
  unfold recordRequest
  simp only []
  split
  · trivial
  · refine ⟨handle, ?_⟩
    simp [State.book, State.emit, State.allow, State.note, State.setRequest, State.setFeeEscrow,
      LogEntry.isAct]

/-- A deposit lets the relayer of that moment read, at its end. -/
theorem commits_letsRelayer (hfn : t.fn.gross ≠ none)
    (hc : Reentrancy.Commits (contract ch) t s s') : s'.book.LetsRelayer s'.relayer := by
  refine Reentrancy.exec_of_always (fun s => s.book.LetsRelayer s.relayer)
    (entry ch t s) hc ?_
  have hite : ∀ {c : Prop} [Decidable c] {e : Revert} {p : Code}, LetsRelayer p →
      LetsRelayer (if c then .revert e else p) := by
    intro c _ e p hp
    split
    · trivial
    · exact hp
  unfold entry
  cases hfn' : t.fn with
  | initiateBridge token amount input proof =>
      refine hite (hite (hite (hite ?_)))
      split
      · trivial
      · split
        · trivial
        · refine fun ok s => hite ?_
          split
          · trivial
          · exact letsRelayer_recordRequest
  | _ => simp [hfn', Fn.gross] at hfn

theorem grants_unchanged {relayer : Address} (h : s.book.HoldersRead)
    (hreq : s'.bridgeRequests = s.bridgeRequests) (hclaim : s'.requestClaim = s.requestClaim)
    (hacts : s'.book.acts = s.book.acts) :
    s'.CanRead handle account ↔ s.CanRead handle account ∨
      Book.Grants ch.self relayer s.book s'.book handle account := by
  rw [canRead_book, canRead_book]
  exact Book.reads_kept h (by rw [hacts]) (fun id _ => congrFun hreq id)
    fun id _ => congrFun hclaim id

theorem Valid.reads (hv : Valid ch s) (hheld : s.book.HoldersRead) (hstep : Step ch s s') :
    s'.CanRead handle account ↔ s.CanRead handle account ∨
      Book.Grants ch.self s'.relayer s.book s'.book handle account := by
  cases hstep with
  | tx t commits =>
      rw [canRead_book, canRead_book]
      exact (hv.commits commits).step.reads hv.lifecycle hheld
        fun hfn => commits_letsRelayer hfn commits
  | outside move =>
      have hbook := (undisturbed_outside move).book
      exact grants_unchanged hheld (congrArg Book.bridgeRequests hbook)
        (congrArg Book.requestClaim hbook) (congrArg Book.acts hbook)
  | tick time later => exact grants_unchanged hheld rfl rfl rfl

/-- Claim holders can read, in every reachable state. -/
theorem Reachable.holdersRead (h : Reachable ch s) : s.book.HoldersRead := by
  induction h with
  | deployed g relayer initialOwner h =>
      intro id hsolver
      have hl := (valid_deploy g relayer initialOwner h).lifecycle
      have hknown := (hl.known id).mp (hl.held id hsolver).1
      rw [book_nonce, nonce_deploy g relayer initialOwner h] at hknown
      omega
  | @step s s' before hstep ih =>
      intro id hsolver
      have hv := before.valid.step hstep
      have hopen := hv.lifecycle.held id hsolver
      refine canRead_book.mp ((before.valid.reads ih hstep).mpr (.inr ⟨id, ?_, rfl, .inr ?_⟩))
      · exact ⟨hopen.1, hopen.2.1⟩
      · exact ⟨hsolver, rfl⟩

/-- An open request that was open before is the same request. -/
theorem Valid.open_kept (hv : Valid ch s) (hstep : Step ch s s') {id : Nat} (h : s.IsOpen id) :
    (s.bridgeRequests id).SameDeposit (s'.bridgeRequests id) := by
  have hknown := (hv.lifecycle.known id).mp h.1
  exact (hv.kept hstep).deposit hknown.2

/-! ## Access and roles -/

theorem role_holder {id : Nat} (h : s.Holds id account) : Role ch s id account :=
  .inr (.inr (.inr h))

section OneStep

variable (h : Reachable ch s) (hstep : Step ch s s') (hc : Confined ch s)
include h hstep hc

theorem steady_of_confined (hc' : Confined ch s') : Steady ch s s' := by
  have hreads : ∀ handle account, s'.CanRead handle account ↔ s.CanRead handle account ∨
      Book.Grants ch.self s'.relayer s.book s'.book handle account :=
    fun _ _ => h.valid.reads h.holdersRead hstep
  have hhandle : ∀ id, s.IsOpen id → s'.handle id = s.handle id :=
    fun id hid => (h.valid.open_kept hstep hid).destination
  constructor
  case keeps =>
    intro id hid hid' account hrole
    refine (hc' id hid' account).mp ((hreads _ _).mpr (.inl ?_))
    rw [hhandle id hid]
    exact (hc id hid account).mpr hrole
  case relayer =>
    intro id hid hid'
    have hrelayer : Role ch s' id s'.relayer := .inr (.inr (.inl rfl))
    rcases (hreads _ _).mp ((hc' id hid' _).mpr hrelayer) with hread | hgranted
    · rw [hhandle id hid] at hread
      exact .inl ((hc id hid _).mp hread)
    · obtain ⟨id', hopen, heq, ⟨hnew, -⟩ | hholds⟩ := hgranted
      · exact .inr ⟨id', hopen, heq, .inl hnew⟩
      · exact .inr ⟨id', hopen, heq, .inr hholds⟩
  case fresh =>
    intro id hid hid' account hread
    exact (hc' id hid' account).mp ((hreads _ _).mpr (.inl hread))
  case shared =>
    intro id id' hid hid' heq account hrole
    refine (hc' id hid account).mp ?_
    rw [← heq]
    exact (hc' id' hid' account).mpr hrole

theorem confined_of_steady (hsteady : Steady ch s s') : Confined ch s' := by
  have hreads : ∀ handle account, s'.CanRead handle account ↔ s.CanRead handle account ∨
      Book.Grants ch.self s'.relayer s.book s'.book handle account :=
    fun _ _ => h.valid.reads h.holdersRead hstep
  have hsame : ∀ id, s.IsOpen id → (s.bridgeRequests id).SameDeposit (s'.bridgeRequests id) :=
    fun id => h.valid.open_kept hstep
  have hhandle : ∀ id, s.IsOpen id → s'.handle id = s.handle id :=
    fun id hid => (hsame id hid).destination
  intro id hid account
  constructor
  · intro hread
    rcases (hreads _ _).mp hread with hold | ⟨id', hopen, heq, ⟨-, hgranted⟩ | hholds⟩
    · by_cases hbefore : s.IsOpen id
      · rw [hhandle id hbefore] at hold
        exact hsteady.keeps id hbefore hid account ((hc id hbefore account).mp hold)
      · exact hsteady.fresh id hbefore hid account hold
    · refine hsteady.shared id id' hid hopen heq account ?_
      rcases hgranted with hsender | hself | hrelayer
      · exact .inl hsender
      · exact .inr (.inl hself)
      · exact .inr (.inr (.inl hrelayer))
    · exact hsteady.shared id id' hid hopen heq account (role_holder hholds)
  · intro hrole
    have hgrants : ∀ id', s'.IsOpen id' → s'.handle id' = s'.handle id →
        ((¬ s.IsOpen id' ∧ (account = (s'.bridgeRequests id').sender ∨ account = ch.self ∨
          account = s'.relayer)) ∨ s'.Holds id' account) →
        s'.CanRead (s'.handle id) account :=
      fun id' hopen heq hgranted => (hreads _ _).mpr (.inr ⟨id', hopen, heq, hgranted⟩)
    by_cases hbefore : s.IsOpen id
    · have hold : Role ch s id account → s'.CanRead (s'.handle id) account := by
        intro hrole
        refine (hreads _ _).mpr (.inl ?_)
        rw [hhandle id hbefore]
        exact (hc id hbefore account).mpr hrole
      rcases hrole with hsender | hself | rfl | hholds
      · exact hold (.inl (hsender.trans (hsame id hbefore).sender))
      · exact hold (.inr (.inl hself))
      · rcases hsteady.relayer id hbefore hid with hrole | ⟨id', hopen, heq, hnew | hholds⟩
        · exact hold hrole
        · exact hgrants id' hopen heq (.inl ⟨hnew, .inr (.inr rfl)⟩)
        · exact hgrants id' hopen heq (.inr hholds)
      · exact hgrants id hid rfl (.inr hholds)
    · rcases hrole with hsender | hself | hrelayer | hholds
      · exact hgrants id hid rfl (.inl ⟨hbefore, .inl hsender⟩)
      · exact hgrants id hid rfl (.inl ⟨hbefore, .inr (.inl hself)⟩)
      · exact hgrants id hid rfl (.inl ⟨hbefore, .inr (.inr hrelayer)⟩)
      · exact hgrants id hid rfl (.inr hholds)

/-- **One step**: where access follows the roles, it does so after the step
exactly if the step is steady. -/
theorem confined_step_iff : Confined ch s' ↔ Steady ch s s' :=
  ⟨steady_of_confined h hstep hc, confined_of_steady h hstep hc⟩

end OneStep

/-- No request has been made. -/
theorem confined_deploy (g : Genesis ch) (relayer initialOwner : Address)
    (h : deploy ch g relayer initialOwner = .ok s) : Confined ch s := by
  intro id hid
  have hknown := ((valid_deploy g relayer initialOwner h).lifecycle.known id).mp hid.1
  rw [book_nonce, nonce_deploy g relayer initialOwner h] at hknown
  omega

/-- **Access follows the roles in all states of a run exactly if all its
steps are steady.** -/
theorem access_follows_roles {run : Nat → State} {n : Nat} {g : Genesis ch}
    {relayer initialOwner : Address} (hdeploy : deploy ch g relayer initialOwner = .ok (run 0))
    (hrun : ∀ k < n, Step ch (run k) (run (k + 1))) :
    (∀ k ≤ n, Confined ch (run k)) ↔ ∀ k < n, Steady ch (run k) (run (k + 1)) := by
  have hreach : ∀ k ≤ n, Reachable ch (run k) := by
    intro k
    induction k with
    | zero => exact fun _ => .deployed g relayer initialOwner hdeploy
    | succ k ih => exact fun hk => (ih (by omega)).step (hrun k (by omega))
  constructor
  · intro hall k hk
    exact (confined_step_iff (hreach k (by omega)) (hrun k hk) (hall k (by omega))).mp
      (hall (k + 1) hk)
  · intro hsteady k
    induction k with
    | zero => exact fun _ => confined_deploy g relayer initialOwner hdeploy
    | succ k ih =>
        intro hk
        exact (confined_step_iff (hreach k (by omega)) (hrun k (by omega)) (ih (by omega))).mpr
          (hsteady k (by omega))

/-! ## One request -/

section OneRequest

variable (hone' : ∀ id, s'.IsOpen id → id = 1)
include hone'

/-- The first request is made, if any, while nobody can read anything. -/
theorem steady_first (hnone : ∀ id, ¬ s.IsOpen id)
    (hlog : ∀ handle account, ¬ s.CanRead handle account) : Steady ch s s' where
  keeps id hid := absurd hid (hnone id)
  relayer id hid := absurd hid (hnone id)
  fresh id _ _ account hread := absurd hread (hlog _ account)
  shared id id' hid hid' _ account hrole := by
    rwa [hone' id hid, ← hone' id' hid']

/-- It is claimed: nobody loses a role, and the solver gets one. -/
theorem steady_claimed (hone : ∀ id, s.IsOpen id → id = 1) (hopen : s.IsOpen 1)
    (hrequest : s.bridgeRequests 1 = s'.bridgeRequests 1) (hrelayer : s.relayer = s'.relayer)
    (hfree : (s.requestClaim 1).solver = 0) : Steady ch s s' where
  keeps id hid _ account hrole := by
    obtain rfl := hone id hid
    rcases hrole with hsender | hself | hisRelayer | hholds
    · exact .inl (hrequest ▸ hsender)
    · exact .inr (.inl hself)
    · exact .inr (.inr (.inl (hrelayer ▸ hisRelayer)))
    · exact absurd hfree hholds.1
  relayer id hid _ := .inl (.inr (.inr (.inl hrelayer.symm)))
  fresh id hid hid' := absurd (hone' id hid' ▸ hopen) hid
  shared id id' hid hid' _ account hrole := by
    rwa [hone' id hid, ← hone' id' hid']

end OneRequest

/-- Open requests are numbered from one. -/
theorem Reachable.isOpen_le (h : Reachable ch s) {id : Nat} (hid : s.IsOpen id) :
    1 ≤ id ∧ id ≤ s.bridgeNonce :=
  (h.valid.lifecycle.known id).mp hid.1

namespace Sample

theorem ok_of_toOption {α : Type} {x : Except Revert α} {a : α} (h : x.toOption = some a) :
    x = .ok a := by
  cases x with
  | error e => cases h
  | ok b => exact congrArg _ (Option.some.inj h)

theorem step_of_accepting {t : Tx ch.self} (h : runAccepting [t] s = some s') : Step ch s s' := by
  simp only [runAccepting] at h
  split at h
  · next s₁ hacc =>
    cases h
    exact .tx t (Reentrancy.exec_of_accepting _ hacc)
  · cases h

/-- The owner 3 admits the solver 5, the user 4 deposits, and the solver
claims. -/
def firstCalls : Option (State × State × State × State) := do
  let s₀ ← (deploy chain genesis 2 3).toOption
  let s₁ ← runAccepting (calls.take 1) s₀
  let s₂ ← runAccepting ((calls.drop 1).take 1) s₁
  let s₃ ← runAccepting ((calls.drop 2).take 1) s₂
  return (s₀, s₁, s₂, s₃)

theorem firstCalls_facts : firstCalls.any (fun run => decide (run.1.bridgeNonce = 0 ∧
    run.1.log = [] ∧ run.2.1.bridgeNonce = 0 ∧ run.2.1.log = [.emit (.NodeAuthorized 5)] ∧
    run.2.2.1.bridgeNonce = 1 ∧ run.2.2.1.relayer = run.2.2.2.relayer ∧
    run.2.2.1.bridgeRequests 1 = run.2.2.2.bridgeRequests 1 ∧
    (run.2.2.1.requestClaim 1).solver = 0 ∧ run.2.2.2.bridgeNonce = 1 ∧
    (run.2.2.2.bridgeRequests 1).sender = 4 ∧
    (run.2.2.2.bridgeRequests 1).finalized = false ∧
    (run.2.2.2.requestClaim 1).solver = 5)) = true := by
  decide +kernel

/-- The states of a run with three steps. -/
def path (s₀ s₁ s₂ s₃ : State) : Nat → State
  | 0 => s₀
  | 1 => s₁
  | 2 => s₂
  | _ => s₃

/-- The solver lets its claim expire, and releases it. -/
def released : Option State :=
  runAccepting [call 5 0 (.releaseExpiredClaim 1) solver_ne] expired

/-- The owner appoints the relayer 6. -/
def rotated : Option State := runAccepting [call 3 0 (.updateRelayer 6) owner_ne] claimed

theorem released_reads : released.any (fun s => decide ((s.bridgeRequests 1).sender = 4 ∧
    (s.bridgeRequests 1).finalized = false ∧ .allowed (s.handle 1) 5 ∈ s.log ∧
    s.relayer = 2 ∧ (s.requestClaim 1).solver = 0)) = true := by
  decide +kernel

theorem rotated_reads : rotated.any (fun s => decide ((s.bridgeRequests 1).sender = 4 ∧
    (s.bridgeRequests 1).finalized = false ∧ .allowed (s.handle 1) 6 ∉ s.log ∧
    s.relayer = 6)) = true := by
  decide +kernel

end Sample

/-- After a deposit and a claim, those who can read the destination are those
with a role, the claim holder among them. -/
theorem access_follows_roles_claimed : ∃ s, Reachable Sample.chain s ∧ s.IsOpen 1 ∧
    s.Holds 1 5 ∧ Confined Sample.chain s := by
  obtain ⟨⟨s₀, s₁, s₂, s₃⟩, hcalls, hfacts⟩ :=
    (Option.any_eq_true _ _).mp Sample.firstCalls_facts
  obtain ⟨hnonce₀, hlog₀, hnonce₁, hlog₁, hnonce₂, hrelayer, hrequest, hfree, hnonce₃, hsender,
    hfinal, hsolver⟩ := of_decide_eq_true hfacts
  simp only at hnonce₀ hlog₀ hnonce₁ hlog₁ hnonce₂ hrelayer hrequest hfree hnonce₃ hsender
  simp only at hfinal hsolver
  simp only [Sample.firstCalls, Option.bind_eq_bind, Option.bind_eq_some_iff] at hcalls
  obtain ⟨_, hdeploy, _, hcall₁, _, hcall₂, _, hcall₃, heq⟩ := hcalls
  cases heq
  have hdeployed := Sample.ok_of_toOption hdeploy
  have hstep₁ := Sample.step_of_accepting hcall₁
  have hstep₂ := Sample.step_of_accepting hcall₂
  have hstep₃ := Sample.step_of_accepting hcall₃
  have hreach₀ : Reachable Sample.chain s₀ := .deployed _ _ _ hdeployed
  have hreach₁ := hreach₀.step hstep₁
  have hreach₂ := hreach₁.step hstep₂
  have hreach₃ := hreach₂.step hstep₃
  have hnone : ∀ {s : State}, Reachable Sample.chain s → s.bridgeNonce = 0 →
      ∀ id, ¬ s.IsOpen id := by
    intro s hreach hnonce id hid
    have hle := hreach.isOpen_le hid
    omega
  have hone : ∀ {s : State}, Reachable Sample.chain s → s.bridgeNonce = 1 →
      ∀ id, s.IsOpen id → id = 1 := by
    intro s hreach hnonce id hid
    have hle := hreach.isOpen_le hid
    omega
  have hopen₃ : s₃.IsOpen 1 := ⟨by rw [hsender]; decide, hfinal⟩
  have hopen₂ : s₂.IsOpen 1 := by
    rw [State.IsOpen, hrequest]
    exact hopen₃
  have hsteady₁ : Steady Sample.chain s₀ s₁ :=
    steady_first (fun id hid => absurd hid (hnone hreach₁ hnonce₁ id)) (hnone hreach₀ hnonce₀)
      (by simp [State.CanRead, hlog₀])
  have hsteady₂ : Steady Sample.chain s₁ s₂ :=
    steady_first (hone hreach₂ hnonce₂) (hnone hreach₁ hnonce₁) (by simp [State.CanRead, hlog₁])
  have hsteady₃ : Steady Sample.chain s₂ s₃ :=
    steady_claimed (hone hreach₃ hnonce₃) (hone hreach₂ hnonce₂) hopen₂ hrequest hrelayer hfree
  have hstart : deploy Sample.chain Sample.genesis 2 3 =
      .ok (Sample.path s₀ s₁ s₂ s₃ 0) := hdeployed
  have hrun : ∀ k < 3, Step Sample.chain (Sample.path s₀ s₁ s₂ s₃ k)
      (Sample.path s₀ s₁ s₂ s₃ (k + 1)) := fun k hk => match k, hk with
    | 0, _ => hstep₁
    | 1, _ => hstep₂
    | 2, _ => hstep₃
  have hall := (access_follows_roles hstart hrun).mpr fun k hk => match k, hk with
    | 0, _ => hsteady₁
    | 1, _ => hsteady₂
    | 2, _ => hsteady₃
  exact ⟨s₃, hreach₃, hopen₃, ⟨by rw [hsolver]; decide, hsolver.symm⟩, hall 3 (Nat.le_refl 3)⟩

/-- A solver whose claim has expired still reads the destination, and the
new relayer does not. -/
theorem access_outlives_roles :
    (¬ ∀ (ch : Chain) s, Reachable ch s → Confined ch s) ∧
    (∃ s, Reachable Sample.chain s ∧ s.IsOpen 1 ∧ s.CanRead (s.handle 1) 5 ∧
      ¬ Role Sample.chain s 1 5) ∧
    ∃ s, Reachable Sample.chain s ∧ s.IsOpen 1 ∧ ¬ s.CanRead (s.handle 1) s.relayer := by
  have hexpired : ∃ s, Reachable Sample.chain s ∧ s.IsOpen 1 ∧ s.CanRead (s.handle 1) 5 ∧
      ¬ Role Sample.chain s 1 5 := by
    obtain ⟨s, hs, hfacts⟩ := (Option.any_eq_true _ _).mp Sample.released_reads
    obtain ⟨hsender, hopen, hread, hrelayer, hfree⟩ := of_decide_eq_true hfacts
    refine ⟨s, Sample.expired_reachable.step (Sample.step_of_accepting hs),
      ⟨by rw [hsender]; decide, hopen⟩, hread, ?_⟩
    rw [Role, hsender, hrelayer, State.Holds, hfree]
    decide
  have hrotated : ∃ s, Reachable Sample.chain s ∧ s.IsOpen 1 ∧
      ¬ s.CanRead (s.handle 1) s.relayer := by
    obtain ⟨s, hs, hfacts⟩ := (Option.any_eq_true _ _).mp Sample.rotated_reads
    obtain ⟨hsender, hopen, hread, hrelayer⟩ := of_decide_eq_true hfacts
    refine ⟨s, Sample.claimed_reachable.step (Sample.step_of_accepting hs),
      ⟨by rw [hsender]; decide, hopen⟩, ?_⟩
    rw [hrelayer]
    exact hread
  refine ⟨fun hall => ?_, hexpired, hrotated⟩
  obtain ⟨s, hs, hopen, hread, hrole⟩ := hexpired
  exact hrole ((hall _ s hs 1 hopen 5).mp hread)

end LunarysBridge.Evm
