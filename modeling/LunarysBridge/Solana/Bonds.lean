/-
LunarysBridge.Solana.Bonds — where the solvers' bonds go.

A state is `Conserved` when every lamport of bond that came in was sent
back, slashed, or belongs to a claim that is active, and when every claim
that was ever made is active, settled, or slashed, each exactly once. All
instructions keep this but one: a `claim_bridge` that takes over an expired
claim overwrites its bond, and nobody is slashed.
-/
import LunarysBridge.Lib.Tally
import LunarysBridge.Solana.Effects

namespace LunarysBridge.Solana

variable {rt : Runtime} {s s' : State}

/-! ## What one entry of the log counts for -/

namespace Entry

/-- Lamports of bond that came in. -/
@[simp] def bond : Entry → Nat
  | .bonded _ _ bond => bond.toNat
  | _ => 0

/-- Lamports of bond that went back to a solver. -/
@[simp] def refund : Entry → Nat
  | .refunded _ _ amount => amount.toNat
  | _ => 0

@[simp] def slash : Entry → Nat
  | .slashed _ _ amount => amount.toNat
  | _ => 0

/-- A claim of the request was made. -/
@[simp] def claims (addr : Pubkey) : Entry → Nat
  | .bonded request _ _ => if request = addr then 1 else 0
  | _ => 0

/-- A claim of the request was slashed. -/
@[simp] def slashes (addr : Pubkey) : Entry → Nat
  | .slashed request _ _ => if request = addr then 1 else 0
  | _ => 0

/-- A claim of the request was settled. -/
@[simp] def settlements (addr : Pubkey) : Entry → Nat
  | .paid request _ _ _ => if request = addr then 1 else 0
  | _ => 0

end Entry

/-- The bond of a request that is claimed. -/
def BridgeRequest.held (req : BridgeRequest) : Nat :=
  if req.claimed then req.bondLamports.toNat else 0

/-- The bonds of all requests that are claimed. -/
def State.bondsHeld (s : State) : Nat := Table.total (fun _ req => req.held) s.requests

/-- One, when the request is claimed. -/
def State.active (s : State) (addr : Pubkey) : Nat :=
  match s.requests.lookup addr with
  | some req => if req.claimed then 1 else 0
  | none => 0

structure Conserved (s : State) : Prop where
  balance : Tally.total Entry.bond s.log =
    Tally.total Entry.refund s.log + Tally.total Entry.slash s.log + s.bondsHeld
  once : ∀ addr, Tally.total (Entry.claims addr) s.log =
    Tally.total (Entry.slashes addr) s.log + Tally.total (Entry.settlements addr) s.log +
      s.active addr

/-- Is the instruction a `claim_bridge` of a request that is claimed? -/
def takesOver : Instruction → State → Bool
  | .claimBridge acc _ requestId _, s =>
      (s.requests.lookup (.request acc.requestOwner requestId)).any (·.claimed)
  | _, _ => false

theorem conserved_initial (h : Initial s) : Conserved s where
  balance := by simp [h.log, State.bondsHeld, h.requests]
  once := by simp [h.log, State.active, h.requests]

/-! ## Rewriting one request -/

theorem active_insert_ne {addr other : Pubkey} {req : BridgeRequest} (h : other ≠ addr)
    (hr : s'.requests = s.requests.insert addr req) : s'.active other = s.active other := by
  unfold State.active
  rw [hr, AList.lookup_insert_ne h]

theorem active_insert {addr : Pubkey} {req : BridgeRequest}
    (hr : s'.requests = s.requests.insert addr req) :
    s'.active addr = if req.claimed then 1 else 0 := by
  unfold State.active
  rw [hr, AList.lookup_insert]

theorem active_of_lookup {addr : Pubkey} {req : BridgeRequest}
    (h : s.requests.lookup addr = some req) :
    s.active addr = if req.claimed then 1 else 0 := by
  unfold State.active
  rw [h]

theorem bondsHeld_insert {addr : Pubkey} {req req' : BridgeRequest}
    (h : s.requests.lookup addr = some req)
    (hr : s'.requests = s.requests.insert addr req') :
    s'.bondsHeld + req.held = s.bondsHeld + req'.held := by
  unfold State.bondsHeld
  rw [hr]
  exact Table.total_change h req'

/-- The log counts events for nothing. -/
theorem total_events {f : Entry → Nat} (h : ∀ e, f (.emit e) = 0) (events : List Event) :
    Tally.total f (events.map .emit) = 0 := by
  apply Tally.total_eq_zero
  intro e he
  obtain ⟨e', _, rfl⟩ := List.mem_map.mp he
  exact h e'

/-! ## One instruction -/

theorem Untouched.conserved (h : Untouched s s') (hc : Conserved s) : Conserved s' := by
  obtain ⟨events, hlog⟩ := h.log
  have hactive : ∀ addr, s'.active addr = s.active addr := fun addr => by
    unfold State.active
    rw [h.requests]
  have hheld : s'.bondsHeld = s.bondsHeld := by
    unfold State.bondsHeld
    rw [h.requests]
  refine ⟨?_, fun addr => ?_⟩
  · rw [hlog, hheld, Tally.total_append, Tally.total_append, Tally.total_append,
      total_events (fun _ => rfl), total_events (fun _ => rfl), total_events (fun _ => rfl)]
    exact hc.balance
  · rw [hlog, hactive, Tally.total_append, Tally.total_append, Tally.total_append,
      total_events (fun _ => rfl), total_events (fun _ => rfl), total_events (fun _ => rfl)]
    exact hc.once addr

theorem Deposited.conserved {payer : Signer} {mint : Pubkey} {storedId : UInt64}
    {args : DepositArgs} (h : Deposited payer mint storedId args s s')
    (hc : Conserved s) : Conserved s' := by
  obtain ⟨cfg, _, hreq, hlog⟩ := h.stored
  refine ⟨?_, fun addr => ?_⟩
  · have hheld : s'.bondsHeld = s.bondsHeld := by
      unfold State.bondsHeld
      rw [hreq, Table.total_insert h.fresh]
      simp [DepositArgs.stored, BridgeRequest.held]
    rw [hlog, hheld]
    simpa using hc.balance
  · have hactive : s'.active addr = s.active addr := by
      by_cases ha : addr = .request payer.key args.requestId
      · subst ha
        rw [active_insert hreq]
        simp [DepositArgs.stored, State.active, h.fresh]
      · exact active_insert_ne ha hreq
    rw [hlog, hactive]
    simpa using hc.once addr

/-- A claim ends: all of its bond leaves, and it is slashed or settled. -/
theorem Conserved.ended {addr : Pubkey} {req req' : BridgeRequest} {entries : List Entry}
    (hc : Conserved s) (hlookup : s.requests.lookup addr = some req) (hclaimed : req.claimed = true)
    (hreq : s'.requests = s.requests.insert addr req') (hended : req'.claimed = false)
    (hlog : s'.log = s.log ++ entries) (hbond : Tally.total Entry.bond entries = 0)
    (hleft : Tally.total Entry.refund entries + Tally.total Entry.slash entries =
      req.bondLamports.toNat)
    (hclaims : ∀ a, Tally.total (Entry.claims a) entries = 0)
    (hends : ∀ a, Tally.total (Entry.slashes a) entries +
      Tally.total (Entry.settlements a) entries = if addr = a then 1 else 0) :
    Conserved s' := by
  refine ⟨?_, fun a => ?_⟩
  · have hheld := bondsHeld_insert hlookup hreq
    have hold := hc.balance
    simp only [BridgeRequest.held, hclaimed, hended, if_true, Bool.false_eq_true, if_false]
      at hheld
    simp only [hlog, Tally.total_append]
    omega
  · have hold := hc.once a
    have hend := hends a
    have hclaim := hclaims a
    simp only [hlog, Tally.total_append]
    by_cases ha : addr = a
    · subst ha
      rw [active_of_lookup hlookup, hclaimed] at hold
      rw [active_insert hreq, hended]
      simp only [if_true, Bool.false_eq_true, if_false] at hold hend ⊢
      omega
    · rw [active_insert_ne (Ne.symm ha) hreq]
      rw [if_neg ha] at hend
      omega

theorem conserved_release {acc : ReleaseExpiredClaim} {requestId : UInt64}
    (h : releaseExpiredClaim rt acc requestId s = .ok s') (hc : Conserved s) :
    Conserved s' := by
  obtain ⟨cfg, req, slash, refund, _, hlookup, hclaimed, _, _, _, _, _, hsum, hreq, hlog,
    _⟩ := releaseExpiredClaim_ok h
  refine hc.ended hlookup hclaimed hreq rfl hlog rfl ?_ (fun _ => rfl) fun a => ?_
  · simp
    omega
  · simp

theorem conserved_settle {acc : VerifyAndSettleSpl} {requestId : UInt64}
    {destTxHash evidenceHash : Bytes32} {evidenceUrl : String}
    (h : verifyAndSettleSpl rt acc requestId destTxHash evidenceHash evidenceUrl s =
      .ok s') (hc : Conserved s) : Conserved s' := by
  obtain ⟨cfg, req, payout, s₁, _, _, hlookup, _, _, _, hclaimed, _, _, _, _, _, hreq,
    hlog, _⟩ := verifyAndSettleSpl_ok h
  refine hc.ended hlookup hclaimed hreq rfl hlog rfl ?_ (fun _ => rfl) fun a => ?_
  · simp
  · simp

/-- A claim keeps the bonds conserved exactly when it takes over no other. -/
theorem conserved_claim_iff {acc : ClaimRequest} {offset requestId : UInt64}
    {solverX25519 : Bytes32}
    (h : claimBridge rt acc offset requestId solverX25519 s = .ok s')
    (hc : Conserved s) :
    Conserved s' ↔ takesOver (.claimBridge acc offset requestId solverX25519) s = false := by
  obtain ⟨cfg, req, deadline, _, hlookup, _, _, hbond, _, hreq, hlog, _⟩ :=
    claimBridge_ok h
  have htake : takesOver (.claimBridge acc offset requestId solverX25519) s = req.claimed := by
    simp [takesOver, hlookup]
  rw [htake]
  constructor
  · intro hc'
    -- otherwise one claim more was made, and no claim ended
    by_contra hne
    have hclaimed : req.claimed = true := by simpa using hne
    have hold := hc.once (.request acc.requestOwner requestId)
    have hnew := hc'.once (.request acc.requestOwner requestId)
    rw [active_of_lookup hlookup] at hold
    rw [active_insert hreq, hlog] at hnew
    simp [hclaimed] at hold hnew
    omega
  · intro hfree
    refine ⟨?_, fun addr => ?_⟩
    · have hheld := bondsHeld_insert hlookup hreq
      have hold := hc.balance
      rw [hlog]
      simp [BridgeRequest.held, hfree] at hheld ⊢
      omega
    · have hold := hc.once addr
      rw [hlog]
      by_cases ha : addr = .request acc.requestOwner requestId
      · subst ha
        rw [active_of_lookup hlookup, hfree] at hold
        rw [active_insert hreq]
        simp at hold ⊢
        omega
      · rw [active_insert_ne ha hreq]
        simpa [Ne.symm ha] using hold

theorem conserved_exec_iff {i : Instruction} (h : exec rt i s = .ok s')
    (hc : Conserved s) : Conserved s' ↔ takesOver i s = false := by
  cases i with
  | claimBridge acc offset requestId solverX25519 => exact conserved_claim_iff h hc
  | initiateBridge acc args =>
      exact iff_of_true ((initiateBridge_ok h).1.conserved hc) rfl
  | initiateBridgeSol acc args =>
      exact iff_of_true ((initiateBridgeSol_ok h).1.conserved hc) rfl
  | releaseExpiredClaim acc requestId => exact iff_of_true (conserved_release h hc) rfl
  | verifyAndSettleSpl acc requestId destTxHash evidenceHash evidenceUrl =>
      exact iff_of_true (conserved_settle h hc) rfl
  | deliverTokens acc amount => exact iff_of_true ((deliverTokens_ok h).conserved hc) rfl
  | deliverTokensSol acc amount =>
      exact iff_of_true ((deliverTokensSol_ok h).conserved hc) rfl
  | initConfig payer args => exact iff_of_true ((initConfig_ok h).1.conserved hc) rfl
  | setConfig authority c => exact iff_of_true ((setConfig_ok h).1.conserved hc) rfl

theorem Outside.conserved (h : Outside s s') (hc : Conserved s) : Conserved s' := by
  refine ⟨?_, fun addr => ?_⟩
  · rw [h.log]
    unfold State.bondsHeld
    rw [h.requests]
    exact hc.balance
  · rw [h.log]
    unfold State.active
    rw [h.requests]
    exact hc.once addr

/-! ## Runs -/

/-- **Bond conservation.** Every state of a run without takeovers is
conserved; and from a conserved state an instruction leads to a conserved
one exactly when it is no takeover. -/
theorem bond_conservation (rt : Runtime) :
    (∀ s₀ s, Initial s₀ → Run rt (fun i s => takesOver i s = false) s₀ s → Conserved s) ∧
    ∀ i s s', Conserved s → exec rt i s = .ok s' →
      (Conserved s' ↔ takesOver i s = false) := by
  refine ⟨fun s₀ s hinit hrun => ?_, fun i s s' hc h => conserved_exec_iff h hc⟩
  induction hrun with
  | nil => exact conserved_initial hinit
  | exec _ i meets succeeds ih =>
      exact (conserved_exec_iff succeeds ih).mpr meets
  | outside _ move ih => exact move.conserved ih

/-- A claim is released after its deadline, and the request claimed again. -/
def Sample.released : List (Nat × Instruction) :=
  [(0, config), (0, deposit (.key 21)), (0, claim solver), (601, release), (0, claim rival)]

/-- A claim is taken over after its deadline. -/
def Sample.takenOver : List (Nat × Instruction) :=
  [(0, config), (0, deposit (.key 21)), (0, claim solver), (601, claim rival)]

/-- The bonds that came in, and what became of them. -/
def State.bondAccount (s : State) : Nat × Nat :=
  (Tally.total Entry.bond s.log,
    Tally.total Entry.refund s.log + Tally.total Entry.slash s.log + s.bondsHeld)

theorem bond_conservation_released : ∃ s, Run Sample.runtime
    (fun i s => takesOver i s = false) Sample.initial s ∧ Conserved s ∧
      s.bondAccount = (10000, 10000) := by
  have hrun : (runMoves Sample.runtime (fun i s => !takesOver i s) Sample.released
      Sample.initial).map State.bondAccount = some (10000, 10000) := by decide +kernel
  obtain ⟨s, hs, haccount⟩ := Option.map_eq_some_iff.mp hrun
  have hmoves : Run Sample.runtime (fun i s => takesOver i s = false) Sample.initial s :=
    (run_of_moves (.nil _) hs).mono fun i s h => by simpa using h
  exact ⟨s, hmoves, (bond_conservation _).1 _ _ Sample.initial_initial hmoves, haccount⟩

/-- A takeover overwrites the old bond, and nobody is slashed. -/
theorem takeover_not_conserved :
    ¬ ∀ rt s₀ s, Initial s₀ → Run rt (fun _ _ => True) s₀ s → Conserved s := by
  intro hall
  have hrun : (runMoves Sample.runtime (fun _ _ => true) Sample.takenOver
      Sample.initial).map State.bondAccount = some (10000, 5000) := by decide +kernel
  obtain ⟨s, hs, haccount⟩ := Option.map_eq_some_iff.mp hrun
  have hc := hall _ _ s Sample.initial_initial
    ((run_of_moves (.nil _) hs).mono fun _ _ _ => trivial)
  have hbalance := hc.balance
  simp only [State.bondAccount, Prod.mk.injEq] at haccount
  omega

end LunarysBridge.Solana
