/-
LunarysBridge.Solana.Deposits — the two ways to deposit build one record,
but for the id.

`deposit::handler` and `deposit_sol::handler` initialise a request field by
field. The first never writes `request_id`, which stays zero; no later
instruction reads it. Everything else the two write, announce and queue is
the same (`deposit_paths_agree`).
-/
import LunarysBridge.Solana.Fees
import LunarysBridge.Solana.Lifecycle

namespace LunarysBridge.Solana

variable {rt : Runtime} {s s' : State}

/-! ## One deposit -/

/-- What a deposit stores, announces and queues. -/
structure Written (addr : Pubkey) (req : BridgeRequest) (e : Event) (c : Computation)
    (s s' : State) : Prop where
  request : s'.requests.lookup addr = some req
  event : ∃ mint gross, s'.log = s.log ++ [.locked addr mint gross, .emit e]
  queue : s'.queue = s.queue ++ [c]

theorem Deposited.written {payer : Signer} {mint : Pubkey} {storedId : UInt64}
    {args : DepositArgs} {cfg : BridgeConfig} (h : Deposited payer mint storedId args s s')
    (hcfg : s.config = some cfg) :
    Written (.request payer.key args.requestId) (args.stored storedId payer.key mint cfg s.now)
      (.BridgeInitiated args.requestId payer.key mint (amountNet cfg args.amount)
        (feeU64 cfg args.amount) s.now) args.queued s s' := by
  obtain ⟨cfg', hcfg', hreq, hlog⟩ := h.stored
  rw [hcfg] at hcfg'
  cases hcfg'
  exact ⟨by rw [hreq, AList.lookup_insert], ⟨mint, args.amount, hlog⟩, h.queue⟩

theorem DepositArgs.stored_inj (args : DepositArgs) {storedId : UInt64} (payer mint : Pubkey)
    (cfg : BridgeConfig) (now : Int) : args.stored storedId payer mint cfg now =
      args.stored args.requestId payer mint cfg now ↔ storedId = args.requestId := by
  constructor
  · intro h
    exact congrArg BridgeRequest.requestId h
  · rintro rfl
    rfl

/-! ## Runs -/

/-- The id the deposit stores is the one of the request's address. -/
def Instruction.keepsId (i : Instruction) : Bool :=
  i.deposit.all fun (_, args, storedId) => storedId = args.requestId

/-- Only an SPL deposit can fail to. -/
theorem keepsId_iff (i : Instruction) :
    i.keepsId = true ↔ ∀ acc args, i = .initiateBridge acc args → args.requestId = 0 := by
  cases i with
  | initiateBridge acc args => simp [Instruction.keepsId, Instruction.deposit, eq_comm]
  | _ => simp [Instruction.keepsId, Instruction.deposit]

/-- Every request has the id of its address. -/
def State.IdsKept (s : State) : Prop :=
  ∀ owner id req, s.requests.lookup (.request owner id) = some req → req.requestId = id

/-- One step: a request that was there keeps its id, and a new one gets it
from a deposit. -/
theorem idsKept_exec {i : Instruction} (hk : s.IdsKept) (hi : i.keepsId = true)
    (h : exec rt i s = .ok s') : s'.IdsKept := by
  intro owner id req' hl'
  cases hl : s.requests.lookup (.request owner id) with
  | some req =>
      obtain ⟨req'', hl'', hchange⟩ := exec_change h hl
      rw [hl'] at hl''
      cases hl''
      rw [hchange.sameDeposit.requestId]
      exact hk owner id req hl
  | none =>
      obtain ⟨payer, args, storedId, hd, ha⟩ := exec_makes h hl hl'
      obtain ⟨mint, hdep⟩ := exec_deposit hd h
      obtain ⟨cfg, _, hreq⟩ := hdep.lookup
      rw [ha, hreq] at hl'
      cases hl'
      cases ha
      simpa [Instruction.keepsId, hd, DepositArgs.stored] using hi

theorem idsKept_run {s₀ : State} (hinit : Initial s₀)
    (hrun : Run rt (fun i _ => i.keepsId = true) s₀ s) : s.IdsKept := by
  induction hrun with
  | nil =>
      intro owner id req hl
      rw [hinit.requests] at hl
      cases hl
  | exec _ i meets succeeds ih => exact idsKept_exec ih meets succeeds
  | outside _ move ih =>
      intro owner id req hl
      rw [move.requests] at hl
      exact ih owner id req hl

/-! ## The two paths -/

/-- The two deposits are made by one payer in the native mint, at one time
and under one config. -/
structure Twins (spl : DepositAndQueue) (sol : DepositSolAndQueue) (cfg : BridgeConfig)
    (s₁ s₂ : State) : Prop where
  native : spl.mint = nativeMint
  payer : spl.payer = sol.payer
  config₁ : s₁.config = some cfg
  config₂ : s₂.config = some cfg
  now : s₁.now = s₂.now

/-- **The two deposit paths.** Made with the same arguments they announce the
same event, queue the same computation and write the same record up to the
id, which is zero on the SPL path: the records are equal exactly if the
request's id is zero. So in every run whose SPL deposits all have the id
zero, every request has the id of its address; and an SPL deposit with
another id leaves a request that never gets it. -/
theorem deposit_paths_agree (rt : Runtime) :
    (∀ spl sol args cfg s₁ s₂ s₁' s₂', Twins spl sol cfg s₁ s₂ →
      initiateBridge rt spl args s₁ = .ok s₁' → initiateBridgeSol rt sol args s₂ = .ok s₂' →
      ∃ req₁ req₂ e c, Written (.request sol.payer.key args.requestId) req₁ e c s₁ s₁' ∧
        Written (.request sol.payer.key args.requestId) req₂ e c s₂ s₂' ∧
        req₁ = { req₂ with requestId := 0 } ∧ req₂.requestId = args.requestId ∧
        (req₁ = req₂ ↔ args.requestId = 0)) ∧
    (∀ s₀ s, Initial s₀ → Run rt (fun i _ => ∀ acc args, i = .initiateBridge acc args →
      args.requestId = 0) s₀ s → s.IdsKept) ∧
    (∀ spl args s s' s'', Reachable rt s → initiateBridge rt spl args s = .ok s' →
      Run rt (fun _ _ => True) s' s'' →
      ∃ req, s''.requests.lookup (.request spl.payer.key args.requestId) = some req ∧
        (req.requestId = args.requestId ↔ args.requestId = 0)) := by
  refine ⟨fun spl sol args cfg s₁ s₂ s₁' s₂' ht h₁ h₂ => ?_,
    fun s₀ s hinit hrun => idsKept_run hinit (hrun.mono fun i _ => (keepsId_iff i).mpr),
    fun spl args s s' s'' hreach h hrun => ?_⟩
  · have hw₁ := (initiateBridge_ok h₁).1.written ht.config₁
    have hw₂ := (initiateBridgeSol_ok h₂).1.written ht.config₂
    rw [ht.native, ht.payer, ht.now] at hw₁
    refine ⟨_, _, _, _, hw₁, hw₂, rfl, rfl, ?_⟩
    rw [args.stored_inj]
    exact eq_comm
  · have hdep := (initiateBridge_ok h).1
    obtain ⟨cfg, _, hl⟩ := hdep.lookup
    have hreach' := hreach.run ((Run.nil s).exec (.initiateBridge spl args) trivial h)
    obtain ⟨req, hl'', hk⟩ := hreach'.kept hrun hl
    refine ⟨req, hl'', ?_⟩
    rw [hk.deposit.requestId]
    exact eq_comm

/-! ### A deposit of wrapped SOL on either path -/

namespace Sample

def nativeAccount (holder : Pubkey) (amount : UInt64) : TokenAccount where
  mint := nativeMint
  owner := holder
  amount := amount
  lamports := amount.toNat + 1000
  reserve := 1000
  backed := fun _ => Nat.le_refl _

/-- The user has wrapped SOL at 20, the bridge an escrow at 21. -/
def nativeInitial : State :=
  { initial with
    tokens := (AList.insert (.key 20) (nativeAccount user.key 5000) ∅).insert (.key 21)
      (nativeAccount .signPda 0) }

theorem nativeInitial_initial : Initial nativeInitial :=
  ⟨rfl, rfl, fun _ => rfl, rfl, rfl, rfl, fun _ => rfl⟩

def splAccounts : DepositAndQueue where
  payer := user
  userToken := .key 20
  mint := nativeMint
  escrowToken := .key 21
  arciumAccepts := true

def solAccounts : DepositSolAndQueue where
  payer := user
  escrowWsol := .key 21
  arciumAccepts := true

/-- A deposit of 1000 lamports for the request with the id. -/
def depositArgs (requestId : UInt64) : DepositArgs where
  computationOffset := 0
  requestId := requestId
  clientPubkey := 0
  nonce := 0
  destinationCt0 := 0
  destinationCt1 := 0
  destinationCt2 := 0
  destinationCt3 := 0
  amount := 1000

/-- What `config` sets. -/
def settings : BridgeConfig where
  owner := owner.key
  feeBps := 30
  minFee := 10
  maxFee := 100
  claimWindowSecs := 600
  minSolverBond := 5000
  slashBps := 5000

/-- The config is set, and the deposit made on each path. -/
def bothPaths (requestId : UInt64) : Option (State × State × State) := do
  let s ← runMoves runtime (fun _ _ => true) [(0, config)] nativeInitial
  let s₁ ← (initiateBridge runtime splAccounts (depositArgs requestId) s).toOption
  let s₂ ← (initiateBridgeSol runtime solAccounts (depositArgs requestId) s).toOption
  some (s, s₁, s₂)

theorem bothPaths_some (requestId : UInt64) (h : (bothPaths requestId).isSome = true) :
    ∃ s s₁ s₂, Reachable runtime s ∧ Twins splAccounts solAccounts settings s s ∧
      initiateBridge runtime splAccounts (depositArgs requestId) s = .ok s₁ ∧
      initiateBridgeSol runtime solAccounts (depositArgs requestId) s = .ok s₂ := by
  obtain ⟨⟨s, s₁, s₂⟩, hs⟩ := Option.isSome_iff_exists.mp h
  simp only [bothPaths, Option.bind_eq_bind, Option.bind_eq_some_iff, Option.some.injEq,
    Prod.mk.injEq] at hs
  obtain ⟨s, hconfig, s₁, h₁, s₂, h₂, rfl, rfl, rfl⟩ := hs
  have hsettings : (runMoves runtime (fun _ _ => true) [(0, config)] nativeInitial).map
      State.config = some (some settings) := by decide +kernel
  rw [hconfig, Option.map_some, Option.some.injEq] at hsettings
  exact ⟨s, s₁, s₂, ⟨_, nativeInitial_initial, (run_of_moves (.nil _) hconfig).mono
    fun _ _ _ => trivial⟩, ⟨rfl, rfl, hsettings, hsettings, rfl⟩, ok_of_toOption h₁,
    ok_of_toOption h₂⟩

end Sample

theorem deposit_paths_agree_sample :
    (∃ s s₁ s₂ req e c, Written (.request Sample.user.key 0) req e c s s₁ ∧
      Written (.request Sample.user.key 0) req e c s s₂) ∧
    (∃ s : State, s.requests.lookup (.request Sample.user.key 7) ≠ none ∧ s.IdsKept) ∧
    ∃ (s : State) (req : BridgeRequest),
      s.requests.lookup (.request Sample.user.key 7) = some req ∧ req.requestId ≠ 7 := by
  obtain ⟨hpaths, hruns, hzero⟩ := deposit_paths_agree Sample.runtime
  refine ⟨?_, ?_, ?_⟩
  · obtain ⟨s, s₁, s₂, hreach, htwins, h₁, h₂⟩ :=
      Sample.bothPaths_some 0 (by decide +kernel)
    obtain ⟨req₁, req₂, e, c, hw₁, hw₂, _, _, hiff⟩ := hpaths _ _ _ _ _ _ _ _ htwins h₁ h₂
    have heq : req₁ = req₂ := hiff.mpr rfl
    exact ⟨s, s₁, s₂, req₁, e, c, hw₁, heq ▸ hw₂⟩
  · have hmoves : (runMoves Sample.runtime (fun i _ => i.keepsId)
        [(0, Sample.config), (0, .initiateBridgeSol Sample.solAccounts (Sample.depositArgs 7))]
        Sample.nativeInitial).map (fun s =>
          (s.requests.lookup (.request Sample.user.key 7)).isSome) = some true := by
      decide +kernel
    obtain ⟨s, hs, hsome⟩ := Option.map_eq_some_iff.mp hmoves
    refine ⟨s, ?_, hruns _ s Sample.nativeInitial_initial
      ((run_of_moves (.nil _) hs).mono fun i _ => (keepsId_iff i).mp)⟩
    intro hnone
    rw [hnone] at hsome
    cases hsome
  · obtain ⟨s, s₁, s₂, hreach, htwins, h₁, h₂⟩ :=
      Sample.bothPaths_some 7 (by decide +kernel)
    obtain ⟨req, hl, hiff⟩ := hzero _ _ _ _ s₁ hreach h₁ (.nil s₁)
    exact ⟨s₁, req, hl, fun hid => absurd (hiff.mp hid) (by decide)⟩

/-- With the id 7 the two paths leave two different records. -/
theorem deposit_paths_differ :
    ¬ ∀ rt spl sol args cfg s₁ s₂ s₁' s₂', Reachable rt s₁ → Reachable rt s₂ →
      Twins spl sol cfg s₁ s₂ →
      initiateBridge rt spl args s₁ = .ok s₁' → initiateBridgeSol rt sol args s₂ = .ok s₂' →
      s₁'.requests.lookup (.request sol.payer.key args.requestId) =
        s₂'.requests.lookup (.request sol.payer.key args.requestId) := by
  intro hall
  obtain ⟨s, s₁, s₂, hreach, htwins, h₁, h₂⟩ :=
    Sample.bothPaths_some 7 (by decide +kernel)
  have heq := hall _ _ _ _ _ _ _ _ _ hreach hreach htwins h₁ h₂
  have hw₁ := ((initiateBridge_ok h₁).1.written htwins.config₁).request
  have hw₂ := ((initiateBridgeSol_ok h₂).1.written htwins.config₂).request
  have hrecords := Option.some.inj (hw₁.symm.trans (heq.trans hw₂))
  have hid : (0 : UInt64) = 7 := congrArg BridgeRequest.requestId hrecords
  exact absurd hid (by decide)

end LunarysBridge.Solana
