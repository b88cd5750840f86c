/-
LunarysBridge.Solana.Config — is the config one the program can run on?

The comments of `BridgeConfig` give the ranges of its fields, and the
admin functions of the contract on EVM enforce them. `init_config` and
`set_config` store whatever they are given. `Valid` says that a config is in
range; `inRange` says of an instruction that what it writes keeps it there,
read from its arguments and, where one of them is left out, from the config
it changes.
-/
import LunarysBridge.Solana.Simulation

namespace LunarysBridge.Solana

variable {rt : Runtime} {s s' : State}

/-! ## The ranges -/

structure BridgeConfig.Valid (cfg : BridgeConfig) : Prop where
  /-- `0..=1000 (10%)` -/
  feeBps : cfg.feeBps.toNat ≤ 1000
  /-- `0..=10000` -/
  slashBps : cfg.slashBps.toNat ≤ 10000
  fees : cfg.minFee < cfg.maxFee
  window : 0 < cfg.claimWindowSecs

structure ConfigArgs.InRange (args : ConfigArgs) : Prop where
  feeBps : args.feeBps.toNat ≤ 1000
  slashBps : args.slashBps.toNat ≤ 10000
  fees : args.minFee < args.maxFee
  window : 0 < args.claimWindowSecs

/-- The new fee limits are in order, each next to the other one's new or
present value. -/
def BridgeConfig.feesInOrder (cfg : BridgeConfig) : Option UInt64 → Option UInt64 → Prop
  | none, none => True
  | some minFee, none => minFee < cfg.maxFee
  | none, some maxFee => cfg.minFee < maxFee
  | some minFee, some maxFee => minFee < maxFee

instance (cfg : BridgeConfig) : (minFee maxFee : Option UInt64) →
    Decidable (cfg.feesInOrder minFee maxFee)
  | none, none => .isTrue trivial
  | some minFee, none => inferInstanceAs (Decidable (minFee < cfg.maxFee))
  | none, some maxFee => inferInstanceAs (Decidable (cfg.minFee < maxFee))
  | some minFee, some maxFee => inferInstanceAs (Decidable (minFee < maxFee))

structure ConfigChange.InRange (c : ConfigChange) (cfg : BridgeConfig) : Prop where
  feeBps : ∀ v ∈ c.feeBps, v.toNat ≤ 1000
  slashBps : ∀ v ∈ c.slashBps, v.toNat ≤ 10000
  fees : cfg.feesInOrder c.minFee c.maxFee
  window : ∀ v ∈ c.claimWindowSecs, 0 < v

instance (args : ConfigArgs) : Decidable args.InRange :=
  decidable_of_iff (args.feeBps.toNat ≤ 1000 ∧ args.slashBps.toNat ≤ 10000 ∧
      args.minFee < args.maxFee ∧ 0 < args.claimWindowSecs)
    ⟨fun ⟨hfee, hslash, hfees, hwindow⟩ => ⟨hfee, hslash, hfees, hwindow⟩,
      fun h => ⟨h.feeBps, h.slashBps, h.fees, h.window⟩⟩

-- the arguments are options: no field type is searched
instance (c : ConfigChange) (cfg : BridgeConfig) : Decidable (c.InRange cfg) :=
  letI : Decidable (∀ v ∈ c.feeBps, v.toNat ≤ 1000) := Option.decidableForallMem c.feeBps
  letI : Decidable (∀ v ∈ c.slashBps, v.toNat ≤ 10000) := Option.decidableForallMem c.slashBps
  letI : Decidable (∀ v ∈ c.claimWindowSecs, 0 < v) :=
    Option.decidableForallMem c.claimWindowSecs
  decidable_of_iff ((∀ v ∈ c.feeBps, v.toNat ≤ 1000) ∧ (∀ v ∈ c.slashBps, v.toNat ≤ 10000) ∧
      cfg.feesInOrder c.minFee c.maxFee ∧ ∀ v ∈ c.claimWindowSecs, 0 < v)
    ⟨fun ⟨hfee, hslash, hfees, hwindow⟩ => ⟨hfee, hslash, hfees, hwindow⟩,
      fun h => ⟨h.feeBps, h.slashBps, h.fees, h.window⟩⟩

/-- What the instruction writes to the config is in range. -/
def inRange : Instruction → State → Prop
  | .initConfig _ args, _ => args.InRange
  | .setConfig _ c, s => ∀ cfg ∈ s.config, c.InRange cfg
  | _, _ => True

instance : (i : Instruction) → (s : State) → Decidable (inRange i s)
  | .initConfig _ args, _ => inferInstanceAs (Decidable args.InRange)
  | .setConfig _ c, s => inferInstanceAs (Decidable (∀ cfg ∈ s.config, c.InRange cfg))
  | .initiateBridge .., _ | .initiateBridgeSol .., _ | .claimBridge .., _
  | .releaseExpiredClaim .., _ | .verifyAndSettleSpl .., _ | .deliverTokens .., _
  | .deliverTokensSol .., _ => .isTrue trivial

def State.ConfigValid (s : State) : Prop := ∀ cfg, s.config = some cfg → cfg.Valid

/-! ## What the config instructions write -/

theorem initConfig_config {payer : Signer} {args : ConfigArgs}
    (h : initConfig rt payer args s = .ok s') : ∃ cfg, s'.config = some cfg ∧
      (cfg.Valid ↔ args.InRange) := by
  obtain ⟨_, _, h⟩ := bind_ok h
  obtain ⟨_, _, h⟩ := bind_ok h
  cases h
  refine ⟨_, rfl, ?_, ?_⟩
  · intro hv
    exact ⟨hv.feeBps, hv.slashBps, hv.fees, hv.window⟩
  · intro hr
    exact ⟨hr.feeBps, hr.slashBps, hr.fees, hr.window⟩

/-- A parameter that was fine is fine after the change exactly if the new
value is. -/
theorem getD_iff {α : Type} {p : α → Prop} {a : α} (o : Option α) (ha : p a) :
    p (o.getD a) ↔ ∀ v ∈ o, p v := by
  cases o with
  | none => simpa using ha
  | some v => simp

theorem feesInOrder_iff {cfg : BridgeConfig} (minFee maxFee : Option UInt64)
    (h : cfg.minFee < cfg.maxFee) :
    minFee.getD cfg.minFee < maxFee.getD cfg.maxFee ↔ cfg.feesInOrder minFee maxFee := by
  cases minFee <;> cases maxFee <;> simp [BridgeConfig.feesInOrder, h]

theorem setConfig_config {authority : Signer} {c : ConfigChange}
    (h : setConfig authority c s = .ok s') : ∃ cfg cfg', s.config = some cfg ∧
      s'.config = some cfg' ∧ (cfg.Valid → (cfg'.Valid ↔ c.InRange cfg)) := by
  obtain ⟨cfg, hcfg, h⟩ := bind_ok h
  obtain ⟨_, _, h⟩ := bind_ok h
  cases h
  refine ⟨cfg, _, okOr_ok hcfg, rfl, fun hv => ?_⟩
  have hfee := getD_iff (p := fun v : UInt16 => v.toNat ≤ 1000) c.feeBps hv.feeBps
  have hslash := getD_iff (p := fun v : UInt16 => v.toNat ≤ 10000) c.slashBps hv.slashBps
  have hwindow := getD_iff (p := fun v : Int => 0 < v) c.claimWindowSecs hv.window
  have hfees := feesInOrder_iff c.minFee c.maxFee hv.fees
  constructor
  · intro hv'
    exact ⟨hfee.mp hv'.feeBps, hslash.mp hv'.slashBps, hfees.mp hv'.fees,
      hwindow.mp hv'.window⟩
  · intro hr
    exact ⟨hfee.mpr hr.feeBps, hslash.mpr hr.slashBps, hfees.mpr hr.fees,
      hwindow.mpr hr.window⟩

/-- **One step.** From a config in range, the next one is in range exactly if
what the instruction writes is. -/
theorem configValid_exec_iff {i : Instruction} (hv : s.ConfigValid)
    (h : exec rt i s = .ok s') : s'.ConfigValid ↔ inRange i s := by
  cases i with
  | initConfig payer args =>
      obtain ⟨cfg, hcfg, hiff⟩ := initConfig_config h
      simp [State.ConfigValid, hcfg, hiff, inRange]
  | setConfig authority c =>
      obtain ⟨cfg, cfg', hcfg, hcfg', hiff⟩ := setConfig_config h
      simp [State.ConfigValid, hcfg, hcfg', hiff (hv cfg hcfg), inRange]
  | _ =>
      rcases vaultsKept_exec h with hk | ⟨_, _, hi⟩ | ⟨_, _, hi⟩
      · refine iff_of_true ?_ trivial
        rw [State.ConfigValid, hk.config]
        exact hv
      · cases hi
      · cases hi

theorem configValid_run {s₀ : State} (hinit : Initial s₀) (hrun : Run rt inRange s₀ s) :
    s.ConfigValid := by
  induction hrun with
  | nil => simp [State.ConfigValid, hinit.config]
  | exec _ i meets succeeds ih => exact (configValid_exec_iff ih succeeds).mpr meets
  | outside _ move ih =>
      rw [State.ConfigValid, move.config]
      exact ih

/-! ## What claims and releases have of it -/

/-- A slash of at most all. -/
theorem slashOf_le (bond : UInt64) {slashBps : UInt16} (h : slashBps.toNat ≤ 10000) :
    slashOf bond slashBps ≤ bond.toNat := by
  refine Nat.div_le_of_le_mul ?_
  rw [Nat.mul_comm]
  exact Nat.mul_le_mul_right _ h

/-- A config in range, and what it is for: a claim has time before it, and no
bond is too small for its slash. -/
structure State.Usable (rt : Runtime) (s : State) : Prop where
  valid : s.ConfigValid
  claims : ∀ acc offset requestId solverX25519 s',
    claimBridge rt acc offset requestId solverX25519 s = .ok s' →
    ∃ req, s'.requests.lookup (.request acc.requestOwner requestId) = some req ∧
      s.now < req.claimDeadline
  slashes : ∀ cfg addr req, s.config = some cfg → s.requests.lookup addr = some req →
    slashOf req.bondLamports cfg.slashBps ≤ req.bondLamports.toNat
  /-- Where the vault can be debited and has the bond, an expired claim is
  released. -/
  releases : rt.Permits → ∀ acc requestId cfg req, s.config = some cfg →
    s.requests.lookup (.request acc.requestOwner requestId) = some req →
    acc.slashCollector = cfg.owner → req.claimed = true → s.now > req.claimDeadline →
    acc.prevSolver = req.solver → 0 < req.bondLamports →
    req.bondLamports.toNat ≤ s.lamports (.bondVault requestId) →
    ∃ s', releaseExpiredClaim rt acc requestId s = .ok s'

theorem claim_deadline {acc : ClaimRequest} {offset requestId : UInt64}
    {solverX25519 : Bytes32} (hv : s.ConfigValid)
    (h : claimBridge rt acc offset requestId solverX25519 s = .ok s') :
    ∃ req, s'.requests.lookup (.request acc.requestOwner requestId) = some req ∧
      s.now < req.claimDeadline := by
  obtain ⟨cfg, req, deadline, hcfg, _, _, _, _, hdeadline, hreq, _⟩ := claimBridge_ok h
  refine ⟨_, by rw [hreq, AList.lookup_insert], ?_⟩
  have hwindow := (hv cfg hcfg).window
  unfold checkedAddI64 at hdeadline
  split at hdeadline
  · cases hdeadline
    show s.now < s.now + cfg.claimWindowSecs
    omega
  · cases hdeadline

theorem State.ConfigValid.usable (hv : s.ConfigValid) : s.Usable rt where
  valid := hv
  claims := fun _ _ _ _ _ h => claim_deadline hv h
  slashes := fun cfg _ req hcfg _ => slashOf_le req.bondLamports (hv cfg hcfg).slashBps
  releases := by
    intro hpermits acc requestId cfg req hcfg hl hcollector hclaimed hdue hsolver hbond hvault
    have hreleasable : Releasable rt acc requestId cfg req s :=
      { config := hcfg
        found := hl
        system := (hpermits _).1
        collector := hcollector
        claimed := hclaimed
        overdue := hdue
        solver := hsolver
        bond := hbond
        slash := slashOf_le req.bondLamports (hv cfg hcfg).slashBps
        vault := hvault
        permitted := (hpermits _).2 }
    exact hreleasable.succeeds

/-- **Config validity.** In every run whose config instructions write what is
in range, every state is usable; and in a usable state, the next one is
usable exactly if the instruction writes what is in range. -/
theorem config_validity (rt : Runtime) :
    (∀ s₀ s, Initial s₀ → Run rt inRange s₀ s → s.Usable rt) ∧
    ∀ i s s', s.Usable rt → exec rt i s = .ok s' → (s'.Usable rt ↔ inRange i s) := by
  refine ⟨fun s₀ s hinit hrun => (configValid_run hinit hrun).usable, ?_⟩
  intro i s s' hs h
  rw [← configValid_exec_iff hs.valid h]
  exact ⟨fun hs' => hs'.valid, fun hv => hv.usable⟩

namespace Sample

/-- The owner raises the lower fee limit, and nothing else. -/
def raised : Instruction :=
  .setConfig owner
    { feeBps := none
      minFee := some 50
      maxFee := none
      claimWindowSecs := none
      minSolverBond := none
      slashBps := none }

/-- A config that is out of every range. -/
def configOutOfRange : Instruction :=
  .initConfig owner
    { feeBps := 5000
      minFee := 100
      maxFee := 10
      claimWindowSecs := -5
      minSolverBond := 5000
      slashBps := 20000 }

/-- The config, and what it says of the claim of the user's request. -/
structure ConfigReport where
  feeBps : UInt16
  minFee : UInt64
  maxFee : UInt64
  slash : Nat
  bond : UInt64
  deadline : Int
  now : Int
  deriving DecidableEq

def configReport (s : State) : Option ConfigReport := do
  let cfg ← s.config
  let req ← s.requests.lookup request
  some
    { feeBps := cfg.feeBps
      minFee := cfg.minFee
      maxFee := cfg.maxFee
      slash := slashOf req.bondLamports cfg.slashBps
      bond := req.bondLamports
      deadline := req.claimDeadline
      now := s.now }

end Sample

theorem config_validity_raised : ∃ s, Run Sample.runtime inRange Sample.initial s ∧
    s.Usable Sample.runtime ∧ s.config.map BridgeConfig.minFee = some 50 := by
  have hrun : (runMoves Sample.runtime (fun i s => inRange i s)
      [(0, Sample.config), (0, Sample.raised)] Sample.initial).map
        (fun s => s.config.map BridgeConfig.minFee) = some (some 50) := by decide +kernel
  obtain ⟨s, hs, hminFee⟩ := Option.map_eq_some_iff.mp hrun
  have hmoves : Run Sample.runtime inRange Sample.initial s :=
    (run_of_moves (.nil _) hs).mono fun i s h => by simpa using h
  exact ⟨s, hmoves, (config_validity _).1 _ _ Sample.initial_initial hmoves, hminFee⟩

/-- A config out of every range is accepted: the claim ends before it is made,
and its slash is more than the bond. -/
theorem config_not_valid :
    (¬ ∀ rt s₀ s, Initial s₀ → Run rt (fun _ _ => True) s₀ s → s.Usable rt) ∧
    ∃ s, Run Sample.runtime (fun _ _ => True) Sample.initial s ∧
      Sample.configReport s = some
        { feeBps := 5000
          minFee := 100
          maxFee := 10
          slash := 10000
          bond := 5000
          deadline := 95
          now := 100 } := by
  have hrun : (runMoves Sample.runtime (fun _ _ => true)
      [(0, Sample.configOutOfRange), (0, Sample.deposit (.key 21)),
        (0, Sample.claim Sample.solver)] Sample.initial).map Sample.configReport = some (some
        { feeBps := 5000
          minFee := 100
          maxFee := 10
          slash := 10000
          bond := 5000
          deadline := 95
          now := 100 }) := by decide +kernel
  obtain ⟨s, hs, hreport⟩ := Option.map_eq_some_iff.mp hrun
  have hmoves : Run Sample.runtime (fun _ _ => True) Sample.initial s :=
    (run_of_moves (.nil _) hs).mono fun _ _ _ => trivial
  refine ⟨fun hall => ?_, s, hmoves, hreport⟩
  have hvalid := (hall _ _ s Sample.initial_initial hmoves).valid
  simp only [Sample.configReport, Option.bind_eq_bind, Option.bind_eq_some_iff,
    Option.some.injEq] at hreport
  obtain ⟨cfg, hcfg, req, _, heq⟩ := hreport
  have hfees := (hvalid cfg hcfg).fees
  injection heq with _ hmin hmax
  rw [hmin, hmax] at hfees
  exact absurd hfees (by decide)

end LunarysBridge.Solana
