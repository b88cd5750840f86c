/-
LunarysBridge.Cross.Parity — one request claimed on both chains.

The same claims, releases and settlements are made at the same times on the
contract and on the program, which have the same terms. Both refine the
machine of bonded claims as far as an operation is clear, so they accept the
same and agree on the request (`claim_parity`). Two operations are not
clear: one at the deadline of a claim, which has ended on the contract only;
and a claim that takes over an expired one, which splits its bond on the
contract only. Nor is a claim without bond, which the program does not take.
-/
import LunarysBridge.Evm.Simulation
import LunarysBridge.Solana.Simulation

namespace LunarysBridge

/-- A request on both chains, and the solvers who claim it. The runtime lets
the vault pay. -/
structure Mirror (ι : Type) where
  ch : Evm.Chain
  id : Nat
  rt : Solana.Runtime
  owner : Solana.Pubkey
  requestId : UInt64
  address : ι → Evm.Address
  wallet : ι → Solana.Signer
  address_inj : Function.Injective address
  address_ne : ∀ i, address i ≠ 0
  wallet_inj : Function.Injective wallet
  permits : rt.Permits

namespace Mirror

variable {ι : Type} (M : Mirror ι)

def request : Solana.Pubkey := .request M.owner M.requestId

/-! ## Both runs -/

/-- The contract's answer to the transaction at a time; `none` when it
reverts. -/
def evm (time : Nat) (t : Evm.Tx M.ch.self) (s : Evm.State) : Option Evm.State :=
  Evm.runs M.ch t (Evm.entry M.ch t { s with now := time })

def solana (time : Nat) (i : Solana.Instruction) (z : Solana.State) : Option Solana.State :=
  (Solana.exec M.rt i (z.at time)).toOption

/-- The transaction and the instruction both make the operation at a time. -/
structure Makes (time : Nat) (op : Bonded.Op ι) (t : Evm.Tx M.ch.self)
    (i : Solana.Instruction) (s : Evm.State) (z : Solana.State) : Prop where
  later : s.now ≤ time ∧ z.now ≤ time
  evm : Evm.Makes M.ch M.id M.address t { s with now := time } op
  solana : Solana.Makes M.rt M.owner M.requestId M.wallet i (z.at time) op

/-- Bond, window and share are the same. -/
structure SameTerms (s : Evm.State) (cfg : Solana.BridgeConfig) : Prop where
  bond : s.minSolverBond = cfg.minSolverBond.toNat
  window : (s.claimWindow : Int) = cfg.claimWindowSecs
  bps : s.slashBps = cfg.slashBps.toNat

/-- A request that was not claimed yet, on both chains; the slash collector
takes ETH. -/
structure Start (s : Evm.State) (z : Solana.State) : Prop where
  evm : Evm.Reachable M.ch s
  solana : Solana.Reachable M.rt z
  terms : ∃ cfg, z.config = some cfg ∧ SameTerms s cfg
  collector : s.slashCollector ≠ 0 ∧ s.slashCollector ≠ M.ch.self
  evmRequest : (s.bridgeRequests M.id).sender ≠ 0 ∧
    (s.bridgeRequests M.id).finalized = false ∧ (s.requestClaim M.id).solver = 0
  solanaRequest : ∃ req, z.requests.lookup M.request = some req ∧ req.finalized = false ∧
    req.claimed = false
  evmLog : ∀ e ∈ s.log, e.ends M.id = false
  solanaLog : ∀ e ∈ z.log, e.ends M.request M.requestId = false

/-- The same operations on both chains. One that is refused changes nothing;
and others do what they can in between. -/
inductive Run (ok : Nat → Bonded.Op ι → Evm.State → Prop) : Evm.State → Solana.State → Prop where
  | start {s : Evm.State} {z : Solana.State} (h : M.Start s z) : Run ok s z
  | step {s : Evm.State} {z : Solana.State} (before : Run ok s z) (time : Nat)
      (op : Bonded.Op ι) (t : Evm.Tx M.ch.self) (i : Solana.Instruction)
      (makes : M.Makes time op t i s z) (meets : ok time op s) :
      Run ok ((M.evm time t s).getD { s with now := time })
        ((M.solana time i z).getD (z.at time))
  | evmOutside {s s' : Evm.State} {z : Solana.State} (before : Run ok s z)
      (move : Evm.Outside M.ch s s') : Run ok s' z
  | solanaOutside {s : Evm.State} {z z' : Solana.State} (before : Run ok s z)
      (move : Solana.Outside z z') : Run ok s z'

/-! ## Agreement -/

/-- The two sides agree on the request, and on what every solver was refunded
and lost. -/
structure Agree (s : Evm.State) (z : Solana.State) : Prop where
  request : ∃ req, z.requests.lookup M.request = some req ∧
    (s.bridgeRequests M.id).finalized = req.finalized ∧
    ((s.requestClaim M.id).solver = 0 ↔ req.claimed = false) ∧
    (∀ i, (s.requestClaim M.id).solver = M.address i ↔
      req.claimed = true ∧ req.solver = (M.wallet i).key) ∧
    ((s.requestClaim M.id).deadline : Int) = req.claimDeadline ∧
    (s.requestClaim M.id).bond = req.bondLamports.toNat
  refunded : ∀ i, s.refunded M.id (M.address i) = z.refunded M.request (M.wallet i).key
  slashed : ∀ i, s.slashed M.id (M.address i) = z.slashed M.requestId (M.wallet i).key

/-- Both sides know when the claim ends and what becomes of it. -/
def Clear (time : Nat) : Bonded.Op ι → Evm.State → Prop
  | .claim _, s => (s.bridgeRequests M.id).finalized = false →
      ((s.requestClaim M.id).solver = 0 →
        0 < s.minSolverBond ∧ time + s.claimWindow < 2 ^ 63) ∧
      ((s.requestClaim M.id).solver ≠ 0 → time < (s.requestClaim M.id).deadline)
  | .release, s => (s.requestClaim M.id).solver ≠ 0 → time ≠ (s.requestClaim M.id).deadline
  | .settle, _ => True

instance (time : Nat) (op : Bonded.Op ι) (s : Evm.State) : Decidable (M.Clear time op s) :=
  match op with
  | .claim _ => inferInstanceAs (Decidable (_ → _))
  | .release => inferInstanceAs (Decidable (_ → _))
  | .settle => inferInstanceAs (Decidable True)

/-- Both sides show one position. -/
def Related (s : Evm.State) (z : Solana.State) : Prop :=
  ∃ m p, Evm.Shows M.ch M.id M.address m s p ∧
    Solana.Shows M.rt M.owner M.requestId M.wallet m z p

variable {M} {s s' : Evm.State} {z z' : Solana.State}

theorem Start.related (h : M.Start s z) : M.Related s z := by
  obtain ⟨cfg, hcfg, hterms⟩ := h.terms
  obtain ⟨hknown, hopen, hsolver⟩ := h.evmRequest
  obtain ⟨req, hl, hopen', hfree⟩ := h.solanaRequest
  have hv := h.evm.valid
  refine ⟨⟨s.minSolverBond, s.claimWindow, s.slashBps, hv.sound.bps⟩,
    ⟨false, none, fun _ => 0, fun _ => 0⟩,
    ⟨h.evm, hknown, rfl, rfl, rfl, h.collector, hopen, hv.lifecycle.free M.id hsolver,
      fun i => ?_, fun i => (Evm.unpaid_of_not_ends h.evmLog _).2.2⟩,
    ⟨h.solana, ⟨cfg, hcfg, hterms.bond.symm, hterms.window.symm, hterms.bps.symm⟩,
      ⟨req, hl, hopen', hfree⟩, fun hne => absurd rfl hne,
      fun i => (Solana.unpaid_of_not_ends h.solanaLog _).1,
      fun i => (Solana.unpaid_of_not_ends h.solanaLog _).2⟩⟩
  obtain ⟨hsent, hcollected, _⟩ := Evm.unpaid_of_not_ends h.evmLog (M.address i)
  rw [hsent, hcollected]

/-- What both show they agree on. -/
theorem Related.agree (h : M.Related s z) : M.Agree s z := by
  obtain ⟨m, p, hs, hz⟩ := h
  obtain ⟨req, hl, hfinalized, hclaim'⟩ := hz.request
  have hclaim := hs.claim
  refine ⟨⟨req, hl, hs.finalized.trans hfinalized.symm, ?_⟩, fun i => ?_, fun i => ?_⟩
  · have hconsistent := hz.reachable.consistent _ _ hl
    cases hp : p.claim with
    | none =>
        rw [hp] at hclaim hclaim'
        have hfree : req.claimed = false := hclaim'
        have hbond : req.bondLamports.toNat = 0 := by
          by_contra hne
          have hpos : 0 < req.bondLamports := UInt64.lt_iff_toNat_lt.mpr (Nat.pos_of_ne_zero hne)
          exact Bool.false_ne_true (hfree.symm.trans (hconsistent.bond.mpr hpos))
        rw [show s.requestClaim M.id = Evm.Claim.empty from hclaim, hconsistent.deadline hfree,
          hbond]
        refine ⟨iff_of_true rfl hfree, fun i => iff_of_false (Ne.symm (M.address_ne i)) ?_, rfl,
          rfl⟩
        exact fun h => Bool.false_ne_true (hfree.symm.trans h.1)
    | some k =>
        rw [hp] at hclaim hclaim'
        obtain ⟨hsolver, hdeadline, hbond⟩ := hclaim
        obtain ⟨hclaimed, hsolver', hdeadline', hbond'⟩ := hclaim'
        rw [hsolver, hdeadline, hbond, hdeadline', hbond', hclaimed, hsolver']
        refine ⟨iff_of_false (M.address_ne _) (by simp), fun i => ?_, rfl, rfl⟩
        rw [M.address_inj.eq_iff, Solana.wallet_key M.wallet_inj]
        simp
  · have hrefunded := hs.refunded i
    have hrefunded' := hz.refunded i
    unfold Evm.State.refunded request
    omega
  · rw [hs.slashed i]
    exact (hz.slashed i).symm

/-- It is clear to the contract. -/
theorem Clear.evm {time : Nat} {op : Bonded.Op ι} {m : Bonded.Terms} (h : M.Clear time op s)
    (hwindow : s.claimWindow = m.window) : Evm.Clear M.id m { s with now := time } op := by
  cases op with
  | claim i =>
      intro hopen
      obtain ⟨hfree, hlive⟩ := h hopen
      show ((s.requestClaim M.id).solver = 0 ∨ (s.requestClaim M.id).deadline < time →
        time + m.window < 2 ^ 64) ∧
          ((s.requestClaim M.id).solver ≠ 0 → time ≠ (s.requestClaim M.id).deadline)
      by_cases hsolver : (s.requestClaim M.id).solver = 0
      · have hroom := (hfree hsolver).2
        exact ⟨fun _ => by omega, fun hheld => absurd hsolver hheld⟩
      · have hin := hlive hsolver
        refine ⟨fun hor => ?_, fun _ => by omega⟩
        rcases hor with hzero | hdue
        · exact absurd hzero hsolver
        · omega
  | release => exact h
  | settle => trivial

/-- And to the program. -/
theorem Clear.solana {time : Nat} {op : Bonded.Op ι} {m : Bonded.Terms}
    {p : Bonded.Position ι} (h : M.Clear time op s)
    (hs : Evm.Shows M.ch M.id M.address m { s with now := time } p) : Solana.Clear m p time op := by
  have hclaim := hs.claim
  cases op with
  | claim i =>
      intro hopen
      obtain ⟨hfree, hlive⟩ := h (hs.finalized.trans hopen)
      refine ⟨fun hp => ?_, fun k hp => ?_⟩
      · rw [hp] at hclaim
        have hterms := hfree (congrArg Evm.Claim.solver hclaim)
        rwa [show s.minSolverBond = m.bond from hs.bond,
          show s.claimWindow = m.window from hs.window] at hterms
      · rw [hp] at hclaim
        obtain ⟨hsolver, hdeadline, _⟩ := hclaim
        have hheld : (s.requestClaim M.id).solver ≠ 0 := by
          rw [show (s.requestClaim M.id).solver = M.address k.solver from hsolver]
          exact M.address_ne k.solver
        have hin := hlive hheld
        simp only at hdeadline
        omega
  | _ => trivial

/-- An operation that is clear is answered alike, and agreement is kept. -/
theorem Related.step (h : M.Related s z) {time : Nat} {op : Bonded.Op ι}
    {t : Evm.Tx M.ch.self} {i : Solana.Instruction} (hmakes : M.Makes time op t i s z)
    (hclear : M.Clear time op s) :
    (M.evm time t s).isSome = (M.solana time i z).isSome ∧
      M.Related ((M.evm time t s).getD { s with now := time })
        ((M.solana time i z).getD (z.at time)) := by
  classical
  obtain ⟨m, p, hs, hz⟩ := h
  have hs := hs.tick hmakes.later.1
  have hz := hz.outside (.at z hmakes.later.2)
  have hclaim := hs.claim
  obtain ⟨cfg, _, hterms⟩ := hz.config
  have hproduct : m.bond * m.slashBps < 2 ^ 256 := by
    have hbond : m.bond < 2 ^ 64 := by
      rw [← hterms.bond]
      exact cfg.minSolverBond.toNat_lt
    have hle : m.bond * m.slashBps ≤ 2 ^ 64 * 10000 :=
      Nat.mul_le_mul (Nat.le_of_lt hbond) m.bounded
    omega
  have hrel := Evm.simulates M.address_inj M.address_ne hproduct hs hmakes.evm
    (hclear.evm hs.window)
  have hrel' := Solana.simulates M.wallet_inj M.permits rfl hz hmakes.solana (hclear.solana hs)
  refine ⟨Bonded.isSome_eq_of_rel hrel hrel', m, _, Bonded.rel_getD hrel hs,
    Bonded.rel_getD hrel' hz⟩

/-- **Claim parity.** In every run of the same operations on both chains that
are all clear, the two sides agree in every state, and accept the same
operations. -/
theorem claim_parity (h : M.Run M.Clear s z) :
    M.Agree s z ∧ ∀ time op t i, M.Makes time op t i s z → M.Clear time op s →
      (M.evm time t s).isSome = (M.solana time i z).isSome := by
  have hrelated : M.Related s z := by
    induction h with
    | start h => exact h.related
    | step _ time op t i makes meets ih => exact (ih.step makes meets).2
    | evmOutside _ move ih =>
        obtain ⟨m, p, hs, hz⟩ := ih
        exact ⟨m, p, hs.outside move, hz⟩
    | solanaOutside _ move ih =>
        obtain ⟨m, p, hs, hz⟩ := ih
        exact ⟨m, p, hs, hz.outside move⟩
  exact ⟨hrelated.agree, fun time op t i makes meets => (hrelated.step makes meets).1⟩

/-! ### One request on given inputs -/

namespace Sample

/-- The owner sets the terms of the program, and the user deposits. -/
def evmCalls : List (Evm.Tx Evm.Sample.chain.self) :=
  [Evm.Sample.call 3 0 (.updateMinSolverBond 5000) Evm.Sample.owner_ne,
    Evm.Sample.call 3 0 (.updateClaimWindow 600) Evm.Sample.owner_ne,
    Evm.Sample.call 3 0 (.authorizeNode 5) Evm.Sample.owner_ne,
    Evm.Sample.call 4 0 (.initiateBridge 9 (10 ^ 18) 77 []) Evm.Sample.user_ne]

def evmDeposit : Evm.State := (Evm.Sample.after evmCalls).get (by decide +kernel)

def solanaMoves : Option Solana.State :=
  Solana.runMoves Solana.Sample.runtime (fun _ _ => true)
    [(0, Solana.Sample.config), (0, Solana.Sample.deposit (.key 21))] Solana.Sample.initial

def solanaDeposit : Solana.State := solanaMoves.get (by decide +kernel)

/-- Both deposits, and the one solver. -/
def mirror : Mirror Unit where
  ch := Evm.Sample.chain
  id := 1
  rt := Solana.Sample.runtime
  owner := Solana.Sample.user.key
  requestId := 7
  address := fun _ => 5
  wallet := fun _ => Solana.Sample.solver
  address_inj := fun _ _ _ => rfl
  address_ne := fun _ => by decide
  wallet_inj := fun _ _ _ => rfl
  permits := fun _ => ⟨rfl, rfl⟩

theorem start : mirror.Start evmDeposit solanaDeposit where
  evm := Evm.Sample.reachable_after (Option.some_get _).symm
  solana := ⟨Solana.Sample.initial, Solana.Sample.initial_initial,
    (Solana.run_of_moves (.nil _) (Option.some_get _).symm).mono
      fun _ _ _ => trivial⟩
  terms := by
    have hcfg : solanaDeposit.config = some Solana.Sample.cfg := rfl
    exact ⟨_, hcfg, by decide +kernel, by decide +kernel, by decide +kernel⟩
  collector := by decide +kernel
  evmRequest := by decide +kernel
  solanaRequest := by
    have hreq : (solanaDeposit.requests.lookup mirror.request).any
        (fun req => req.finalized = false ∧ req.claimed = false) = true := rfl
    obtain ⟨req, hl, h⟩ := (Option.any_eq_true _ _).mp hreq
    exact ⟨req, hl, by simpa using h⟩
  evmLog := by decide +kernel
  solanaLog := by decide +kernel

/-- The solver claims. -/
def evmClaim : Evm.Tx mirror.ch.self := Evm.Sample.call 5 5000 (.claimBridge 1) Evm.Sample.solver_ne

def solanaClaim : Solana.Instruction := Solana.Sample.claim Solana.Sample.solver

def evmRelease : Evm.Tx mirror.ch.self :=
  Evm.Sample.call 4 0 (.releaseExpiredClaim 1) Evm.Sample.user_ne

theorem makes_claim {time : Nat} {s : Evm.State} {z : Solana.State}
    (later : s.now ≤ time ∧ z.now ≤ time)
    (hs : 5000 = s.minSolverBond ∧ s.authorizedNodes 5 = true ∧ 5000 ≤ s.eth 5)
    (hz : z.tokens.lookup Solana.Sample.solver.key = none ∧
      z.config = some Solana.Sample.cfg ∧ 7000 ≤ z.lamports Solana.Sample.solver.key) :
    mirror.Makes time (.claim ()) evmClaim solanaClaim s z := by
  obtain ⟨hplain, hcfg, hfunds⟩ := hz
  refine ⟨later, ⟨rfl, rfl, hs⟩, _, 0, 0, rfl, rfl, rfl, rfl, hplain, ?_⟩
  intro cfg h
  have hsame : some Solana.Sample.cfg = some cfg := hcfg.symm.trans h
  cases hsame
  exact hfunds

theorem makes_release {time : Nat} {s : Evm.State} {z : Solana.State}
    (later : s.now ≤ time ∧ z.now ≤ time) (hcfg : z.config = some Solana.Sample.cfg)
    (hsolver : (z.requests.lookup mirror.request).map (·.solver) =
      some Solana.Sample.solver.key) :
    mirror.Makes time .release evmRelease Solana.Sample.release s z := by
  refine ⟨later, ⟨rfl, rfl⟩, _, rfl, rfl, ?_, ?_⟩
  · intro cfg h
    have hsame : some Solana.Sample.cfg = some cfg := hcfg.symm.trans h
    cases hsame
    rfl
  · intro req hl
    have hl' : z.requests.lookup mirror.request = some req := hl
    rw [hl'] at hsolver
    exact (Option.some.inj hsolver).symm

def evmClaimed : Evm.State :=
  (mirror.evm 1000 evmClaim evmDeposit).getD { evmDeposit with now := 1000 }

def solanaClaimed : Solana.State :=
  (mirror.solana 1000 solanaClaim solanaDeposit).getD (solanaDeposit.at 1000)

theorem run_claimed : mirror.Run mirror.Clear evmClaimed solanaClaimed :=
  .step (.start start) 1000 (.claim ()) _ _
    (makes_claim (by decide +kernel) (by decide +kernel) (by decide +kernel))
    (by decide +kernel)

end Sample

/-- A claim that is released one second after its deadline: half of its bond
is refunded and half slashed, on both sides. -/
theorem claim_parity_released : ∃ s z,
    Sample.mirror.Run Sample.mirror.Clear s z ∧ Sample.mirror.Agree s z ∧
      s.refunded 1 5 = 2500 ∧ s.slashed 1 5 = 2500 := by
  have hrun := Run.step Sample.run_claimed 1601 .release Sample.evmRelease
    Solana.Sample.release
    (Sample.makes_release (by decide +kernel) (by decide +kernel) (by decide +kernel))
    (by decide +kernel)
  exact ⟨_, _, hrun, (claim_parity hrun).1, by decide +kernel, by decide +kernel⟩

/-- After the deadline the solver claims once more: the contract splits the
old bond, the program keeps it. And at the deadline only the contract
releases the claim. -/
theorem claim_no_parity :
    (¬ ∀ (M : Mirror Unit) s z, M.Run (fun _ _ _ => True) s z → M.Agree s z) ∧
    ¬ ∀ (M : Mirror Unit) s z, M.Run (fun _ _ _ => True) s z →
      ∀ time op t i, M.Makes time op t i s z →
        (M.evm time t s).isSome = (M.solana time i z).isSome := by
  have hclaimed : Sample.mirror.Run (fun _ _ _ => True) Sample.evmClaimed
      Sample.solanaClaimed :=
    .step (.start Sample.start) 1000 (.claim ()) _ _
      (Sample.makes_claim (by decide +kernel) (by decide +kernel) (by decide +kernel)) trivial
  constructor
  · intro hall
    have hagree := hall Sample.mirror _ _ (.step hclaimed 1601 (.claim ()) Sample.evmClaim
      Sample.solanaClaim
      (Sample.makes_claim (by decide +kernel) (by decide +kernel) (by decide +kernel)) trivial)
    exact absurd (hagree.refunded ()) (by decide +kernel)
  · intro hall
    have hsame := hall Sample.mirror _ _ hclaimed 1600 .release Sample.evmRelease
      Solana.Sample.release
      (Sample.makes_release (by decide +kernel) (by decide +kernel) (by decide +kernel))
    exact absurd hsame (by decide +kernel)

end Mirror

end LunarysBridge
