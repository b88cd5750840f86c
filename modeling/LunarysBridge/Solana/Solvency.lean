/-
LunarysBridge.Solana.Solvency — does the bridge hold what it owes?

For each mint, `holdings` is what the token accounts of the sign PDA hold
and `owed` what the open requests have locked. Two checks are missing from
the accounts of the instructions: `initiate_bridge` takes any escrow account
of the mint, also one the sign PDA does not own, and `verify_and_settle_spl`
pays in any mint. Where both are met all the same (`backed`), the bridge
stays solvent.
-/
import LunarysBridge.Lib.Tally
import LunarysBridge.Solana.Effects
import LunarysBridge.Solana.Fees

namespace LunarysBridge.Solana

variable {rt : Runtime} {s s' s₁ s₂ : State} {m : Pubkey}

/-! ## Holdings and debts -/

/-- What a token account counts for: its amount, when it is the bridge's. -/
def TokenAccount.value (m : Pubkey) (a : TokenAccount) : Nat :=
  if a.mint = m ∧ a.owner = .signPda then a.amount.toNat else 0

/-- What the bridge holds of a mint. -/
def State.holdings (s : State) (m : Pubkey) : Nat :=
  Table.total (fun _ a => a.value m) s.tokens

/-- What a request has locked, while it is open. -/
def BridgeRequest.debt (m : Pubkey) (req : BridgeRequest) : Nat :=
  if req.finalized = false ∧ req.tokenMint = m then
    req.amountLocked.toNat + req.feeLocked.toNat
  else 0

/-- What the bridge owes of a mint. -/
def State.owed (s : State) (m : Pubkey) : Nat :=
  Table.total (fun _ req => req.debt m) s.requests

theorem TokensKept.holdings_le (h : TokensKept s s') (m : Pubkey) :
    s.holdings m ≤ s'.holdings m := by
  refine Table.total_le _ _ fun addr a ha => .inr ?_
  obtain ⟨a', ha', hmint, howner, hamount⟩ := h addr a ha
  refine ⟨a', ha', ?_⟩
  simp [TokenAccount.value, hmint, howner, hamount]

theorem Outside.holdings_le (h : Outside s s') (m : Pubkey) :
    s.holdings m ≤ s'.holdings m := by
  apply Table.total_le _ _
  intro addr a ha
  by_cases howner : a.owner = .signPda
  · obtain ⟨a', ha', hmint, howner', hle⟩ := h.tokens addr a ha howner
    refine .inr ⟨a', ha', ?_⟩
    have hle' : a.amount.toNat ≤ a'.amount.toNat := UInt64.le_iff_toNat_le.mp hle
    simp only [TokenAccount.value, hmint, howner, howner']
    split
    · exact hle'
    · exact Nat.le_refl _
  · exact .inl (by simp [TokenAccount.value, howner])

/-- The values of the two accounts of a transfer, before and after. -/
theorem Transferred.holdings {source dest authority : Pubkey} {mint : Option Pubkey}
    {amount : UInt64} {a b : TokenAccount}
    (h : Transferred source dest authority mint amount s s')
    (ha : s.tokens.lookup source = some a) (hb : s.tokens.lookup dest = some b)
    (hne : source ≠ dest) (m : Pubkey) :
    ∃ hle hlt, s'.holdings m + a.value m + b.value m =
      s.holdings m + (a.debit amount hle).value m + (b.credit amount hlt).value m := by
  obtain ⟨a', b', ha', hb', _, _, _, hle, hcase⟩ := h.moved
  rw [ha] at ha'
  rw [hb] at hb'
  cases ha'
  cases hb'
  rcases hcase with ⟨heq, _⟩ | ⟨_, hlt, htokens⟩
  · exact absurd heq hne
  · refine ⟨hle, hlt, ?_⟩
    have h₁ := Table.total_change (f := fun _ a => a.value m) ha (a.debit amount hle)
    have hb₁ : (s.tokens.insert source (a.debit amount hle)).lookup dest = some b := by
      rw [AList.lookup_insert_ne hne.symm, hb]
    have h₂ := Table.total_change (f := fun _ a => a.value m) hb₁
      (b.credit amount hlt)
    unfold State.holdings
    rw [htokens]
    omega

/-- Tokens that come in from somebody else add to the holdings. -/
theorem Transferred.holdings_in {source dest authority : Pubkey} {mint : Option Pubkey}
    {amount : UInt64} {a b : TokenAccount}
    (h : Transferred source dest authority mint amount s s')
    (ha : s.tokens.lookup source = some a) (hb : s.tokens.lookup dest = some b)
    (hsource : a.owner ≠ .signPda) (hdest : b.owner = .signPda) (m : Pubkey) :
    s'.holdings m = s.holdings m + if b.mint = m then amount.toNat else 0 := by
  have hne : source ≠ dest := by
    rintro rfl
    rw [ha] at hb
    cases hb
    exact hsource hdest
  obtain ⟨hle, hlt, hsum⟩ := h.holdings ha hb hne m
  have hadd : (b.amount + amount).toNat = b.amount.toNat + amount.toNat := by
    rw [UInt64.toNat_add, Nat.mod_eq_of_lt hlt]
  by_cases hm : b.mint = m
  · simp [TokenAccount.value, TokenAccount.debit, TokenAccount.credit, hsource, hdest, hm,
      hadd] at hsum ⊢
    omega
  · simp [TokenAccount.value, TokenAccount.debit, TokenAccount.credit, hsource, hm]
      at hsum ⊢
    omega

/-- Tokens that go out to somebody else are taken from the holdings. -/
theorem Transferred.holdings_out {source dest authority : Pubkey} {mint : Option Pubkey}
    {amount : UInt64} {a b : TokenAccount}
    (h : Transferred source dest authority mint amount s s')
    (ha : s.tokens.lookup source = some a) (hb : s.tokens.lookup dest = some b)
    (hsource : a.owner = .signPda) (hdest : b.owner ≠ .signPda) (m : Pubkey) :
    s'.holdings m + (if a.mint = m then amount.toNat else 0) = s.holdings m := by
  have hne : source ≠ dest := by
    rintro rfl
    rw [ha] at hb
    cases hb
    exact hdest hsource
  obtain ⟨hle, hlt, hsum⟩ := h.holdings ha hb hne m
  have hsub : (a.amount - amount).toNat + amount.toNat = a.amount.toNat := by
    rw [UInt64.toNat_sub_of_le _ _ hle]
    have := UInt64.le_iff_toNat_le.mp hle
    omega
  by_cases hm : a.mint = m
  · simp [TokenAccount.value, TokenAccount.debit, TokenAccount.credit, hsource, hdest, hm]
      at hsum ⊢
    omega
  · simp [TokenAccount.value, TokenAccount.debit, TokenAccount.credit, hdest, hm] at hsum ⊢
    omega

/-! ## Conditions -/

/-- The instructions that belong to the flow of deposits and claims. -/
def inScope : Instruction → Bool
  | .deliverTokens _ _ => false
  | .deliverTokensSol _ _ => false
  | _ => true

/-- The escrow account of a deposit belongs to the sign PDA, and a settlement
names the mint of its request. -/
def backed : Instruction → State → Bool
  | .initiateBridge acc _, s =>
      (s.tokens.lookup acc.escrowToken).any (·.owner = .signPda)
  | .verifyAndSettleSpl acc requestId _ _ _, s =>
      (s.requests.lookup (.request acc.requestOwner requestId)).any
        (·.tokenMint = acc.mint)
  | _, _ => true

/-- Of each mint the bridge holds what it owes; and no request has the sign
PDA for its solver. -/
structure Solvent (s : State) : Prop where
  owed_le : ∀ m, s.owed m ≤ s.holdings m
  solvers : ∀ addr req, s.requests.lookup addr = some req → req.solver ≠ .signPda

theorem solvent_initial (h : Initial s) : Solvent s where
  owed_le := by simp [State.owed, h.requests]
  solvers := by simp [h.requests]

/-! ## One instruction -/

/-- A rewritten request keeps the condition on solvers. -/
theorem Solvent.solvers_insert (hs : Solvent s) {addr : Pubkey} {req : BridgeRequest}
    (hreq : req.solver ≠ .signPda) (hr : s'.requests = s.requests.insert addr req) :
    ∀ addr' req', s'.requests.lookup addr' = some req' → req'.solver ≠ .signPda := by
  intro addr' req' h
  rw [hr] at h
  by_cases ha : addr' = addr
  · subst ha
    rw [AList.lookup_insert] at h
    cases h
    exact hreq
  · rw [AList.lookup_insert_ne ha] at h
    exact hs.solvers addr' req' h

/-- A rewritten request that locks what it did leaves the debts alone. -/
theorem owed_insert {addr : Pubkey} {req req' : BridgeRequest}
    (h : s.requests.lookup addr = some req)
    (hr : s'.requests = s.requests.insert addr req') (m : Pubkey) :
    s'.owed m + req.debt m = s.owed m + req'.debt m := by
  unfold State.owed
  rw [hr]
  exact Table.total_change h req'

/-- A deposit adds its gross amount to the debts. -/
theorem Deposited.owed {payer : Signer} {mint : Pubkey} {storedId : UInt64}
    {args : DepositArgs} (h : Deposited payer mint storedId args s s') (m : Pubkey) :
    s'.owed m = s.owed m + if mint = m then args.amount.toNat else 0 := by
  obtain ⟨cfg, _, hreq, _⟩ := h.stored
  unfold State.owed
  rw [hreq, Table.total_insert h.fresh]
  simp [BridgeRequest.debt, DepositArgs.stored, amountNet_add_feeU64]

theorem Deposited.solvers {payer : Signer} {mint : Pubkey} {storedId : UInt64}
    {args : DepositArgs} (h : Deposited payer mint storedId args s s') (hs : Solvent s) :
    ∀ addr req, s'.requests.lookup addr = some req → req.solver ≠ .signPda := by
  obtain ⟨cfg, _, hreq, _⟩ := h.stored
  exact hs.solvers_insert (by simp [DepositArgs.stored, Pubkey.default]) hreq

theorem solvent_initiateBridge {acc : DepositAndQueue} {args : DepositArgs}
    (h : initiateBridge rt acc args s = .ok s')
    (hb : backed (.initiateBridge acc args) s = true) (hs : Solvent s) : Solvent s' := by
  obtain ⟨hdep, ⟨u, hu, _, huowner⟩, ⟨e, he, hemint⟩, s₁, s₂, hk, htokens, ht⟩ :=
    initiateBridge_ok h
  refine ⟨fun m => ?_, hdep.solvers hs⟩
  obtain ⟨u', hu', _, huowner', _⟩ := hk _ _ hu
  obtain ⟨e', he', hemint', heowner', _⟩ := hk _ _ he
  have heown : e.owner = .signPda := by simpa [backed, he] using hb
  have hin := ht.holdings_in hu' he'
    (by rw [huowner', huowner]; exact acc.payer.key_ne_signPda) (heowner'.trans heown) m
  have hold := hs.owed_le m
  have hkeep := hk.holdings_le m
  have hnew : s'.holdings m = s₂.holdings m := by
    unfold State.holdings
    rw [htokens]
  rw [hdep.owed, hnew, hin, hemint', hemint]
  omega

theorem solvent_initiateBridgeSol {acc : DepositSolAndQueue} {args : DepositArgs}
    (h : initiateBridgeSol rt acc args s = .ok s') (hs : Solvent s) : Solvent s' := by
  obtain ⟨hdep, s₁, s₂, s₃, a, hk, ha, hmint, howner, htransfer, hsync, htokens⟩ :=
    initiateBridgeSol_ok h
  refine ⟨fun m => ?_, hdep.solvers hs⟩
  -- the transfer funds the escrow account
  have hs₂ : s₂ = (s₁.debit acc.payer.key args.amount.toNat).credit acc.escrowWsol
      args.amount.toNat := systemTransfer_ok htransfer
  have hcredit : s₂.tokens = s₁.tokens.insert acc.escrowWsol (a.fund args.amount.toNat) := by
    have hdebit : (s₁.debit acc.payer.key args.amount.toNat).tokens.lookup acc.escrowWsol =
        some a := ha
    rw [hs₂, State.credit, hdebit]
    rfl
  -- and the synchronisation counts what it was funded with
  obtain ⟨f, f', hf, _, hs₃, hmint', howner', hamount⟩ := syncNative_ok hsync
  rw [hcredit, AList.lookup_insert] at hf
  cases hf
  have hback := a.backed hmint
  have hlookup : s₁.tokens.lookup acc.escrowWsol = some a := ha
  have hnew : s'.holdings m = Table.total (fun _ a => a.value m)
      (s₁.tokens.insert acc.escrowWsol f') := by
    unfold State.holdings
    rw [htokens, hs₃]
    apply Table.total_congr
    intro addr
    by_cases haddr : addr = acc.escrowWsol
    · subst haddr
      rw [AList.lookup_insert, AList.lookup_insert]
    · rw [AList.lookup_insert_ne haddr, AList.lookup_insert_ne haddr, hcredit,
        AList.lookup_insert_ne haddr]
  have hchange := Table.total_change (f := fun _ a => a.value m) hlookup f'
  have hvalue : a.value m + (if nativeMint = m then args.amount.toNat else 0) ≤
      f'.value m := by
    have hm' : f'.mint = nativeMint := hmint'.trans hmint
    have ho' : f'.owner = .signPda := howner'.trans howner
    simp only [TokenAccount.fund] at hamount
    by_cases hm : nativeMint = m
    · simp only [TokenAccount.value, hmint, hm', howner, ho', hm, and_self, if_true]
      omega
    · simp [TokenAccount.value, hmint, hm', hm]
  have hold := hs.owed_le m
  have hkeep := hk.holdings_le m
  have hholds : s₁.holdings m = Table.total (fun _ a => a.value m) s₁.tokens := rfl
  rw [hdep.owed, hnew]
  omega

theorem solvent_claim {acc : ClaimRequest} {offset requestId : UInt64}
    {solverX25519 : Bytes32}
    (h : claimBridge rt acc offset requestId solverX25519 s = .ok s') (hs : Solvent s) :
    Solvent s' := by
  obtain ⟨cfg, req, deadline, _, hlookup, _, _, _, _, hreq, _, _, _, _, hk⟩ :=
    claimBridge_ok h
  refine ⟨fun m => ?_, hs.solvers_insert acc.solver.key_ne_signPda hreq⟩
  have howed := owed_insert hlookup hreq m
  have hold := hs.owed_le m
  have hkeep := hk.holdings_le m
  simp only [BridgeRequest.debt] at howed
  omega

theorem solvent_release {acc : ReleaseExpiredClaim} {requestId : UInt64}
    (h : releaseExpiredClaim rt acc requestId s = .ok s') (hs : Solvent s) :
    Solvent s' := by
  obtain ⟨cfg, req, slash, refund, _, hlookup, _, _, _, _, _, _, _, hreq, _, _, _, _, hk⟩ :=
    releaseExpiredClaim_ok h
  refine ⟨fun m => ?_, hs.solvers_insert (by simp [Pubkey.default]) hreq⟩
  have howed := owed_insert hlookup hreq m
  have hold := hs.owed_le m
  have hkeep := hk.holdings_le m
  simp only [BridgeRequest.debt] at howed
  omega

theorem solvent_settle {acc : VerifyAndSettleSpl} {requestId : UInt64}
    {destTxHash evidenceHash : Bytes32} {evidenceUrl : String}
    (h : verifyAndSettleSpl rt acc requestId destTxHash evidenceHash evidenceUrl s =
      .ok s')
    (hb : backed (.verifyAndSettleSpl acc requestId destTxHash evidenceHash evidenceUrl) s =
      true) (hs : Solvent s) : Solvent s' := by
  obtain ⟨cfg, req, payout, s₁, _, _, hlookup, ⟨e, he, hemint, heowner⟩,
    ⟨v, hv, _, hvowner⟩, hopen, _, _, _, hpayout, ht, hk, hreq, _⟩ :=
    verifyAndSettleSpl_ok h
  refine ⟨fun m => ?_, hs.solvers_insert (by simp [Pubkey.default]) hreq⟩
  have hmint : req.tokenMint = acc.mint := by simpa [backed, hlookup] using hb
  have hout := ht.holdings_out he hv heowner
    (by rw [hvowner]; exact hs.solvers _ _ hlookup) m
  have howed := owed_insert hlookup hreq m
  have hold := hs.owed_le m
  have hkeep := hk.holdings_le m
  simp only [BridgeRequest.debt, hopen, hmint, true_and, Bool.true_eq_false, false_and,
    if_false] at howed
  rw [hemint, hpayout] at hout
  omega

theorem Untouched.solvent (h : Untouched s s') (hk : TokensKept s s') (hs : Solvent s) :
    Solvent s' := by
  refine ⟨fun m => ?_, fun addr req hreq => ?_⟩
  · have howed : s'.owed m = s.owed m := by
      unfold State.owed
      rw [h.requests]
    rw [howed]
    exact Nat.le_trans (hs.owed_le m) (hk.holdings_le m)
  · rw [h.requests] at hreq
    exact hs.solvers addr req hreq

theorem solvent_exec {i : Instruction} (h : exec rt i s = .ok s')
    (hscope : inScope i = true) (hb : backed i s = true) (hs : Solvent s) :
    Solvent s' := by
  cases i with
  | initiateBridge acc args => exact solvent_initiateBridge h hb hs
  | initiateBridgeSol acc args => exact solvent_initiateBridgeSol h hs
  | claimBridge acc offset requestId solverX25519 => exact solvent_claim h hs
  | releaseExpiredClaim acc requestId => exact solvent_release h hs
  | verifyAndSettleSpl acc requestId destTxHash evidenceHash evidenceUrl =>
      exact solvent_settle h hb hs
  | deliverTokens acc amount => cases hscope
  | deliverTokensSol acc amount => cases hscope
  | initConfig payer args =>
      obtain ⟨hu, hk⟩ := initConfig_ok h
      exact hu.solvent hk hs
  | setConfig authority c =>
      obtain ⟨hu, hk⟩ := setConfig_ok h
      exact hu.solvent hk hs

theorem Outside.solvent (h : Outside s s') (hs : Solvent s) : Solvent s' := by
  refine ⟨fun m => ?_, fun addr req hreq => ?_⟩
  · have howed : s'.owed m = s.owed m := by
      unfold State.owed
      rw [h.requests]
    rw [howed]
    exact Nat.le_trans (hs.owed_le m) (h.holdings_le m)
  · rw [h.requests] at hreq
    exact hs.solvers addr req hreq

/-! ## Runs -/

/-- **Escrow solvency, where it holds.** In every run of deposits, claims,
releases and settlements in which each deposit goes to an account of the
sign PDA and each settlement is made in the mint of its request, the bridge
holds of every mint what its open requests have locked. -/
theorem escrow_solvency (rt : Runtime) (s₀ s : State) (hinit : Initial s₀)
    (hrun : Run rt (fun i s => inScope i = true ∧ backed i s = true) s₀ s) (m : Pubkey) :
    s.owed m ≤ s.holdings m := by
  have hsolvent : Solvent s := by
    induction hrun with
    | nil => exact solvent_initial hinit
    | exec _ i meets succeeds ih => exact solvent_exec succeeds meets.1 meets.2 ih
    | outside _ move ih => exact move.solvent ih
  exact hsolvent.owed_le m

/-- A deposit goes to the bridge, is claimed and settled. -/
def Sample.settledOnce : List (Nat × Instruction) :=
  [(0, config), (0, deposit (.key 21)), (0, claim solver), (0, settle)]

theorem escrow_solvency_settledOnce : ∃ s, Run Sample.runtime
    (fun i s => inScope i = true ∧ backed i s = true) Sample.initial s ∧
      s.owed Sample.mint ≤ s.holdings Sample.mint ∧ s.log.length = 8 := by
  have hrun : (runMoves Sample.runtime (fun i s => inScope i && backed i s)
      Sample.settledOnce Sample.initial).map (fun s => s.log.length) = some 8 := by
    decide +kernel
  obtain ⟨s, hs, hlength⟩ := Option.map_eq_some_iff.mp hrun
  have hmoves : Run Sample.runtime (fun i s => inScope i = true ∧ backed i s = true)
      Sample.initial s :=
    (run_of_moves (.nil _) hs).mono fun i s h => by simpa using h
  exact ⟨s, hmoves, escrow_solvency _ _ _ Sample.initial_initial hmoves Sample.mint,
    hlength⟩

/-- A user names his own token account as the escrow: the request is stored,
and the bridge holds nothing for it. -/
theorem deposit_not_solvent :
    ¬ ∀ rt s₀ s, Initial s₀ → Run rt (fun i _ => inScope i = true) s₀ s →
      ∀ m, s.owed m ≤ s.holdings m := by
  intro hall
  have hrun : (runMoves Sample.runtime (fun i _ => inScope i)
      [(0, Sample.config), (0, Sample.deposit (.key 20))] Sample.initial).map
        (fun s => (s.owed Sample.mint, s.holdings Sample.mint)) = some (1000, 0) := by
    decide +kernel
  obtain ⟨s, hs, hsums⟩ := Option.map_eq_some_iff.mp hrun
  have hle := hall _ _ s Sample.initial_initial (run_of_moves (.nil _) hs) Sample.mint
  simp only [Prod.mk.injEq] at hsums
  omega

end LunarysBridge.Solana
