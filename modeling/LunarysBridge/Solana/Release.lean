/-
LunarysBridge.Solana.Release — the release of an expired claim, to the
lamport.

An address has one balance: that of its token account, or the lamports of
the account itself. A release either fails, which leaves no trace, or it
takes the bond out of the vault and splits it over the collector and the
solver, who may be the same account. `Releasable` is when it succeeds,
`Released` what it then has done.
-/
import LunarysBridge.Lib.Ledger
import LunarysBridge.Solana.Vaults

namespace LunarysBridge.Solana

variable {rt : Runtime} {s s' : State}

/-! ## Balances -/

/-- The lamports at an address. -/
def State.balance (s : State) (addr : Pubkey) : Nat :=
  match s.tokens.lookup addr with
  | some a => a.lamports
  | none => s.lamports addr

theorem balance_of_lookup {addr : Pubkey} {a : TokenAccount}
    (h : s.tokens.lookup addr = some a) : s.balance addr = a.lamports := by
  unfold State.balance
  rw [h]

theorem balance_of_plain {addr : Pubkey} (h : s.tokens.lookup addr = none) :
    s.balance addr = s.lamports addr := by
  unfold State.balance
  rw [h]

theorem balance_credit (s : State) (dest : Pubkey) (n : Nat) (addr : Pubkey) :
    (s.credit dest n).balance addr = s.balance addr + if dest = addr then n else 0 := by
  cases hd : s.tokens.lookup dest with
  | some a =>
      have hcredit : s.credit dest n =
          { s with tokens := s.tokens.insert dest (a.fund n) } := by
        unfold State.credit
        rw [hd]
      by_cases ha : dest = addr
      · subst ha
        have hl : (s.credit dest n).tokens.lookup dest = some (a.fund n) := by
          rw [hcredit]
          exact AList.lookup_insert _
        rw [balance_of_lookup hd, balance_of_lookup hl, if_pos rfl]
        rfl
      · unfold State.balance
        rw [if_neg ha, hcredit, AList.lookup_insert_ne (Ne.symm ha)]
        rfl
  | none =>
      have hcredit : s.credit dest n =
          { s with lamports := Function.update s.lamports dest (s.lamports dest + n) } := by
        unfold State.credit
        rw [hd]
      by_cases ha : dest = addr
      · subst ha
        rw [balance_of_plain hd, balance_of_plain (lookup_credit_none hd), if_pos rfl, hcredit]
        exact Function.update_self ..
      · unfold State.balance
        rw [if_neg ha, hcredit]
        cases s.tokens.lookup addr with
        | some b => rfl
        | none => exact Function.update_of_ne (Ne.symm ha) ..

theorem balance_debit {source : Pubkey} {n : Nat} (hp : s.tokens.lookup source = none)
    (hn : n ≤ s.lamports source) (addr : Pubkey) :
    (s.debit source n).balance addr + (if source = addr then n else 0) = s.balance addr := by
  have hp' : (s.debit source n).tokens.lookup source = none := hp
  by_cases ha : source = addr
  · subst ha
    have hleft : (s.debit source n).lamports source = s.lamports source - n :=
      Function.update_self ..
    rw [balance_of_plain hp', balance_of_plain hp, if_pos rfl, hleft]
    omega
  · rw [if_neg ha, Nat.add_zero]
    unfold State.balance
    show (match s.tokens.lookup addr with
      | some a => a.lamports
      | none => (s.debit source n).lamports addr) = _
    cases s.tokens.lookup addr with
    | some b => rfl
    | none => exact Function.update_of_ne (Ne.symm ha) ..

/-! ## The release -/

/-- What a release has done. -/
structure Released (acc : ReleaseExpiredClaim) (requestId : UInt64) (cfg : BridgeConfig)
    (req : BridgeRequest) (s s' : State) : Prop where
  balances : ∀ addr, s'.balance addr +
      (if .bondVault requestId = addr then req.bondLamports.toNat else 0) =
    s.balance addr +
      (if acc.slashCollector = addr then slashOf req.bondLamports cfg.slashBps else 0) +
      (if acc.prevSolver = addr then refundOf req.bondLamports cfg.slashBps else 0)
  requests : s'.requests =
    s.requests.insert (.request acc.requestOwner requestId) req.released
  tokens : TokensKept s s'
  plain : ∀ addr, s.tokens.lookup addr = none → s'.tokens.lookup addr = none
  config : s'.config = s.config
  vaultOwner : s'.vaultOwner = s.vaultOwner
  signPda : s'.signPdaReady = s.signPdaReady
  now : s'.now = s.now
  queue : s'.queue = s.queue

section Release

variable {acc : ReleaseExpiredClaim} {requestId : UInt64} {cfg : BridgeConfig}
  {req : BridgeRequest}

theorem releaseExpiredClaim_released
    (hvault : s.tokens.lookup (.bondVault requestId) = none)
    (h : releaseExpiredClaim rt acc requestId s = .ok s') :
    ∃ cfg req, Releasable rt acc requestId cfg req s ∧
      Released acc requestId cfg req s s' := by
  have htokens := releaseExpiredClaim_tokens h
  obtain ⟨cfg, req, hreleasable, slash, refund, hslash, hrefund, hs'⟩ :=
    releaseExpiredClaim_moves h
  have hdebit := balance_debit hvault hreleasable.vault
  subst hs'
  refine ⟨cfg, req, hreleasable, fun addr => ?_, ?_, htokens, fun addr hnone => ?_, ?_, ?_, ?_,
    ?_, ?_⟩
  · rw [← hslash, ← hrefund, ← hdebit addr]
    show ((((s.debit (.bondVault requestId) req.bondLamports.toNat).credit
      acc.slashCollector slash.toNat).note _).credit acc.prevSolver refund.toNat).balance addr +
      _ = _
    rw [balance_credit]
    show ((s.debit (.bondVault requestId) req.bondLamports.toNat).credit
      acc.slashCollector slash.toNat).balance addr + _ + _ = _
    rw [balance_credit]
    omega
  · simp [State.emit, State.note, State.setRequest, State.debit, BridgeRequest.released]
  · exact lookup_credit_none (lookup_credit_none hnone)
  · simp [State.emit, State.note, State.setRequest, State.debit]
  · simp [State.emit, State.note, State.setRequest, State.debit]
  · simp [State.emit, State.note, State.setRequest, State.debit]
  · simp [State.emit, State.note, State.setRequest, State.debit]
  · simp [State.emit, State.note, State.setRequest, State.debit]

theorem Released.total (h : Released acc requestId cfg req s s')
    (hle : slashOf req.bondLamports cfg.slashBps ≤ req.bondLamports.toNat)
    {accounts : Finset Pubkey} (hvault : .bondVault requestId ∈ accounts)
    (hcollector : acc.slashCollector ∈ accounts) (hsolver : acc.prevSolver ∈ accounts) :
    ∑ addr ∈ accounts, s'.balance addr = ∑ addr ∈ accounts, s.balance addr := by
  have hsplit : slashOf req.bondLamports cfg.slashBps +
      refundOf req.bondLamports cfg.slashBps = req.bondLamports.toNat := by
    unfold refundOf
    omega
  exact Ledger.sum_split h.balances hsplit hvault hcollector hsolver

/-- **Exact release.** A release succeeds exactly when each of its checks
holds. Then the bond has left the vault, the slash has come to the collector
and the rest to the solver, no lamport is lost or made, and of the request
only the four claim fields are reset. (The vault is an account of the System
program, so it holds no tokens.) -/
theorem release_exact (rt : Runtime) (acc : ReleaseExpiredClaim) (requestId : UInt64)
    (s : State) (hvault : s.tokens.lookup (.bondVault requestId) = none) :
    ((∃ s', releaseExpiredClaim rt acc requestId s = .ok s') ↔
      ∃ cfg req, Releasable rt acc requestId cfg req s) ∧
    ∀ s', releaseExpiredClaim rt acc requestId s = .ok s' →
      ∃ cfg req, Releasable rt acc requestId cfg req s ∧
        Released acc requestId cfg req s s' ∧
        ∀ accounts : Finset Pubkey, .bondVault requestId ∈ accounts →
          acc.slashCollector ∈ accounts → acc.prevSolver ∈ accounts →
          ∑ addr ∈ accounts, s'.balance addr = ∑ addr ∈ accounts, s.balance addr := by
  refine ⟨⟨?_, ?_⟩, ?_⟩
  · rintro ⟨s', h⟩
    obtain ⟨cfg, req, hreleasable, _⟩ := releaseExpiredClaim_moves h
    exact ⟨cfg, req, hreleasable⟩
  · rintro ⟨cfg, req, hreleasable⟩
    exact hreleasable.succeeds
  · intro s' h
    obtain ⟨cfg, req, hreleasable, hreleased⟩ := releaseExpiredClaim_released hvault h
    exact ⟨cfg, req, hreleasable, hreleased, fun accounts hv hc hs =>
      hreleased.total hreleasable.slash hv hc hs⟩

end Release

namespace Sample

/-- The owner was the solver, and collects the slash as well. -/
def ownerAccounts : ReleaseExpiredClaim where
  caller := rival
  requestOwner := user.key
  prevSolver := owner.key
  slashCollector := owner.key

/-- The states around the release of a claim the owner let expire. -/
def lateOwner : Option (State × State) := do
  let s ← runMoves runtime (fun _ _ => true)
    [(0, config), (0, deposit (.key 21)), (0, claim owner)] initial
  let s' ← (releaseExpiredClaim runtime ownerAccounts 7 (s.wait 601)).toOption
  some (s.wait 601, s')

/-- What the owner and the vault have. -/
def ownerAndVault (s : State) : Nat × Nat := (s.balance owner.key, s.balance (.bondVault 7))

end Sample

theorem release_exact_owner : ∃ s s' cfg req, Reachable Sample.runtime s ∧
    releaseExpiredClaim Sample.runtime Sample.ownerAccounts 7 s = .ok s' ∧
    Released Sample.ownerAccounts 7 cfg req s s' ∧
    (Sample.ownerAndVault s, Sample.ownerAndVault s') =
      ((999993000, 6000), (999998000, 1000)) := by
  have hrun : Sample.lateOwner.map (fun p => (Sample.ownerAndVault p.1,
      Sample.ownerAndVault p.2)) = some ((999993000, 6000), (999998000, 1000)) := by
    decide +kernel
  obtain ⟨⟨s, s'⟩, hs, hbalances⟩ := Option.map_eq_some_iff.mp hrun
  simp only [Sample.lateOwner, Option.bind_eq_bind, Option.bind_eq_some_iff, Option.some.injEq,
    Prod.mk.injEq] at hs
  obtain ⟨s₀, hmoves, s₁, hok, rfl, rfl⟩ := hs
  have hreach : Reachable Sample.runtime (s₀.wait 601) :=
    (Sample.reachable_of_moves hmoves).run ((Run.nil s₀).outside (.wait s₀ 601))
  have h := ok_of_toOption hok
  obtain ⟨cfg, req, _, hreleased, _⟩ := (release_exact Sample.runtime Sample.ownerAccounts 7
    (s₀.wait 601) (hreach.lawful.plain 7)).2 _ h
  exact ⟨_, _, cfg, req, hreach, h, hreleased, hbalances⟩

end LunarysBridge.Solana
