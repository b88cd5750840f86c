/-
LunarysBridge.Cross.Surplus — deliveries of the reverse flow against the
escrow of the open requests, on both chains.

Neither program keeps the tokens of the open requests apart from those it may
deliver: `deliverTokens` sends from the balance of the contract,
`deliver_tokens` and `deliver_tokens_sol` from an escrow account. Whether the
requests stay covered depends on the amount the relayer delivers.
-/
import LunarysBridge.Evm.Deliveries
import LunarysBridge.Solana.Deliveries

namespace LunarysBridge

/-- **Deliveries and escrow.** A delivery leaves the open requests covered,
whatever its callee does, exactly if nothing is owed of the token, or it is
paid from the surplus (of a token that is exact); on the contract the surplus
is what it was given outside deposits and has not sent out since. The same
holds of the Anchor program, whose tokens are all exact. In a run whose
deliveries are all paid from the surplus the requests are covered in every
state. -/
theorem deliveries_spend_surplus (ch : Evm.Chain) (rt : Solana.Runtime) :
    (∀ (s : Evm.State) (t : Evm.Tx ch.self) recipient token amount,
      Evm.Reachable ch s → t.fn = .deliverTokens recipient token amount →
      (∃ s', Reentrancy.Commits (Evm.contract ch) t s s') →
        ((∀ s', Reentrancy.Commits (Evm.contract ch) t s s' →
          s'.owed token ≤ s'.bal token ch.self) ↔
            s.owed token = 0 ∨
              ch.exact token = true ∧ Evm.FromSurplus ch recipient token amount s) ∧
        (ch.exact token = true → (Evm.FromSurplus ch recipient token amount s ↔
          Evm.leaving ch recipient amount +
              Tally.total (Evm.LogEntry.withdrawn ch.self token) s.log ≤
            Tally.total (Evm.LogEntry.tokensDonated token) s.log))) ∧
    (∀ (s : Evm.State) token, Evm.Sparing ch s → ch.exact token = true →
      s.owed token ≤ s.bal token ch.self) ∧
    (∀ (s s' : Solana.State) (i : Solana.Instruction) recipient mint amount,
      i.delivery = some (recipient, mint, amount) → Solana.exec rt i s = .ok s' →
        (s'.owed mint ≤ s'.holdings mint ↔ Solana.FromSurplus recipient mint amount s)) ∧
    ∀ (s₀ s : Solana.State) mint, Solana.Initial s₀ →
      Solana.Run rt (fun i s => Solana.backed i s = true ∧ Solana.spares i s = true) s₀ s →
        s.owed mint ≤ s.holdings mint := by
  refine ⟨fun s t recipient token amount hreach hfn hsome => ⟨?_, fun hexact => ?_⟩,
    fun s token hsparing hexact => hsparing.solvent hexact,
    fun s s' i recipient mint amount hi hexec => Solana.delivery_surplus hi hexec,
    fun s₀ s mint hinit hrun => (Solana.solvent_of_spares hinit hrun).owed_le mint⟩
  · exact Evm.delivery_covered hreach.valid hfn hsome
  · exact hreach.valid.fromSurplus_iff hexact

namespace Evm.Sample

/-- The relayer delivers tokens to 6. -/
def delivery (amount : Nat) : Tx chain.self := call 2 0 (.deliverTokens 6 9 amount) relayer_ne

/-- The claimed request, and 5 tokens that were given to the contract. -/
def stocked : State :=
  { claimed with
    bal := Function.update claimed.bal 9
      (Function.update (claimed.bal 9) chain.self (claimed.bal 9 chain.self + 5))
    log := claimed.log ++ [.donated 9 5] }

theorem sparing_after {ts : List (Tx chain.self)} {s : State} (h : after ts = some s)
    (hkeeps : ∀ t ∈ ts, t.fn.withdraws = false) : Sparing chain s := by
  unfold after at h
  split at h
  · next s₀ hd => exact (Sparing.deployed genesis 2 3 hd).runAccepting hkeeps h
  · cases h

theorem stocked_sparing : Sparing chain stocked :=
  (sparing_after (Option.some_get claimed_isSome).symm (by decide)).outside
    (.donate claimed 9 5)

theorem delivery_commits {s : State} {amount : Nat}
    (h : (Reentrancy.accepting (contract chain) (delivery amount)
      (entry chain (delivery amount) s)).isSome = true) :
    ∃ s', Reentrancy.Commits (contract chain) (delivery amount) s s' := by
  obtain ⟨s', hs'⟩ := Option.isSome_iff_exists.mp h
  exact ⟨s', Reentrancy.exec_of_accepting _ hs'⟩

theorem fromSurplus_stocked : FromSurplus chain 6 9 5 stocked := by
  show leaving chain 6 5 + stocked.owed 9 ≤ stocked.bal 9 1
  unfold State.owed
  decide +kernel

end Evm.Sample

namespace Solana.Sample

/-- The owner delivers from the escrow account. -/
def delivery (amount : UInt64) : Instruction :=
  .deliverTokens
    { relayer := owner, mint := mint, escrowToken := .key 21, recipient := rival.key } amount

/-- The escrow account has tokens already. -/
def stocked : State :=
  { initial with tokens := initial.tokens.insert (.key 21) (tokenAccount .signPda 500) }

theorem stocked_initial : Initial stocked :=
  ⟨rfl, rfl, fun _ => rfl, rfl, rfl, rfl, fun _ => rfl⟩

/-- A deposit, before the escrow delivers what it had at first. -/
def oneDeposit : List (Nat × Instruction) := [(0, config), (0, deposit (.key 21))]

theorem exec_of_some {β : Type} {i : Instruction} {s : State} {f : State → β} {b : β}
    (h : (exec runtime i s).toOption.map f = some b) :
    ∃ s', exec runtime i s = .ok s' ∧ f s' = b := by
  cases hexec : exec runtime i s with
  | error e =>
      rw [hexec] at h
      cases h
  | ok s' =>
      rw [hexec] at h
      exact ⟨s', rfl, Option.some.inj h⟩

end Solana.Sample

theorem deliveries_spend_surplus_stocked :
    (∀ s', Reentrancy.Commits (Evm.contract Evm.Sample.chain) (Evm.Sample.delivery 5)
        Evm.Sample.stocked s' → s'.owed 9 ≤ s'.bal 9 1) ∧
      Evm.Sample.stocked.owed 9 ≤ Evm.Sample.stocked.bal 9 1 ∧
      ∃ s s', Solana.Run Solana.Sample.runtime
          (fun i s => Solana.backed i s = true ∧ Solana.spares i s = true)
          Solana.Sample.stocked s ∧ s.owed Solana.Sample.mint ≤ s.holdings Solana.Sample.mint ∧
        Solana.exec Solana.Sample.runtime (Solana.Sample.delivery 500) s = .ok s' ∧
        s'.owed Solana.Sample.mint ≤ s'.holdings Solana.Sample.mint := by
  have hsurplus := deliveries_spend_surplus Evm.Sample.chain Solana.Sample.runtime
  refine ⟨((hsurplus.1 _ _ _ _ _ Evm.Sample.stocked_sparing.reachable rfl
      (Evm.Sample.delivery_commits (by decide +kernel))).1).mpr
        (.inr ⟨rfl, Evm.Sample.fromSurplus_stocked⟩),
    hsurplus.2.1 _ 9 Evm.Sample.stocked_sparing rfl, ?_⟩
  have hrun : ((Solana.runMoves Solana.Sample.runtime
      (fun i s => Solana.backed i s && Solana.spares i s) Solana.Sample.oneDeposit
        Solana.Sample.stocked).bind fun s =>
          (Solana.exec Solana.Sample.runtime (Solana.Sample.delivery 500) s).toOption.map
            fun _ => decide (Solana.FromSurplus Solana.Sample.rival.key Solana.Sample.mint 500 s)) =
      some true := by
    decide +kernel
  obtain ⟨s, hs, hsome⟩ := Option.bind_eq_some_iff.mp hrun
  obtain ⟨s', hexec, hfrom⟩ := Solana.Sample.exec_of_some hsome
  have hmoves := (Solana.run_of_moves (.nil _) hs).mono fun i s h =>
    (Bool.and_eq_true _ _).mp h
  exact ⟨s, s', hmoves,
    hsurplus.2.2.2 _ _ _ Solana.Sample.stocked_initial hmoves, hexec,
    (hsurplus.2.2.1 _ _ _ _ _ _ rfl hexec).mpr (of_decide_eq_true hfrom)⟩

/-- The relayer delivers all that the contract has, and the owner most of an
escrow account: what is left does not cover the request that is open. -/
theorem deliveries_spend_escrow :
    (¬ ∀ (ch : Evm.Chain) (s s' : Evm.State) (t : Evm.Tx ch.self) recipient token amount,
      Evm.Reachable ch s → t.fn = .deliverTokens recipient token amount →
      Reentrancy.Commits (Evm.contract ch) t s s' → s'.owed token ≤ s'.bal token ch.self) ∧
    ¬ ∀ (rt : Solana.Runtime) (s₀ s s' : Solana.State) (i : Solana.Instruction) recipient mint
      amount, Solana.Initial s₀ → Solana.Run rt (fun _ _ => True) s₀ s →
        i.delivery = some (recipient, mint, amount) → Solana.exec rt i s = .ok s' →
          s'.owed mint ≤ s'.holdings mint := by
  constructor
  · intro hall
    have hsome : (Reentrancy.accepting (Evm.contract Evm.Sample.chain)
        (Evm.Sample.delivery (10 ^ 18)) (Evm.entry Evm.Sample.chain
          (Evm.Sample.delivery (10 ^ 18)) Evm.Sample.claimed)).map
            (fun s => (decide (s.owed 9 ≤ s.bal 9 1))) = some false := by
      unfold Evm.State.owed
      decide +kernel
    obtain ⟨s', hs', hsums⟩ := Option.map_eq_some_iff.mp hsome
    exact absurd (hall _ _ s' _ 6 9 (10 ^ 18) Evm.Sample.claimed_reachable rfl
      (Reentrancy.exec_of_accepting _ hs')) (of_decide_eq_false hsums)
  · intro hall
    have hrun : ((Solana.runMoves Solana.Sample.runtime (fun _ _ => true)
        Solana.Sample.oneDeposit Solana.Sample.initial).bind fun s =>
          (Solana.exec Solana.Sample.runtime (Solana.Sample.delivery 600) s).toOption.map
            fun s' => (s'.owed Solana.Sample.mint, s'.holdings Solana.Sample.mint)) =
        some (1000, 400) := by
      decide +kernel
    obtain ⟨s, hs, hsome⟩ := Option.bind_eq_some_iff.mp hrun
    obtain ⟨s', hexec, hsums⟩ := Solana.Sample.exec_of_some hsome
    have hmoves := (Solana.run_of_moves (.nil _) hs).mono fun _ _ _ => trivial
    have hle := hall _ _ s s' _ _ Solana.Sample.mint _ Solana.Sample.initial_initial hmoves rfl
      hexec
    simp only [Prod.mk.injEq] at hsums
    omega

end LunarysBridge
