/-
LunarysBridge.Solana.Closing — when a delivery of SOL closes the escrow.

The handler moves the tokens with a call of the Token program and then asks
whether `escrow_wsol.amount` is zero. It never reloads the account, so it
asks about the amount of before the transfer: the escrow is closed if it
was empty, not if it was emptied. `closed_when_emptied_iff` says for which
balances and amounts the two are the same.
-/
import LunarysBridge.Solana.Release

namespace LunarysBridge.Solana

variable {s s' : State} {acc : ReleaseSol} {amount : UInt64}

/-- After a delivery of `amount` from an escrow that was `a`: an emptied
escrow is closed and its lamports have come to the refund destination,
another one is open with the rest. -/
def ClosedWhenEmptied (acc : ReleaseSol) (amount : UInt64) (a : TokenAccount) (s s' : State) :
    Prop :=
  amount ≤ a.amount ∧
  (amount = a.amount →
    s'.tokens.lookup acc.escrowWsol = none ∧
    s'.balance acc.escrowRefundDestination + amount.toNat =
      s.balance acc.escrowRefundDestination + a.lamports +
        (if acc.recipientWsol = acc.escrowRefundDestination then amount.toNat else 0)) ∧
  (amount ≠ a.amount →
    ∃ a', s'.tokens.lookup acc.escrowWsol = some a' ∧
      a'.amount.toNat = a.amount.toNat - amount.toNat)

/-! ## The two calls of the Token program -/

/-- A transfer of wrapped SOL moves lamports. -/
theorem Transferred.balance {source dest authority : Pubkey} {named : Option Pubkey}
    {a : TokenAccount} (h : Transferred source dest authority named amount s s')
    (ha : s.tokens.lookup source = some a) (hnative : a.mint = nativeMint) (addr : Pubkey) :
    s'.balance addr + (if source = addr then amount.toNat else 0) =
      s.balance addr + (if dest = addr then amount.toNat else 0) := by
  obtain ⟨a', b, ha', hb, hmint, _, _, hle, hcase⟩ := h.moved
  rw [ha] at ha'
  cases ha'
  rcases hcase with ⟨rfl, rfl⟩ | ⟨hne, hlt, htokens⟩
  · rfl
  · have hsource : s'.tokens.lookup source = some (a.debit amount hle) := by
      rw [htokens, AList.lookup_insert_ne hne, AList.lookup_insert]
    have hdest : s'.tokens.lookup dest = some (b.credit amount hlt) := by
      rw [htokens, AList.lookup_insert]
    have hbacked := a.backed hnative
    have hle' := UInt64.le_iff_toNat_le.mp hle
    by_cases hs : source = addr
    · subst hs
      rw [balance_of_lookup hsource, balance_of_lookup ha, if_pos rfl, if_neg (Ne.symm hne)]
      simp only [TokenAccount.debit, if_pos hnative]
      omega
    · by_cases hd : dest = addr
      · subst hd
        rw [balance_of_lookup hdest, balance_of_lookup hb, if_neg hs, if_pos rfl]
        simp only [TokenAccount.credit, if_pos (hmint ▸ hnative)]
        omega
      · have hsame : s'.tokens.lookup addr = s.tokens.lookup addr := by
          rw [htokens, AList.lookup_insert_ne (Ne.symm hd), AList.lookup_insert_ne (Ne.symm hs)]
        rw [if_neg hs, if_neg hd]
        unfold State.balance
        rw [hsame, h.others]

/-- What the source of a transfer has left. -/
theorem Transferred.source {source dest authority : Pubkey} {named : Option Pubkey}
    {a : TokenAccount} (h : Transferred source dest authority named amount s s')
    (ha : s.tokens.lookup source = some a) :
    ∃ a', s'.tokens.lookup source = some a' ∧
      a'.amount.toNat = a.amount.toNat - (if source = dest then 0 else amount.toNat) := by
  obtain ⟨a', b, ha', _, _, _, _, hle, hcase⟩ := h.moved
  rw [ha] at ha'
  cases ha'
  rcases hcase with ⟨rfl, rfl⟩ | ⟨hne, hlt, htokens⟩
  · exact ⟨a, ha, by simp⟩
  · refine ⟨a.debit amount hle, ?_, ?_⟩
    · rw [htokens, AList.lookup_insert_ne hne, AList.lookup_insert]
    · rw [if_neg hne]
      exact UInt64.toNat_sub_of_le _ _ hle

theorem closeAccount_closed {addr destination authority : Pubkey}
    (h : closeAccount addr destination authority s = .ok s') :
    s'.tokens.lookup addr = none ∧
      s'.balance destination = s.balance destination + s.balance addr := by
  obtain ⟨a, ha, h⟩ := bind_ok h
  obtain ⟨_, hne, h⟩ := bind_ok h
  obtain ⟨_, _, h⟩ := bind_ok h
  obtain ⟨_, _, h⟩ := bind_ok h
  cases h
  constructor
  · exact lookup_credit_none (AList.lookup_erase _ _)
  · have herased : State.balance { s with tokens := s.tokens.erase addr } destination =
        s.balance destination := by
      unfold State.balance
      rw [AList.lookup_erase_ne (Ne.symm (require_ok hne))]
    rw [balance_credit, if_pos rfl, herased, balance_of_lookup (okOr_ok ha)]

/-! ## The delivery -/

section Delivery

variable {a b : TokenAccount} {s₁ s₂ : State}

/-- An escrow that was empty is closed, and nothing was sent. -/
theorem SolDelivered.closed_of_empty (hd : SolDelivered acc amount a b s s₁ s₂ s')
    (hempty : a.amount = 0) : amount = 0 ∧ ClosedWhenEmptied acc amount a s s' := by
  have hzero : amount = 0 := by
    have hle := UInt64.le_iff_toNat_le.mp hd.enough
    rw [hempty] at hle
    exact UInt64.toNat_inj.mp (Nat.le_zero.mp hle)
  have hclosed := hd.closed
  rw [closeIfEmpty, if_pos hempty] at hclosed
  obtain ⟨hnone, hrent⟩ := closeAccount_closed hclosed
  have hmoved := hd.transferred.balance hd.escrow hd.native
  have hdest := hmoved acc.escrowRefundDestination
  have hescrow := hmoved acc.escrowWsol
  have hbalance : s'.balance acc.escrowRefundDestination =
      s₂.balance acc.escrowRefundDestination := by
    rw [hd.final]
    rfl
  refine ⟨hzero, hd.enough, fun _ => ⟨?_, ?_⟩, fun hne => ?_⟩
  · rw [hd.final]
    exact hnone
  · subst hzero
    rw [hbalance, hrent, ← balance_of_lookup hd.escrow]
    simp only [UInt64.toNat_zero, ite_self] at hdest hescrow ⊢
    omega
  · exact absurd (hzero.trans hempty.symm) hne

/-- Any other stays open with what is left, be it nothing. -/
theorem SolDelivered.open_of_ne (hd : SolDelivered acc amount a b s s₁ s₂ s')
    (hne : a.amount ≠ 0) : ∃ a', s'.tokens.lookup acc.escrowWsol = some a' ∧
      a'.amount.toNat = a.amount.toNat -
        (if acc.escrowWsol = acc.recipientWsol then 0 else amount.toNat) := by
  have hclosed := hd.closed
  rw [closeIfEmpty, if_neg hne] at hclosed
  cases hclosed
  rw [hd.final]
  exact hd.transferred.source hd.escrow

end Delivery

/-- **Closing** — the handler closes the escrow as it should exactly when
something is left or nothing was there, and nothing is sent from the escrow
to itself. -/
theorem closed_when_emptied_iff {a : TokenAccount}
    (ha : s.tokens.lookup acc.escrowWsol = some a) (h : deliverTokensSol acc amount s = .ok s') :
    ClosedWhenEmptied acc amount a s s' ↔
      (amount < a.amount ∨ a.amount = 0) ∧
        (acc.escrowWsol = acc.recipientWsol → amount = 0) := by
  obtain ⟨a', b, s₁, s₂, hd⟩ := deliverTokensSol_delivered h
  obtain rfl : a' = a := Option.some.inj (hd.escrow.symm.trans ha)
  by_cases hempty : a'.amount = 0
  · obtain ⟨hzero, hspec⟩ := hd.closed_of_empty hempty
    exact iff_of_true hspec ⟨.inr hempty, fun _ => hzero⟩
  · obtain ⟨a₁, hopen, hleft⟩ := hd.open_of_ne hempty
    have hle := UInt64.le_iff_toNat_le.mp hd.enough
    constructor
    · rintro ⟨-, hall, hrest⟩
      have hne : amount ≠ a'.amount := by
        intro heq
        rw [(hall heq).1] at hopen
        cases hopen
      obtain ⟨a₂, ha₂, hamount⟩ := hrest hne
      rw [hopen] at ha₂
      cases ha₂
      have hne' : amount.toNat ≠ a'.amount.toNat := fun heq => hne (UInt64.toNat_inj.mp heq)
      refine ⟨.inl (UInt64.lt_iff_toNat_lt.mpr (by omega)), fun hself => ?_⟩
      rw [if_pos hself] at hleft
      have hzero : amount.toNat = (0 : UInt64).toNat := by
        rw [UInt64.toNat_zero]
        omega
      exact UInt64.toNat_inj.mp hzero
    · rintro ⟨hless, hself⟩
      have hlt : amount < a'.amount := hless.resolve_right hempty
      have hlt' := UInt64.lt_iff_toNat_lt.mp hlt
      refine ⟨hd.enough, fun heq => ?_, fun _ => ⟨a₁, hopen, ?_⟩⟩
      · rw [heq] at hlt'
        omega
      · rw [hleft]
        split
        · next hsame => rw [hself hsame, UInt64.toNat_zero]
        · rfl

namespace Sample

def wrapped (holder : Pubkey) : TokenAccount where
  mint := nativeMint
  owner := holder
  amount := 0
  lamports := 1000
  reserve := 1000
  backed := fun _ => Nat.le_refl 1000

/-- The bridge has an escrow for wrapped SOL at 40, the rival an account
at 41. -/
def initialSol : State :=
  { initial with
    tokens := (initial.tokens.insert (.key 40) (wrapped .signPda)).insert (.key 41)
      (wrapped rival.key) }

theorem initialSol_initial : Initial initialSol :=
  ⟨rfl, rfl, fun _ => rfl, rfl, rfl, rfl, fun _ => rfl⟩

/-- A deposit of 1000 lamports. -/
def depositSol : Instruction :=
  .initiateBridgeSol { payer := user, escrowWsol := .key 40, arciumAccepts := true }
    { computationOffset := 0
      requestId := 8
      clientPubkey := 0
      nonce := 0
      destinationCt0 := 0
      destinationCt1 := 0
      destinationCt2 := 0
      destinationCt3 := 0
      amount := 1000 }

def deliverySol : ReleaseSol where
  relayer := owner
  escrowWsol := .key 40
  recipientWsol := .key 41
  recipient := rival.key
  escrowRefundDestination := owner.key

/-- The states around a delivery of so much from an escrow of 1000. -/
def deliveredSol (amount : UInt64) : Option (State × State) := do
  let s ← runMoves runtime (fun _ _ => true) [(0, config), (0, depositSol)] initialSol
  let s' ← (deliverTokensSol deliverySol amount s).toOption
  some (s, s')

/-- The amounts in the escrow around that delivery. -/
def escrowAmounts (p : State × State) : Option UInt64 × Option UInt64 :=
  ((p.1.tokens.lookup (.key 40)).map TokenAccount.amount,
    (p.2.tokens.lookup (.key 40)).map TokenAccount.amount)

theorem exists_deliveredSol (amount : UInt64) (x : Option UInt64 × Option UInt64)
    (h : (deliveredSol amount).map escrowAmounts = some x) :
    ∃ s s', Reachable runtime s ∧ deliverTokensSol deliverySol amount s = .ok s' ∧
      escrowAmounts (s, s') = x := by
  obtain ⟨⟨s, s'⟩, hs, hx⟩ := Option.map_eq_some_iff.mp h
  simp only [deliveredSol, Option.bind_eq_bind, Option.bind_eq_some_iff, Option.some.injEq,
    Prod.mk.injEq] at hs
  obtain ⟨s₀, hmoves, s₁, hok, rfl, rfl⟩ := hs
  have hrun := run_of_moves (.nil initialSol) hmoves
  exact ⟨_, _, ⟨_, initialSol_initial, hrun.mono fun _ _ _ => trivial⟩, ok_of_toOption hok, hx⟩

end Sample

/-- A delivery of 400 from an escrow of 1000 leaves it open. -/
theorem closed_when_emptied_part : ∃ s s' a, Reachable Sample.runtime s ∧
    deliverTokensSol Sample.deliverySol 400 s = .ok s' ∧ a.amount = 1000 ∧
    ClosedWhenEmptied Sample.deliverySol 400 a s s' := by
  obtain ⟨s, s', hreach, h, hamounts⟩ := Sample.exists_deliveredSol 400
    (some 1000, some 600) (by decide +kernel)
  obtain ⟨a, ha, hamount⟩ := Option.map_eq_some_iff.mp (Prod.mk.inj hamounts).1
  refine ⟨s, s', a, hreach, h, hamount, (closed_when_emptied_iff ha h).mpr ⟨.inl ?_, ?_⟩⟩
  · rw [hamount]
    decide
  · intro hself
    exact absurd hself (by decide)

/-- A delivery of all 1000 empties the escrow, which stays open. -/
theorem closed_when_emptied_all :
    ¬ ∀ (rt : Runtime) (acc : ReleaseSol) (amount : UInt64) (a : TokenAccount) (s s' : State),
      Reachable rt s → s.tokens.lookup acc.escrowWsol = some a →
      deliverTokensSol acc amount s = .ok s' → ClosedWhenEmptied acc amount a s s' := by
  intro hall
  obtain ⟨s, s', hreach, h, hamounts⟩ := Sample.exists_deliveredSol 1000
    (some 1000, some 0) (by decide +kernel)
  obtain ⟨hbefore, hafter⟩ := Prod.mk.inj hamounts
  obtain ⟨a, ha, hamount⟩ := Option.map_eq_some_iff.mp hbefore
  obtain ⟨a', ha', -⟩ := Option.map_eq_some_iff.mp hafter
  obtain ⟨-, hclosed, -⟩ := hall _ _ _ a s s' hreach ha h
  have hnone := (hclosed hamount.symm).1
  rw [show Sample.deliverySol.escrowWsol = .key 40 from rfl, ha'] at hnone
  cases hnone

end LunarysBridge.Solana
