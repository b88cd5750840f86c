/-
LunarysBridge.Solana.Deliveries — deliveries of the reverse flow and the
tokens that the open requests have locked.

`deliver_tokens` and `deliver_tokens_sol` check the amount against the whole
escrow account. What the bridge holds afterwards is what it held less what
left (`delivered`), so it covers the open requests exactly if the delivery
was paid from the surplus.
-/
import LunarysBridge.Solana.Solvency

namespace LunarysBridge.Solana

variable {rt : Runtime} {s s' : State} {recipient mint : Pubkey} {amount : UInt64}

/-- Recipient, mint and amount of a delivery. -/
def Instruction.delivery : Instruction → Option (Pubkey × Pubkey × UInt64)
  | .deliverTokens acc amount => some (acc.recipient, acc.mint, amount)
  | .deliverTokensSol acc amount => some (acc.recipient, nativeMint, amount)
  | _ => none

/-- What a delivery takes from the bridge. -/
def leaving (recipient : Pubkey) (amount : UInt64) : Nat :=
  if recipient = .signPda then 0 else amount.toNat

/-- The delivery is paid from what is not owed. -/
def FromSurplus (recipient mint : Pubkey) (amount : UInt64) (s : State) : Prop :=
  leaving recipient amount + s.owed mint ≤ s.holdings mint

instance (recipient mint : Pubkey) (amount : UInt64) (s : State) :
    Decidable (FromSurplus recipient mint amount s) :=
  inferInstanceAs (Decidable (_ ≤ _))

/-! ## Holdings -/

theorem holdings_credit (s : State) (addr : Pubkey) (n : Nat) (m : Pubkey) :
    (s.credit addr n).holdings m = s.holdings m := by
  unfold State.credit
  split
  · next a ha =>
    have hchange := Table.total_change (f := fun _ a => a.value m) ha (a.fund n)
    have hvalue : (a.fund n).value m = a.value m := rfl
    unfold State.holdings
    simp only []
    omega
  · rfl

theorem holdings_systemTransfer {source dest : Pubkey} {n : Nat}
    (h : systemTransfer source dest n s = .ok s') (m : Pubkey) :
    s'.holdings m = s.holdings m := by
  rw [systemTransfer_ok h, holdings_credit]
  rfl

/-- The recipient's account after `init_if_needed`; a new one is empty. -/
theorem holdings_initAta {payer : Signer} {wallet mint : Pubkey}
    (h : initAta rt payer wallet mint s = .ok s') (m : Pubkey) :
    s'.holdings m = s.holdings m ∧
      ∃ b, s'.tokens.lookup (rt.ata wallet mint) = some b ∧ b.mint = mint ∧
        b.owner = wallet := by
  unfold initAta at h
  split at h
  · next a ha =>
    obtain ⟨_, hrequire, h⟩ := bind_ok h
    cases h
    exact ⟨rfl, a, ha, require_ok hrequire⟩
  · next hnone =>
    obtain ⟨s₁, hrent, h⟩ := bind_ok h
    cases h
    have hnone₁ : s₁.tokens.lookup (rt.ata wallet mint) = none := by
      rw [systemTransfer_ok hrent, State.credit]
      have hdebit : (s.debit payer.key (rt.tokenRent - s.lamports (rt.ata wallet mint))
          ).tokens.lookup (rt.ata wallet mint) = none := hnone
      rw [hdebit]
      exact hnone
    refine ⟨?_, _, AList.lookup_insert _, rfl, rfl⟩
    have hinsert := Table.total_insert (f := fun _ a => TokenAccount.value m a)
      (b := { mint := mint, owner := wallet, amount := 0, lamports := rt.tokenRent,
              reserve := rt.tokenRent, backed := fun _ => Nat.le_of_eq (Nat.zero_add _) })
      hnone₁
    have hkeep : s₁.holdings m = s.holdings m := holdings_systemTransfer hrent m
    rw [← hkeep]
    refine hinsert.trans ?_
    simp [State.holdings, TokenAccount.value]

/-- Closing an empty account loses nothing. -/
theorem holdings_closeAccount {addr destination authority : Pubkey} {a : TokenAccount}
    (h : closeAccount addr destination authority s = .ok s')
    (ha : s.tokens.lookup addr = some a) (hempty : a.amount = 0) (m : Pubkey) :
    s'.holdings m = s.holdings m := by
  obtain ⟨a', ha', h⟩ := bind_ok h
  obtain ⟨_, _, h⟩ := bind_ok h
  obtain ⟨_, _, h⟩ := bind_ok h
  obtain ⟨_, _, h⟩ := bind_ok h
  have hsame := okOr_ok ha'
  rw [ha] at hsame
  cases hsame
  cases h
  rw [holdings_credit]
  have herase := Table.total_erase (f := fun _ a => TokenAccount.value m a) ha
  have hzero : a.value m = 0 := by simp [TokenAccount.value, hempty]
  simp only [State.holdings]
  omega

/-- What the bridge sends leaves it, unless it sends to itself. -/
theorem Transferred.delivered {source dest : Pubkey} {named : Option Pubkey}
    {b : TokenAccount} (h : Transferred source dest .signPda named amount s s')
    (hb : s.tokens.lookup dest = some b) (m : Pubkey) :
    s'.holdings m + (if b.mint = m then leaving b.owner amount else 0) = s.holdings m := by
  obtain ⟨a, b', ha, hb', hmint, _, hauthority, hle, hcase⟩ := h.moved
  rw [hb] at hb'
  cases hb'
  by_cases howner : b.owner = .signPda
  · rcases hcase with ⟨_, rfl⟩ | ⟨hne, _⟩
    · simp [leaving, howner]
    · obtain ⟨_, hlt, hsum⟩ := h.holdings ha hb hne m
      have hsub : (a.amount - amount).toNat + amount.toNat = a.amount.toNat := by
        rw [UInt64.toNat_sub_of_le _ _ hle]
        have := UInt64.le_iff_toNat_le.mp hle
        omega
      have hadd : (b.amount + amount).toNat = b.amount.toNat + amount.toNat := by
        rw [UInt64.toNat_add, Nat.mod_eq_of_lt hlt]
      by_cases hm : b.mint = m
      · simp [TokenAccount.value, TokenAccount.debit, TokenAccount.credit, leaving, howner,
          hm, hmint, ← hauthority, hadd] at hsum ⊢
        omega
      · simp [TokenAccount.value, TokenAccount.debit, TokenAccount.credit, hm, hmint]
          at hsum ⊢
        omega
  · have hout := h.holdings_out ha hb hauthority.symm howner m
    rw [hmint] at hout
    rwa [leaving, if_neg howner]

/-- The source of a transfer that had nothing has nothing after it. -/
theorem Transferred.empty {source dest authority : Pubkey} {named : Option Pubkey}
    {a : TokenAccount} (h : Transferred source dest authority named amount s s')
    (ha : s.tokens.lookup source = some a) (hempty : a.amount = 0) :
    ∃ a', s'.tokens.lookup source = some a' ∧ a'.amount = 0 := by
  obtain ⟨a', b, ha', _, _, _, _, hle, hcase⟩ := h.moved
  rw [ha] at ha'
  cases ha'
  rcases hcase with ⟨_, rfl⟩ | ⟨hne, hlt, htokens⟩
  · exact ⟨a, ha, hempty⟩
  · refine ⟨a.debit amount hle, ?_, ?_⟩
    · rw [htokens, AList.lookup_insert_ne hne, AList.lookup_insert]
    · have hzero : a.amount.toNat = 0 := by simp [hempty]
      have hle' := UInt64.le_iff_toNat_le.mp hle
      apply UInt64.toNat_inj.mp
      simp only [TokenAccount.debit, UInt64.toNat_sub_of_le _ _ hle]
      simp
      omega

/-! ## Deliveries -/

/-- What a delivery takes: the amount, of its own mint. -/
theorem delivered_deliverTokens {acc : ReleaseSpl}
    (h : deliverTokens rt acc amount s = .ok s') (m : Pubkey) :
    s'.holdings m + (if acc.mint = m then leaving acc.recipient amount else 0) =
      s.holdings m := by
  obtain ⟨cfg, _, h⟩ := bind_ok h
  obtain ⟨_, _, h⟩ := bind_ok h
  obtain ⟨escrowToken, _, h⟩ := bind_ok h
  obtain ⟨_, _, h⟩ := bind_ok h
  obtain ⟨_, _, h⟩ := bind_ok h
  obtain ⟨s₁, h₁, h⟩ := bind_ok h
  obtain ⟨_, _, h⟩ := bind_ok h
  obtain ⟨_, _, h⟩ := bind_ok h
  obtain ⟨s₂, h₂, h⟩ := bind_ok h
  obtain ⟨hkeep, b, hb, hmint, howner⟩ := holdings_initAta h₁ m
  have hout := (tokenTransfer_ok h₂).delivered hb m
  cases h
  rw [hmint, howner, hkeep] at hout
  exact hout

theorem delivered_deliverTokensSol {acc : ReleaseSol}
    (h : deliverTokensSol acc amount s = .ok s') (m : Pubkey) :
    s'.holdings m + (if nativeMint = m then leaving acc.recipient amount else 0) =
      s.holdings m := by
  obtain ⟨a, b, s₁, s₂, hd⟩ := deliverTokensSol_delivered h
  have hout := hd.transferred.delivered hd.recipient m
  rw [hd.recipientMint, hd.recipientOwner] at hout
  rw [hd.final]
  -- an account is closed only if it was empty, and then it still is
  have hclose : s₂.holdings m = s₁.holdings m := by
    have hclosed := hd.closed
    unfold closeIfEmpty at hclosed
    split at hclosed
    · next hempty =>
      obtain ⟨a', ha', hempty'⟩ := hd.transferred.empty hd.escrow hempty
      exact holdings_closeAccount hclosed ha' hempty' m
    · cases hclosed
      rfl
  rw [← hclose] at hout
  exact hout

/-- A delivery leaves the requests alone, and takes what leaves. -/
theorem delivered {i : Instruction} (hi : i.delivery = some (recipient, mint, amount))
    (h : exec rt i s = .ok s') :
    s'.requests = s.requests ∧ ∀ m,
      s'.holdings m + (if mint = m then leaving recipient amount else 0) = s.holdings m := by
  cases i with
  | deliverTokens acc amount =>
      cases hi
      exact ⟨(deliverTokens_ok h).requests, delivered_deliverTokens h⟩
  | deliverTokensSol acc amount =>
      cases hi
      exact ⟨(deliverTokensSol_ok h).requests, delivered_deliverTokensSol h⟩
  | _ => cases hi

/-- **Paid from the surplus.** After a delivery the bridge holds what it owes
exactly if the delivery was paid from the surplus. -/
theorem delivery_surplus {i : Instruction} (hi : i.delivery = some (recipient, mint, amount))
    (h : exec rt i s = .ok s') :
    s'.owed mint ≤ s'.holdings mint ↔ FromSurplus recipient mint amount s := by
  obtain ⟨hrequests, hholdings⟩ := delivered hi h
  have howed : s'.owed mint = s.owed mint := by simp only [State.owed, hrequests]
  have hrest := hholdings mint
  rw [if_pos rfl] at hrest
  unfold FromSurplus
  omega

/-! ## Runs that spare the escrow -/

/-- The instruction, if it is a delivery, is paid from the surplus. -/
def spares (i : Instruction) (s : State) : Bool :=
  i.delivery.all fun d => FromSurplus d.1 d.2.1 d.2.2 s

theorem Solvent.delivered {i : Instruction} (hs : Solvent s)
    (hi : i.delivery = some (recipient, mint, amount)) (hspares : spares i s = true)
    (h : exec rt i s = .ok s') : Solvent s' := by
  obtain ⟨hrequests, hholdings⟩ := Solana.delivered hi h
  refine ⟨fun m => ?_, fun addr req hreq => ?_⟩
  · by_cases hm : mint = m
    · subst hm
      have hsurplus : FromSurplus recipient mint amount s := by simpa [spares, hi] using hspares
      exact (delivery_surplus hi h).mpr hsurplus
    · have howed : s'.owed m = s.owed m := by simp only [State.owed, hrequests]
      have hrest := hholdings m
      have hold := hs.owed_le m
      rw [if_neg hm] at hrest
      omega
  · rw [hrequests] at hreq
    exact hs.solvers addr req hreq

/-- **What is owed stays there** in every run whose deliveries are paid from
the surplus, where deposits and settlements are backed. -/
theorem solvent_of_spares {s₀ : State} (hinit : Initial s₀)
    (hrun : Run rt (fun i s => backed i s = true ∧ spares i s = true) s₀ s) : Solvent s := by
  induction hrun with
  | nil => exact solvent_initial hinit
  | exec _ i meets succeeds ih =>
      cases hi : i.delivery with
      | none =>
          have hscope : inScope i = true := by
            cases i with
            | deliverTokens acc amount => cases hi
            | deliverTokensSol acc amount => cases hi
            | _ => rfl
          exact solvent_exec succeeds hscope meets.1 ih
      | some d =>
          obtain ⟨recipient, mint, amount⟩ := d
          exact ih.delivered hi meets.2 succeeds
  | outside _ move ih => exact move.solvent ih

end LunarysBridge.Solana
