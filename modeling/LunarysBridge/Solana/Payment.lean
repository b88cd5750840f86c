/-
LunarysBridge.Solana.Payment — which tokens a settlement pays.

The escrow and the solver's account must be of the mint that is passed, but
nothing ties this mint to the one of the request. A settlement pays in the
deposited token exactly when the mint passed is the request's, or when it
moves nothing at all.
-/
import LunarysBridge.Solana.Settlement

namespace LunarysBridge.Solana

variable {rt : Runtime} {s s' s₁ : State}

/-- Between the states only accounts of the mint have changed, and only
accounts of the sign PDA have lost tokens. -/
structure PaysIn (mint : Pubkey) (s s' : State) : Prop where
  mint : ∀ addr a, s.tokens.lookup addr = some a → s'.amountAt addr ≠ a.amount.toNat →
    a.mint = mint
  escrow : ∀ addr a, s.tokens.lookup addr = some a → s'.amountAt addr < a.amount.toNat →
    a.owner = .signPda

theorem PaysIn.of_kept {mint : Pubkey}
    (h : ∀ addr a, s.tokens.lookup addr = some a → s'.amountAt addr = a.amount.toNat) :
    PaysIn mint s s' where
  mint := fun addr a ha hne => absurd (h addr a ha) hne
  escrow := fun addr a ha hlt => absurd (h addr a ha) (Nat.ne_of_lt hlt)

theorem TokensKept.amounts (h : TokensKept s s') (addr : Pubkey) (a : TokenAccount)
    (ha : s.tokens.lookup addr = some a) : s'.amountAt addr = a.amount.toNat := by
  rw [h.amountAt ha, amountAt_of_lookup ha]

section Paid

variable {source dest : Pubkey} {amount : UInt64} {a b : TokenAccount}

/-- A payment between two accounts of one mint pays in this mint. -/
theorem Paid.paysIn (h : Paid source dest amount s s') (ha : s.tokens.lookup source = some a)
    (hb : s.tokens.lookup dest = some b) (hmint : b.mint = a.mint)
    (howner : a.owner = .signPda) : PaysIn a.mint s s' where
  mint := by
    intro addr c hc hne
    by_cases hs : addr = source
    · subst hs
      rw [ha] at hc
      cases hc
      rfl
    · by_cases hd : addr = dest
      · subst hd
        rw [hb] at hc
        cases hc
        exact hmint
      · rw [h.others addr c hc hs hd, amountAt_of_lookup hc] at hne
        exact absurd rfl hne
  escrow := by
    intro addr c hc hlt
    by_cases hs : addr = source
    · subst hs
      rw [ha] at hc
      cases hc
      exact howner
    · by_cases hd : addr = dest
      · subst hd
        have hgiven := h.given
        rw [amountAt_of_lookup hc] at hgiven
        omega
      · rw [h.others addr c hc hs hd, amountAt_of_lookup hc] at hlt
        exact absurd rfl (Nat.ne_of_lt hlt)

/-- A payment of nothing changes no account. -/
theorem Paid.kept (h : Paid source dest amount s s') (h₀ : amount.toNat = 0) (addr : Pubkey)
    (c : TokenAccount) (hc : s.tokens.lookup addr = some c) :
    s'.amountAt addr = c.amount.toNat := by
  have htaken := h.taken
  have hgiven := h.given
  rw [← amountAt_of_lookup hc]
  by_cases hs : addr = source
  · subst hs
    omega
  · by_cases hd : addr = dest
    · subst hd
      omega
    · exact h.others addr c hc hs hd

end Paid

/-- **The token of a settlement.** A settlement pays in the token of its
request exactly when the mint passed is the request's or no token moves,
which is so when the request has locked nothing or when it pays from an
account to the same one. -/
theorem settlement_mint_iff {acc : VerifyAndSettleSpl} {requestId : UInt64}
    {destTxHash evidenceHash : Bytes32} {evidenceUrl : String} {req : BridgeRequest}
    (h : verifyAndSettleSpl rt acc requestId destTxHash evidenceHash evidenceUrl s = .ok s')
    (hl : s.requests.lookup (.request acc.requestOwner requestId) = some req) :
    PaysIn req.tokenMint s s' ↔ acc.mint = req.tokenMint ∨
      req.amountLocked.toNat + req.feeLocked.toNat = 0 ∨ acc.escrowToken = acc.solverToken := by
  obtain ⟨cfg, r, payout, s₁, _, _, hlookup, ⟨a, ha, hamint, haowner⟩, ⟨b, hb, hbmint, _⟩,
    _, _, _, _, hpayout, ht, hk, _⟩ := verifyAndSettleSpl_ok h
  rw [hl] at hlookup
  cases hlookup
  by_cases hsame : acc.escrowToken = acc.solverToken
  · obtain ⟨_, _, _, _, _, _, _, _, hcase⟩ := ht.moved
    have hs₁ : s₁ = s := by
      rcases hcase with ⟨_, hs₁⟩ | ⟨hne, _⟩
      · exact hs₁
      · exact absurd hsame hne
    rw [hs₁] at hk
    exact iff_of_true (.of_kept hk.amounts) (.inr (.inr hsame))
  · have hpaid := ht.paid hk hsame
    constructor
    · intro hpays
      by_cases hnone : payout.toNat = 0
      · exact .inr (.inl (by omega))
      · have htaken := hpaid.taken
        rw [amountAt_of_lookup ha] at htaken
        have hmint := hpays.mint _ a ha (by omega)
        exact .inl (hamint.symm.trans hmint)
    · rintro (hmint | hnone | hcontra)
      · rw [← hmint, ← hamint]
        exact hpaid.paysIn ha hb (hbmint.trans hamint.symm) haowner
      · exact .of_kept (hpaid.kept (by omega))
      · exact absurd hcontra hsame

namespace Sample

def otherMint : Pubkey := .key 11

def otherAccount (holder : Pubkey) (amount : UInt64) : TokenAccount where
  mint := otherMint
  owner := holder
  amount := amount
  lamports := 1000
  reserve := 0
  backed := fun h => absurd h (by decide)

/-- Of another mint the rival has tokens at 23, the bridge an escrow at 24 and
the solver an account at 25. -/
def twoMints : State :=
  { initial with
    tokens := ((initial.tokens.insert (.key 23) (otherAccount rival.key 5000)).insert (.key 24)
      (otherAccount .signPda 0)).insert (.key 25) (otherAccount solver.key 0) }

theorem twoMints_initial : Initial twoMints :=
  ⟨rfl, rfl, fun _ => rfl, rfl, rfl, rfl, fun _ => rfl⟩

/-- The rival deposits 2000 tokens of the other mint. -/
def otherDeposit : Instruction :=
  .initiateBridge
    { payer := rival
      userToken := .key 23
      mint := otherMint
      escrowToken := .key 24
      arciumAccepts := true }
    { computationOffset := 0
      requestId := 8
      clientPubkey := 0
      nonce := 0
      destinationCt0 := 0
      destinationCt1 := 0
      destinationCt2 := 0
      destinationCt3 := 0
      amount := 2000 }

/-- The accounts of a settlement of the user's request in one of the mints. -/
def settleIn (mint escrowToken solverToken : Pubkey) : VerifyAndSettleSpl where
  relayer := owner
  requestOwner := user.key
  mint := mint
  escrowToken := escrowToken
  solverToken := solverToken
  solverWallet := solver.key

/-- The states around a settlement of the user's request, both mints deposited. -/
def settledIn (acc : VerifyAndSettleSpl) : Option (State × State) := do
  let s ← runMoves runtime (fun _ _ => true)
    [(0, config), (0, deposit (.key 21)), (0, otherDeposit), (0, claim solver)] twoMints
  let s' ← (verifyAndSettleSpl runtime acc 7 0 0 "" s).toOption
  some (s, s')

theorem settledIn_some {acc : VerifyAndSettleSpl} {p : State × State}
    (h : settledIn acc = some p) : Reachable runtime p.1 ∧
      verifyAndSettleSpl runtime acc 7 0 0 "" p.1 = .ok p.2 := by
  simp only [settledIn, Option.bind_eq_bind, Option.bind_eq_some_iff, Option.some.injEq] at h
  obtain ⟨s, hmoves, s', hok, rfl⟩ := h
  exact ⟨⟨twoMints, twoMints_initial, (run_of_moves (.nil _) hmoves).mono
    fun _ _ _ => trivial⟩, ok_of_toOption hok⟩

/-- The mint of the user's request. -/
def requestMint (s : State) : Option Pubkey :=
  (s.requests.lookup request).map BridgeRequest.tokenMint

/-- What the two escrows have. -/
def escrows (s : State) : Nat × Nat := (s.amountAt (.key 21), s.amountAt (.key 24))

end Sample

theorem settlement_mint_iff_deposited : ∃ s s' req, Reachable Sample.runtime s ∧
    verifyAndSettleSpl Sample.runtime (Sample.settleIn Sample.mint (.key 21) (.key 22)) 7 0 0 ""
      s = .ok s' ∧ s.requests.lookup Sample.request = some req ∧ PaysIn req.tokenMint s s' ∧
    (Sample.escrows s, Sample.escrows s') = ((1000, 2000), (0, 2000)) := by
  have hrun : (Sample.settledIn (Sample.settleIn Sample.mint (.key 21) (.key 22))).map
      (fun p => (Sample.requestMint p.1, Sample.escrows p.1, Sample.escrows p.2)) =
        some (some Sample.mint, (1000, 2000), (0, 2000)) := by
    decide +kernel
  obtain ⟨⟨s, s'⟩, hs, hreport⟩ := Option.map_eq_some_iff.mp hrun
  obtain ⟨hreach, hok⟩ := Sample.settledIn_some hs
  obtain ⟨hmint, hescrows⟩ := Prod.mk.inj hreport
  obtain ⟨req, hl, hreq⟩ := Option.map_eq_some_iff.mp hmint
  exact ⟨s, s', req, hreach, hok, hl, (settlement_mint_iff hok hl).mpr (.inl hreq.symm), hescrows⟩

/-- The user has deposited one token, and the solver is paid in another, out
of what the rival has deposited. -/
theorem settlement_in_other_mint :
    ¬ ∀ rt s acc requestId destTxHash evidenceHash evidenceUrl s' req, Reachable rt s →
      verifyAndSettleSpl rt acc requestId destTxHash evidenceHash evidenceUrl s = .ok s' →
      s.requests.lookup (.request acc.requestOwner requestId) = some req →
      PaysIn req.tokenMint s s' := by
  intro hall
  have hrun : (Sample.settledIn (Sample.settleIn Sample.otherMint (.key 24) (.key 25))).map
      (fun p => (Sample.requestMint p.1, (p.1.tokens.lookup (.key 24)).map
        (fun a => (a.mint, a.amount.toNat)), p.2.amountAt (.key 24))) =
        some (some Sample.mint, some (Sample.otherMint, 2000), 1000) := by
    decide +kernel
  obtain ⟨⟨s, s'⟩, hs, hreport⟩ := Option.map_eq_some_iff.mp hrun
  obtain ⟨hreach, hok⟩ := Sample.settledIn_some hs
  obtain ⟨hmint, hreport⟩ := Prod.mk.inj hreport
  obtain ⟨hescrow, hafter⟩ := Prod.mk.inj hreport
  obtain ⟨req, hl, hreq⟩ := Option.map_eq_some_iff.mp hmint
  obtain ⟨a, ha, hbefore⟩ := Option.map_eq_some_iff.mp hescrow
  obtain ⟨hamint, hamount⟩ := Prod.mk.inj hbefore
  have hpays := (hall _ s _ 7 0 0 "" s' req hreach hok hl).mint (.key 24) a ha
    (by rw [hamount]; exact fun h => absurd (hafter.symm.trans h) (by decide))
  rw [hamint, hreq] at hpays
  exact absurd hpays (by decide)

end LunarysBridge.Solana
