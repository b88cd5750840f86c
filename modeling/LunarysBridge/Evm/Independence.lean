/-
LunarysBridge.Evm.Independence — calls on different requests do not depend
on each other.

A claim, a release or a settlement reads the parameters and the entries of
its own request (`outcome_congr`), and writes these entries only. What two
such calls share is the value they move: the contract holds both bonds at
once, and tokens leave it only, so the payments of both are covered in
either order. What a sender sends is the exception: it may have come from
the other call.
-/
import LunarysBridge.Evm.Conservation
import LunarysBridge.Evm.Outcome

namespace LunarysBridge.Evm

open Reentrancy (accepting)

variable {ch : Chain} {t : Tx ch.self} {s s' : State} {id : Nat} {o : Outcome}

/-! ## What a call reads -/

/-- Two states with the same parameters and the same entries of a request. -/
structure SameReads (id : Nat) (s s' : State) : Prop where
  relayer : s'.relayer = s.relayer
  claimWindow : s'.claimWindow = s.claimWindow
  minSolverBond : s'.minSolverBond = s.minSolverBond
  slashBps : s'.slashBps = s.slashBps
  slashCollector : s'.slashCollector = s.slashCollector
  authorizedNodes : s'.authorizedNodes = s.authorizedNodes
  now : s'.now = s.now
  request : s'.bridgeRequests id = s.bridgeRequests id
  claim : s'.requestClaim id = s.requestClaim id
  feeEscrow : s'.requestFeeEscrow id = s.requestFeeEscrow id

theorem SameReads.expiry (h : SameReads id s s') : expiry ch t id s' = expiry ch t id s := by
  unfold Evm.expiry
  rw [h.claim, h.slashBps, h.slashCollector]

theorem SameReads.registered (h : SameReads id s s') (pays : List (Address × Nat))
    (acts : List LogEntry) : registered ch t id pays acts s' = registered ch t id pays acts s := by
  unfold Evm.registered
  rw [h.minSolverBond, h.now, h.claimWindow, h.request, h.feeEscrow]

theorem SameReads.claimOutcome (h : SameReads id s s') :
    claimOutcome ch t id s' = claimOutcome ch t id s := by
  unfold Evm.claimOutcome
  simp only [h.authorizedNodes, h.request, h.claim, h.now, h.expiry, h.registered]

theorem SameReads.releaseOutcome (h : SameReads id s s') :
    releaseOutcome ch t id s' = releaseOutcome ch t id s := by
  unfold Evm.releaseOutcome
  rw [h.claim, h.now, h.expiry, h.request, h.feeEscrow]

theorem SameReads.settleOutcome (h : SameReads id s s') (verified : Event) :
    settleOutcome ch t id verified s' = settleOutcome ch t id verified s := by
  unfold Evm.settleOutcome
  rw [h.relayer, h.claim, h.now, h.request, h.feeEscrow]

theorem outcome_congr (hfn : t.fn.claims = some id) (h : SameReads id s s') :
    outcome ch t s' = outcome ch t s := by
  unfold outcome
  cases hf : t.fn with
  | claimBridge i =>
      rw [hf] at hfn
      cases hfn
      exact h.claimOutcome
  | releaseExpiredClaim i =>
      rw [hf] at hfn
      cases hfn
      exact h.releaseOutcome
  | verifyAndSettle i destTxHash evidenceHash =>
      rw [hf] at hfn
      cases hfn
      exact h.settleOutcome _
  | verifyAndSettleURL i destTxHash evidenceHash evidenceURL =>
      rw [hf] at hfn
      cases hfn
      exact h.settleOutcome _
  | _ => rfl

/-! ## What an outcome moves -/

/-- The shape of an outcome: it is about its request; ETH comes from the
sender and from the bond of the claim; and tokens go from the contract to
somebody else. -/
structure Shape (ch : Chain) (t : Tx ch.self) (id : Nat) (s : State) (o : Outcome) :
    Prop where
  self : o.id = id
  eth : ∀ a, Ledger.out a o.eth ≤
    (if t.sender = a then t.value else 0) +
      if ch.self = a then (s.requestClaim id).bond else 0
  tokens : ∀ p, Ledger.out p o.tokens = 0 ∨ p.2 = ch.self
  recipients : ∀ token, Ledger.into (token, ch.self) o.tokens = 0

theorem out_sends (pays : List (Address × Nat)) (a : Address) :
    Ledger.out a (sends ch pays) = if ch.self = a then (pays.map Prod.snd).sum else 0 := by
  induction pays with
  | nil => simp [sends]
  | cons p pays ih =>
      have hcons : sends ch (p :: pays) = ⟨ch.self, p.1, p.2⟩ :: sends ch pays := rfl
      rw [hcons, Ledger.out_cons, ih]
      by_cases ha : ch.self = a
      · simp [ha]
      · simp [ha]

/-- An expired claim pays out its bond at most. -/
theorem expiry_pays {e : List (Address × Nat) × List LogEntry}
    (h : expiry ch t id s = some e) :
    (e.1.map Prod.snd).sum ≤ (s.requestClaim id).bond := by
  unfold expiry at h
  split at h
  · cases h
  · next product _ =>
    simp only [] at h
    split at h
    · cases h
    · next leftover hsub =>
      split at h
      · cases h
        have hsum := checkedSub_some hsub
        have hslash : ((slashPays s.slashCollector (product / 10000)).map Prod.snd).sum ≤
            product / 10000 := by
          unfold slashPays
          split <;> simp
        have hrefund : ((refundPays (s.requestClaim id).solver leftover).map Prod.snd).sum ≤
            leftover := by
          unfold refundPays
          split <;> simp
        rw [List.map_append, List.sum_append]
        omega
      · cases h

theorem shape_registered {pays : List (Address × Nat)} {acts : List LogEntry}
    (h : registered ch t id pays acts s = some o)
    (hp : (pays.map Prod.snd).sum ≤ (s.requestClaim id).bond) : Shape ch t id s o := by
  obtain ⟨hid, _, _, htokens, _⟩ := registered_fields h
  refine ⟨hid, ?_, ?_, ?_⟩
  · intro a
    rw [registered_eth h, Ledger.out_cons, out_sends]
    apply Nat.add_le_add_left
    split
    · exact hp
    · exact Nat.le_refl 0
  · intro p
    rw [htokens]
    exact .inl rfl
  · intro token
    rw [htokens]
    rfl

theorem shape_claimOutcome (h : claimOutcome ch t id s = some o) : Shape ch t id s o := by
  rcases claimOutcome_registered h with hreg | ⟨e, he, hreg⟩
  · exact shape_registered hreg (Nat.zero_le _)
  · exact shape_registered hreg (expiry_pays he)

theorem shape_releaseOutcome (h : releaseOutcome ch t id s = some o) :
    Shape ch t id s o := by
  unfold releaseOutcome at h
  obtain ⟨_, h⟩ := Option.ite_none_left_eq_some.mp h
  obtain ⟨_, h⟩ := Option.ite_none_left_eq_some.mp h
  obtain ⟨_, h⟩ := Option.ite_none_left_eq_some.mp h
  obtain ⟨e, he, rfl⟩ := Option.map_eq_some_iff.mp h
  have hp := expiry_pays he
  refine ⟨rfl, ?_, fun _ => .inl rfl, fun _ => rfl⟩
  intro a
  show Ledger.out a (sends ch e.1) ≤ _
  rw [out_sends]
  split <;> omega

theorem shape_settleOutcome {verified : Event} (h : settleOutcome ch t id verified s = some o) :
    Shape ch t id s o := by
  unfold settleOutcome at h
  obtain ⟨_, h⟩ := Option.ite_none_left_eq_some.mp h
  obtain ⟨_, h⟩ := Option.ite_none_left_eq_some.mp h
  obtain ⟨_, h⟩ := Option.ite_none_left_eq_some.mp h
  obtain ⟨_, h⟩ := Option.ite_none_left_eq_some.mp h
  obtain ⟨_, h⟩ := Option.ite_none_left_eq_some.mp h
  obtain ⟨_, h⟩ := Option.ite_none_left_eq_some.mp h
  split at h
  · cases h
  · obtain ⟨hself, h⟩ := Option.ite_none_left_eq_some.mp h
    cases h
    refine ⟨rfl, ?_, ?_, ?_⟩
    · intro a
      show Ledger.out a (sends ch _) ≤ _
      rw [out_sends]
      simp only [List.map_cons, List.map_nil, List.sum_cons, List.sum_nil, Nat.add_zero]
      split <;> omega
    · intro p
      show Ledger.out p (tokenMoves ch _ _ _) = 0 ∨ _
      unfold tokenMoves
      split
      · rw [Ledger.out_cons, Ledger.out_nil]
        by_cases hp : ((s.bridgeRequests id).token, ch.self) = p
        · exact .inr (by rw [← hp])
        · exact .inl (by rw [if_neg hp])
      · exact .inl rfl
    · intro token
      show Ledger.into (token, ch.self) (tokenMoves ch _ _ _) = 0
      unfold tokenMoves
      split
      · rw [Ledger.into_cons, Ledger.into_nil]
        simp [hself]
      · rfl

theorem shape_outcome (hfn : t.fn.claims = some id) (h : outcome ch t s = some o) :
    Shape ch t id s o := by
  unfold outcome at h
  cases hf : t.fn with
  | claimBridge i =>
      rw [hf] at hfn h
      cases hfn
      exact shape_claimOutcome h
  | releaseExpiredClaim i =>
      rw [hf] at hfn h
      cases hfn
      exact shape_releaseOutcome h
  | verifyAndSettle i destTxHash evidenceHash =>
      rw [hf] at hfn h
      cases hfn
      exact shape_settleOutcome h
  | verifyAndSettleURL i destTxHash evidenceHash evidenceURL =>
      rw [hf] at hfn h
      cases hfn
      exact shape_settleOutcome h
  | _ =>
      rw [hf] at hfn
      cases hfn

/-! ## What an outcome leaves -/

/-- The entries of an outcome written to a state, with these balances. -/
def Outcome.write (o : Outcome) (s : State) (eth : Address → Nat)
    (tokens : Address × Address → Nat) : State :=
  { s with
    bridgeRequests := Function.update s.bridgeRequests o.id o.request
    requestClaim := Function.update s.requestClaim o.id o.claim
    requestFeeEscrow := Function.update s.requestFeeEscrow o.id o.feeEscrow
    eth := eth
    bal := fun token holder => tokens (token, holder)
    log := s.log ++ o.entries }

theorem apply_write {eth : Address → Nat} {tokens : Address × Address → Nat}
    (heth : Ledger.run o.eth s.eth = some eth)
    (htokens : Ledger.run o.tokens s.tokens = some tokens) :
    o.apply s = some (o.write s eth tokens) := by
  rw [Outcome.apply, heth, Option.bind_some, htokens]
  rfl

theorem apply_some (h : o.apply s = some s') : ∃ eth tokens,
    Ledger.run o.eth s.eth = some eth ∧ Ledger.run o.tokens s.tokens = some tokens ∧
      s' = o.write s eth tokens := by
  obtain ⟨eth, heth, h⟩ := Option.bind_eq_some_iff.mp h
  obtain ⟨tokens, htokens, rfl⟩ := Option.map_eq_some_iff.mp h
  exact ⟨eth, tokens, heth, htokens, rfl⟩

/-- The entries of a request are the same. -/
structure SameEntries (i : Nat) (s s' : State) : Prop where
  request : s'.bridgeRequests i = s.bridgeRequests i
  claim : s'.requestClaim i = s.requestClaim i
  feeEscrow : s'.requestFeeEscrow i = s.requestFeeEscrow i

theorem sameReads_write {i : Nat} {eth : Address → Nat} {tokens : Address × Address → Nat}
    (hne : i ≠ o.id) : SameReads i s (o.write s eth tokens) := by
  constructor <;> first | rfl | exact Function.update_of_ne hne ..

/-- A call that went through was an outcome, applied. -/
theorem outcome_of_runs (hu : s.entered = false) (hfn : t.fn.claims = some id)
    (h : runs ch t (entry ch t s) = some s') :
    ∃ o, outcome ch t s = some o ∧ Shape ch t id s o ∧ o.apply s = some s' := by
  rw [accepting_eq hu hfn] at h
  obtain ⟨o, ho, happly⟩ := Option.bind_eq_some_iff.mp h
  exact ⟨o, ho, shape_outcome hfn ho, happly⟩

theorem runs_of_outcome (hu : s.entered = false) (hfn : t.fn.claims = some id)
    (ho : outcome ch t s = some o) (h : o.apply s = some s') :
    runs ch t (entry ch t s) = some s' := by
  rw [accepting_eq hu hfn, ho]
  exact h

/-- Two bonds are held at once. -/
theorem Valid.two_bonds (h : Valid ch s) {i j : Nat} (hne : i ≠ j) :
    (s.requestClaim i).bond + (s.requestClaim j).bond ≤ s.eth ch.self := by
  have heth := h.eth
  have hone : ∀ k, (s.requestClaim k).bond ≤
      ∑ id ∈ Finset.Icc 1 s.bridgeNonce, (s.requestClaim id).bond := by
    intro k
    by_cases hk : k ∈ Finset.Icc 1 s.bridgeNonce
    · exact Finset.single_le_sum (f := fun id => (s.requestClaim id).bond)
        (fun _ _ => Nat.zero_le _) hk
    · rw [h.no_bond hk]
      exact Nat.zero_le _
  by_cases hi : i ∈ Finset.Icc 1 s.bridgeNonce
  · by_cases hj : j ∈ Finset.Icc 1 s.bridgeNonce
    · have hpair : ∑ id ∈ {i, j}, (s.requestClaim id).bond ≤
          ∑ id ∈ Finset.Icc 1 s.bridgeNonce, (s.requestClaim id).bond :=
        Finset.sum_le_sum_of_subset
          (Finset.insert_subset hi (Finset.singleton_subset_iff.mpr hj))
      rw [Finset.sum_pair hne] at hpair
      omega
    · have hi' := hone i
      rw [h.no_bond hj]
      omega
  · have hj' := hone j
    rw [h.no_bond hi]
    omega

/-! ## Either order -/

/-- Neither of the two calls is paid for with what the other one pays out. -/
def Funded (t₁ t₂ : Tx ch.self) (s : State) : Prop :=
  ∀ a, (if t₁.sender = a then t₁.value else 0) + (if t₂.sender = a then t₂.value else 0) ≤
    s.eth a

theorem runAccepting_pair {t₁ t₂ : Tx ch.self} :
    runAccepting [t₁, t₂] s =
      (runs ch t₁ (entry ch t₁ s)).bind fun s₁ => runs ch t₂ (entry ch t₂ s₁) := by
  have hone : ∀ s₁, runAccepting [t₂] s₁ = runs ch t₂ (entry ch t₂ s₁) := by
    intro s₁
    simp only [runAccepting, runs]
    cases accepting (contract ch) t₂ (entry ch t₂ s₁) <;> rfl
  rw [runAccepting]
  unfold runs
  cases accepting (contract ch) t₁ (entry ch t₁ s) with
  | none => rfl
  | some s₁ => exact hone s₁

/-- What one call does, the other does not undo: the transfers of both go
through in the other order. -/
theorem transfers_swap {t₁ t₂ : Tx ch.self} {id₁ id₂ : Nat} {o₁ o₂ : Outcome}
    (hv : Valid ch s) (hne : id₁ ≠ id₂) (funds : Funded t₁ t₂ s)
    (h₁ : Shape ch t₁ id₁ s o₁) (h₂ : Shape ch t₂ id₂ s o₂)
    {tokens : Address × Address → Nat}
    (htokens : Ledger.run (o₁.tokens ++ o₂.tokens) s.tokens = some tokens) :
    (∃ eth, Ledger.run (o₂.eth ++ o₁.eth) s.eth = some eth) ∧
      ∃ tokens', Ledger.run (o₂.tokens ++ o₁.tokens) s.tokens = some tokens' := by
  constructor
  · apply Ledger.run_of_covered
    intro a
    rw [Ledger.out_append]
    have hout₁ := h₁.eth a
    have hout₂ := h₂.eth a
    by_cases ha : ch.self = a
    · subst ha
      have hbonds := hv.two_bonds hne
      rw [if_neg t₁.sender_ne_contract, if_pos rfl] at hout₁
      rw [if_neg t₂.sender_ne_contract, if_pos rfl] at hout₂
      omega
    · have hfunds := funds a
      rw [if_neg ha] at hout₁ hout₂
      omega
  · apply Ledger.run_of_covered
    intro p
    rw [Ledger.out_perm List.perm_append_comm]
    apply Ledger.covered_of_run htokens
    intro q
    obtain ⟨token, holder⟩ := q
    rw [Ledger.out_append, Ledger.into_append]
    by_cases hq : holder = ch.self
    · right
      rw [hq, h₁.recipients token, h₂.recipients token]
    · left
      rw [(h₁.tokens _).resolve_right hq, (h₂.tokens _).resolve_right hq]

/-- The two states differ in the order of their logs at most. -/
structure SameUpToLog (s s' : State) : Prop where
  storage : { s' with log := s.log } = s
  log : s'.log.Perm s.log

/-- **Requests are independent.** In every reachable state, a claim, a
settlement or a release leaves the entries of all other requests as they
are; and two such calls on different requests that are funded and go through
in one order go through in the other, with the same storage and the same
balances. -/
theorem requests_independent (h : Reachable ch s) :
    (∀ (t : Tx ch.self) id s', t.fn.claims = some id →
      runs ch t (entry ch t s) = some s' → ∀ i, i ≠ id → SameEntries i s s') ∧
    ∀ (t₁ t₂ : Tx ch.self) id₁ id₂ s', t₁.fn.claims = some id₁ → t₂.fn.claims = some id₂ →
      id₁ ≠ id₂ → Funded t₁ t₂ s → runAccepting [t₁, t₂] s = some s' →
        ∃ s'', runAccepting [t₂, t₁] s = some s'' ∧ SameUpToLog s' s'' := by
  constructor
  · intro t id s' hfn hruns i hi
    obtain ⟨o, _, hshape, happly⟩ := outcome_of_runs h.valid.unlocked hfn hruns
    obtain ⟨eth, tokens, _, _, rfl⟩ := apply_some happly
    have hreads : SameReads i s (o.write s eth tokens) := sameReads_write (hshape.self ▸ hi)
    exact ⟨hreads.request, hreads.claim, hreads.feeEscrow⟩
  · intro t₁ t₂ id₁ id₂ s' hfn₁ hfn₂ hne funds hruns
    rw [runAccepting_pair] at hruns
    obtain ⟨s₁, hruns₁, hruns₂⟩ := Option.bind_eq_some_iff.mp hruns
    have hu := h.valid.unlocked
    obtain ⟨o₁, ho₁, hshape₁, happly₁⟩ := outcome_of_runs hu hfn₁ hruns₁
    obtain ⟨eth₁, tokens₁, heth₁, htokens₁, hs₁⟩ := apply_some happly₁
    have hu₁ : s₁.entered = false := by
      rw [hs₁]
      exact hu
    have hreads₁ : SameReads id₂ s s₁ := by
      rw [hs₁]
      exact sameReads_write (hshape₁.self ▸ hne.symm)
    obtain ⟨o₂, ho₂, _, happly₂⟩ := outcome_of_runs hu₁ hfn₂ hruns₂
    rw [outcome_congr hfn₂ hreads₁] at ho₂
    have hshape₂ := shape_outcome hfn₂ ho₂
    obtain ⟨eth, tokens, heth, htokens, hs'⟩ := apply_some happly₂
    -- the transfers of both, first in this order, then in the other one
    have hboth : Ledger.run (o₁.eth ++ o₂.eth) s.eth = some eth := by
      rw [Ledger.run_append, heth₁]
      rw [hs₁] at heth
      exact heth
    have hboth' : Ledger.run (o₁.tokens ++ o₂.tokens) s.tokens = some tokens := by
      rw [Ledger.run_append, htokens₁]
      rw [hs₁] at htokens
      exact htokens
    obtain ⟨⟨eth', heth'⟩, tokens', htokens'⟩ :=
      transfers_swap h.valid hne funds hshape₁ hshape₂ hboth'
    have hsame : eth' = eth := Ledger.run_perm List.perm_append_comm heth' hboth
    have hsame' : tokens' = tokens := Ledger.run_perm List.perm_append_comm htokens' hboth'
    rw [Ledger.run_append] at heth' htokens'
    obtain ⟨eth₂, heth₂, heth'⟩ := Option.bind_eq_some_iff.mp heth'
    obtain ⟨tokens₂, htokens₂, htokens'⟩ := Option.bind_eq_some_iff.mp htokens'
    -- the calls in the other order
    have hreads₂ : SameReads id₁ s (o₂.write s eth₂ tokens₂) :=
      sameReads_write (hshape₂.self ▸ hne)
    have hruns₂' := runs_of_outcome hu hfn₂ ho₂ (apply_write heth₂ htokens₂)
    have hruns₁' : runs ch t₁ (entry ch t₁ (o₂.write s eth₂ tokens₂)) =
        some (o₁.write (o₂.write s eth₂ tokens₂) eth' tokens') := by
      refine runs_of_outcome hu hfn₁ ?_ (apply_write heth' htokens')
      rw [outcome_congr hfn₁ hreads₂]
      exact ho₁
    refine ⟨o₁.write (o₂.write s eth₂ tokens₂) eth' tokens', ?_, ?_⟩
    · rw [runAccepting_pair, hruns₂']
      exact hruns₁'
    · subst hsame hsame' hs₁ hs'
      have hids : o₁.id ≠ o₂.id := by
        rw [hshape₁.self, hshape₂.self]
        exact hne
      refine ⟨?_, ?_⟩
      · simp only [Outcome.write, Function.update_comm hids]
      · simp only [Outcome.write, List.append_assoc]
        exact List.Perm.append_left _ List.perm_append_comm

namespace Sample

/-- A second request next to the claimed one. -/
def twoRequests : List (Tx chain.self) :=
  calls ++ [call 4 0 (.initiateBridge 9 (10 ^ 18) 78 []) user_ne]

def secondClaim : Tx chain.self := call 5 (2 * 10 ^ 16) (.claimBridge 2) solver_ne

theorem twoRequests_isSome : (after twoRequests).isSome = true := rfl

def pending : State := (after twoRequests).get twoRequests_isSome

theorem pending_reachable : Reachable chain pending :=
  reachable_after (Option.some_get twoRequests_isSome).symm

theorem settled_claimed_isSome :
    (runAccepting [settlement, secondClaim] pending).isSome = true := rfl

theorem pending_funded : Funded settlement secondClaim pending := by
  intro a
  by_cases ha : secondClaim.sender = a
  · subst ha
    decide +kernel
  · rw [if_neg ha]
    have hvalue : settlement.value = 0 := rfl
    simp [hvalue]

end Sample

theorem requests_independent_pending :
    ∃ s'', runAccepting [Sample.secondClaim, Sample.settlement] Sample.pending = some s'' ∧
      SameUpToLog ((runAccepting [Sample.settlement, Sample.secondClaim] Sample.pending).get
        Sample.settled_claimed_isSome) s'' :=
  (requests_independent Sample.pending_reachable).2 Sample.settlement Sample.secondClaim 1 2 _
    rfl rfl (by decide) Sample.pending_funded (Option.some_get _).symm

namespace Sample

/-- The solver 5 has one bond and a half. -/
def scarce : Genesis chain where
  eth := fun a => if a = 5 then 3 * 10 ^ 16 else 0
  bal := fun _ a => if a = 1 then 0 else 10 ^ 21
  now := 1000
  no_eth := rfl
  no_tokens := genesis.no_tokens

def afterScarce (ts : List (Tx chain.self)) : Option State :=
  match deploy chain scarce 2 3 with
  | .ok s => runAccepting ts s
  | .error _ => none

theorem reachable_afterScarce {ts : List (Tx chain.self)} {s : State}
    (h : afterScarce ts = some s) : Reachable chain s := by
  unfold afterScarce at h
  split at h
  · next s₀ hd => exact (Reachable.deployed scarce 2 3 hd).runAccepting h
  · cases h

theorem scarce_isSome : (afterScarce twoRequests).isSome = true := rfl

/-- Its claim of the first request has expired. -/
def overdue : State := { (afterScarce twoRequests).get scarce_isSome with now := 2200 }

theorem overdue_reachable : Reachable chain overdue :=
  (reachable_afterScarce (Option.some_get scarce_isSome).symm).step
    (.tick _ 2200 (by decide +kernel))

def release : Tx chain.self := call 4 0 (.releaseExpiredClaim 1) user_ne

end Sample

/-- Without the funds the order matters: the refund of one claim pays for the
bond of the other. -/
theorem requests_not_independent :
    ¬ ∀ (ch : Chain) (s : State), Reachable ch s → (∀ token, ch.exact token = true) →
      ∀ (t₁ t₂ : Tx ch.self) id₁ id₂ s', t₁.fn.claims = some id₁ → t₂.fn.claims = some id₂ →
        id₁ ≠ id₂ → runAccepting [t₁, t₂] s = some s' →
          ∃ s'', runAccepting [t₂, t₁] s = some s'' ∧ SameUpToLog s' s'' := by
  intro hall
  have hsome : (runAccepting [Sample.release, Sample.secondClaim] Sample.overdue).isSome =
      true := by decide +kernel
  have hnone : (runAccepting [Sample.secondClaim, Sample.release] Sample.overdue).isNone =
      true := by decide +kernel
  obtain ⟨s'', hs'', _⟩ := hall Sample.chain Sample.overdue Sample.overdue_reachable
    (fun _ => rfl) Sample.release Sample.secondClaim 1 2 _ rfl rfl (by decide)
    (Option.some_get hsome).symm
  rw [hs''] at hnone
  cases hnone

end LunarysBridge.Evm
