/-
LunarysBridge.Evm.Takeover — who can hold on to an expired claim.

`claimBridge` pushes the slash to the collector and the leftover to the old
solver, and requires both payments to succeed. So each of the two can refuse
its payment and keep everybody else from taking the claim over. The takeover
is certain (`Prevails`) only when nobody is to be paid.
-/
import LunarysBridge.Evm.Refinement

namespace LunarysBridge.Evm

open Reentrancy (wp wp_done wp_revert not_wp_call)

variable {ch : Chain} {t : Tx ch.self} {s : State} {id : Nat}

/-- Whatever the callees do, the call makes its sender the solver. -/
def Prevails (ch : Chain) (t : Tx ch.self) (id : Nat) (s : State) : Prop :=
  wp (contract ch) t (fun s' => (s'.requestClaim id).solver = t.sender) (entry ch t s)

/-- The bond is slashed as a whole, and nobody collects it. -/
def PaysNobody (id : Nat) (s : State) : Prop :=
  Book.slashOf (s.requestClaim id).bond s.slashBps = (s.requestClaim id).bond ∧
    (Book.slashOf (s.requestClaim id).bond s.slashBps = 0 ∨ s.slashCollector = 0)

/-! ## The payments -/

/-- What a new claim has to meet is the same. -/
structure SameTerms (s s' : State) : Prop where
  minSolverBond : s'.minSolverBond = s.minSolverBond
  now : s'.now = s.now
  claimWindow : s'.claimWindow = s.claimWindow

section Payments

variable {post : State → Prop} {rest : State → Code} {p : Prop}

theorem wp_refundLeftover {leftover : Nat} :
    wp (contract ch) t post (refundLeftover id leftover rest s) ↔
      leftover = 0 ∧ wp (contract ch) t post (rest s) := by
  unfold refundLeftover
  split
  · next hpos => exact iff_of_false (not_wp_call rfl) fun h => (Nat.ne_of_gt hpos) h.1
  · next hpos =>
    have hzero : leftover = 0 := Nat.eq_zero_of_not_pos hpos
    exact (and_iff_right hzero).symm

theorem wp_slashTransfer (id slashAmt : Nat)
    (hrest : ∀ s', SameTerms s s' → (wp (contract ch) t post (rest s') ↔ p)) :
    wp (contract ch) t post (slashTransfer id slashAmt rest s) ↔
      (slashAmt = 0 ∨ s.slashCollector = 0) ∧ p := by
  unfold slashTransfer
  by_cases hnone : s.slashCollector = 0
  · rw [if_neg fun h => h.2 hnone, if_pos hnone]
    exact (hrest (s.note (.retained id slashAmt)) ⟨rfl, rfl, rfl⟩).trans
      (and_iff_right (Or.inr hnone)).symm
  · by_cases hpos : 0 < slashAmt
    · rw [if_pos ⟨hpos, hnone⟩]
      refine iff_of_false (not_wp_call rfl) ?_
      rintro ⟨hzero | hzero, _⟩
      · omega
      · exact hnone hzero
    · rw [if_neg fun h => hpos h.1, if_neg hnone]
      have hzero : slashAmt = 0 := Nat.eq_zero_of_not_pos hpos
      exact (hrest _ ⟨rfl, rfl, rfl⟩).trans (and_iff_right (Or.inl hzero)).symm

/-- The end of an expired claim is certain if nobody is paid. -/
theorem wp_endExpiredClaim
    (hrest : ∀ s', SameTerms s s' → (wp (contract ch) t post (rest s') ↔ p)) :
    wp (contract ch) t post (endExpiredClaim id rest s) ↔
      ((s.requestClaim id).bond * s.slashBps < 2 ^ 256 ∧ PaysNobody id s) ∧ p := by
  have hpaid : ∀ slashAmt leftover s', SameTerms s s' →
      (wp (contract ch) t post
        (refundLeftover id leftover (resetExpired id slashAmt rest) s') ↔ leftover = 0 ∧ p) := by
    intro slashAmt leftover s' hs'
    rw [wp_refundLeftover]
    exact and_congr_right fun _ => hrest _ ⟨hs'.minSolverBond, hs'.now, hs'.claimWindow⟩
  unfold endExpiredClaim checkedMul checkedSub PaysNobody Book.slashOf
  by_cases hproduct : (s.requestClaim id).bond * s.slashBps < 2 ^ 256
  · rw [if_pos hproduct]
    simp only []
    generalize (s.requestClaim id).bond * s.slashBps / 10000 = slash
    by_cases hslash : slash ≤ (s.requestClaim id).bond
    · rw [if_pos hslash]
      have hslashed := wp_slashTransfer id slash
        (s := s.setClaim id { s.requestClaim id with bond := 0 }) fun s' hs' =>
          hpaid slash ((s.requestClaim id).bond - slash) s'
            ⟨hs'.minSolverBond, hs'.now, hs'.claimWindow⟩
      refine hslashed.trans ?_
      constructor
      · rintro ⟨hcollector, hleftover, hp⟩
        exact ⟨⟨hproduct, by omega, hcollector⟩, hp⟩
      · rintro ⟨⟨_, hall, hcollector⟩, hp⟩
        exact ⟨hcollector, by omega, hp⟩
    · rw [if_neg hslash]
      refine iff_of_false (wp_revert _) fun h => hslash ?_
      exact Nat.le_of_eq h.1.2.1
  · rw [if_neg hproduct]
    exact iff_of_false (wp_revert _) fun h => hproduct h.1.1

end Payments

/-! ## The takeover -/

/-- `Prevails` from the bond check on. -/
theorem wp_registerClaim :
    wp (contract ch) t (fun s' => (s'.requestClaim id).solver = t.sender)
        (registerClaim ch t id s) ↔
      s.minSolverBond ≤ t.value ∧ s.now + s.claimWindow < 2 ^ 256 := by
  unfold registerClaim checkedAdd
  by_cases hbond : t.value < s.minSolverBond
  · rw [if_pos hbond]
    exact iff_of_false (wp_revert _) fun h => Nat.not_lt.mpr h.1 hbond
  · rw [if_neg hbond]
    by_cases hdeadline : s.now + s.claimWindow < 2 ^ 256
    · rw [if_pos hdeadline]
      refine iff_of_true ?_ ⟨Nat.not_lt.mp hbond, hdeadline⟩
      show (Function.update s.requestClaim id _ id).solver = t.sender
      rw [Function.update_self]
    · rw [if_neg hdeadline]
      exact iff_of_false (wp_revert _) fun h => hdeadline h.2

theorem prevails_iff (hu : s.entered = false) (hfn : t.fn = .claimBridge id)
    (hknown : (s.bridgeRequests id).sender ≠ 0)
    (hopen : (s.bridgeRequests id).finalized = false)
    (hheld : (s.requestClaim id).solver ≠ 0) (hdue : (s.requestClaim id).deadline ≤ s.now)
    (hauth : s.authorizedNodes t.sender = true) (hfunds : t.value ≤ s.eth t.sender) :
    Prevails ch t id s ↔
      ((s.requestClaim id).bond * s.slashBps < 2 ^ 256 ∧ PaysNobody id s) ∧
        s.minSolverBond ≤ t.value ∧ s.now + s.claimWindow < 2 ^ 256 := by
  have hentry : entry ch t s = payable ch t (claimBridge ch t id) s := by rw [entry, hfn]
  unfold Prevails
  rw [hentry, payable, if_neg (Nat.not_lt.mpr hfunds)]
  unfold claimBridge nonReentrant onlyAuthorizedNode
  simp only [State.moveEth, State.note, hu, hauth, hknown, hopen, if_false, Bool.false_eq_true,
    Bool.true_eq_false]
  rw [if_neg fun h => Nat.not_lt.mpr hdue h.2, if_pos ⟨hheld, hdue⟩]
  exact wp_endExpiredClaim fun s' hs' => wp_registerClaim.trans (by rw [hs'.minSolverBond,
    hs'.now, hs'.claimWindow])

/-- **Who can hold on to an expired claim.** An authorised node that sends the
minimum bond takes over an expired claim, whatever the old solver and the
collector do, exactly if neither of them is to be paid. -/
theorem expired_claim_taken_over (h : Reachable ch s) (hfn : t.fn = .claimBridge id)
    (hheld : (s.requestClaim id).solver ≠ 0) (hdue : (s.requestClaim id).deadline ≤ s.now)
    (hauth : s.authorizedNodes t.sender = true) (hfunds : t.value ≤ s.eth t.sender)
    (hbond : s.minSolverBond ≤ t.value) :
    Prevails ch t id s ↔
      PaysNobody id s ∧ (s.requestClaim id).bond * s.slashBps < 2 ^ 256 ∧
        s.now + s.claimWindow < 2 ^ 256 := by
  obtain ⟨hknown, hopen, _⟩ := h.valid.lifecycle.held id hheld
  rw [prevails_iff h.valid.unlocked hfn hknown hopen hheld hdue hauth hfunds]
  constructor
  · rintro ⟨⟨hproduct, hpays⟩, _, hdeadline⟩
    exact ⟨hpays, hproduct, hdeadline⟩
  · rintro ⟨hpays, hproduct, hdeadline⟩
    exact ⟨⟨hproduct, hpays⟩, hbond, hdeadline⟩

namespace Sample

/-- The solver 5 claims again. -/
def takeover : Tx chain.self := call 5 (2 * 10 ^ 16) (.claimBridge 1) solver_ne

/-- The owner has all of a bond slashed and nobody collect it; then the claim
expires. -/
def slashAll : List (Tx chain.self) :=
  call 3 0 (.updateSlashParams 10000 0) owner_ne :: calls

theorem slashAll_isSome : (after slashAll).isSome = true := rfl

def uncollected : State := { (after slashAll).get slashAll_isSome with now := 2200 }

theorem uncollected_reachable : Reachable chain uncollected :=
  (reachable_after (Option.some_get slashAll_isSome).symm).step
    (.tick _ 2200 (by decide +kernel))

/-- The claim of the solver 5 has expired. -/
def expired : State := { claimed with now := 2200 }

theorem expired_reachable : Reachable chain expired :=
  claimed_reachable.step (.tick _ 2200 (by rw [claimed_byFive.now]; decide))

end Sample

theorem expired_claim_taken_over_uncollected :
    Prevails Sample.chain Sample.takeover 1 Sample.uncollected :=
  (expired_claim_taken_over Sample.uncollected_reachable rfl (by decide +kernel)
    (by decide +kernel) (by decide +kernel) (by decide +kernel) (by decide +kernel)).mpr
      ⟨by unfold PaysNobody; decide +kernel, by decide +kernel, by decide +kernel⟩

/-- The old solver refuses its refund, or the collector the slash. -/
theorem expired_claim_held :
    ¬ ∀ (ch : Chain) (t : Tx ch.self) (s : State) id, Reachable ch s →
      t.fn = .claimBridge id → (s.bridgeRequests id).finalized = false →
      (s.requestClaim id).solver ≠ 0 → (s.requestClaim id).deadline ≤ s.now →
      s.authorizedNodes t.sender = true → t.value ≤ s.eth t.sender →
      s.minSolverBond ≤ t.value → Prevails ch t id s := by
  intro hall
  have hfive := Sample.claimed_byFive
  have hclaim : Sample.expired.requestClaim 1 = ⟨5, 1000, 2200, 2 * 10 ^ 16⟩ := hfive.claim
  have hbps : Sample.expired.slashBps = 5000 := hfive.slashBps
  have hdue : (Sample.expired.requestClaim 1).deadline ≤ Sample.expired.now := by
    rw [hclaim]
    exact Nat.le_refl 2200
  have hprevails := hall Sample.chain Sample.takeover Sample.expired 1 Sample.expired_reachable
    rfl hfive.isOpen Sample.claimed_held hdue hfive.authorized hfive.funds
    (Nat.le_of_eq hfive.minSolverBond)
  rw [prevails_iff (t := Sample.takeover) (s := Sample.expired) hfive.unlocked rfl
    Sample.claimed_known hfive.isOpen Sample.claimed_held hdue hfive.authorized hfive.funds,
    PaysNobody, hclaim, hbps] at hprevails
  exact absurd hprevails.1.2.1 (by decide)

end LunarysBridge.Evm
