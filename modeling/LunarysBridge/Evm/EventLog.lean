/-
LunarysBridge.Evm.EventLog — the events of `NewRelayer` tell all that its
storage holds of a request.

Who follows the contract sees its events only. `State.announced` are those
about one request, in the words of `Lib/ClaimLog.lean`, and
`BridgeRequest.standing` is what the storage holds of it. In the middle of a
function the two differ, and its callees have control there; so the code is
gone through once, with what has been written and announced so far
(`Telling`), and under the guard nobody else announces anything about a
request (`guarded_silent`).
-/
import LunarysBridge.Lib.ClaimLog
import LunarysBridge.Evm.Refinement

namespace LunarysBridge.Evm

variable {ch : Chain} {t : Tx ch.self} {s₀ s s' s₁ : State} {id : Nat} {r : BridgeRequest}
  {c : Claim}

/-! ## Events about requests -/

abbrev Announcement := ClaimLog.Event Address Address Nat

/-- The request an event is about, and what it says of it. -/
def Event.announces : Event → Option (Nat × Announcement)
  | .BridgeInitiated requestId sender token amountAfterFee =>
      some (requestId, .initiated sender token amountAfterFee)
  | .BridgeClaimed requestId solver bond deadline =>
      some (requestId, .claimed solver bond deadline)
  | .BridgeClaimExpired requestId oldSolver slashed =>
      some (requestId, .expired oldSolver slashed)
  | .BridgePaidToSolver requestId solver token payoutAmount =>
      some (requestId, .paid solver token payoutAmount)
  | .SolverBondRefunded requestId solver refundedBond =>
      some (requestId, .refunded solver refundedBond)
  | .BridgeVerified requestId _ _ _ => some (requestId, .verified)
  | .BridgeVerifiedURL requestId _ _ _ _ => some (requestId, .verified)
  | _ => none

def LogEntry.announces : LogEntry → Option (Nat × Announcement)
  | .emit e => e.announces
  | _ => none

/-- What an entry says of this request. -/
def LogEntry.about (id : Nat) (e : LogEntry) : Option Announcement :=
  match e.announces with
  | some (requestId, a) => if requestId = id then some a else none
  | none => none

def State.announced (s : State) (id : Nat) : List Announcement :=
  s.log.filterMap (LogEntry.about id)

/-- What the storage holds of a request. -/
def BridgeRequest.standing (r : BridgeRequest) (c : Claim) :
    ClaimLog.Standing Address Address Nat :=
  if r.sender = 0 then .unknown
  else .known
    { sender := r.sender
      token := r.token
      amount := r.amount
      paid := r.finalized
      claim := if c.solver = 0 then none else some ⟨c.solver, c.bond, c.deadline⟩ }

def State.standing (s : State) (id : Nat) : ClaimLog.Standing Address Address Nat :=
  (s.bridgeRequests id).standing (s.requestClaim id)

/-- Every request stands where its events say. -/
def State.Told (s : State) : Prop :=
  ∀ id, ClaimLog.replay true (s.announced id) = some (s.standing id)

section Standing

theorem standing_unknown (h : r.sender = 0) : r.standing c = .unknown := if_pos h

theorem standing_free (h : r.sender ≠ 0) (hfree : c.solver = 0) :
    r.standing c = .known ⟨r.sender, r.token, r.amount, r.finalized, none⟩ := by
  rw [BridgeRequest.standing, if_neg h, if_pos hfree]

theorem standing_held (h : r.sender ≠ 0) (hheld : c.solver ≠ 0) :
    r.standing c = .known ⟨r.sender, r.token, r.amount, r.finalized,
      some ⟨c.solver, c.bond, c.deadline⟩⟩ := by
  rw [BridgeRequest.standing, if_neg h, if_neg hheld]

end Standing

section Announced

variable {e : LogEntry}

theorem about_of_silent (h : e.announces = none) (id : Nat) : e.about id = none := by
  rw [LogEntry.about, h]

theorem announced_note (s : State) (e : LogEntry) (id : Nat) :
    (s.note e).announced id = s.announced id ++ (e.about id).toList := by
  unfold State.announced State.note
  rw [List.filterMap_append]
  cases h : e.about id with
  | none => simp [h]
  | some a => simp [h]

theorem announced_append {l : List LogEntry} (h : s'.log = s.log ++ l)
    (hsilent : ∀ e ∈ l, LogEntry.announces e = none) (id : Nat) :
    s'.announced id = s.announced id := by
  have hnone : l.filterMap (LogEntry.about id) = [] :=
    List.filterMap_eq_nil_iff.mpr fun e he => about_of_silent (hsilent e he) id
  rw [State.announced, h, List.filterMap_append, hnone, List.append_nil]
  rfl

end Announced

/-! ## Nothing announced -/

/-- No request was written, and nothing announced about any. -/
structure Silent (s s' : State) : Prop where
  bridgeNonce : s'.bridgeNonce = s.bridgeNonce
  bridgeRequests : s'.bridgeRequests = s.bridgeRequests
  requestClaim : s'.requestClaim = s.requestClaim
  announced : ∀ id, s'.announced id = s.announced id

theorem Silent.refl (s : State) : Silent s s := ⟨rfl, rfl, rfl, fun _ => rfl⟩

theorem Silent.trans (h₁ : Silent s s₁) (h₂ : Silent s₁ s') : Silent s s' where
  bridgeNonce := h₂.bridgeNonce.trans h₁.bridgeNonce
  bridgeRequests := h₂.bridgeRequests.trans h₁.bridgeRequests
  requestClaim := h₂.requestClaim.trans h₁.requestClaim
  announced := fun id => (h₂.announced id).trans (h₁.announced id)

theorem silent_note {e : LogEntry} (h : e.announces = none) : Silent s (s.note e) where
  bridgeNonce := rfl
  bridgeRequests := rfl
  requestClaim := rfl
  announced := announced_append rfl fun e' he' => by rwa [List.mem_singleton.mp he']

/-- What is the same of the escrow and announces nothing is silent. -/
theorem silent_of_book (hbook : s'.book = s.book)
    (h : ∀ id, s'.announced id = s.announced id) : Silent s s' where
  bridgeNonce := congrArg Book.bridgeNonce hbook
  bridgeRequests := congrArg Book.bridgeRequests hbook
  requestClaim := congrArg Book.requestClaim hbook
  announced := h

theorem Silent.standing (h : Silent s s') (id : Nat) : s'.standing id = s.standing id := by
  rw [State.standing, h.bridgeRequests, h.requestClaim]
  rfl

theorem Silent.told (h : Silent s s') (ht : s.Told) : s'.Told := by
  intro id
  rw [h.announced, h.standing]
  exact ht id

theorem silent_outside (h : Outside ch s s') : Silent s s' := by
  refine silent_of_book (undisturbed_outside h).book ?_
  cases h with
  | donate token amount =>
      exact announced_append rfl fun e he => by rw [List.mem_singleton.mp he]; rfl
  | force amount =>
      exact announced_append rfl fun e he => by rw [List.mem_singleton.mp he]; rfl
  | others eth bal sameEth sameBal => exact fun _ => rfl

/-! ### Functions without the guard -/

/-- If the code ends at once, it has announced nothing about a request. -/
def Hushed (s : State) (p : Code) : Prop :=
  ∀ s', p = .done s' → ∀ id, s'.announced id = s.announced id

theorem hushed_revert (e : Revert) : Hushed s (.revert e) := by
  intro s' h
  cases h

theorem hushed_done (h : s'.log = s.log) : Hushed s (.done s') := by
  intro s'' hs''
  cases hs''
  exact fun _ => congrArg _ h

theorem hushed_emit {e : Event} (h : e.announces = none) (hlog : s'.log = s.log) :
    Hushed s (.done (s'.emit e)) := by
  intro s'' hs''
  cases hs''
  refine announced_append (l := [.emit e]) (by rw [← hlog]; rfl) fun e' he' => ?_
  rw [List.mem_singleton.mp he']
  exact h

theorem hushed_ite {cond : Prop} [Decidable cond] {p q : Code} (hp : Hushed s p)
    (hq : Hushed s q) : Hushed s (if cond then p else q) := by
  split
  · exact hp
  · exact hq

theorem hushed_owned {body : State → Code} (h : Hushed s (body s)) :
    Hushed s (nonPayable ch t (onlyOwner ch t body) s) :=
  hushed_ite (hushed_revert _) (hushed_ite (hushed_revert _) h)

theorem hushed_unguarded (h : t.fn.unguarded = true) : Hushed s (entry ch t s) := by
  unfold entry
  cases hfn : t.fn with
  | updateRelayer newRelayer =>
      exact hushed_owned (hushed_ite (hushed_revert _) (hushed_emit rfl rfl))
  | updateFeePercentage newFeePercentage =>
      exact hushed_owned (hushed_ite (hushed_revert _) (hushed_emit rfl rfl))
  | updateFeeLimits newMinFee newMaxFee =>
      exact hushed_owned (hushed_ite (hushed_revert _) (hushed_emit rfl rfl))
  | updateClaimWindow newWindow =>
      exact hushed_owned (hushed_ite (hushed_done rfl) (hushed_revert _))
  | updateMinSolverBond newMinBond => exact hushed_owned (hushed_done rfl)
  | updateSlashParams newSlashBps newCollector =>
      exact hushed_owned (hushed_ite (hushed_done rfl) (hushed_revert _))
  | authorizeNode node =>
      exact hushed_owned (hushed_ite (hushed_revert _)
        (hushed_ite (hushed_emit rfl rfl) (hushed_done rfl)))
  | revokeNode node =>
      exact hushed_owned (hushed_ite (hushed_emit rfl rfl) (hushed_done rfl))
  | transferOwnership newOwner =>
      exact hushed_owned (hushed_ite (hushed_revert _) (hushed_emit rfl rfl))
  | renounceOwnership => exact hushed_owned (hushed_emit rfl rfl)
  | _ =>
      rw [hfn] at h
      exact absurd h Bool.false_ne_true

/-- A function that only runs without the guard is not let in under it. -/
theorem locked_reverts (hl : s.entered = true) (hu : t.fn.unguarded = false) :
    ∃ e, entry ch t s = .revert e := by
  have hlocked : ∀ (s' : State) (body : State → Code), s'.entered = true →
      ∃ e, nonReentrant body s' = .revert e := by
    intro s' body hl'
    exact ⟨_, if_pos hl'⟩
  have hcheck : ∀ {cond : Prop} [Decidable cond] {e : Revert} {p : Code},
      (∃ e', p = .revert e') → ∃ e', (if cond then .revert e else p) = .revert e' := by
    intro cond _ e p hp
    split
    · exact ⟨e, rfl⟩
    · exact hp
  unfold entry
  cases hfn : t.fn with
  | initiateBridge token amount input proof => exact hcheck (hlocked _ _ hl)
  | claimBridge requestId => exact hcheck (hlocked _ _ hl)
  | verifyAndSettle requestId destTxHash evidenceHash =>
      exact hcheck (hcheck (hlocked _ _ hl))
  | verifyAndSettleURL requestId destTxHash evidenceHash evidenceURL =>
      exact hcheck (hcheck (hlocked _ _ hl))
  | releaseExpiredClaim requestId => exact hcheck (hlocked _ _ hl)
  | deliverTokens recipient token amount => exact hcheck (hcheck (hlocked _ _ hl))
  | collectFees token recipient => exact hcheck (hcheck (hlocked _ _ hl))
  | emergencyWithdraw token amount recipient => exact hcheck (hcheck (hlocked _ _ hl))
  | _ =>
      rw [hfn] at hu
      cases hu

/-- Under the guard nobody announces anything about a request. -/
theorem guarded_silent (ch : Chain) :
    Reentrancy.Guarded (contract ch) (fun s => s.entered = true)
      (fun s s' => Silent s s' ∧ s'.entered = s.entered) where
  refl s := ⟨.refl s, rfl⟩
  trans h₁ h₂ := ⟨h₁.1.trans h₂.1, h₂.2.trans h₁.2⟩
  keeps h hl := h.2.trans hl
  outside h := ⟨silent_outside h, (undisturbed_outside h).entered⟩
  entry t s hl := by
    cases hu : t.fn.unguarded with
    | false => exact .inl (locked_reverts hl hu)
    | true =>
        rcases harmless_unguarded (s := s) hu with ⟨e, he⟩ | ⟨s', hs', hd⟩
        · exact .inl ⟨e, he⟩
        · exact .inr ⟨s', hs', silent_of_book hd.book (hushed_unguarded hu s' hs'), hd.entered⟩

/-! ## The pass -/

/-- The code ends in a state of which the events tell all. -/
abbrev Tells (t : Tx ch.self) : Code → Prop :=
  Reentrancy.Sat (contract ch) t (fun s => s.entered = true)
    (fun s s' => Silent s s' ∧ s'.entered = s.entered) (fun _ _ => True) State.Told

/-- Of one request, `r` and `c` have been written since `s₀` and `l` was
announced; of all others nothing was. -/
structure Telling (s₀ : State) (id : Nat) (r : BridgeRequest) (c : Claim)
    (l : List Announcement) (s : State) : Prop where
  requests : s.bridgeRequests = Function.update s₀.bridgeRequests id r
  claims : s.requestClaim = Function.update s₀.requestClaim id c
  announced : s.announced id = s₀.announced id ++ l
  others : ∀ i, i ≠ id → s.announced i = s₀.announced i

namespace Telling

variable {l : List Announcement}

theorem start (h : Silent s₀ s) (id : Nat) :
    Telling s₀ id (s₀.bridgeRequests id) (s₀.requestClaim id) [] s where
  requests := by rw [h.bridgeRequests, Function.update_eq_self]
  claims := by rw [h.requestClaim, Function.update_eq_self]
  announced := by rw [h.announced, List.append_nil]
  others := fun i _ => h.announced i

theorem silent (h : Telling s₀ id r c l s) (hs : Silent s s') : Telling s₀ id r c l s' where
  requests := hs.bridgeRequests.trans h.requests
  claims := hs.requestClaim.trans h.claims
  announced := (hs.announced id).trans h.announced
  others := fun i hi => (hs.announced i).trans (h.others i hi)

theorem request (h : Telling s₀ id r c l s) : s.bridgeRequests id = r := by
  rw [h.requests, Function.update_self]

theorem claim (h : Telling s₀ id r c l s) : s.requestClaim id = c := by
  rw [h.claims, Function.update_self]

theorem setRequest (h : Telling s₀ id r c l s) (r' : BridgeRequest) :
    Telling s₀ id r' c l (s.setRequest id r') where
  requests := by rw [State.setRequest, h.requests, Function.update_idem]
  claims := h.claims
  announced := h.announced
  others := h.others

theorem setClaim (h : Telling s₀ id r c l s) (c' : Claim) :
    Telling s₀ id r c' l (s.setClaim id c') where
  requests := h.requests
  claims := by rw [State.setClaim, h.claims, Function.update_idem]
  announced := h.announced
  others := h.others

theorem setNonce (h : Telling s₀ id r c l s) (n : Nat) :
    Telling s₀ id r c l { s with bridgeNonce := n } :=
  ⟨h.requests, h.claims, h.announced, h.others⟩

theorem setFeeEscrow (h : Telling s₀ id r c l s) (fee : Nat) :
    Telling s₀ id r c l (s.setFeeEscrow id fee) :=
  ⟨h.requests, h.claims, h.announced, h.others⟩

theorem emit (h : Telling s₀ id r c l s) {e : Event} {a : Announcement}
    (he : e.announces = some (id, a)) : Telling s₀ id r c (l ++ [a]) (s.emit e) where
  requests := h.requests
  claims := h.claims
  announced := by
    have habout : LogEntry.about id (.emit e) = some a := by
      simp [LogEntry.about, LogEntry.announces, he]
    rw [State.emit, announced_note, habout, h.announced, List.append_assoc]
    rfl
  others := by
    intro i hi
    have habout : LogEntry.about i (.emit e) = none := by
      simp [LogEntry.about, LogEntry.announces, he, Ne.symm hi]
    rw [State.emit, announced_note, habout, h.others i hi]
    exact List.append_nil _

/-- What was announced is what was written, if it was due. -/
theorem told (h : Telling s₀ id r c l s) (h₀ : s₀.Told)
    (hdue : ClaimLog.replayFrom true (s₀.standing id) l = some (r.standing c)) : s.Told := by
  intro i
  by_cases hi : i = id
  · subst hi
    rw [State.standing, h.request, h.claim, h.announced, ClaimLog.replay_continues (h₀ i), hdue]
  · have hsame : s.standing i = s₀.standing i := by
      rw [State.standing, h.requests, h.claims, Function.update_of_ne hi,
        Function.update_of_ne hi]
      rfl
    rw [h.others i hi, hsame]
    exact h₀ i

end Telling

section Pass

variable {l : List Announcement}

theorem tells_revert (e : Revert) : Tells t (.revert e) := trivial

theorem tells_check {cond : Prop} [Decidable cond] {e : Revert} {p : Code}
    (h : ¬ cond → Tells t p) : Tells t (if cond then .revert e else p) := by
  split
  · exact tells_revert e
  · next hcond => exact h hcond

theorem tells_leave (h : s.Told) : Tells t (leave s) := h

/-- The guard is taken, and what is under it stands as before. -/
theorem tells_nonReentrant {body : State → Code}
    (h : ∀ s', s'.entered = true → Silent s s' → Tells t (body s')) :
    Tells t (nonReentrant body s) :=
  tells_check fun _ => h _ rfl ⟨rfl, rfl, rfl, fun _ => rfl⟩

theorem silent_deliver {x : ExtCall} (h : deliver ch t x s = some s') :
    Silent s s' ∧ s'.entered = s.entered := by
  have hlog : s'.log = s.log ++ [.called t.fn x] ∧ s'.bridgeNonce = s.bridgeNonce ∧
      s'.bridgeRequests = s.bridgeRequests ∧ s'.requestClaim = s.requestClaim ∧
      s'.entered = s.entered := by
    unfold deliver at h
    split at h <;> (repeat' split at h) <;> cases h <;> exact ⟨rfl, rfl, rfl, rfl, rfl⟩
  obtain ⟨hlog, hnonce, hrequests, hclaim, hentered⟩ := hlog
  refine ⟨⟨hnonce, hrequests, hclaim, announced_append hlog fun e he => ?_⟩, hentered⟩
  rw [List.mem_singleton.mp he]
  rfl

/-- A callee announces nothing. -/
theorem tells_call {x : ExtCall} {k : Bool → State → Code} (hl : s.entered = true)
    (hfail : Tells t (k false s))
    (hok : ∀ s', s'.entered = true → Silent s s' → Tells t (k true s')) :
    Tells t (.call x s k) := by
  refine ⟨trivial, fun s₁ hsent => ?_, hfail⟩
  obtain ⟨hsilent, hentered⟩ := silent_deliver hsent
  refine ⟨hentered.trans hl, fun s₂ hreturn => ?_⟩
  exact hok s₂ (hreturn.2.trans (hentered.trans hl)) (hsilent.trans hreturn.1)

/-- A payment that must succeed. -/
theorem tells_pay {x : ExtCall} {rest : State → Code} {e : Revert} (hl : s.entered = true)
    (hrest : ∀ s', s'.entered = true → Silent s s' → Tells t (rest s')) :
    Tells t (.call x s fun ok s => if ok then rest s else .revert e) :=
  tells_call hl (tells_revert e) hrest

/-! ### Functions that write no request -/

theorem tells_payOut {token recipient : Address} {amount : Nat} {rest : State → Code}
    (hl : s.entered = true)
    (hrest : ∀ s', s'.entered = true → Silent s s' → Tells t (rest s')) :
    Tells t (payOut token recipient amount rest s) :=
  tells_pay hl hrest

/-! ### Requests -/

theorem tells_recordRequest {token : Address} {amountAfterFee fee : Nat} {handle : Handle}
    (h₀ : s₀.Told) (hl : s₀.book.Lifecycle ch.self) (hs : Silent s₀ s) :
    Tells t (recordRequest ch t token amountAfterFee fee handle s) := by
  have hallowed := ((silent_note (s := s) (e := .allowed handle t.sender) rfl).trans
    (silent_note (e := .allowed handle ch.self) rfl)).trans
    (silent_note (e := .allowed handle s.relayer) rfl)
  have hsilent := hs.trans hallowed
  unfold recordRequest
  simp only [State.allow]
  split
  · exact tells_revert _
  · next requestId hadd =>
    have hid : requestId = s₀.bridgeNonce + 1 := by
      rw [checkedAdd_some hadd]
      exact congrArg (· + 1) hsilent.bridgeNonce
    -- nothing is known of the next id
    have hunknown : (s₀.bridgeRequests requestId).sender = 0 := by
      by_contra hknown
      have hle := ((hl.known requestId).mp hknown).2
      have hnonce : s₀.book.bridgeNonce = s₀.bridgeNonce := rfl
      omega
    have hfree : (s₀.requestClaim requestId).solver = 0 := by
      by_contra hheld
      exact (hl.held requestId hheld).1 hunknown
    have h₁ := Telling.start hsilent requestId
    have h₂ := (((h₁.setNonce requestId).setRequest
      { sender := t.sender
        token := token
        amount := amountAfterFee
        encryptedSolanaDestination := handle
        timestamp := s.now
        finalized := false
        fee := fee }).setFeeEscrow fee).emit
      (e := .BridgeInitiated requestId t.sender token amountAfterFee) rfl
    refine tells_leave (h₂.told h₀ ?_)
    rw [State.standing, standing_unknown hunknown, standing_free t.sender_ne_zero hfree]
    rfl

theorem tells_initiateBridge {token : Address} {amount : Nat} {input : Bytes32}
    {proof : List UInt8} (h₀ : s.Told) (hl : s.book.Lifecycle ch.self) :
    Tells t (initiateBridge ch t token amount input proof s) := by
  refine tells_nonReentrant fun s₁ hlocked h₁ => tells_check fun _ => tells_check fun _ => ?_
  split
  · exact tells_revert _
  · split
    · exact tells_revert _
    · refine tells_call hlocked (tells_revert _) fun s₂ _ h₂ => ?_
      simp only [Bool.true_eq_false, if_false]
      split
      · exact tells_revert _
      · exact tells_recordRequest h₀ hl (h₁.trans h₂)

/-! ### Claims -/

/-- The end of an expired claim is announced, and the claim is reset. -/
theorem tells_endExpiredClaim {rest : State → Code} (hlocked : s.entered = true)
    (h : Telling s₀ id r c l s)
    (hrest : ∀ slashAmt s', slashAmt ≤ c.bond → s'.entered = true →
      Telling s₀ id r Claim.empty (l ++ [.expired c.solver slashAmt]) s' → Tells t (rest s')) :
    Tells t (endExpiredClaim id rest s) := by
  unfold endExpiredClaim
  rw [h.claim]
  split
  · exact tells_revert _
  next product _ =>
  simp only []
  split
  · exact tells_revert _
  · next leftover hsub =>
    have hslash : product / 10000 ≤ c.bond := by
      have hsum := checkedSub_some hsub
      omega
    have hreset : ∀ s₁, s₁.entered = true → Telling s₀ id r { c with bond := 0 } l s₁ →
        Tells t (resetExpired id (product / 10000) rest s₁) := by
      intro s₁ hlocked₁ h₁
      have hemit := (h₁.emit (e := .BridgeClaimExpired id c.solver (product / 10000)) rfl).setClaim
        Claim.empty
      unfold resetExpired
      simp only [State.emit, State.note, h₁.claim]
      exact hrest _ _ hslash hlocked₁ hemit
    have hrefund : ∀ s₁, s₁.entered = true → Telling s₀ id r { c with bond := 0 } l s₁ →
        Tells t (refundLeftover id leftover (resetExpired id (product / 10000) rest) s₁) := by
      intro s₁ hlocked₁ h₁
      unfold refundLeftover
      split
      · exact tells_pay hlocked₁ fun s₂ hlocked₂ h₂ => hreset s₂ hlocked₂ (h₁.silent h₂)
      · exact hreset s₁ hlocked₁ h₁
    have hcleared := h.setClaim { c with bond := 0 }
    unfold slashTransfer
    split
    · exact tells_pay hlocked fun s₂ hlocked₂ h₂ => hrefund s₂ hlocked₂ (hcleared.silent h₂)
    · split
      · exact hrefund _ hlocked (hcleared.silent (silent_note rfl))
      · exact hrefund _ hlocked hcleared

/-- A claim that is registered is announced. -/
theorem tells_registerClaim (h : Telling s₀ id r c l s) (h₀ : s₀.Told)
    (hdue : ∀ deadline, ClaimLog.replayFrom true (s₀.standing id)
      (l ++ [.claimed t.sender t.value deadline]) =
        some (r.standing ⟨t.sender, uint64 s.now, deadline, t.value⟩)) :
    Tells t (registerClaim ch t id s) := by
  refine tells_check fun _ => ?_
  split
  · exact tells_revert _
  · next deadline _ =>
    have h₁ := (h.setClaim ⟨t.sender, uint64 s.now, uint64 deadline, t.value⟩).silent
      (silent_note (e := .allowed (s.bridgeRequests id).encryptedSolanaDestination t.sender) rfl)
    have hdeadline := congrArg Claim.deadline h₁.claim
    refine tells_leave (Telling.told (h₁.emit ?_) h₀ (hdue (uint64 deadline)))
    simp only [Event.announces]
    exact congrArg (fun d => some (id, ClaimLog.Event.claimed t.sender t.value d)) hdeadline

/-! Which announcements are due. -/

theorem due_expired (hknown : r.sender ≠ 0) (hopen : r.finalized = false)
    (hheld : c.solver ≠ 0) {slashAmt : Nat} (hle : slashAmt ≤ c.bond) :
    (ClaimLog.Event.expired c.solver slashAmt).step true (r.standing c) =
      some (r.standing Claim.empty) := by
  have hfree : Claim.empty.solver = 0 := rfl
  rw [standing_held hknown hheld, standing_free hknown hfree]
  simp [ClaimLog.Event.step, ClaimLog.Request.held, hopen, hle]

theorem due_claimed (hknown : r.sender ≠ 0) (hopen : r.finalized = false)
    (hfree : c.solver = 0) {solver : Address} (hsolver : solver ≠ 0)
    (claimedAt deadline bond : Nat) :
    (ClaimLog.Event.claimed solver bond deadline).step true (r.standing c) =
      some (r.standing ⟨solver, claimedAt, deadline, bond⟩) := by
  rw [standing_free hknown hfree, standing_held hknown hsolver]
  simp [ClaimLog.Event.step, hopen]

theorem due_settled (hknown : r.sender ≠ 0) (hopen : r.finalized = false)
    (hheld : c.solver ≠ 0) {payout : Nat} (hle : r.amount ≤ payout) :
    ClaimLog.replayFrom true (r.standing c)
      [.paid c.solver r.token payout, .refunded c.solver c.bond, .verified] =
        some (({ r with finalized := true } : BridgeRequest).standing Claim.empty) := by
  have hfree : Claim.empty.solver = 0 := rfl
  rw [standing_held hknown hheld,
    standing_free (r := { r with finalized := true }) hknown hfree]
  simp [ClaimLog.Event.step, ClaimLog.Request.held, hopen, hle]

theorem tells_claimBridge (h₀ : s₀.Told) (hs : Silent s₀ s) :
    Tells t (claimBridge ch t id s) := by
  refine tells_nonReentrant fun s₁ hlocked h₁ => tells_check fun _ => ?_
  have hstart := Telling.start (hs.trans h₁) id
  beta_reduce
  rw [hstart.request, hstart.claim]
  refine tells_check fun hknown => tells_check fun hfinal => tells_check fun hactive => ?_
  have hopen : (s₀.bridgeRequests id).finalized = false := by simpa using hfinal
  split
  · next hdue =>
    refine tells_endExpiredClaim hlocked hstart fun slashAmt s₂ hle hlocked₂ h₂ =>
      tells_registerClaim h₂ h₀ fun deadline => ?_
    simp only [List.nil_append, List.singleton_append, ClaimLog.replayFrom_cons,
      ClaimLog.replayFrom_nil, State.standing]
    rw [due_expired hknown hopen hdue.1 hle, Option.bind_some,
      due_claimed hknown hopen rfl t.sender_ne_zero (uint64 s₂.now) deadline]
    rfl
  · next hnot =>
    have hfree : (s₀.requestClaim id).solver = 0 := by
      by_contra hheld
      exact hnot ⟨hheld, Nat.le_of_not_lt fun hlt => hactive ⟨hheld, hlt⟩⟩
    refine tells_registerClaim hstart h₀ fun deadline => ?_
    simp only [List.nil_append, ClaimLog.replayFrom_cons, ClaimLog.replayFrom_nil, State.standing]
    rw [due_claimed hknown hopen hfree t.sender_ne_zero (uint64 s₁.now) deadline]
    rfl

theorem tells_releaseExpiredClaim (h₀ : s.Told) (hl : s.book.Lifecycle ch.self) :
    Tells t (releaseExpiredClaim id s) := by
  refine tells_nonReentrant fun s₁ hlocked h₁ => ?_
  have hstart := Telling.start h₁ id
  rw [hstart.claim]
  refine tells_check fun hheld => tells_check fun _ => ?_
  obtain ⟨hknown, hopen, -⟩ := hl.held id hheld
  rw [book_requests] at hknown hopen
  refine tells_endExpiredClaim hlocked hstart fun slashAmt s₂ hle _ h₂ =>
    tells_leave (h₂.told h₀ ?_)
  simp only [List.nil_append, ClaimLog.replayFrom_cons, ClaimLog.replayFrom_nil, State.standing]
  rw [due_expired hknown hopen hheld hle]
  rfl

/-! ### Settlements -/

theorem tells_refundBond {rest : State → Code} (hlocked : s.entered = true)
    (h : Telling s₀ id r c l s)
    (hrest : ∀ s', Telling s₀ id r Claim.empty (l ++ [.refunded c.solver c.bond]) s' →
      Tells t (rest s')) :
    Tells t (refundBond id rest s) := by
  unfold refundBond
  rw [h.claim]
  refine tells_call hlocked (tells_revert _) fun s₂ _ hs₂ => ?_
  simp only [Bool.true_eq_false, if_false]
  have h₂ := (h.setClaim { c with bond := 0 }).silent hs₂
  have hsolver : (s₂.requestClaim id).solver = c.solver := by rw [h₂.claim]
  have hreset : ({ s₂.requestClaim id with solver := 0, claimedAt := 0, deadline := 0 } : Claim) =
      Claim.empty := by
    rw [h₂.claim]
    rfl
  rw [hsolver]
  have hemit := h₂.emit (e := .SolverBondRefunded id c.solver c.bond) rfl
  refine hrest _ ?_
  rw [show (s₂.emit (.SolverBondRefunded id c.solver c.bond)).requestClaim id =
    s₂.requestClaim id from rfl, hreset]
  exact hemit.setClaim Claim.empty

/-- A settlement announces the payment, the refund and the evidence. -/
theorem tells_verifyAndPay {e : Event} (he : e.announces = some (id, .verified)) (h₀ : s₀.Told)
    (hlocked : s.entered = true) (hs : Silent s₀ s) :
    Tells t (verifyAndPay id (fun s => leave (s.emit e)) s) := by
  have hstart := Telling.start hs id
  unfold verifyAndPay
  rw [hstart.request, hstart.claim]
  refine tells_check fun hknown => tells_check fun hfinal => tells_check fun hheld =>
    tells_check fun _ => ?_
  have hopen : (s₀.bridgeRequests id).finalized = false := by simpa using hfinal
  simp only []
  split
  · exact tells_revert _
  · next payout hadd =>
    have hrequest : (s.setFeeEscrow id 0).bridgeRequests id = s₀.bridgeRequests id :=
      hstart.request
    have hle : (s₀.bridgeRequests id).amount ≤ payout := by
      have hsum := checkedAdd_some hadd
      rw [hrequest] at hsum
      omega
    rw [hrequest]
    have h₁ := (hstart.setFeeEscrow 0).setRequest
      { s₀.bridgeRequests id with finalized := true }
    have hlocked₁ : ((s.setFeeEscrow id 0).setRequest id
      { s₀.bridgeRequests id with finalized := true }).entered = true := hlocked
    generalize (s.setFeeEscrow id 0).setRequest id
      { s₀.bridgeRequests id with finalized := true } = s₁ at h₁ hlocked₁ ⊢
    rw [h₁.request, h₁.claim]
    refine tells_call hlocked₁ (tells_revert _) fun s₂ hlocked₂ hs₂ => ?_
    simp only [Bool.true_eq_false, if_false]
    have h₂ := h₁.silent hs₂
    rw [h₂.request, h₂.claim]
    have hpaid := h₂.emit (e := .BridgePaidToSolver id (s₀.requestClaim id).solver
      (s₀.bridgeRequests id).token payout) rfl
    refine tells_refundBond hlocked₂ hpaid fun s₃ h₃ => tells_leave ((h₃.emit he).told h₀ ?_)
    exact due_settled hknown hopen hheld hle

/-! ### Every function -/

theorem tells_entry (h₀ : s.Told) (hl : s.book.Lifecycle ch.self) : Tells t (entry ch t s) := by
  cases hu : t.fn.unguarded with
  | true =>
      rcases harmless_unguarded (s := s) hu with ⟨e, he⟩ | ⟨s', hs', hd⟩
      · rw [he]
        exact tells_revert e
      · rw [hs']
        exact (silent_of_book hd.book (hushed_unguarded hu s' hs')).told h₀
  | false =>
      unfold entry
      cases hfn : t.fn with
      | initiateBridge token amount input proof =>
          exact tells_check fun _ => tells_initiateBridge h₀ hl
      | claimBridge requestId =>
          refine tells_check fun _ => tells_claimBridge h₀ ?_
          exact ⟨rfl, rfl, rfl, announced_append rfl fun e he => by
            rw [List.mem_singleton.mp he]; rfl⟩
      | verifyAndSettle requestId destTxHash evidenceHash =>
          exact tells_check fun _ => tells_check fun _ =>
            tells_nonReentrant fun s₁ hlocked h₁ => tells_verifyAndPay rfl h₀ hlocked h₁
      | verifyAndSettleURL requestId destTxHash evidenceHash evidenceURL =>
          exact tells_check fun _ => tells_check fun _ =>
            tells_nonReentrant fun s₁ hlocked h₁ => tells_verifyAndPay rfl h₀ hlocked h₁
      | releaseExpiredClaim requestId =>
          exact tells_check fun _ => tells_releaseExpiredClaim h₀ hl
      | deliverTokens recipient token amount =>
          refine tells_check fun _ => tells_check fun _ =>
            tells_nonReentrant fun s₁ hlocked h₁ => tells_check fun _ => tells_check fun _ => ?_
          exact tells_payOut hlocked fun s₂ _ h₂ =>
            tells_leave ((h₁.trans (h₂.trans (silent_note rfl))).told h₀)
      | collectFees token recipient =>
          refine tells_check fun _ => tells_check fun _ =>
            tells_nonReentrant fun s₁ hlocked h₁ => tells_check fun _ => tells_check fun _ => ?_
          refine tells_payOut hlocked fun s₂ _ h₂ =>
            tells_leave ((h₁.trans (.trans ?_ (h₂.trans (silent_note rfl)))).told h₀)
          exact ⟨rfl, rfl, rfl, fun _ => rfl⟩
      | emergencyWithdraw token amount recipient =>
          refine tells_check fun _ => tells_check fun _ =>
            tells_nonReentrant fun s₁ hlocked h₁ => tells_check fun _ => tells_check fun _ => ?_
          exact tells_payOut hlocked fun s₂ _ h₂ => tells_leave ((h₁.trans h₂).told h₀)
      | _ =>
          rw [hfn] at hu
          cases hu

end Pass

/-! ## Runs -/

theorem told_deploy (g : Genesis ch) (relayer initialOwner : Address)
    (h : deploy ch g relayer initialOwner = .ok s) : s.Told := by
  unfold deploy at h
  split at h
  · cases h
  split at h
  · cases h
  cases h
  intro id
  exact congrArg some (standing_unknown rfl).symm

theorem Reachable.told (h : Reachable ch s) : s.Told := by
  induction h with
  | deployed g relayer initialOwner h => exact told_deploy g relayer initialOwner h
  | step before hstep ih =>
      cases hstep with
      | tx t commits =>
          exact (guarded_silent ch).exec _ commits (tells_entry ih before.valid.lifecycle)
      | outside move => exact (silent_outside move).told ih
      | tick time later => exact ih

/-- **The events tell the state.** In every state of every run, whoever
follows the events of a request finds each of them due, and knows all the
storage holds of it: its deposit, the claim on it with its bond and
deadline, and whether it was paid. So no two runs with the same events about
a request differ in it. -/
theorem events_tell_state (ch : Chain) (s : State) (hreach : Reachable ch s) (id : Nat) :
    ClaimLog.replay true (s.announced id) = some (s.standing id) ∧
      ∀ s', Reachable ch s' → s'.announced id = s.announced id →
        s'.standing id = s.standing id := by
  refine ⟨hreach.told id, fun s' hreach' hsame => ?_⟩
  have htold := hreach'.told id
  rw [hsame, hreach.told id] at htold
  exact (Option.some.inj htold).symm

theorem events_tell_state_settled :
    ClaimLog.replay true (Sample.settled.announced 1) = some (Sample.settled.standing 1) ∧
      (Sample.settled.announced 1).length = 5 :=
  ⟨(events_tell_state Sample.chain Sample.settled Sample.settled_reachable 1).1,
    by decide +kernel⟩

end LunarysBridge.Evm
