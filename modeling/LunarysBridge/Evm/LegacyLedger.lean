/-
LunarysBridge.Evm.LegacyLedger — the requests of the legacy contract, its
fees and its tokens, in every state of every run.

The log has a receipt for each request and nothing else of the kind: who was
allowed to read the destination was allowed when the request was made
(`Recorded.receipts`). The fees that are counted and those that were
collected are the fees of the requests (`Recorded.fees`). And as long as
nothing is withdrawn in an emergency, an exact token is there for all that was
bridged and not delivered, next to the fees (`Covered`).
-/
import LunarysBridge.Evm.LegacyEffects

namespace LunarysBridge.Evm.LegacyRelayer

variable {ch : Chain} {t : Tx ch.self} {s s' : State} {token : Address}
  {allowed : Fn → State → Prop}

/-! ## What counts on the log -/

/-- An entry that belongs to the receipt of a request. -/
def LogEntry.deposit : LogEntry → Bool
  | .allowed _ _ | .emit (.BridgeInitiated _ _ _ _) => true
  | _ => false

/-- One for the event that the request is finalized. -/
def LogEntry.finalizes (id : Nat) : LogEntry → Nat
  | .emit (.BridgeFinalized requestId _) => if requestId = id then 1 else 0
  | _ => 0

/-- The fees of a token that were collected. -/
def LogEntry.fees (token : Address) : LogEntry → Nat
  | .emit (.FeesCollected token' amount _) => if token' = token then amount else 0
  | _ => 0

/-- The tokens that were delivered to somebody else. -/
def LogEntry.delivers (self token : Address) : LogEntry → Nat
  | .emit (.IncomingBridgeDelivered recipient token' amount) =>
      if token' = token ∧ recipient ≠ self then amount else 0
  | _ => 0

/-- What the functions of the owner put on the log counts for nothing. -/
theorem total_admin {f : LogEntry → Nat} {l extra entries : List LogEntry}
    (hf : ∀ e, LogEntry.admin e = true → f e = 0) (hadmin : ∀ e ∈ extra, LogEntry.admin e = true) :
    Tally.total f (l ++ extra ++ entries) = Tally.total f l + Tally.total f entries := by
  rw [Tally.total_append, Tally.total_append,
    Tally.total_eq_zero fun e he => hf e (hadmin e he), Nat.add_zero]

theorem finalizes_admin (id : Nat) (e : LogEntry) (h : LogEntry.admin e = true) :
    e.finalizes id = 0 := by
  cases e with
  | emit e => cases e <;> first | rfl | cases h
  | allowed handle account => rfl

theorem fees_admin (token : Address) (e : LogEntry) (h : LogEntry.admin e = true) :
    e.fees token = 0 := by
  cases e with
  | emit e => cases e <;> first | rfl | cases h
  | allowed handle account => rfl

theorem delivers_admin (self token : Address) (e : LogEntry) (h : LogEntry.admin e = true) :
    e.delivers self token = 0 := by
  cases e with
  | emit e => cases e <;> first | rfl | cases h
  | allowed handle account => rfl

theorem deposit_admin (e : LogEntry) (h : LogEntry.admin e = true) : e.deposit = false := by
  cases e with
  | emit e => cases e <;> first | rfl | cases h
  | allowed handle account => cases h

theorem filter_deposit {l extra entries : List LogEntry}
    (hadmin : ∀ e ∈ extra, LogEntry.admin e = true) :
    (l ++ extra ++ entries).filter LogEntry.deposit =
      l.filter LogEntry.deposit ++ entries.filter LogEntry.deposit := by
  have hnone : extra.filter LogEntry.deposit = [] :=
    List.filter_eq_nil_iff.mpr fun e he => by simp [deposit_admin e (hadmin e he)]
  rw [List.filter_append, List.filter_append, hnone, List.append_nil]

/-! ## The record -/

/-- The receipts of the requests so far. -/
def receipts (self : Address) (requests : Nat → BridgeRequest) (relayers : Nat → Address)
    (count : Nat) : List LogEntry :=
  (List.range count).flatMap fun i => receipt self (i + 1) (requests (i + 1)) (relayers (i + 1))

/-- The fees of the requests of a token. -/
def State.feesOf (s : State) (token : Address) : Nat :=
  ∑ id ∈ Finset.Icc 1 s.bridgeNonce,
    if (s.bridgeRequests id).token = token then (s.bridgeRequests id).fee else 0

structure Recorded (ch : Chain) (s : State) : Prop where
  known : ∀ id, (s.bridgeRequests id).sender ≠ 0 ↔ 1 ≤ id ∧ id ≤ s.bridgeNonce
  unknown : ∀ id, (s.bridgeRequests id).sender = 0 → s.bridgeRequests id = .empty
  positive : ∀ id, (s.bridgeRequests id).sender ≠ 0 → 0 < (s.bridgeRequests id).amount
  past : ∀ id, (s.bridgeRequests id).timestamp ≤ s.now
  receipts : ∃ relayers, s.log.filter LogEntry.deposit =
    receipts ch.self s.bridgeRequests relayers s.bridgeNonce
  finalizations : ∀ id, Tally.total (LogEntry.finalizes id) s.log =
    if (s.bridgeRequests id).finalized then 1 else 0
  fees : ∀ token, s.collectedFees token + Tally.total (LogEntry.fees token) s.log =
    s.feesOf token

theorem receipts_succ (self : Address) (requests : Nat → BridgeRequest)
    (relayers : Nat → Address) (count : Nat) :
    receipts self requests relayers (count + 1) =
      receipts self requests relayers count ++
        receipt self (count + 1) (requests (count + 1)) (relayers (count + 1)) := by
  simp [receipts, List.range_succ]

/-- A receipt is of the requests that were there. -/
theorem receipts_congr {self : Address} {requests requests' : Nat → BridgeRequest}
    {relayers relayers' : Nat → Address} {count : Nat}
    (h : ∀ id, id ≤ count → receipt self id (requests' id) (relayers' id) =
      receipt self id (requests id) (relayers id)) :
    receipts self requests' relayers' count = receipts self requests relayers count := by
  unfold receipts
  refine List.flatMap_congr fun i hi => h (i + 1) ?_
  have hlt := List.mem_range.mp hi
  omega

/-- The fee of a positive amount is less than the amount. -/
theorem calculateFee_lt {f : FeeSettings} {amount fee : Nat} (hpos : 0 < amount)
    (h : calculateFee f amount = some fee) : fee < amount := by
  unfold calculateFee at h
  split at h
  · cases h
  · cases h
    have hlast : ∀ fee, (if fee ≥ amount then amount / 2 else fee) < amount := by
      intro fee
      split
      · omega
      · omega
    exact hlast _

/-! ## Each effect keeps it -/

theorem Recorded.initiated {r : BridgeRequest} {relayer : Address} (hr : Recorded ch s)
    (h : Initiated ch t r relayer s s') : Recorded ch s' := by
  obtain ⟨extra, hlog, hadmin⟩ := h.log
  have hnew : (s.bridgeRequests (s.bridgeNonce + 1)).sender = 0 := by
    by_contra hne
    have hle := ((hr.known _).mp hne).2
    omega
  have hpositive : 0 < r.amount := by
    have hlt := calculateFee_lt h.gross h.fee
    omega
  have hother : ∀ id, id ≠ s.bridgeNonce + 1 → s'.bridgeRequests id = s.bridgeRequests id := by
    intro id hne
    rw [h.bridgeRequests, Function.update_of_ne hne]
  have hself : s'.bridgeRequests (s.bridgeNonce + 1) = r := by
    rw [h.bridgeRequests, Function.update_self]
  constructor
  · intro id
    by_cases hid : id = s.bridgeNonce + 1
    · subst hid
      rw [hself, h.bridgeNonce, h.sender]
      exact ⟨fun _ => ⟨by omega, Nat.le_refl _⟩, fun _ => t.sender_ne_zero⟩
    · rw [hother id hid, hr.known, h.bridgeNonce]
      omega
  · intro id hzero
    by_cases hid : id = s.bridgeNonce + 1
    · subst hid
      rw [hself, h.sender] at hzero
      exact absurd hzero t.sender_ne_zero
    · rw [hother id hid] at hzero ⊢
      exact hr.unknown id hzero
  · intro id hne
    by_cases hid : id = s.bridgeNonce + 1
    · subst hid
      rw [hself]
      exact hpositive
    · rw [hother id hid] at hne ⊢
      exact hr.positive id hne
  · intro id
    rw [h.now]
    by_cases hid : id = s.bridgeNonce + 1
    · subst hid
      rw [hself, h.timestamp]
    · rw [hother id hid]
      exact hr.past id
  · obtain ⟨relayers, hreceipts⟩ := hr.receipts
    refine ⟨Function.update relayers (s.bridgeNonce + 1) relayer, ?_⟩
    rw [h.bridgeNonce, receipts_succ, hself, Function.update_self, hlog, filter_deposit hadmin,
      hreceipts]
    congr 1
    refine (receipts_congr fun id hle => ?_).symm
    have hne : id ≠ s.bridgeNonce + 1 := by omega
    rw [hother id hne, Function.update_of_ne hne]
  · intro id
    rw [hlog, total_admin (finalizes_admin id) hadmin, hr.finalizations]
    by_cases hid : id = s.bridgeNonce + 1
    · subst hid
      have hfresh : (s.bridgeRequests (s.bridgeNonce + 1)).finalized = false := by
        rw [hr.unknown _ hnew]
        rfl
      simp [hself, h.finalized, hfresh, receipt, LogEntry.finalizes]
    · simp [hother id hid, receipt, LogEntry.finalizes]
  · intro token
    have hsum := Tally.sum_Icc_succ (n := s.bridgeNonce)
      (f := fun id => if (s.bridgeRequests id).token = token then (s.bridgeRequests id).fee else 0)
      (g := fun id =>
        if (s'.bridgeRequests id).token = token then (s'.bridgeRequests id).fee else 0)
      (fun id hne => by rw [hother id hne])
    have hbefore := hr.fees token
    unfold State.feesOf at hbefore ⊢
    rw [h.bridgeNonce, hsum, hself, hlog, total_admin (fees_admin token) hadmin, h.collectedFees]
    by_cases htoken : r.token = token
    · subst htoken
      simp [receipt, LogEntry.fees]
      omega
    · simp [receipt, LogEntry.fees, htoken, Function.update_of_ne (Ne.symm htoken)]
      omega

/-- A request that is made final is otherwise the same. -/
theorem finalize_eq (requests : Nat → BridgeRequest) (requestId id : Nat) :
    Function.update requests requestId { requests requestId with finalized := true } id =
      { requests id with
        finalized := (requests id).finalized || decide (id = requestId) } := by
  by_cases hid : id = requestId
  · subst hid
    simp
  · simp [hid]

theorem Recorded.finalized {requestId : Nat} {relayer : Address} (hr : Recorded ch s)
    (hfound : (s.bridgeRequests requestId).sender ≠ 0)
    (hfirst : (s.bridgeRequests requestId).finalized = false) :
    Recorded ch ((s.setRequest requestId
      { s.bridgeRequests requestId with finalized := true }).emit
        (.BridgeFinalized requestId relayer)) := by
  have hcases := finalize_eq s.bridgeRequests requestId
  have hlog : ∀ f : LogEntry → Nat, Tally.total f (s.log ++ [.emit (.BridgeFinalized requestId
      relayer)]) = Tally.total f s.log + f (.emit (.BridgeFinalized requestId relayer)) := by
    intro f
    simp
  constructor
  · intro id
    show (Function.update s.bridgeRequests requestId _ id).sender ≠ 0 ↔ _
    rw [hcases]
    exact hr.known id
  · intro id hzero
    have hid : id ≠ requestId := by
      rintro rfl
      change (Function.update s.bridgeRequests id _ id).sender = 0 at hzero
      rw [Function.update_self] at hzero
      exact hfound hzero
    change (Function.update s.bridgeRequests requestId _ id).sender = 0 at hzero
    show Function.update s.bridgeRequests requestId _ id = _
    rw [Function.update_of_ne hid] at hzero ⊢
    exact hr.unknown id hzero
  · intro id hne
    change (Function.update s.bridgeRequests requestId _ id).sender ≠ 0 at hne
    show 0 < (Function.update s.bridgeRequests requestId _ id).amount
    rw [hcases] at hne ⊢
    exact hr.positive id hne
  · intro id
    show (Function.update s.bridgeRequests requestId _ id).timestamp ≤ s.now
    rw [hcases]
    exact hr.past id
  · obtain ⟨relayers, hreceipts⟩ := hr.receipts
    refine ⟨relayers, ?_⟩
    show (s.log ++ [LogEntry.emit (.BridgeFinalized requestId relayer)]).filter
      LogEntry.deposit =
      LegacyRelayer.receipts ch.self (Function.update s.bridgeRequests requestId _) relayers
        s.bridgeNonce
    rw [List.filter_append, hreceipts]
    simp only [LogEntry.deposit, List.filter_cons_of_neg, List.filter_nil, List.append_nil,
      Bool.false_eq_true, not_false_eq_true]
    refine (receipts_congr fun id _ => ?_).symm
    rw [hcases]
    rfl
  · intro id
    show Tally.total _ (s.log ++ [.emit (.BridgeFinalized requestId relayer)]) =
      if (Function.update s.bridgeRequests requestId _ id).finalized then 1 else 0
    rw [hlog, hcases, hr.finalizations id]
    by_cases hid : id = requestId
    · subst hid
      simp [hfirst, LogEntry.finalizes]
    · simp [hid, Ne.symm hid, LogEntry.finalizes]
  · intro token
    have hbefore := hr.fees token
    unfold State.feesOf at hbefore ⊢
    show s.collectedFees token + Tally.total _ (s.log ++ [.emit (.BridgeFinalized requestId
      relayer)]) = ∑ id ∈ Finset.Icc 1 s.bridgeNonce,
        if (Function.update s.bridgeRequests requestId _ id).token = token then
          (Function.update s.bridgeRequests requestId _ id).fee else 0
    simp only [hcases]
    rw [hlog, ← hbefore]
    rfl

/-- Requests stay, and what is put on the log is no receipt and no
finalization. -/
theorem Recorded.kept {entries : List LogEntry} (hr : Recorded ch s) (h : Payment s s' entries)
    (hdeposit : entries.filter LogEntry.deposit = [])
    (hfinal : ∀ id, Tally.total (LogEntry.finalizes id) entries = 0)
    (hfees : ∀ token, s'.collectedFees token + Tally.total (LogEntry.fees token) entries =
      s.collectedFees token) : Recorded ch s' := by
  obtain ⟨extra, hlog, hadmin⟩ := h.log
  constructor
  · rw [h.bridgeRequests, h.bridgeNonce]
    exact hr.known
  · rw [h.bridgeRequests]
    exact hr.unknown
  · rw [h.bridgeRequests]
    exact hr.positive
  · rw [h.bridgeRequests, h.now]
    exact hr.past
  · rw [h.bridgeRequests, h.bridgeNonce, hlog, filter_deposit hadmin, hdeposit, List.append_nil]
    exact hr.receipts
  · intro id
    rw [h.bridgeRequests, hlog, total_admin (finalizes_admin id) hadmin, hfinal]
    exact hr.finalizations id
  · intro token
    have hbefore := hr.fees token
    have hmoved := hfees token
    unfold State.feesOf at hbefore ⊢
    rw [h.bridgeRequests, h.bridgeNonce, hlog, total_admin (fees_admin token) hadmin]
    omega

theorem Kept.payment (h : Kept ch s s') : Payment s s' [] := by
  obtain ⟨extra, hlog, hadmin⟩ := h.log
  exact ⟨h.bridgeRequests, h.bridgeNonce, h.now, extra, by rw [hlog, List.append_nil], hadmin⟩

theorem Recorded.effect (hr : Recorded ch s) (h : Effect ch t s s') : Recorded ch s' := by
  cases h with
  | initiated r relayer h => exact hr.initiated h
  | finalized requestId _ _ found first is =>
      subst is
      exact hr.finalized found first
  | delivered recipient token amount _ _ payment fees _ =>
      exact hr.kept payment rfl (fun _ => rfl) fun token => by rw [fees]; rfl
  | collected token recipient _ _ _ payment fees _ =>
      refine hr.kept payment rfl (fun _ => rfl) fun token' => ?_
      rw [fees]
      by_cases htoken : token' = token
      · subst htoken
        simp [LogEntry.fees]
      · simp [LogEntry.fees, Function.update_of_ne htoken, Ne.symm htoken]
  | withdrawn token amount recipient _ _ payment fees _ =>
      exact hr.kept payment rfl (fun _ => rfl) fun token => by rw [fees]; rfl
  | kept _ h => exact hr.kept h.payment rfl (fun _ => rfl) fun token => by rw [h.collectedFees]; rfl

theorem recorded_deploy {g : Genesis ch} {relayer initialOwner : Address}
    (h : deploy ch g relayer initialOwner = .ok s) : Recorded ch s := by
  simp only [deploy] at h
  split at h
  · cases h
  · split at h
    · cases h
    · cases h
      refine ⟨fun id => ?_, fun _ _ => rfl, fun id hne => absurd rfl hne, fun _ => Nat.zero_le _,
        ⟨fun _ => 0, rfl⟩, fun _ => rfl, fun token => ?_⟩
      · show (0 : Address) ≠ 0 ↔ 1 ≤ id ∧ id ≤ 0
        simp
        omega
      · simp [State.feesOf]

theorem Reachable.recorded (h : Reachable ch allowed s) : Recorded ch s := by
  induction h with
  | deployed g relayer initialOwner h => exact recorded_deploy h
  | tx before t allows commits ih => exact ih.effect (effect_of_commits commits)
  | outside before move ih =>
      have hk := kept_outside move
      exact ih.kept hk.payment rfl (fun _ => rfl) fun token => by rw [hk.collectedFees]; rfl
  | tick before time later ih =>
      exact ⟨ih.known, ih.unknown, ih.positive, fun id => (ih.past id).trans later, ih.receipts,
        ih.finalizations, ih.fees⟩

/-- **Every request is on record.** In every state of every run the requests
are those with the ids up to the nonce, each of a positive amount. Who may
read the destination of a request, and what was announced of it, is on the log
in one receipt for each request and nowhere else, and a request is announced
to be final once if it is, and never if it is not. -/
theorem requests_on_record (ch : Chain) (allowed : Fn → State → Prop) (s : State)
    (hreach : Reachable ch allowed s) :
    (∀ id, (s.bridgeRequests id).sender ≠ 0 ↔ 1 ≤ id ∧ id ≤ s.bridgeNonce) ∧
    (∀ id, (s.bridgeRequests id).sender ≠ 0 → 0 < (s.bridgeRequests id).amount) ∧
    (∃ relayers : Nat → Address, s.log.filter LogEntry.deposit =
      (List.range s.bridgeNonce).flatMap fun i =>
        receipt ch.self (i + 1) (s.bridgeRequests (i + 1)) (relayers (i + 1))) ∧
    ∀ id, Tally.total (LogEntry.finalizes id) s.log =
      if (s.bridgeRequests id).finalized then 1 else 0 := by
  have hr : Recorded ch s := hreach.recorded
  exact ⟨hr.known, hr.positive, hr.receipts, hr.finalizations⟩

theorem requests_on_record_deposited :
    0 < (Sample.deposited.bridgeRequests 1).amount ∧
      Tally.total (LogEntry.finalizes 1) Sample.deposited.log = 0 := by
  have hrecord := requests_on_record Evm.Sample.chain (fun _ _ => True) Sample.deposited
    (Sample.deposited_reachable fun _ => trivial)
  exact ⟨hrecord.2.1 1 (by decide +kernel), hrecord.2.2.2 1⟩

/-! ## Fees and tokens -/

/-- The amounts of the requests of a token, without the fees. -/
def State.principalOf (s : State) (token : Address) : Nat :=
  ∑ id ∈ Finset.Icc 1 s.bridgeNonce,
    if (s.bridgeRequests id).token = token then (s.bridgeRequests id).amount else 0

/-- The fees of a token that were collected by somebody else. -/
def LogEntry.collects (self token : Address) : LogEntry → Nat
  | .emit (.FeesCollected token' amount recipient) =>
      if token' = token ∧ recipient ≠ self then amount else 0
  | _ => 0

theorem collects_admin (self token : Address) (e : LogEntry) (h : LogEntry.admin e = true) :
    e.collects self token = 0 := by
  cases e with
  | emit e => cases e <;> first | rfl | cases h
  | allowed handle account => rfl

theorem collects_le_fees (self token : Address) (l : List LogEntry) :
    Tally.total (LogEntry.collects self token) l ≤ Tally.total (LogEntry.fees token) l := by
  induction l with
  | nil => exact Nat.le_refl _
  | cons e l ih =>
      rw [Tally.total_cons, Tally.total_cons]
      refine Nat.add_le_add ?_ ih
      cases e with
      | emit e =>
          cases e with
          | FeesCollected token' amount recipient =>
              simp only [LogEntry.collects, LogEntry.fees]
              split
              · next h => rw [if_pos h.1]
              · exact Nat.zero_le _
          | _ => exact Nat.le_refl _
      | allowed handle account => exact Nat.le_refl _

/-- What came in for the requests of a token is there, or was sent off. -/
def Covered (ch : Chain) (token : Address) (s : State) : Prop :=
  s.principalOf token + s.feesOf token ≤
    s.bal token ch.self + Tally.total (LogEntry.delivers ch.self token) s.log +
      Tally.total (LogEntry.collects ch.self token) s.log

/-- The call takes no token of this kind in an emergency. -/
def Spared (token : Address) (fn : Fn) (_ : State) : Prop :=
  ∀ amount recipient, fn ≠ .emergencyWithdraw token amount recipient

theorem Covered.initiated {r : BridgeRequest} {relayer : Address} (hc : Covered ch token s)
    (hexact : ch.exact token = true) (h : Initiated ch t r relayer s s') :
    Covered ch token s' := by
  obtain ⟨extra, hlog, hadmin⟩ := h.log
  have hother : ∀ id, id ≠ s.bridgeNonce + 1 → s'.bridgeRequests id = s.bridgeRequests id := by
    intro id hne
    rw [h.bridgeRequests, Function.update_of_ne hne]
  have hself : s'.bridgeRequests (s.bridgeNonce + 1) = r := by
    rw [h.bridgeRequests, Function.update_self]
  have hprincipal := Tally.sum_Icc_succ (n := s.bridgeNonce)
    (f := fun id =>
      if (s.bridgeRequests id).token = token then (s.bridgeRequests id).amount else 0)
    (g := fun id =>
      if (s'.bridgeRequests id).token = token then (s'.bridgeRequests id).amount else 0)
    (fun id hne => by rw [hother id hne])
  have hfees := Tally.sum_Icc_succ (n := s.bridgeNonce)
    (f := fun id => if (s.bridgeRequests id).token = token then (s.bridgeRequests id).fee else 0)
    (g := fun id =>
      if (s'.bridgeRequests id).token = token then (s'.bridgeRequests id).fee else 0)
    (fun id hne => by rw [hother id hne])
  have hbal := h.bal token hexact
  unfold Covered State.principalOf State.feesOf at hc ⊢
  rw [h.bridgeNonce, hprincipal, hfees, hself, hlog,
    total_admin (delivers_admin ch.self token) hadmin,
    total_admin (collects_admin ch.self token) hadmin]
  simp only [receipt, Tally.total_cons, Tally.total_nil, LogEntry.delivers, LogEntry.collects]
  by_cases htoken : r.token = token
  · rw [if_pos htoken] at hbal ⊢
    rw [if_pos htoken]
    omega
  · rw [if_neg htoken] at hbal ⊢
    rw [if_neg htoken]
    omega

/-- The sums over the requests do not look at what is final. -/
theorem Covered.requests (hc : Covered ch token s) (hnonce : s'.bridgeNonce = s.bridgeNonce)
    (hrequests : ∀ id, ∃ final,
      s'.bridgeRequests id = { s.bridgeRequests id with finalized := final })
    (hle : s.bal token ch.self + Tally.total (LogEntry.delivers ch.self token) s.log +
        Tally.total (LogEntry.collects ch.self token) s.log ≤
      s'.bal token ch.self + Tally.total (LogEntry.delivers ch.self token) s'.log +
        Tally.total (LogEntry.collects ch.self token) s'.log) : Covered ch token s' := by
  unfold Covered State.principalOf State.feesOf at hc ⊢
  have hsame : ∀ id, (s'.bridgeRequests id).token = (s.bridgeRequests id).token ∧
      (s'.bridgeRequests id).amount = (s.bridgeRequests id).amount ∧
      (s'.bridgeRequests id).fee = (s.bridgeRequests id).fee := by
    intro id
    obtain ⟨final, heq⟩ := hrequests id
    rw [heq]
    exact ⟨rfl, rfl, rfl⟩
  rw [hnonce]
  simp only [fun id => (hsame id).1, fun id => (hsame id).2.1, fun id => (hsame id).2.2]
  exact hc.trans hle

/-- A payment is covered by what it puts on the log. -/
theorem Covered.paid {entries : List LogEntry} {paid : Nat} (hc : Covered ch token s)
    (h : Payment s s' entries) (hbal : s.bal token ch.self ≤ s'.bal token ch.self + paid)
    (hpaid : paid = Tally.total (LogEntry.delivers ch.self token) entries +
      Tally.total (LogEntry.collects ch.self token) entries) : Covered ch token s' := by
  obtain ⟨extra, hlog, hadmin⟩ := h.log
  refine hc.requests h.bridgeNonce (fun id => ⟨_, by rw [h.bridgeRequests]⟩) ?_
  rw [hlog, total_admin (delivers_admin ch.self token) hadmin,
    total_admin (collects_admin ch.self token) hadmin]
  omega

theorem Covered.effect (hc : Covered ch token s) (hexact : ch.exact token = true)
    (hspared : Spared token t.fn s) (h : Effect ch t s s') : Covered ch token s' := by
  cases h with
  | initiated r relayer h => exact hc.initiated hexact h
  | finalized requestId _ _ _ _ is =>
      subst is
      refine hc.requests rfl (fun id => ⟨_, finalize_eq s.bridgeRequests requestId id⟩) ?_
      simp [State.emit, State.note, State.setRequest, LogEntry.delivers, LogEntry.collects]
  | delivered recipient token' amount _ _ payment _ bal =>
      refine hc.paid payment (bal token hexact) ?_
      by_cases htoken : token' = token
      · by_cases hself : recipient = ch.self
        · simp [LogEntry.delivers, LogEntry.collects, leaving, hself]
        · simp [LogEntry.delivers, LogEntry.collects, leaving, htoken, hself]
      · simp [LogEntry.delivers, LogEntry.collects, htoken]
  | collected token' recipient _ _ _ payment _ bal =>
      refine hc.paid payment (bal token hexact) ?_
      by_cases htoken : token' = token
      · by_cases hself : recipient = ch.self
        · simp [LogEntry.delivers, LogEntry.collects, leaving, hself]
        · simp [LogEntry.delivers, LogEntry.collects, leaving, htoken, hself]
      · simp [LogEntry.delivers, LogEntry.collects, htoken]
  | withdrawn token' amount recipient _ fn payment _ bal =>
      have hne : token' ≠ token := by
        rintro rfl
        exact hspared amount recipient fn
      have hbal := bal token hexact
      rw [if_neg hne] at hbal
      exact hc.paid payment hbal rfl
  | kept _ h => exact hc.paid h.payment (h.bal token hexact) rfl

theorem Reachable.covered (h : Reachable ch (Spared token) s) (hexact : ch.exact token = true) :
    Covered ch token s := by
  induction h with
  | deployed g relayer initialOwner h =>
      simp only [deploy] at h
      split at h
      · cases h
      · split at h
        · cases h
        · cases h
          simp [Covered, State.principalOf, State.feesOf]
  | tx before t allows commits ih => exact ih.effect hexact allows (effect_of_commits commits)
  | outside before move ih =>
      have hk := kept_outside move
      exact ih.paid hk.payment (hk.bal token hexact) rfl
  | tick before time later ih => exact ih

/-- **Fees and principal.** In every state of every run the fees that are
counted and those that were collected are the fees of the requests. As long as
no emergency takes an exact token, the contract has the fees it counts and
all that was bridged, except what it has delivered: finalizing a request moves
nothing. -/
theorem fees_and_principal (ch : Chain) (token : Address) :
    (∀ (allowed : Fn → State → Prop) (s : State), Reachable ch allowed s →
      s.collectedFees token + Tally.total (LogEntry.fees token) s.log = s.feesOf token) ∧
    ∀ s : State, Reachable ch (Spared token) s → ch.exact token = true →
      s.principalOf token + s.collectedFees token ≤
        s.bal token ch.self + Tally.total (LogEntry.delivers ch.self token) s.log := by
  refine ⟨fun allowed s hreach => hreach.recorded.fees token, fun s hreach hexact => ?_⟩
  have hfees := hreach.recorded.fees token
  have hcovered : Covered ch token s := hreach.covered hexact
  have hcollected := collects_le_fees ch.self token s.log
  unfold Covered at hcovered
  omega

theorem fees_and_principal_deposited :
    Sample.deposited.principalOf 9 + Sample.deposited.collectedFees 9 ≤
      Sample.deposited.bal 9 1 +
        Tally.total (LogEntry.delivers 1 9) Sample.deposited.log :=
  (fees_and_principal Evm.Sample.chain 9).2 Sample.deposited
    (Sample.deposited_reachable fun _ _ _ h => by cases h) rfl

/-! ## From any state on -/

/-- The states a history goes on to. -/
inductive Continues (ch : Chain) : State → State → Prop where
  | refl (s : State) : Continues ch s s
  | tx {s s₁ s₂ : State} (before : Continues ch s s₁) (t : Tx ch.self)
      (commits : Reentrancy.Commits (contract ch) t s₁ s₂) : Continues ch s s₂
  | outside {s s₁ s₂ : State} (before : Continues ch s s₁) (move : Outside ch s₁ s₂) :
      Continues ch s s₂
  | tick {s s₁ : State} (before : Continues ch s s₁) (time : Nat) (later : s₁.now ≤ time) :
      Continues ch s { s₁ with now := time }

/-- The request is the same, but may have become final. -/
structure SameRequest (r r' : BridgeRequest) : Prop where
  same : r' = { r with finalized := r'.finalized }
  final : r.finalized = true → r'.finalized = true

theorem SameRequest.refl (r : BridgeRequest) : SameRequest r r := ⟨rfl, id⟩

theorem SameRequest.trans {r₁ r₂ r₃ : BridgeRequest} (h₁ : SameRequest r₁ r₂)
    (h₂ : SameRequest r₂ r₃) : SameRequest r₁ r₃ := by
  refine ⟨?_, fun h => h₂.final (h₁.final h)⟩
  have hsame := h₂.same
  rw [h₁.same] at hsame
  exact hsame

/-- A call keeps the requests there are, and makes them final one by one, at
the relayer's word. -/
theorem Recorded.sameRequest (hr : Recorded ch s) (h : Effect ch t s s') {id : Nat}
    (hid : (s.bridgeRequests id).sender ≠ 0) :
    SameRequest (s.bridgeRequests id) (s'.bridgeRequests id) ∧
      ((s.bridgeRequests id).finalized = false → (s'.bridgeRequests id).finalized = true →
        t.fn = .finalizeBridge id ∧ t.sender = s.relayer) := by
  have hunchanged : s'.bridgeRequests = s.bridgeRequests →
      SameRequest (s.bridgeRequests id) (s'.bridgeRequests id) ∧
      ((s.bridgeRequests id).finalized = false → (s'.bridgeRequests id).finalized = true →
        t.fn = .finalizeBridge id ∧ t.sender = s.relayer) := by
    intro heq
    rw [heq]
    exact ⟨.refl _, fun hno hyes => by rw [hno] at hyes; cases hyes⟩
  cases h with
  | initiated r relayer h =>
      have hne : id ≠ s.bridgeNonce + 1 := by
        have hle := ((hr.known id).mp hid).2
        omega
      rw [h.bridgeRequests, Function.update_of_ne hne]
      exact ⟨.refl _, fun hno hyes => by rw [hno] at hyes; cases hyes⟩
  | finalized requestId fn relayer _ _ is =>
      subst is
      show SameRequest _ (Function.update s.bridgeRequests requestId _ id) ∧
        (_ → (Function.update s.bridgeRequests requestId _ id).finalized = true → _)
      by_cases heq : id = requestId
      · subst heq
        rw [Function.update_self]
        exact ⟨⟨rfl, fun _ => rfl⟩, fun _ _ => ⟨fn, relayer⟩⟩
      · rw [Function.update_of_ne heq]
        exact ⟨.refl _, fun hno hyes => by rw [hno] at hyes; cases hyes⟩
  | delivered _ _ _ _ _ payment _ _ => exact hunchanged payment.bridgeRequests
  | collected _ _ _ _ _ payment _ _ => exact hunchanged payment.bridgeRequests
  | withdrawn _ _ _ _ _ payment _ _ => exact hunchanged payment.bridgeRequests
  | kept _ h => exact hunchanged h.bridgeRequests

theorem Continues.reachable (hreach : Reachable ch (fun _ _ => True) s)
    (h : Continues ch s s') : Reachable ch (fun _ _ => True) s' := by
  induction h with
  | refl => exact hreach
  | tx _ t commits ih => exact .tx ih t trivial commits
  | outside _ move ih => exact .outside ih move
  | tick _ time later ih => exact .tick ih time later

/-- **A request never changes**, from the state it is first seen in on: its
parties, its amount, its fee and its destination stay, final it stays once it
is, and it becomes final only by a call of `finalizeBridge` for it that the
relayer of that moment makes. -/
theorem request_immutable (ch : Chain) (s s' : State) (id : Nat)
    (hreach : Reachable ch (fun _ _ => True) s) (hid : (s.bridgeRequests id).sender ≠ 0)
    (hlater : Continues ch s s') :
    SameRequest (s.bridgeRequests id) (s'.bridgeRequests id) ∧
    ∀ (t : Tx ch.self) (s'' : State), Reentrancy.Commits (contract ch) t s' s'' →
      (s'.bridgeRequests id).finalized = false → (s''.bridgeRequests id).finalized = true →
        t.fn = .finalizeBridge id ∧ t.sender = s'.relayer := by
  have hsame : SameRequest (s.bridgeRequests id) (s'.bridgeRequests id) := by
    induction hlater with
    | refl => exact .refl _
    | @tx s₁ s₂ before t commits ih =>
        have hsender : (s₁.bridgeRequests id).sender ≠ 0 := by
          rw [ih.same]
          exact hid
        exact ih.trans ((before.reachable hreach).recorded.sameRequest
          (effect_of_commits commits) hsender).1
    | outside before move ih =>
        rw [(kept_outside move).bridgeRequests]
        exact ih
    | tick before time later ih => exact ih
  refine ⟨hsame, fun t s'' commits => ?_⟩
  have hsender : (s'.bridgeRequests id).sender ≠ 0 := by
    rw [hsame.same]
    exact hid
  exact ((hlater.reachable hreach).recorded.sameRequest (effect_of_commits commits) hsender).2

theorem request_immutable_delivered :
    SameRequest (Sample.deposited.bridgeRequests 1) (Sample.delivered.bridgeRequests 1) :=
  (request_immutable Evm.Sample.chain Sample.deposited Sample.delivered 1
    (Sample.deposited_reachable fun _ => trivial) (by decide +kernel)
    (.tx (.refl _) (Sample.delivery (10 ^ 18))
      (Sample.delivery_commits Sample.delivered_isSome))).1

end LunarysBridge.Evm.LegacyRelayer
