/-
LunarysBridge.Evm.Simulation — the contract as a machine of bonded claims.

`Shows` relates the entries of one request, and what was sent for it, to a
position of `Bonded.step`. The contract refines the machine: among callees
that accept, it answers each claim, release and settlement as the machine
does (`simulates`). The exception is the deadline itself, when the contract
already counts the claim as expired.
-/
import LunarysBridge.Lib.Bonded
import LunarysBridge.Evm.Independence

namespace LunarysBridge.Evm

variable {ι : Type} [DecidableEq ι]

/-! ## What was sent and slashed -/

/-- ETH sent to `a` by calls about the request. -/
@[simp] def LogEntry.sentFor (id : Nat) (a : Address) : LogEntry → Nat
  | .called fn (.send recipient value) =>
      if fn.claims = some id ∧ recipient = a then value else 0
  | _ => 0

/-- What was slashed of the bonds of `a`. -/
@[simp] def LogEntry.slashedFrom (id : Nat) (a : Address) : LogEntry → Nat
  | .emit (.BridgeClaimExpired i solver slashed) => if i = id ∧ solver = a then slashed else 0
  | _ => 0

/-- What was slashed of any bond. -/
@[simp] def LogEntry.slashFor (id : Nat) : LogEntry → Nat
  | .emit (.BridgeClaimExpired i _ slashed) => if i = id then slashed else 0
  | _ => 0

/-- The end of a claim of the request: somebody was paid, or slashed. -/
def LogEntry.ends (id : Nat) : LogEntry → Bool
  | .called fn (.send _ _) => fn.claims = some id
  | .emit (.BridgeClaimExpired i _ _) => i = id
  | _ => false

/-- The slashes that `a` was sent as their collector. -/
def State.collected (s : State) (id : Nat) (a : Address) : Nat :=
  if s.slashCollector = a then Tally.total (LogEntry.slashFor id) s.log else 0

/-- What was refunded to a solver: what it was sent, but for the slashes. -/
def State.refunded (s : State) (id : Nat) (a : Address) : Nat :=
  Tally.total (LogEntry.sentFor id a) s.log - s.collected id a

def State.slashed (s : State) (id : Nat) (a : Address) : Nat :=
  Tally.total (LogEntry.slashedFrom id a) s.log

/-- Before a claim of the request has ended nobody was paid or slashed. -/
theorem unpaid_of_not_ends {id : Nat} {s : State} (h : ∀ e ∈ s.log, e.ends id = false)
    (a : Address) : Tally.total (LogEntry.sentFor id a) s.log = 0 ∧ s.collected id a = 0 ∧
      s.slashed id a = 0 := by
  refine ⟨Tally.total_eq_zero fun e he => ?_, ?_, Tally.total_eq_zero fun e he => ?_⟩
  · have hquiet := h e he
    unfold LogEntry.sentFor
    split
    · next fn recipient value =>
      have hother : fn.claims ≠ some id := by simpa [LogEntry.ends] using hquiet
      exact if_neg fun hboth => hother hboth.1
    · rfl
  · have hslashes : Tally.total (LogEntry.slashFor id) s.log = 0 := by
      refine Tally.total_eq_zero fun e he => ?_
      have hquiet := h e he
      unfold LogEntry.slashFor
      split
      · next i solver slashed =>
        have hother : i ≠ id := by simpa [LogEntry.ends] using hquiet
        exact if_neg hother
      · rfl
    rw [State.collected, hslashes, ite_self]
  · have hquiet := h e he
    unfold LogEntry.slashedFrom
    split
    · next i solver slashed =>
      have hother : i ≠ id := by simpa [LogEntry.ends] using hquiet
      exact if_neg fun hboth => hother hboth.1
    · rfl

section Acts

variable {fn : Fn} {id : Nat} {collector solver a : Address} {slash leftover : Nat}

@[simp] theorem sentFor_slashActs (hfn : fn.claims = some id) (hc : collector ≠ 0) :
    Tally.total (LogEntry.sentFor id a) (Book.slashActs fn id collector slash) =
      if collector = a then slash else 0 := by
  unfold Book.slashActs
  by_cases hslash : 0 < slash
  · rw [if_pos ⟨hslash, hc⟩]
    simp [hfn]
  · have hzero : slash = 0 := by omega
    rw [if_neg fun h => hslash h.1, if_neg hc]
    simp [hzero]

@[simp] theorem sentFor_refundActs (hfn : fn.claims = some id) :
    Tally.total (LogEntry.sentFor id a) (Book.refundActs fn solver leftover) =
      if solver = a then leftover else 0 := by
  unfold Book.refundActs
  by_cases hleftover : 0 < leftover
  · simp [hleftover, hfn]
  · have hzero : leftover = 0 := by omega
    simp [hzero]

@[simp] theorem slashedFrom_slashActs :
    Tally.total (LogEntry.slashedFrom id a) (Book.slashActs fn id collector slash) = 0 := by
  unfold Book.slashActs
  split
  · simp
  · split <;> simp

@[simp] theorem slashedFrom_refundActs :
    Tally.total (LogEntry.slashedFrom id a) (Book.refundActs fn solver leftover) = 0 := by
  unfold Book.refundActs
  split <;> simp

@[simp] theorem slashFor_slashActs :
    Tally.total (LogEntry.slashFor id) (Book.slashActs fn id collector slash) = 0 := by
  unfold Book.slashActs
  split
  · simp
  · split <;> simp

@[simp] theorem slashFor_refundActs :
    Tally.total (LogEntry.slashFor id) (Book.refundActs fn solver leftover) = 0 := by
  unfold Book.refundActs
  split <;> simp

end Acts

/-! ## Positions -/

/-- The entry of the claim mapping that a claim of the machine has. -/
def Holds (address : ι → Address) (m : Bonded.Terms) (c : Claim) :
    Option (Bonded.Claim ι) → Prop
  | none => c = Claim.empty
  | some k => c.solver = address k.solver ∧ c.deadline = k.deadline ∧ c.bond = m.bond

/-- The contract shows a position of the machine at the request `id`; the
collector takes ETH. -/
structure Shows (ch : Chain) (id : Nat) (address : ι → Address) (m : Bonded.Terms) (s : State)
    (p : Bonded.Position ι) : Prop where
  reachable : Reachable ch s
  known : (s.bridgeRequests id).sender ≠ 0
  bond : s.minSolverBond = m.bond
  window : s.claimWindow = m.window
  bps : s.slashBps = m.slashBps
  collector : s.slashCollector ≠ 0 ∧ s.slashCollector ≠ ch.self
  finalized : (s.bridgeRequests id).finalized = p.finalized
  claim : Holds address m (s.requestClaim id) p.claim
  refunded : ∀ i, Tally.total (LogEntry.sentFor id (address i)) s.log =
    p.refunded i + s.collected id (address i)
  slashed : ∀ i, s.slashed id (address i) = p.slashed i

variable {ch : Chain} {t : Tx ch.self} {s s' : State} {id : Nat} {o : Outcome}
  {address : ι → Address} {m : Bonded.Terms} {p p' : Bonded.Position ι}
  {eth : Address → Nat} {tokens : Address × Address → Nat}

omit [DecidableEq ι] in
theorem Shows.tick (hs : Shows ch id address m s p) {time : Nat} (later : s.now ≤ time) :
    Shows ch id address m { s with now := time } p where
  reachable := hs.reachable.step (.tick s time later)
  known := hs.known
  bond := hs.bond
  window := hs.window
  bps := hs.bps
  collector := hs.collector
  finalized := hs.finalized
  claim := hs.claim
  refunded := hs.refunded
  slashed := hs.slashed

omit [DecidableEq ι] in
theorem Shows.outside (hs : Shows ch id address m s p) (move : Outside ch s s') :
    Shows ch id address m s' p := by
  have hreach := hs.reachable.step (.outside move)
  cases move with
  | donate token amount =>
      refine ⟨hreach, hs.known, hs.bond, hs.window, hs.bps, hs.collector, hs.finalized,
        hs.claim, fun i => ?_, fun i => ?_⟩
      · simpa [State.collected] using hs.refunded i
      · simpa [State.slashed] using hs.slashed i
  | force amount =>
      refine ⟨hreach, hs.known, hs.bond, hs.window, hs.bps, hs.collector, hs.finalized,
        hs.claim, fun i => ?_, fun i => ?_⟩
      · simpa [State.collected] using hs.refunded i
      · simpa [State.slashed] using hs.slashed i
  | others eth bal sameEth sameBal =>
      exact ⟨hreach, hs.known, hs.bond, hs.window, hs.bps, hs.collector, hs.finalized,
        hs.claim, hs.refunded, hs.slashed⟩

omit [DecidableEq ι] in
/-- The position after an outcome, read off its entries. -/
theorem Shows.write (hs : Shows ch id address m s p) (hid : o.id = id)
    (hreach : Reachable ch (o.write s eth tokens))
    (hsender : o.request.sender = (s.bridgeRequests id).sender)
    (hfinalized : o.request.finalized = p'.finalized) (hclaim : Holds address m o.claim p'.claim)
    (hrefunded : ∀ i, p.refunded i + Tally.total (LogEntry.sentFor id (address i)) o.entries =
      p'.refunded i + if s.slashCollector = address i then
        Tally.total (LogEntry.slashFor id) o.entries else 0)
    (hslashed : ∀ i, p.slashed i + Tally.total (LogEntry.slashedFrom id (address i)) o.entries =
      p'.slashed i) : Shows ch id address m (o.write s eth tokens) p' := by
  subst hid
  have hrequest : (o.write s eth tokens).bridgeRequests o.id = o.request :=
    Function.update_self ..
  have hentry : (o.write s eth tokens).requestClaim o.id = o.claim := Function.update_self ..
  have hlog : (o.write s eth tokens).log = s.log ++ o.entries := rfl
  have hcollector : (o.write s eth tokens).slashCollector = s.slashCollector := rfl
  refine ⟨hreach, ?_, hs.bond, hs.window, hs.bps, hs.collector, ?_, ?_, fun i => ?_, fun i => ?_⟩
  · rw [hrequest, hsender]
    exact hs.known
  · rw [hrequest]
    exact hfinalized
  · rw [hentry]
    exact hclaim
  · have hold := hs.refunded i
    have hnew := hrefunded i
    unfold State.collected at hold ⊢
    rw [hlog, hcollector, Tally.total_append, Tally.total_append]
    by_cases hpaid : s.slashCollector = address i
    · rw [if_pos hpaid] at hold hnew ⊢
      omega
    · rw [if_neg hpaid] at hold hnew ⊢
      omega
  · have hold := hs.slashed i
    unfold State.slashed at hold ⊢
    rw [hlog, Tally.total_append, hold]
    exact hslashed i

/-! ## Operations -/

/-- The contract has what a settlement of the request pays. -/
def Backed (ch : Chain) (id : Nat) (s : State) : Prop :=
  (s.bridgeRequests id).amount + s.requestFeeEscrow id < 2 ^ 256 ∧
    (ch.exact (s.bridgeRequests id).token = true →
      (s.bridgeRequests id).amount + s.requestFeeEscrow id ≤
        s.bal (s.bridgeRequests id).token ch.self)

/-- The transaction makes an operation of the machine: its caller is
authorised, and what it pays for is funded. -/
def Makes (ch : Chain) (id : Nat) (address : ι → Address) (t : Tx ch.self) (s : State) :
    Bonded.Op ι → Prop
  | .claim i => t.fn = .claimBridge id ∧ t.sender = address i ∧ t.value = s.minSolverBond ∧
      s.authorizedNodes t.sender = true ∧ t.value ≤ s.eth t.sender
  | .release => t.fn = .releaseExpiredClaim id ∧ t.value = 0
  | .settle => t.fn.settles = some id ∧ t.value = 0 ∧ t.sender = s.relayer ∧ Backed ch id s

/-- It does not come at the deadline of a claim, which the contract counts as
past it already, nor when a new deadline would overflow. -/
def Clear (id : Nat) (m : Bonded.Terms) (s : State) : Bonded.Op ι → Prop
  | .claim _ => (s.bridgeRequests id).finalized = false →
      ((s.requestClaim id).solver = 0 ∨ (s.requestClaim id).deadline < s.now →
        s.now + m.window < 2 ^ 64) ∧
      ((s.requestClaim id).solver ≠ 0 → s.now ≠ (s.requestClaim id).deadline)
  | .release => (s.requestClaim id).solver ≠ 0 → s.now ≠ (s.requestClaim id).deadline
  | .settle => True

theorem runs_of_funded (tokens : Address × Address → Nat) (hreach : Reachable ch s)
    (hfn : t.fn.claims = some id)
    (ho : outcome ch t s = some o) (hfunds : t.value ≤ s.eth t.sender)
    (htokens : Ledger.run o.tokens s.tokens = some tokens) : ∃ eth,
      runs ch t (entry ch t s) = some (o.write s eth tokens) ∧
        Reachable ch (o.write s eth tokens) := by
  have hshape := shape_outcome hfn ho
  have hbonds := hreach.valid.two_bonds (i := id) (j := id + 1) (by omega)
  have hcovered : ∀ a, Ledger.out a o.eth ≤ s.eth a := by
    intro a
    have hout := hshape.eth a
    by_cases ha : ch.self = a
    · subst ha
      rw [if_neg t.sender_ne_contract, if_pos rfl] at hout
      omega
    · rw [if_neg ha] at hout
      by_cases hb : t.sender = a
      · subst hb
        rw [if_pos rfl] at hout
        omega
      · rw [if_neg hb] at hout
        omega
  obtain ⟨eth, heth⟩ := Ledger.run_of_covered hcovered
  have hruns := runs_of_outcome hreach.valid.unlocked hfn ho (apply_write heth htokens)
  exact ⟨eth, hruns, hreach.step (.tx t (Reentrancy.exec_of_accepting _ hruns))⟩

omit [DecidableEq ι] in
/-- The tokens of a settlement can be moved. -/
theorem runs_tokenMoves (h : Backed ch id s) (recipient : Address) : ∃ tokens,
    Ledger.run (tokenMoves ch (s.bridgeRequests id).token recipient
      ((s.bridgeRequests id).amount + s.requestFeeEscrow id)) s.tokens = some tokens := by
  apply Ledger.run_of_covered
  intro q
  unfold tokenMoves
  split
  · next hexact =>
    rw [Ledger.out_cons, Ledger.out_nil]
    split
    · next hq =>
      rw [← hq]
      exact h.2 hexact
    · exact Nat.zero_le _
  · exact Nat.zero_le _

/-- Both overloads settle; their last event is about no slash. -/
theorem outcome_settles (ch : Chain) {t : Tx ch.self} (s : State)
    (hfn : t.fn.settles = some id) : t.fn.claims = some id ∧ ∃ verified : Event,
      (∀ a, LogEntry.slashedFrom id a (.emit verified) = 0) ∧
      LogEntry.slashFor id (.emit verified) = 0 ∧
      outcome ch t s = settleOutcome ch t id verified s := by
  cases hf : t.fn with
  | verifyAndSettle i destTxHash evidenceHash =>
      rw [hf] at hfn
      cases hfn
      exact ⟨rfl, _, fun _ => rfl, rfl, by rw [outcome, hf]⟩
  | verifyAndSettleURL i destTxHash evidenceHash evidenceURL =>
      rw [hf] at hfn
      cases hfn
      exact ⟨rfl, _, fun _ => rfl, rfl, by rw [outcome, hf]⟩
  | _ =>
      rw [hf] at hfn
      cases hfn

/-- The log of a claim that expires. -/
def expiryActs (fn : Fn) (id : Nat) (collector solver : Address) (m : Bonded.Terms) :
    List LogEntry :=
  Book.slashActs fn id collector m.slash ++ Book.refundActs fn solver (m.bond - m.slash) ++
    [.emit (.BridgeClaimExpired id solver m.slash)]

section Expire

variable {fn : Fn} {collector : Address} {k : Bonded.Claim ι}

/-- Its solver is sent what the slash leaves of the bond. -/
theorem refunded_expiryActs (haddress : Function.Injective address)
    (hfn : fn.claims = some id) (hc : collector ≠ 0) (p : Bonded.Position ι) (j : ι) :
    p.refunded j + Tally.total (LogEntry.sentFor id (address j))
        (expiryActs fn id collector (address k.solver) m) =
      (p.expire m k).refunded j + if collector = address j then Tally.total
        (LogEntry.slashFor id) (expiryActs fn id collector (address k.solver) m) else 0 := by
  simp [expiryActs, sentFor_slashActs hfn hc, hfn, Bonded.Position.expire, Bonded.add,
    haddress.eq_iff]
  omega

theorem slashed_expiryActs (haddress : Function.Injective address) (p : Bonded.Position ι)
    (j : ι) :
    p.slashed j + Tally.total (LogEntry.slashedFrom id (address j))
        (expiryActs fn id collector (address k.solver) m) = (p.expire m k).slashed j := by
  simp [expiryActs, Bonded.Position.expire, Bonded.add, haddress.eq_iff]

end Expire

/-- What a claim that expires pays, and its log. -/
theorem expiry_eq (hbps : s.slashBps = m.slashBps) (hbond : (s.requestClaim id).bond = m.bond)
    (hproduct : m.bond * m.slashBps < 2 ^ 256) (hcollector : s.slashCollector ≠ ch.self)
    (hsolver : (s.requestClaim id).solver ≠ ch.self) :
    expiry ch t id s =
      some (slashPays s.slashCollector m.slash ++
          refundPays (s.requestClaim id).solver (m.bond - m.slash),
        expiryActs t.fn id s.slashCollector (s.requestClaim id).solver m) := by
  have hmul : checkedMul m.bond m.slashBps = some (m.bond * m.slashBps) := if_pos hproduct
  have hsub : checkedSub m.bond (m.bond * m.slashBps / 10000) =
      some (m.bond - m.bond * m.slashBps / 10000) := if_pos m.slash_le
  have hothers : ∀ q ∈ slashPays s.slashCollector m.slash ++
      refundPays (s.requestClaim id).solver (m.bond - m.slash), q.1 ≠ ch.self := by
    intro q hq
    unfold slashPays refundPays at hq
    rcases List.mem_append.mp hq with hq | hq
    · split at hq
      · rw [List.mem_singleton.mp hq]
        exact hcollector
      · cases hq
    · split at hq
      · rw [List.mem_singleton.mp hq]
        exact hsolver
      · cases hq
  unfold expiry
  rw [hbond, hbps, hmul]
  simp only []
  rw [hsub]
  exact if_pos hothers

/-- The claim that a solver registers with the bond of the machine. -/
theorem registered_eq (ch : Chain) {t : Tx ch.self} (id : Nat)
    (hbond : s.minSolverBond = m.bond) (hwindow : s.claimWindow = m.window)
    (hvalue : t.value = s.minSolverBond) (hroom : s.now + m.window < 2 ^ 64)
    (pays : List (Address × Nat)) (acts : List LogEntry) :
    ∃ o, registered ch t id pays acts s = some o ∧ o.id = id ∧
      o.request = s.bridgeRequests id ∧ o.claim.solver = t.sender ∧
      o.claim.deadline = s.now + m.window ∧ o.claim.bond = m.bond ∧ o.tokens = [] ∧
      o.entries = .received t.fn t.value :: acts ++
        [.allowed (s.bridgeRequests id).encryptedSolanaDestination t.sender,
          .emit (.BridgeClaimed id t.sender t.value (s.now + m.window))] := by
  have hadd : checkedAdd s.now m.window = some (s.now + m.window) := if_pos (by omega)
  have hdeadline : uint64 (s.now + m.window) = s.now + m.window := Nat.mod_eq_of_lt hroom
  unfold registered
  rw [if_neg (by omega), hwindow, hadd]
  simp only [hdeadline]
  exact ⟨_, rfl, rfl, rfl, rfl, rfl, hvalue.trans hbond, rfl, rfl⟩

/-- The settlement that goes through. -/
theorem settled_eq (verified : Event) (hvalue : t.value = 0) (hrelayer : t.sender = s.relayer)
    (hknown : (s.bridgeRequests id).sender ≠ 0)
    (hopen : ¬ (s.bridgeRequests id).finalized = true)
    (hheld : (s.requestClaim id).solver ≠ 0) (hlate : ¬ s.now > (s.requestClaim id).deadline)
    (hbacked : Backed ch id s) (hother : (s.requestClaim id).solver ≠ ch.self) :
    ∃ o, settleOutcome ch t id verified s = some o ∧ o.id = id ∧
      o.request = { s.bridgeRequests id with finalized := true } ∧ o.claim = Claim.empty ∧
      o.tokens = tokenMoves ch (s.bridgeRequests id).token (s.requestClaim id).solver
        ((s.bridgeRequests id).amount + s.requestFeeEscrow id) ∧
      o.entries =
        [.called t.fn (.safeTransfer (s.bridgeRequests id).token (s.requestClaim id).solver
            ((s.bridgeRequests id).amount + s.requestFeeEscrow id)),
          .emit (.BridgePaidToSolver id (s.requestClaim id).solver (s.bridgeRequests id).token
            ((s.bridgeRequests id).amount + s.requestFeeEscrow id)),
          .called t.fn (.send (s.requestClaim id).solver (s.requestClaim id).bond),
          .emit (.SolverBondRefunded id (s.requestClaim id).solver (s.requestClaim id).bond),
          .emit verified] := by
  have hadd : checkedAdd (s.bridgeRequests id).amount (s.requestFeeEscrow id) =
      some ((s.bridgeRequests id).amount + s.requestFeeEscrow id) := if_pos hbacked.1
  unfold settleOutcome
  rw [if_neg (not_not_intro hvalue), if_neg (not_not_intro hrelayer), if_neg hknown,
    if_neg hopen, if_neg hheld, if_neg hlate, hadd]
  exact ⟨_, if_neg hother, rfl, rfl, rfl, rfl, rfl⟩

omit [DecidableEq ι] in
/-- What a claim that goes through shows, after the payments for the old one. -/
theorem simulates_registered (hs : Shows ch id address m s p) {i : ι}
    (hclaims : t.fn.claims = some id) (hsender : t.sender = address i)
    (hvalue : t.value = s.minSolverBond) (hfunds : t.value ≤ s.eth t.sender)
    (hroom : s.now + m.window < 2 ^ 64) {q : Bonded.Position ι}
    {pays : List (Address × Nat)} {acts : List LogEntry} (hq : q.finalized = p.finalized)
    (hout : outcome ch t s = registered ch t id pays acts s)
    (hrefunded : ∀ j, p.refunded j + Tally.total (LogEntry.sentFor id (address j)) acts =
      q.refunded j + if s.slashCollector = address j then
        Tally.total (LogEntry.slashFor id) acts else 0)
    (hslashed : ∀ j, p.slashed j + Tally.total (LogEntry.slashedFrom id (address j)) acts =
      q.slashed j) :
    Option.Rel (Shows ch id address m) (runs ch t (entry ch t s))
      (some (q.take m s.now i)) := by
  obtain ⟨o, ho, hid, hrequest, hsolver, hdeadline, hbond, htokens, hentries⟩ :=
    registered_eq ch id hs.bond hs.window hvalue hroom pays acts
  obtain ⟨eth, hruns, hreach⟩ := runs_of_funded s.tokens hs.reachable hclaims
    (hout.trans ho) hfunds (by rw [htokens]; rfl)
  rw [hruns]
  refine .some (hs.write hid hreach (by rw [hrequest]) ?_ ?_ (fun j => ?_) fun j => ?_)
  · rw [hrequest]
    exact hs.finalized.trans hq.symm
  · exact ⟨hsolver.trans hsender, hdeadline, hbond⟩
  · rw [hentries]
    simpa [Bonded.Position.take] using hrefunded j
  · rw [hentries]
    simpa [Bonded.Position.take] using hslashed j

section Simulates

variable (haddress : Function.Injective address) (hne : ∀ i, address i ≠ 0)
  (hproduct : m.bond * m.slashBps < 2 ^ 256)

include haddress hne hproduct

/-- A release ends the claims that are overdue. -/
theorem simulates_release (hs : Shows ch id address m s p) (hfn : t.fn = .releaseExpiredClaim id)
    (hvalue : t.value = 0)
    (hoff : (s.requestClaim id).solver ≠ 0 → s.now ≠ (s.requestClaim id).deadline) :
    Option.Rel (Shows ch id address m) (runs ch t (entry ch t s))
      (Bonded.step m s.now .release p) := by
  have hclaims : t.fn.claims = some id := by rw [hfn]; rfl
  have hclaim := hs.claim
  have hout : outcome ch t s = releaseOutcome ch t id s := by rw [outcome, hfn]
  cases hp : p.claim with
  | none =>
      rw [hp] at hclaim
      have hsolver : (s.requestClaim id).solver = 0 := congrArg Claim.solver hclaim
      have hrefused : outcome ch t s = none := by
        rw [hout, releaseOutcome, if_neg (not_not_intro hvalue), if_pos hsolver]
      rw [accepting_eq hs.reachable.valid.unlocked hclaims, hrefused]
      simp only [Bonded.step, hp]
      exact .none
  | some k =>
      rw [hp] at hclaim
      obtain ⟨hsolver, hdeadline, hbond⟩ := hclaim
      have hheld : (s.requestClaim id).solver ≠ 0 := by
        rw [hsolver]
        exact hne k.solver
      obtain ⟨_, _, hother⟩ := hs.reachable.valid.lifecycle.held id hheld
      by_cases hdue : k.deadline < s.now
      · have hexpiry := expiry_eq (t := t) hs.bps hbond hproduct hs.collector.2 hother
        have ho : ∃ o, outcome ch t s = some o ∧ o.id = id ∧ o.request = s.bridgeRequests id ∧
            o.claim = Claim.empty ∧ o.tokens = [] ∧
            o.entries = expiryActs t.fn id s.slashCollector (address k.solver) m := by
          rw [hout, releaseOutcome, if_neg (not_not_intro hvalue), if_neg hheld,
            if_neg (by omega), hexpiry, hsolver]
          exact ⟨_, rfl, rfl, rfl, rfl, rfl, rfl⟩
        obtain ⟨o, ho, hid, hrequest, hempty, htokens, hentries⟩ := ho
        obtain ⟨eth, hruns, hreach⟩ := runs_of_funded s.tokens hs.reachable hclaims ho
          (by omega) (by rw [htokens]; rfl)
        rw [hruns]
        simp only [Bonded.step, hp, if_pos hdue]
        refine .some (hs.write hid hreach (by rw [hrequest]) ?_ ?_ (fun i => ?_) fun i => ?_)
        · rw [hrequest]
          exact hs.finalized
        · exact hempty
        · rw [hentries]
          exact refunded_expiryActs haddress hclaims hs.collector.1 p i
        · rw [hentries]
          exact slashed_expiryActs haddress p i
      · have hrefused : outcome ch t s = none := by
          have hearly : s.now < (s.requestClaim id).deadline := by
            have := hoff hheld
            omega
          rw [hout, releaseOutcome, if_neg (not_not_intro hvalue), if_neg hheld,
            if_pos hearly]
        rw [accepting_eq hs.reachable.valid.unlocked hclaims, hrefused]
        simp only [Bonded.step, hp, if_neg hdue]
        exact .none

/-- A claim takes what is free, and takes over what is overdue. -/
theorem simulates_claim (hs : Shows ch id address m s p) {i : ι} (hfn : t.fn = .claimBridge id)
    (hsender : t.sender = address i) (hvalue : t.value = s.minSolverBond)
    (hauth : s.authorizedNodes t.sender = true) (hfunds : t.value ≤ s.eth t.sender)
    (hclear : Clear id m s (.claim i)) :
    Option.Rel (Shows ch id address m) (runs ch t (entry ch t s))
      (Bonded.step m s.now (.claim i) p) := by
  have hclaims : t.fn.claims = some id := by rw [hfn]; rfl
  have hclaim := hs.claim
  have hfinalized := hs.finalized
  have hauth' : ¬ s.authorizedNodes t.sender = false := by simp [hauth]
  have hout : outcome ch t s =
      if (s.bridgeRequests id).finalized then none
      else if (s.requestClaim id).solver ≠ 0 ∧ s.now < (s.requestClaim id).deadline then none
      else if (s.requestClaim id).solver ≠ 0 then
        (expiry ch t id s).bind fun e => registered ch t id e.1 e.2 s
      else registered ch t id [] [] s := by
    rw [outcome, hfn]
    simp only [claimOutcome, if_neg hauth', if_neg hs.known]
  cases hfinal : p.finalized with
  | true =>
      rw [hfinal] at hfinalized
      have hrefused : outcome ch t s = none := by rw [hout, if_pos hfinalized]
      rw [accepting_eq hs.reachable.valid.unlocked hclaims, hrefused]
      simp only [Bonded.step, hfinal, if_true]
      exact .none
  | false =>
      rw [hfinal] at hfinalized
      have hopen : ¬ (s.bridgeRequests id).finalized = true := by simp [hfinalized]
      rw [if_neg hopen] at hout
      obtain ⟨hroom, hoff⟩ := hclear hfinalized
      cases hp : p.claim with
      | none =>
          rw [hp] at hclaim
          have hsolver : (s.requestClaim id).solver = 0 := congrArg Claim.solver hclaim
          rw [if_neg fun h => h.1 hsolver, if_neg (not_not_intro hsolver)] at hout
          simp only [Bonded.step, hfinal, hp, Bool.false_eq_true, if_false]
          exact simulates_registered hs hclaims hsender hvalue hfunds (hroom (.inl hsolver)) rfl
            hout (by simp) (by simp)
      | some k =>
          rw [hp] at hclaim
          obtain ⟨hsolver, hdeadline, hbond⟩ := hclaim
          have hheld : (s.requestClaim id).solver ≠ 0 := by
            rw [hsolver]
            exact hne k.solver
          by_cases hdue : k.deadline < s.now
          · obtain ⟨_, _, hother⟩ := hs.reachable.valid.lifecycle.held id hheld
            have hexpiry := expiry_eq (t := t) hs.bps hbond hproduct hs.collector.2 hother
            rw [if_neg (by omega), if_pos hheld, hexpiry, Option.bind_some, hsolver] at hout
            simp only [Bonded.step, hfinal, hp, Bool.false_eq_true, if_false, if_pos hdue]
            exact simulates_registered hs hclaims hsender hvalue hfunds
              (hroom (.inr (by omega))) (q := p.expire m k) rfl hout
              (refunded_expiryActs haddress hclaims hs.collector.1 p)
              (slashed_expiryActs haddress p)
          · have hearly : s.now < (s.requestClaim id).deadline := by
              have := hoff hheld
              omega
            rw [if_pos ⟨hheld, hearly⟩] at hout
            rw [accepting_eq hs.reachable.valid.unlocked hclaims, hout]
            simp only [Bonded.step, hfinal, hp, Bool.false_eq_true, if_false, if_neg hdue]
            exact .none

omit hproduct in
/-- A settlement closes the request while its claim is not overdue. -/
theorem simulates_settle (hs : Shows ch id address m s p) (hfn : t.fn.settles = some id)
    (hvalue : t.value = 0) (hrelayer : t.sender = s.relayer) (hbacked : Backed ch id s) :
    Option.Rel (Shows ch id address m) (runs ch t (entry ch t s))
      (Bonded.step m s.now .settle p) := by
  have hclaim := hs.claim
  have hfinalized := hs.finalized
  obtain ⟨hclaims, verified, hsent, hslash, hout⟩ := outcome_settles ch s hfn
  have hstart : settleOutcome ch t id verified s =
      if (s.bridgeRequests id).finalized then none
      else if (s.requestClaim id).solver = 0 then none
      else if s.now > (s.requestClaim id).deadline then none
      else settleOutcome ch t id verified s := by
    unfold settleOutcome
    rw [if_neg (not_not_intro hvalue), if_neg (not_not_intro hrelayer), if_neg hs.known]
    split
    · rfl
    · split
      · rfl
      · split <;> rfl
  rw [hstart] at hout
  cases hfinal : p.finalized with
  | true =>
      rw [hfinal] at hfinalized
      rw [if_pos hfinalized] at hout
      rw [accepting_eq hs.reachable.valid.unlocked hclaims, hout]
      simp only [Bonded.step, hfinal, if_true]
      exact .none
  | false =>
      rw [hfinal] at hfinalized
      have hopen : ¬ (s.bridgeRequests id).finalized = true := by simp [hfinalized]
      rw [if_neg hopen] at hout
      cases hp : p.claim with
      | none =>
          rw [hp] at hclaim
          have hsolver : (s.requestClaim id).solver = 0 := congrArg Claim.solver hclaim
          rw [if_pos hsolver] at hout
          rw [accepting_eq hs.reachable.valid.unlocked hclaims, hout]
          simp only [Bonded.step, hfinal, hp, Bool.false_eq_true, if_false]
          exact .none
      | some k =>
          rw [hp] at hclaim
          obtain ⟨hsolver, hdeadline, hbond⟩ := hclaim
          have hheld : (s.requestClaim id).solver ≠ 0 := by
            rw [hsolver]
            exact hne k.solver
          rw [if_neg hheld] at hout
          by_cases hlate : s.now ≤ k.deadline
          · rw [if_neg (by omega)] at hout
            obtain ⟨_, _, hother⟩ := hs.reachable.valid.lifecycle.held id hheld
            obtain ⟨o, ho, hid, hrequest, hempty, htokens, hentries⟩ := settled_eq verified hvalue
              hrelayer hs.known hopen hheld (by omega) hbacked hother
            obtain ⟨tokens, hmoved⟩ := runs_tokenMoves hbacked (s.requestClaim id).solver
            obtain ⟨eth, hruns, hreach⟩ := runs_of_funded tokens hs.reachable hclaims
              (hout.trans ho) (by omega) (by rw [htokens]; exact hmoved)
            rw [hruns]
            simp only [Bonded.step, hfinal, hp, Bool.false_eq_true, if_false, if_pos hlate]
            refine .some (hs.write hid hreach (by rw [hrequest]) ?_ hempty (fun i => ?_)
              fun i => ?_)
            · rw [hrequest]
              rfl
            · rw [hentries, hsolver, hbond]
              simp [hclaims, Bonded.Position.settle, Bonded.add, haddress.eq_iff]
              exact fun _ => hslash
            · rw [hentries]
              simp [Bonded.Position.settle]
              exact hsent (address i)
          · rw [if_pos (by omega)] at hout
            rw [accepting_eq hs.reachable.valid.unlocked hclaims, hout]
            simp only [Bonded.step, hfinal, hp, Bool.false_eq_true, if_false, if_neg hlate]
            exact .none

/-- **The contract refines the machine**, among callees that accept: it
answers every operation as the machine does, unless it comes at the very
deadline of a claim. -/
theorem simulates {op : Bonded.Op ι} (hs : Shows ch id address m s p)
    (hmakes : Makes ch id address t s op) (hclear : Clear id m s op) :
    Option.Rel (Shows ch id address m) (runs ch t (entry ch t s))
      (Bonded.step m s.now op p) := by
  cases op with
  | claim i =>
      obtain ⟨hfn, hsender, hvalue, hauth, hfunds⟩ := hmakes
      exact simulates_claim haddress hne hproduct hs hfn hsender hvalue hauth hfunds hclear
  | release =>
      obtain ⟨hfn, hvalue⟩ := hmakes
      exact simulates_release haddress hne hproduct hs hfn hvalue hclear
  | settle =>
      obtain ⟨hfn, hvalue, hrelayer, hbacked⟩ := hmakes
      exact simulates_settle haddress hne hs hfn hvalue hrelayer hbacked

end Simulates

end LunarysBridge.Evm
