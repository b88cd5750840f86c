/-
LunarysBridge.Evm.Outcome — claims, settlements and releases in closed form,
among callees that accept and do nothing else.

Each of these calls reads and writes the entries of one request, and moves
value. `Outcome` says what it writes and moves, and `outcome` computes it
from the parameters and the entries alone. `accepting_eq` connects it with
the code: the accepting run of the call is `Outcome.apply`.
-/
import LunarysBridge.Lib.Ledger
import LunarysBridge.Evm.Escrow
import LunarysBridge.Evm.NewRelayer

namespace LunarysBridge.Evm

open Reentrancy (accepting)

/-! ## Outcomes -/

/-- What a call does: the entries it leaves for its request, the ETH and
tokens it moves, in order, and what it adds to the log. Tokens are balances
of pairs: a token and its holder. -/
structure Outcome where
  id : Nat
  request : BridgeRequest
  claim : Claim
  feeEscrow : Nat
  eth : List (Ledger.Transfer Address)
  tokens : List (Ledger.Transfer (Address × Address))
  entries : List LogEntry

/-- The token balances as one ledger. -/
def State.tokens (s : State) : Address × Address → Nat := fun p => s.bal p.1 p.2

def Outcome.apply (o : Outcome) (s : State) : Option State :=
  (Ledger.run o.eth s.eth).bind fun eth =>
    (Ledger.run o.tokens s.tokens).map fun tokens =>
      { s with
        bridgeRequests := Function.update s.bridgeRequests o.id o.request
        requestClaim := Function.update s.requestClaim o.id o.claim
        requestFeeEscrow := Function.update s.requestFeeEscrow o.id o.feeEscrow
        eth := eth
        bal := fun token holder => tokens (token, holder)
        log := s.log ++ o.entries }

variable (ch : Chain) (t : Tx ch.self)

/-- ETH that the contract sends to the addresses. -/
def sends (pays : List (Address × Nat)) : List (Ledger.Transfer Address) :=
  pays.map fun p => ⟨ch.self, p.1, p.2⟩

/-- Who gets the slash. -/
def slashPays (collector : Address) (slash : Nat) : List (Address × Nat) :=
  if 0 < slash ∧ collector ≠ 0 then [(collector, slash)] else []

/-- Who gets what is left of a bond. -/
def refundPays (solver : Address) (leftover : Nat) : List (Address × Nat) :=
  if 0 < leftover then [(solver, leftover)] else []

/-- The tokens a settlement moves, if the token is exact. -/
def tokenMoves (token recipient : Address) (amount : Nat) :
    List (Ledger.Transfer (Address × Address)) :=
  if ch.exact token then [⟨(token, ch.self), (token, recipient), amount⟩] else []

/-- The end of an expired claim: who is paid, and the log. `none` when the
arithmetic fails or the contract would have to pay itself. -/
def expiry (id : Nat) (s : State) : Option (List (Address × Nat) × List LogEntry) :=
  match checkedMul (s.requestClaim id).bond s.slashBps with
  | none => none
  | some product =>
      let slash := product / 10000
      match checkedSub (s.requestClaim id).bond slash with
      | none => none
      | some leftover =>
          let pays := slashPays s.slashCollector slash ++
            refundPays (s.requestClaim id).solver leftover
          if ∀ p ∈ pays, p.1 ≠ ch.self then
            some (pays, Book.slashActs t.fn id s.slashCollector slash ++
              Book.refundActs t.fn (s.requestClaim id).solver leftover ++
                [.emit (.BridgeClaimExpired id (s.requestClaim id).solver slash)])
          else none

/-- A new claim, after the payments of `pays`. -/
def registered (id : Nat) (pays : List (Address × Nat)) (acts : List LogEntry) (s : State) :
    Option Outcome :=
  if t.value < s.minSolverBond then none
  else
    match checkedAdd s.now s.claimWindow with
    | none => none
    | some deadline => some
        { id := id
          request := s.bridgeRequests id
          claim :=
            { solver := t.sender
              claimedAt := uint64 s.now
              deadline := uint64 deadline
              bond := t.value }
          feeEscrow := s.requestFeeEscrow id
          eth := ⟨t.sender, ch.self, t.value⟩ :: sends ch pays
          tokens := []
          entries := .received t.fn t.value :: acts ++
            [.allowed (s.bridgeRequests id).encryptedSolanaDestination t.sender,
              .emit (.BridgeClaimed id t.sender t.value (uint64 deadline))] }

def claimOutcome (id : Nat) (s : State) : Option Outcome :=
  if s.authorizedNodes t.sender = false then none
  else if (s.bridgeRequests id).sender = 0 then none
  else if (s.bridgeRequests id).finalized then none
  else if (s.requestClaim id).solver ≠ 0 ∧ s.now < (s.requestClaim id).deadline then none
  else if (s.requestClaim id).solver ≠ 0 then
    (expiry ch t id s).bind fun e => registered ch t id e.1 e.2 s
  else registered ch t id [] [] s

def releaseOutcome (id : Nat) (s : State) : Option Outcome :=
  if t.value ≠ 0 then none
  else if (s.requestClaim id).solver = 0 then none
  else if s.now < (s.requestClaim id).deadline then none
  else
    (expiry ch t id s).map fun e =>
      { id := id
        request := s.bridgeRequests id
        claim := Claim.empty
        feeEscrow := s.requestFeeEscrow id
        eth := sends ch e.1
        tokens := []
        entries := e.2 }

/-- `verified` is the event of the overload. -/
def settleOutcome (id : Nat) (verified : Event) (s : State) : Option Outcome :=
  if t.value ≠ 0 then none
  else if t.sender ≠ s.relayer then none
  else if (s.bridgeRequests id).sender = 0 then none
  else if (s.bridgeRequests id).finalized then none
  else if (s.requestClaim id).solver = 0 then none
  else if s.now > (s.requestClaim id).deadline then none
  else
    match checkedAdd (s.bridgeRequests id).amount (s.requestFeeEscrow id) with
    | none => none
    | some payout =>
        if (s.requestClaim id).solver = ch.self then none
        else some
          { id := id
            request := { s.bridgeRequests id with finalized := true }
            claim := Claim.empty
            feeEscrow := 0
            eth := sends ch [((s.requestClaim id).solver, (s.requestClaim id).bond)]
            tokens := tokenMoves ch (s.bridgeRequests id).token (s.requestClaim id).solver
              payout
            entries :=
              [.called t.fn (.safeTransfer (s.bridgeRequests id).token
                  (s.requestClaim id).solver payout),
                .emit (.BridgePaidToSolver id (s.requestClaim id).solver
                  (s.bridgeRequests id).token payout),
                .called t.fn (.send (s.requestClaim id).solver (s.requestClaim id).bond),
                .emit (.SolverBondRefunded id (s.requestClaim id).solver
                  (s.requestClaim id).bond),
                .emit verified] }

/-- The outcome of a call, if it is a claim, a release or a settlement that
goes through. -/
def outcome (s : State) : Option Outcome :=
  match t.fn with
  | .claimBridge id => claimOutcome ch t id s
  | .releaseExpiredClaim id => releaseOutcome ch t id s
  | .verifyAndSettle id destTxHash evidenceHash =>
      settleOutcome ch t id (.BridgeVerified id t.sender destTxHash evidenceHash) s
  | .verifyAndSettleURL id destTxHash evidenceHash evidenceURL =>
      settleOutcome ch t id
        (.BridgeVerifiedURL id t.sender destTxHash evidenceHash evidenceURL) s
  | _ => none

/-- The request a call claims, releases or settles. -/
def Fn.claims : Fn → Option Nat
  | .claimBridge id => some id
  | .releaseExpiredClaim id => some id
  | .verifyAndSettle id _ _ => some id
  | .verifyAndSettleURL id _ _ _ => some id
  | _ => none

/-! ## The accepting run of the code -/

section Code

variable {ch} {t} {s : State}

/-- The accepting run of a piece of code. -/
abbrev runs (ch : Chain) (t : Tx ch.self) (p : Code) : Option State :=
  accepting (contract ch) t p

@[simp] theorem runs_done (s : State) : runs ch t (.done s) = some s := rfl

@[simp] theorem runs_revert (e : Revert) : runs ch t (.revert e) = none := rfl

@[simp] theorem runs_leave (s : State) :
    runs ch t (leave s) = some { s with entered := false } := rfl

theorem runs_call (x : ExtCall) (s : State) (k : Bool → State → Code) :
    runs ch t (.call x s k) =
      match deliver ch t x s with
      | some s₁ => runs ch t (k true s₁)
      | none => runs ch t (k false s) := by
  have hdeliver : (contract ch).deliver t x s = deliver ch t x s := rfl
  rw [runs, accepting, hdeliver]
  cases deliver ch t x s with
  | none => rfl
  | some s₁ => rfl

theorem deliver_send (recipient : Address) (value : Nat) (s : State) :
    deliver ch t (.send recipient value) s =
      if recipient = ch.self then none
      else (Ledger.apply ⟨ch.self, recipient, value⟩ s.eth).map fun eth =>
        { s with eth := eth, log := s.log ++ [.called t.fn (.send recipient value)] } := by
  unfold deliver Ledger.apply
  by_cases hself : recipient = ch.self
  · simp [hself]
  · by_cases hle : value ≤ s.eth ch.self
    · simp only [ne_eq, hself, not_false_eq_true, hle, and_self, if_true, if_false,
        Option.map_some]
      rfl
    · simp [hself, hle]

/-- One payment of ETH that must succeed. -/
theorem runs_send (recipient : Address) (value : Nat) (e : Revert) (rest : State → Code)
    (s : State) :
    runs ch t (.call (.send recipient value) s fun ok s => if ok then rest s else .revert e) =
      if recipient = ch.self then none
      else (Ledger.run (sends ch [(recipient, value)]) s.eth).bind fun eth =>
        runs ch t (rest
          { s with eth := eth, log := s.log ++ [.called t.fn (.send recipient value)] }) := by
  rw [runs_call, deliver_send]
  by_cases hself : recipient = ch.self
  · simp [hself]
  · simp only [if_neg hself, sends, List.map_cons, List.map_nil, Ledger.run]
    cases Ledger.apply ⟨ch.self, recipient, value⟩ s.eth with
    | none => rfl
    | some eth => rfl

theorem runs_refundLeftover (id leftover : Nat) (rest : State → Code) (s : State) :
    runs ch t (refundLeftover id leftover rest s) =
      if ∀ p ∈ refundPays (s.requestClaim id).solver leftover, p.1 ≠ ch.self then
        (Ledger.run (sends ch (refundPays (s.requestClaim id).solver leftover)) s.eth).bind
          fun eth => runs ch t (rest
            { s with
              eth := eth
              log := s.log ++ Book.refundActs t.fn (s.requestClaim id).solver leftover })
      else none := by
  unfold refundLeftover refundPays Book.refundActs
  by_cases hpos : 0 < leftover
  · rw [if_pos hpos, if_pos hpos, if_pos hpos, runs_send]
    by_cases hself : (s.requestClaim id).solver = ch.self
    · simp [hself]
    · simp [hself]
  · simp [hpos, sends, Ledger.run]

theorem runs_slashTransfer (id slash : Nat) (rest : State → Code) (s : State) :
    runs ch t (slashTransfer id slash rest s) =
      if ∀ p ∈ slashPays s.slashCollector slash, p.1 ≠ ch.self then
        (Ledger.run (sends ch (slashPays s.slashCollector slash)) s.eth).bind
          fun eth => runs ch t (rest
            { s with
              eth := eth
              log := s.log ++ Book.slashActs t.fn id s.slashCollector slash })
      else none := by
  unfold slashTransfer slashPays Book.slashActs
  by_cases hpos : 0 < slash ∧ s.slashCollector ≠ 0
  · rw [if_pos hpos, if_pos hpos, if_pos hpos, runs_send]
    by_cases hself : s.slashCollector = ch.self
    · simp [hself]
    · simp [hself]
  · rw [if_neg hpos, if_neg hpos, if_neg hpos]
    by_cases hnone : s.slashCollector = 0
    · rw [if_pos hnone, if_pos hnone]
      simp [sends, Ledger.run, State.note]
    · rw [if_neg hnone, if_neg hnone]
      simp [sends, Ledger.run]

theorem sends_append (xs ys : List (Address × Nat)) :
    sends ch (xs ++ ys) = sends ch xs ++ sends ch ys :=
  List.map_append

theorem runs_resetExpired (id slash : Nat) (rest : State → Code) (s : State) :
    runs ch t (resetExpired id slash rest s) = runs ch t (rest
      { s with
        requestClaim := Function.update s.requestClaim id
          { s.requestClaim id with solver := 0, claimedAt := 0, deadline := 0 }
        log := s.log ++ [.emit (.BridgeClaimExpired id (s.requestClaim id).solver slash)] }) :=
  rfl

/-- The end of an expired claim pays and resets, and goes on. -/
theorem runs_endExpiredClaim (id : Nat) (rest : State → Code) (s : State) :
    runs ch t (endExpiredClaim id rest s) =
      (expiry ch t id s).bind fun e => (Ledger.run (sends ch e.1) s.eth).bind fun eth =>
        runs ch t (rest
          { s with
            requestClaim := Function.update s.requestClaim id Claim.empty
            eth := eth
            log := s.log ++ e.2 }) := by
  unfold endExpiredClaim expiry
  cases checkedMul (s.requestClaim id).bond s.slashBps with
  | none => rfl
  | some product =>
      simp only []
      cases checkedSub (s.requestClaim id).bond (product / 10000) with
      | none => rfl
      | some leftover =>
          simp only [runs_slashTransfer, runs_refundLeftover, runs_resetExpired,
            State.setClaim, Function.update_self, Function.update_idem]
          have hsplit : (∀ p ∈ slashPays s.slashCollector (product / 10000) ++
              refundPays (s.requestClaim id).solver leftover, p.1 ≠ ch.self) ↔
              (∀ p ∈ slashPays s.slashCollector (product / 10000), p.1 ≠ ch.self) ∧
                ∀ p ∈ refundPays (s.requestClaim id).solver leftover, p.1 ≠ ch.self :=
            List.forall_mem_append
          by_cases hslash : ∀ p ∈ slashPays s.slashCollector (product / 10000), p.1 ≠ ch.self
          · rw [if_pos hslash]
            by_cases hrefund : ∀ p ∈ refundPays (s.requestClaim id).solver leftover,
                p.1 ≠ ch.self
            · rw [if_pos (hsplit.mpr ⟨hslash, hrefund⟩), Option.bind_some, sends_append,
                Ledger.run_append, Option.bind_assoc]
              congr 1
              funext eth
              rw [if_pos hrefund]
              congr 1
              funext eth'
              simp [Claim.empty]
            · rw [if_neg fun h => hrefund (hsplit.mp h).2, Option.bind_none]
              cases Ledger.run (sends ch (slashPays s.slashCollector (product / 10000))) s.eth
                with
              | none => rfl
              | some eth => exact if_neg hrefund
          · rw [if_neg hslash, if_neg fun h => hslash (hsplit.mp h).1]
            rfl

/-! ### The calls -/

theorem runs_nonReentrant (body : State → Code) (hu : s.entered = false) :
    runs ch t (nonReentrant body s) = runs ch t (body { s with entered := true }) := by
  unfold nonReentrant
  rw [hu]
  rfl

/-- What `registerClaim` leaves of a call that has been paid for. -/
theorem runs_registerClaim (id : Nat) (pays : List (Address × Nat)) (acts : List LogEntry)
    (claims : Nat → Claim) (eth : Address → Nat) (log : List LogEntry) (s : State) :
    runs ch t (registerClaim ch t id
        { s with requestClaim := claims, entered := true, eth := eth, log := log }) =
      (registered ch t id pays acts s).map fun o =>
        { s with
          requestClaim := Function.update claims id o.claim
          entered := false
          eth := eth
          log := log ++ [.allowed (s.bridgeRequests id).encryptedSolanaDestination t.sender,
            .emit (.BridgeClaimed id t.sender t.value o.claim.deadline)] } := by
  unfold registerClaim registered
  simp only []
  by_cases hbond : t.value < s.minSolverBond
  · rw [if_pos hbond, if_pos hbond]
    rfl
  · rw [if_neg hbond, if_neg hbond]
    cases checkedAdd s.now s.claimWindow with
    | none => rfl
    | some deadline => simp [State.setClaim, State.allow, State.emit, State.note]

theorem registered_eth {id : Nat} {pays : List (Address × Nat)} {acts : List LogEntry}
    {o : Outcome} (h : registered ch t id pays acts s = some o) :
    o.eth = ⟨t.sender, ch.self, t.value⟩ :: sends ch pays := by
  unfold registered at h
  split at h
  · cases h
  · split at h
    · cases h
    · cases h
      rfl

/-- A claim that goes through registers, after the end of an expired claim
if there is one. -/
theorem claimOutcome_registered {id : Nat} {o : Outcome} (h : claimOutcome ch t id s = some o) :
    registered ch t id [] [] s = some o ∨
      ∃ e, expiry ch t id s = some e ∧ registered ch t id e.1 e.2 s = some o := by
  unfold claimOutcome at h
  obtain ⟨_, h⟩ := Option.ite_none_left_eq_some.mp h
  obtain ⟨_, h⟩ := Option.ite_none_left_eq_some.mp h
  obtain ⟨_, h⟩ := Option.ite_none_left_eq_some.mp h
  obtain ⟨_, h⟩ := Option.ite_none_left_eq_some.mp h
  split at h
  · exact .inr (Option.bind_eq_some_iff.mp h)
  · exact .inl h

theorem claimOutcome_eth {id : Nat} {o : Outcome} (h : claimOutcome ch t id s = some o) :
    ∃ xs, o.eth = ⟨t.sender, ch.self, t.value⟩ :: xs := by
  rcases claimOutcome_registered h with hreg | ⟨e, _, hreg⟩
  · exact ⟨_, registered_eth hreg⟩
  · exact ⟨_, registered_eth hreg⟩

theorem registered_fields {id : Nat} {pays : List (Address × Nat)} {acts : List LogEntry}
    {o : Outcome} (h : registered ch t id pays acts s = some o) :
    o.id = id ∧ o.request = s.bridgeRequests id ∧ o.feeEscrow = s.requestFeeEscrow id ∧
      o.tokens = [] ∧ o.entries = .received t.fn t.value :: acts ++
        [.allowed (s.bridgeRequests id).encryptedSolanaDestination t.sender,
          .emit (.BridgeClaimed id t.sender t.value o.claim.deadline)] := by
  unfold registered at h
  split at h
  · cases h
  · split at h
    · cases h
    · cases h
      exact ⟨rfl, rfl, rfl, rfl, rfl⟩

/-- The outcome of a claim, applied. -/
theorem apply_registered {id : Nat} {pays : List (Address × Nat)} {acts : List LogEntry}
    {o : Outcome} (h : registered ch t id pays acts s = some o)
    (hfund : t.value ≤ s.eth t.sender) :
    o.apply s = (Ledger.run (sends ch pays)
      (Ledger.move s.eth t.sender ch.self t.value)).map fun eth =>
        { s with
          requestClaim := Function.update s.requestClaim id o.claim
          eth := eth
          log := s.log ++ .received t.fn t.value :: acts ++
            [.allowed (s.bridgeRequests id).encryptedSolanaDestination t.sender,
              .emit (.BridgeClaimed id t.sender t.value o.claim.deadline)] } := by
  obtain ⟨hid, hreq, hescrow, htokens, hentries⟩ := registered_fields h
  have hfund' : Ledger.apply ⟨t.sender, ch.self, t.value⟩ s.eth =
      some (Ledger.move s.eth t.sender ch.self t.value) := if_pos hfund
  unfold Outcome.apply
  rw [registered_eth h, Ledger.run, hfund', Option.bind_some, htokens, hid, hreq, hescrow,
    hentries, Function.update_eq_self, Function.update_eq_self]
  cases Ledger.run (sends ch pays) (Ledger.move s.eth t.sender ch.self t.value) with
  | none => rfl
  | some eth => simp [Ledger.run, State.tokens]

/-- The new claim is registered after the payments. -/
theorem runs_registered (id : Nat) (pays : List (Address × Nat)) (acts : List LogEntry)
    (claims : Nat → Claim) (hfund : t.value ≤ s.eth t.sender)
    (hclaims : ∀ c, Function.update claims id c = Function.update s.requestClaim id c)
    (hu : s.entered = false) :
    ((Ledger.run (sends ch pays) (Ledger.move s.eth t.sender ch.self t.value)).bind fun eth =>
      runs ch t (registerClaim ch t id
        { s with
          requestClaim := claims
          entered := true
          eth := eth
          log := s.log ++ [.received t.fn t.value] ++ acts })) =
      (registered ch t id pays acts s).bind fun o => o.apply s := by
  cases hreg : registered ch t id pays acts s with
  | none =>
      cases Ledger.run (sends ch pays) (Ledger.move s.eth t.sender ch.self t.value) with
      | none => rfl
      | some eth =>
          rw [Option.bind_some, runs_registerClaim id pays acts, hreg]
          rfl
  | some o =>
      rw [Option.bind_some, apply_registered hreg hfund]
      cases Ledger.run (sends ch pays) (Ledger.move s.eth t.sender ch.self t.value) with
      | none => rfl
      | some eth =>
          rw [Option.bind_some, runs_registerClaim id pays acts, hreg]
          simp [hclaims, hu]

theorem runs_registered_nil {id : Nat} (hfund : t.value ≤ s.eth t.sender)
    (hu : s.entered = false) :
    runs ch t (registerClaim ch t id
      { s with
        entered := true
        eth := Ledger.move s.eth t.sender ch.self t.value
        log := s.log ++ [.received t.fn t.value] }) =
      (registered ch t id [] [] s).bind fun o => o.apply s := by
  rw [← runs_registered id [] [] s.requestClaim hfund (fun _ => rfl) hu]
  simp [sends, Ledger.run]

/-- A check of the code is the same check of its outcome. -/
theorem runs_require {c : Prop} [Decidable c] {e : Revert} {p : Code} {x : Option Outcome}
    {f : Outcome → Option State} (h : ¬ c → runs ch t p = x.bind f) :
    runs ch t (if c then .revert e else p) = (if c then none else x).bind f := by
  by_cases hc : c
  · rw [if_pos hc, if_pos hc]
    rfl
  · rw [if_neg hc, if_neg hc]
    exact h hc

theorem runs_claimBridge {id : Nat} (hu : s.entered = false) :
    runs ch t (payable ch t (claimBridge ch t id) s) =
      (claimOutcome ch t id s).bind fun o => o.apply s := by
  unfold payable
  by_cases hfund : s.eth t.sender < t.value
  · rw [if_pos hfund]
    cases ho : claimOutcome ch t id s with
    | none => rfl
    | some o =>
        obtain ⟨xs, heth⟩ := claimOutcome_eth ho
        have hrefused : Ledger.apply ⟨t.sender, ch.self, t.value⟩ s.eth = none :=
          if_neg (by simpa using hfund)
        show none = (Ledger.run o.eth s.eth).bind _
        rw [heth, Ledger.run, hrefused]
        rfl
  · rw [if_neg hfund]
    have hle : t.value ≤ s.eth t.sender := Nat.le_of_not_lt hfund
    have hu₁ : ((s.moveEth t.sender ch.self t.value).note (.received t.fn t.value)).entered =
        false := hu
    unfold claimBridge
    rw [runs_nonReentrant _ hu₁]
    have hpaid : ({ (s.moveEth t.sender ch.self t.value).note (.received t.fn t.value) with
        entered := true } : State) =
        { s with
          entered := true
          eth := Ledger.move s.eth t.sender ch.self t.value
          log := s.log ++ [.received t.fn t.value] } := rfl
    rw [hpaid]
    generalize hs' : ({ s with
      entered := true
      eth := Ledger.move s.eth t.sender ch.self t.value
      log := s.log ++ [.received t.fn t.value] } : State) = s'
    have hout : claimOutcome ch t id s = claimOutcome ch t id s' := by
      rw [← hs']
      rfl
    have hreg : ∀ pays acts, registered ch t id pays acts s = registered ch t id pays acts s' := by
      rw [← hs']
      exact fun _ _ => rfl
    rw [hout]
    unfold onlyAuthorizedNode claimOutcome
    refine runs_require fun _ => ?_
    beta_reduce
    refine runs_require fun _ => ?_
    refine runs_require fun _ => ?_
    refine runs_require fun hactive => ?_
    by_cases hheld : (s'.requestClaim id).solver ≠ 0
    · have hdue : (s'.requestClaim id).solver ≠ 0 ∧ s'.now ≥ (s'.requestClaim id).deadline :=
        ⟨hheld, Nat.le_of_not_lt fun hlt => hactive ⟨hheld, hlt⟩⟩
      rw [if_pos hdue, if_pos hheld, runs_endExpiredClaim, Option.bind_assoc]
      congr 1
      funext e
      rw [← hreg, ← hs']
      exact runs_registered id e.1 e.2 (Function.update s.requestClaim id Claim.empty) hle
        (fun c => Function.update_idem ..) hu
    · rw [if_neg fun h => hheld h.1, if_neg hheld, ← hreg, ← hs']
      exact runs_registered_nil hle hu

theorem runs_releaseExpiredClaim {id : Nat} (hu : s.entered = false) :
    runs ch t (nonPayable ch t (releaseExpiredClaim id) s) =
      (releaseOutcome ch t id s).bind fun o => o.apply s := by
  unfold nonPayable releaseOutcome
  refine runs_require fun _ => ?_
  unfold releaseExpiredClaim
  rw [runs_nonReentrant _ hu]
  generalize hs' : ({ s with entered := true } : State) = s'
  have hclaims : s.requestClaim = s'.requestClaim := by rw [← hs']
  have hnow : s.now = s'.now := by rw [← hs']
  have hexpiry : expiry ch t id s = expiry ch t id s' := by
    rw [← hs']
    rfl
  rw [hclaims, hnow, hexpiry]
  refine runs_require fun _ => ?_
  refine runs_require fun _ => ?_
  rw [runs_endExpiredClaim, Option.bind_map]
  congr 1
  funext e
  subst hs'
  simp [Outcome.apply, Ledger.run, State.tokens, hu, Option.map_eq_bind]

/-- A transfer of tokens, on the one ledger of all tokens. -/
theorem tokens_moveToken (token sender recipient : Address) (amount : Nat) (s : State) :
    (s.moveToken token sender recipient amount).tokens =
      Ledger.move s.tokens (token, sender) (token, recipient) amount := by
  funext p
  obtain ⟨token', holder⟩ := p
  simp only [State.tokens, State.moveToken, move, Ledger.move, Function.update_apply,
    Prod.mk.injEq]
  by_cases ht : token' = token
  · subst ht
    simp only [true_and, if_true, Function.update_apply]
  · simp only [ht, false_and, if_false]

theorem deliver_safeTransfer (token recipient : Address) (amount : Nat) (s : State) :
    deliver ch t (.safeTransfer token recipient amount) s =
      (Ledger.run (tokenMoves ch token recipient amount) s.tokens).map fun tokens =>
          { s with
            bal := fun token holder => tokens (token, holder)
            log := s.log ++ [.called t.fn (.safeTransfer token recipient amount)] } := by
  unfold deliver tokenMoves
  by_cases hexact : ch.exact token = true
  · simp only [if_pos hexact, Ledger.run, Ledger.apply]
    by_cases hle : amount ≤ s.bal token ch.self
    · have hle' : amount ≤ s.tokens (token, ch.self) := hle
      rw [if_pos hle, if_pos hle', ← tokens_moveToken]
      rfl
    · have hle' : ¬ amount ≤ s.tokens (token, ch.self) := hle
      rw [if_neg hle, if_neg hle']
      rfl
  · simp only [if_neg hexact, Ledger.run]
    rfl

/-- One transfer of tokens that must succeed. -/
theorem runs_safeTransfer (token recipient : Address) (amount : Nat) (e : State → Revert)
    (rest : State → Code) (s : State) :
    runs ch t (.call (.safeTransfer token recipient amount) s fun ok s =>
        if ok = false then .revert (e s) else rest s) =
      (Ledger.run (tokenMoves ch token recipient amount) s.tokens).bind fun tokens =>
        runs ch t (rest
          { s with
            bal := fun token holder => tokens (token, holder)
            log := s.log ++ [.called t.fn (.safeTransfer token recipient amount)] }) := by
  rw [runs_call, deliver_safeTransfer]
  cases Ledger.run (tokenMoves ch token recipient amount) s.tokens with
  | none => rfl
  | some tokens => rfl

theorem runs_refundBond (id : Nat) (rest : State → Code) (s : State) :
    runs ch t (refundBond id rest s) =
      if (s.requestClaim id).solver = ch.self then none
      else (Ledger.run (sends ch [((s.requestClaim id).solver, (s.requestClaim id).bond)])
        s.eth).bind fun eth => runs ch t (rest
          { s with
            requestClaim := Function.update s.requestClaim id Claim.empty
            eth := eth
            log := s.log ++
              [.called t.fn (.send (s.requestClaim id).solver (s.requestClaim id).bond),
                .emit (.SolverBondRefunded id (s.requestClaim id).solver
                  (s.requestClaim id).bond)] }) := by
  unfold refundBond
  simp only [runs_call, deliver_send, State.setClaim, Function.update_self]
  by_cases hself : (s.requestClaim id).solver = ch.self
  · simp [hself]
  · simp only [if_neg hself, sends, List.map_cons, List.map_nil, Ledger.run]
    cases Ledger.apply ⟨ch.self, (s.requestClaim id).solver, (s.requestClaim id).bond⟩ s.eth with
    | none => rfl
    | some eth =>
        simp [State.emit, State.note, Claim.empty]

/-- Both overloads of the settlement, up to their event. -/
theorem runs_settle {id : Nat} {verified : Event} (hu : s.entered = false) :
    runs ch t (nonPayable ch t (onlyRelayer ch t <| nonReentrant <|
        verifyAndPay id fun s => leave (s.emit verified)) s) =
      (settleOutcome ch t id verified s).bind fun o => o.apply s := by
  unfold nonPayable settleOutcome
  refine runs_require fun _ => ?_
  unfold onlyRelayer
  refine runs_require fun _ => ?_
  rw [runs_nonReentrant _ hu]
  generalize hs' : ({ s with entered := true } : State) = s'
  have hrequests : s.bridgeRequests = s'.bridgeRequests := by rw [← hs']
  have hclaims : s.requestClaim = s'.requestClaim := by rw [← hs']
  have hescrow : s.requestFeeEscrow = s'.requestFeeEscrow := by rw [← hs']
  have hnow : s.now = s'.now := by rw [← hs']
  rw [hrequests, hclaims, hescrow, hnow]
  unfold verifyAndPay
  refine runs_require fun _ => ?_
  refine runs_require fun _ => ?_
  refine runs_require fun _ => ?_
  refine runs_require fun _ => ?_
  simp only [State.setFeeEscrow]
  cases checkedAdd (s'.bridgeRequests id).amount (s'.requestFeeEscrow id) with
  | none => rfl
  | some payout =>
      simp only [runs_safeTransfer, runs_refundBond, State.setRequest, Function.update_self]
      subst hs'
      show (Ledger.run (tokenMoves ch (s.bridgeRequests id).token (s.requestClaim id).solver
        payout) s.tokens).bind _ = _
      by_cases hself : (s.requestClaim id).solver = ch.self
      · rw [if_pos hself]
        cases Ledger.run (tokenMoves ch (s.bridgeRequests id).token (s.requestClaim id).solver
            payout) s.tokens with
        | none => rfl
        | some tokens => exact if_pos hself
      · rw [if_neg hself, Option.bind_some]
        unfold Outcome.apply
        cases Ledger.run (tokenMoves ch (s.bridgeRequests id).token (s.requestClaim id).solver
            payout) s.tokens with
        | none =>
            simp only [Option.map_none, Option.bind_none]
            exact (Option.bind_fun_none _).symm
        | some tokens =>
            refine (if_neg hself).trans ?_
            show (Ledger.run (sends ch [((s.requestClaim id).solver, (s.requestClaim id).bond)])
              s.eth).bind _ = _
            cases Ledger.run (sends ch [((s.requestClaim id).solver, (s.requestClaim id).bond)])
                s.eth with
            | none => rfl
            | some eth =>
                simp only [Option.bind_some, Option.map_some, runs_leave, State.emit, State.note,
                  List.append_assoc, List.cons_append, List.nil_append, hu]

/-- **The closed form.** The accepting run of a claim, a release or a
settlement is its outcome, applied. -/
theorem accepting_eq {id : Nat} (hu : s.entered = false) (hfn : t.fn.claims = some id) :
    runs ch t (entry ch t s) = (outcome ch t s).bind fun o => o.apply s := by
  unfold entry outcome
  cases h : t.fn with
  | claimBridge id => exact runs_claimBridge hu
  | releaseExpiredClaim id => exact runs_releaseExpiredClaim hu
  | verifyAndSettle id destTxHash evidenceHash => exact runs_settle hu
  | verifyAndSettleURL id destTxHash evidenceHash evidenceURL => exact runs_settle hu
  | _ =>
      rw [h] at hfn
      cases hfn

end Code

end LunarysBridge.Evm
