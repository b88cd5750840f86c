/-
LunarysBridge.Solana.Settlement — what a request is paid, and how often.

The log keeps the gross amount of each deposit and the payout of each
settlement. In every reachable state a request has exactly one deposit on
record, and one payout of the same amount if it is finalized, none if not.
Net amount and fee add up to the gross amount whatever the config says, so
the sum a settlement computes is always in range.
-/
import LunarysBridge.Solana.Lifecycle
import LunarysBridge.Solana.Solvency

namespace LunarysBridge.Solana

variable {rt : Runtime} {s s' s₁ : State} {addr : Pubkey}

/-! ## The record -/

/-- The gross amounts deposited for a request. -/
def deposits (addr : Pubkey) (log : List Entry) : List UInt64 :=
  log.filterMap fun
    | .locked request _ amount => if request = addr then some amount else none
    | _ => none

/-- What settlements paid out for a request. -/
def payouts (addr : Pubkey) (log : List Entry) : List UInt64 :=
  log.filterMap fun
    | .paid request _ _ payout => if request = addr then some payout else none
    | _ => none

@[simp] theorem deposits_append (addr : Pubkey) (l l' : List Entry) :
    deposits addr (l ++ l') = deposits addr l ++ deposits addr l' :=
  List.filterMap_append

@[simp] theorem payouts_append (addr : Pubkey) (l l' : List Entry) :
    payouts addr (l ++ l') = payouts addr l ++ payouts addr l' :=
  List.filterMap_append

@[simp] theorem deposits_events (addr : Pubkey) (events : List Event) :
    deposits addr (events.map .emit) = [] := by
  simp [deposits]

@[simp] theorem payouts_events (addr : Pubkey) (events : List Event) :
    payouts addr (events.map .emit) = [] := by
  simp [payouts]

/-- What a step adds to the record of a request. -/
structure Recorded (addr : Pubkey) (s s' : State) (gross paid : List UInt64) : Prop where
  deposits : deposits addr s'.log = deposits addr s.log ++ gross
  payouts : payouts addr s'.log = payouts addr s.log ++ paid

theorem Untouched.recorded (h : Untouched s s') (addr : Pubkey) :
    Recorded addr s s' [] [] := by
  obtain ⟨events, hlog⟩ := h.log
  constructor
  · rw [hlog, deposits_append, deposits_events]
  · rw [hlog, payouts_append, payouts_events]

theorem Deposited.recorded {payer : Signer} {mint : Pubkey} {storedId : UInt64}
    {args : DepositArgs} (h : Deposited payer mint storedId args s s') (addr : Pubkey) :
    Recorded addr s s'
      (if Pubkey.request payer.key args.requestId = addr then [args.amount] else []) [] := by
  obtain ⟨cfg, _, _, hlog⟩ := h.stored
  constructor
  · rw [hlog, deposits_append]
    by_cases ha : Pubkey.request payer.key args.requestId = addr
    · simp [deposits, ha]
    · simp [deposits, ha]
  · rw [hlog, payouts_append]
    simp [payouts]

theorem recorded_settle {acc : VerifyAndSettleSpl} {requestId : UInt64}
    {destTxHash evidenceHash : Bytes32} {evidenceUrl : String} {req : BridgeRequest}
    (h : verifyAndSettleSpl rt acc requestId destTxHash evidenceHash evidenceUrl s =
      .ok s')
    (hl : s.requests.lookup (.request acc.requestOwner requestId) = some req)
    (addr : Pubkey) : ∃ payout, checkedAdd req.amountLocked req.feeLocked = some payout ∧
      Recorded addr s s' []
        (if Pubkey.request acc.requestOwner requestId = addr then [payout] else []) := by
  obtain ⟨cfg, r, payout, s₁, _, _, hlookup, _, _, _, _, _, _, hpayout, _, _, _, hlog, _⟩ :=
    verifyAndSettleSpl_ok h
  rw [hl] at hlookup
  cases hlookup
  have hlt := payout.toNat_lt
  have hsum : req.amountLocked + req.feeLocked = payout := by
    apply UInt64.toNat.inj
    rw [UInt64.toNat_add, Nat.mod_eq_of_lt (by omega), hpayout]
  refine ⟨payout, ?_, ?_, ?_⟩
  · rw [checkedAdd, if_pos (by omega), hsum]
  · rw [hlog, deposits_append]
    simp [deposits]
  · rw [hlog, payouts_append]
    by_cases ha : Pubkey.request acc.requestOwner requestId = addr
    · simp [payouts, ha]
    · simp [payouts, ha]

/-- What an instruction adds to the record of a request: nothing, or its
deposit, or the payout of its settlement. -/
inductive Record (addr : Pubkey) (i : Instruction) (s s' : State) : Prop where
  | nothing (same : Recorded addr s s' [] []) (other : i.settles ≠ some addr)
  | deposit {payer : Signer} {mint : Pubkey} {storedId : UInt64} {args : DepositArgs}
      (deposited : Deposited payer mint storedId args s s')
      (self : Pubkey.request payer.key args.requestId = addr)
      (gross : Recorded addr s s' [args.amount] [])
  | settle {req : BridgeRequest} {payout : UInt64} (settles : i.settles = some addr)
      (found : s.requests.lookup addr = some req) (isOpen : req.finalized = false)
      (sum : checkedAdd req.amountLocked req.feeLocked = some payout)
      (after : s'.requests.lookup addr = some req.settled)
      (paid : Recorded addr s s' [] [payout])

theorem Deposited.record {payer : Signer} {mint : Pubkey} {storedId : UInt64}
    {args : DepositArgs} {i : Instruction} (h : Deposited payer mint storedId args s s')
    (hi : i.settles ≠ some addr) : Record addr i s s' := by
  by_cases ha : Pubkey.request payer.key args.requestId = addr
  · have hrec := h.recorded addr
    rw [if_pos ha] at hrec
    exact .deposit h ha hrec
  · have hrec := h.recorded addr
    rw [if_neg ha] at hrec
    exact .nothing hrec hi

theorem ne_settles {i : Instruction} (h : i.settles = none) : i.settles ≠ some addr := by
  rw [h]
  exact (Option.some_ne_none addr).symm

theorem exec_record {i : Instruction} (h : exec rt i s = .ok s') (addr : Pubkey) :
    Record addr i s s' := by
  cases i with
  | initiateBridge acc args => exact (initiateBridge_ok h).1.record (ne_settles rfl)
  | initiateBridgeSol acc args => exact (initiateBridgeSol_ok h).1.record (ne_settles rfl)
  | claimBridge acc offset requestId solverX25519 =>
      obtain ⟨cfg, r, deadline, _, _, _, _, _, _, _, hlog, _⟩ := claimBridge_ok h
      refine .nothing ⟨?_, ?_⟩ (ne_settles rfl)
      · rw [hlog, deposits_append]
        simp [deposits]
      · rw [hlog, payouts_append]
        simp [payouts]
  | releaseExpiredClaim acc requestId =>
      obtain ⟨cfg, r, slash, refund, _, _, _, _, _, _, _, _, _, _, hlog, _⟩ :=
        releaseExpiredClaim_ok h
      refine .nothing ⟨?_, ?_⟩ (ne_settles rfl)
      · rw [hlog, deposits_append]
        simp [deposits]
      · rw [hlog, payouts_append]
        simp [payouts]
  | verifyAndSettleSpl acc requestId destTxHash evidenceHash evidenceUrl =>
      obtain ⟨cfg, req, payout, s₁, _, _, hlookup, _, _, hopen, _, _, _, _, _, _, hreq, _⟩ :=
        verifyAndSettleSpl_ok h
      obtain ⟨payout, hsum, hrec⟩ := recorded_settle h hlookup addr
      by_cases ha : Pubkey.request acc.requestOwner requestId = addr
      · subst ha
        rw [if_pos rfl] at hrec
        have hafter : s'.requests.lookup (.request acc.requestOwner requestId) =
            some req.settled := by
          rw [hreq, AList.lookup_insert]
          rfl
        exact .settle rfl hlookup hopen hsum hafter hrec
      · rw [if_neg ha] at hrec
        exact .nothing hrec fun hs => ha (Option.some.inj hs)
  | deliverTokens acc amount => exact .nothing ((deliverTokens_ok h).recorded addr) (ne_settles rfl)
  | deliverTokensSol acc amount =>
      exact .nothing ((deliverTokensSol_ok h).recorded addr) (ne_settles rfl)
  | initConfig payer args => exact .nothing ((initConfig_ok h).1.recorded addr) (ne_settles rfl)
  | setConfig authority c => exact .nothing ((setConfig_ok h).1.recorded addr) (ne_settles rfl)

/-! ## The invariant -/

/-- What the record says of each request. -/
structure State.Recorded (s : State) : Prop where
  absent : ∀ addr, s.requests.lookup addr = none →
    deposits addr s.log = [] ∧ payouts addr s.log = []
  present : ∀ addr req, s.requests.lookup addr = some req →
    ∃ gross, deposits addr s.log = [gross] ∧
      checkedAdd req.amountLocked req.feeLocked = some gross ∧
      payouts addr s.log = if req.finalized then [gross] else []

theorem recorded_initial (h : Initial s) : s.Recorded where
  absent := by
    intro addr _
    rw [h.log]
    exact ⟨rfl, rfl⟩
  present := by
    intro addr req hl
    rw [h.requests] at hl
    simp at hl

/-- The net amount and the fee of a deposit add up to its gross amount. -/
theorem checkedAdd_stored (args : DepositArgs) (storedId : UInt64) (payer mint : Pubkey)
    (cfg : BridgeConfig) (now : Int) :
    checkedAdd (args.stored storedId payer mint cfg now).amountLocked
      (args.stored storedId payer mint cfg now).feeLocked = some args.amount := by
  have hsum := amountNet_add_feeU64 cfg args.amount
  have hlt := args.amount.toNat_lt
  show checkedAdd (amountNet cfg args.amount) (feeU64 cfg args.amount) = some args.amount
  rw [checkedAdd, if_pos (by omega), Option.some.injEq]
  apply UInt64.toNat.inj
  rw [UInt64.toNat_add, Nat.mod_eq_of_lt (by omega), hsum]

theorem Change.amounts {now : Int} {i : Instruction} {req req' : BridgeRequest}
    (h : Change addr now i req req') :
    checkedAdd req'.amountLocked req'.feeLocked =
      checkedAdd req.amountLocked req.feeLocked := by
  have hs := h.sameDeposit
  rw [hs.amountLocked, hs.feeLocked]

/-- Only a settlement finalizes a request. -/
theorem Change.finalized {now : Int} {i : Instruction} {req req' : BridgeRequest}
    (h : Change addr now i req req') (hi : i.settles ≠ some addr) :
    req'.finalized = req.finalized := by
  cases h with
  | kept => rfl
  | claim => rfl
  | release => rfl
  | settle _ _ settles => exact absurd settles hi

theorem recorded_exec {i : Instruction} (hr : s.Recorded) (h : exec rt i s = .ok s') :
    s'.Recorded where
  absent := by
    intro addr hl'
    cases hl : s.requests.lookup addr with
    | none =>
        obtain ⟨hd, hp⟩ := hr.absent addr hl
        cases exec_record h addr with
        | nothing same => simp [same.deposits, same.payouts, hd, hp]
        | deposit deposited self gross =>
            obtain ⟨cfg, _, hreq, _⟩ := deposited.stored
            rw [hreq, self, AList.lookup_insert] at hl'
            cases hl'
        | settle settles found =>
            rw [hl] at found
            cases found
    | some req =>
        obtain ⟨req', hl'', _⟩ := exec_change h hl
        rw [hl'] at hl''
        cases hl''
  present := by
    intro addr req' hl'
    cases hl : s.requests.lookup addr with
    | none =>
        obtain ⟨hd, hp⟩ := hr.absent addr hl
        obtain ⟨payer, mint, storedId, args, cfg, hdep, haddr, hreq⟩ := exec_created h hl hl'
        have hrec := hdep.recorded addr
        rw [if_pos haddr.symm] at hrec
        refine ⟨args.amount, by rw [hrec.deposits, hd]; rfl, ?_, ?_⟩
        · rw [hreq]
          exact checkedAdd_stored args storedId payer.key mint cfg s.now
        · rw [hrec.payouts, hp, hreq]
          rfl
    | some req =>
        obtain ⟨gross, hd, hsum, hp⟩ := hr.present addr req hl
        obtain ⟨req'', hl'', hchange⟩ := exec_change h hl
        rw [hl'] at hl''
        cases hl''
        rw [hchange.amounts]
        cases exec_record h addr with
        | nothing same other =>
            rw [same.deposits, same.payouts, hchange.finalized other, hd, hp]
            exact ⟨gross, rfl, hsum, List.append_nil _⟩
        | deposit deposited self _ =>
            rw [← self, deposited.fresh] at hl
            cases hl
        | settle settles found isOpen sum after paid =>
            rw [hl] at found
            cases found
            rw [hl'] at after
            cases after
            rw [hsum] at sum
            cases sum
            rw [paid.deposits, paid.payouts, hd, hp, isOpen]
            exact ⟨gross, rfl, hsum, rfl⟩

theorem Reachable.recorded (h : Reachable rt s) : s.Recorded := by
  refine h.invariant (fun s hinit => recorded_initial hinit)
    (fun i s s' hr hexec => recorded_exec hr hexec) ?_
  intro s s' hr hout
  constructor
  · intro addr hl
    rw [hout.requests] at hl
    rw [hout.log]
    exact hr.absent addr hl
  · intro addr req hl
    rw [hout.requests] at hl
    rw [hout.log]
    exact hr.present addr req hl

/-! ## What a settlement moves -/

/-- The amount on a token account. -/
def State.amountAt (s : State) (addr : Pubkey) : Nat :=
  match s.tokens.lookup addr with
  | some a => a.amount.toNat
  | none => 0

theorem amountAt_of_lookup {a : TokenAccount} (h : s.tokens.lookup addr = some a) :
    s.amountAt addr = a.amount.toNat := by
  unfold State.amountAt
  rw [h]

theorem TokensKept.amountAt (h : TokensKept s s') {a : TokenAccount}
    (ha : s.tokens.lookup addr = some a) : s'.amountAt addr = s.amountAt addr := by
  obtain ⟨a', ha', _, _, hamount⟩ := h addr a ha
  rw [amountAt_of_lookup ha', amountAt_of_lookup ha, hamount]

/-- Tokens go from one account to the other, and no other changes. -/
structure Paid (source dest : Pubkey) (amount : UInt64) (s s' : State) : Prop where
  taken : s'.amountAt source + amount.toNat = s.amountAt source
  given : s'.amountAt dest = s.amountAt dest + amount.toNat
  others : ∀ addr a, s.tokens.lookup addr = some a → addr ≠ source → addr ≠ dest →
    s'.amountAt addr = s.amountAt addr

theorem Transferred.paid {source dest authority : Pubkey} {mint : Option Pubkey}
    {amount : UInt64} (h : Transferred source dest authority mint amount s s₁)
    (hk : TokensKept s₁ s') (hne : source ≠ dest) : Paid source dest amount s s' := by
  obtain ⟨a, b, ha, hb, _, _, _, hle, hcase⟩ := h.moved
  rcases hcase with ⟨heq, _⟩ | ⟨_, hlt, htokens⟩
  · exact absurd heq hne
  · have ha₁ : s₁.tokens.lookup source = some (a.debit amount hle) := by
      rw [htokens, AList.lookup_insert_ne hne, AList.lookup_insert]
    have hb₁ : s₁.tokens.lookup dest = some (b.credit amount hlt) := by
      rw [htokens, AList.lookup_insert]
    refine ⟨?_, ?_, ?_⟩
    · rw [hk.amountAt ha₁, amountAt_of_lookup ha₁, amountAt_of_lookup ha]
      show (a.amount - amount).toNat + amount.toNat = a.amount.toNat
      rw [UInt64.toNat_sub_of_le _ _ hle]
      have hle' := UInt64.le_iff_toNat_le.mp hle
      omega
    · rw [hk.amountAt hb₁, amountAt_of_lookup hb₁, amountAt_of_lookup hb]
      show (b.amount + amount).toNat = b.amount.toNat + amount.toNat
      rw [UInt64.toNat_add, Nat.mod_eq_of_lt hlt]
    · intro addr c hc hs hd
      have hc₁ : s₁.tokens.lookup addr = some c := by
        rw [htokens, AList.lookup_insert_ne hd, AList.lookup_insert_ne hs, hc]
      rw [hk.amountAt hc₁, amountAt_of_lookup hc₁, amountAt_of_lookup hc]

/-! ## Exactly once -/

/-- **Settled exactly once.** In every reachable state a request has one gross
amount on record, which its net amount and fee add up to, and that is what it
was paid if it is finalized; otherwise it was paid nothing. Each settlement
moves this amount, from an account of the sign PDA to one of the solver who
holds the claim, in time; and no other instruction adds to the payouts. -/
theorem settled_exactly_once (h : Reachable rt s) :
    (∀ addr req, s.requests.lookup addr = some req →
      ∃ gross, deposits addr s.log = [gross] ∧
        checkedAdd req.amountLocked req.feeLocked = some gross ∧
        payouts addr s.log = if req.finalized then [gross] else []) ∧
    (∀ acc requestId destTxHash evidenceHash evidenceUrl s',
      verifyAndSettleSpl rt acc requestId destTxHash evidenceHash evidenceUrl s = .ok s' →
      ∃ req gross a b,
        s.requests.lookup (.request acc.requestOwner requestId) = some req ∧
        req.finalized = false ∧ req.claimed = true ∧ s.now ≤ req.claimDeadline ∧
        deposits (.request acc.requestOwner requestId) s.log = [gross] ∧
        payouts (.request acc.requestOwner requestId) s'.log = [gross] ∧
        s.tokens.lookup acc.escrowToken = some a ∧ a.owner = .signPda ∧
        s.tokens.lookup acc.solverToken = some b ∧ b.owner = req.solver ∧
        Paid acc.escrowToken acc.solverToken gross s s') ∧
    (∀ i s' addr, exec rt i s = .ok s' → i.settles ≠ some addr →
      payouts addr s'.log = payouts addr s.log) := by
  have hrec := h.recorded
  refine ⟨hrec.present, ?_, ?_⟩
  · intro acc requestId destTxHash evidenceHash evidenceUrl s' hsettle
    obtain ⟨cfg, req, payout, s₁, _, _, hlookup, ⟨a, ha, _, howner⟩, ⟨b, hb, _, hsolver⟩,
      hopen, hclaimed, hintime, _, hpayout, ht, hk, _⟩ := verifyAndSettleSpl_ok hsettle
    obtain ⟨gross, hd, hsum, hp⟩ := hrec.present _ _ hlookup
    obtain ⟨paid, hpaid, hadds⟩ := recorded_settle hsettle hlookup
      (.request acc.requestOwner requestId)
    rw [hsum] at hpaid
    cases hpaid
    have heq : payout = gross := by
      apply UInt64.toNat.inj
      rw [hpayout, checkedAdd_some hsum]
    subst heq
    -- the solver is a signer, so the two accounts have different owners
    have hne : acc.escrowToken ≠ acc.solverToken := by
      intro haccounts
      rw [haccounts, hb] at ha
      cases ha
      obtain ⟨bytes, hwallet⟩ := (h.consistent _ _ hlookup).wallet
      rw [howner, hwallet] at hsolver
      cases hsolver
    refine ⟨req, payout, a, b, hlookup, hopen, hclaimed, hintime, hd, ?_, ha, howner, hb,
      hsolver, ht.paid hk hne⟩
    rw [hadds.payouts, if_pos rfl, hp, hopen]
    rfl
  · intro i s' addr hexec hi
    cases exec_record hexec addr with
    | nothing same => rw [same.payouts, List.append_nil]
    | deposit _ _ gross => rw [gross.payouts, List.append_nil]
    | settle settles => exact absurd settles hi

theorem settled_exactly_once_settled : ∃ s req gross, Reachable Sample.runtime s ∧
    s.requests.lookup Sample.request = some req ∧ req.finalized = true ∧
      payouts Sample.request s.log = [gross] := by
  have hrun : (runMoves Sample.runtime (fun _ _ => true) Sample.settledOnce
      Sample.initial).map
        (fun s => (s.requests.lookup Sample.request).map (·.finalized)) =
          some (some true) := by
    decide +kernel
  obtain ⟨s, hs, hreq⟩ := Option.map_eq_some_iff.mp hrun
  obtain ⟨req, hl, hfinal⟩ := Option.map_eq_some_iff.mp hreq
  have hreach := Sample.reachable_of_moves hs
  obtain ⟨gross, _, _, hp⟩ := (settled_exactly_once hreach).1 _ req hl
  exact ⟨s, req, gross, hreach, hl, hfinal, by rw [hp, if_pos hfinal]⟩

end LunarysBridge.Solana
