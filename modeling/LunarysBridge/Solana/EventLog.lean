/-
LunarysBridge.Solana.EventLog — what the events of the program tell of its
requests.

An account of a request is found by its owner and its id, but an event names
the id only. Where one owner uses an id the events with it tell the whole
request, in the words of `Lib/ClaimLog.lean`; a claim may be replaced and
ends with the payment without an event of its own. Once a second owner uses
the id, the events with it no longer fit any one request, and never will.
-/
import LunarysBridge.Lib.ClaimLog
import LunarysBridge.Solana.Initiated

namespace LunarysBridge.Solana

variable {rt : Runtime} {s s' : State} {owner : Pubkey} {id : UInt64} {req req' : BridgeRequest}

/-! ## Events about requests -/

abbrev Announcement := ClaimLog.Event Pubkey Pubkey Int

/-- The id an event names, and what it says. -/
def Event.announces : Event → Option (UInt64 × Announcement)
  | .BridgeInitiated requestId sender token amountAfterFee _ _ =>
      some (requestId, .initiated sender token amountAfterFee.toNat)
  | .BridgeClaimed requestId solver bond deadline =>
      some (requestId, .claimed solver bond.toNat deadline)
  | .BridgeClaimExpired requestId solver slashed =>
      some (requestId, .expired solver slashed.toNat)
  | .BridgePaidToSolver requestId solver tokenMint payout =>
      some (requestId, .paid solver tokenMint payout.toNat)
  | .BridgeVerifiedUrl requestId _ _ _ _ => some (requestId, .verified)
  | .IncomingBridgeDelivered _ _ _ => none

/-- What an entry says of this id. -/
def Entry.about (id : UInt64) : Entry → Option Announcement
  | .emit e =>
      match e.announces with
      | some (requestId, a) => if requestId = id then some a else none
      | none => none
  | _ => none

def State.announcements (s : State) (id : UInt64) : List Announcement :=
  s.log.filterMap (Entry.about id)

/-- What the account of a request holds of it: payer, mint and net amount,
whether it is paid, and its claim. -/
def BridgeRequest.standing (req : BridgeRequest) : ClaimLog.Standing Pubkey Pubkey Int :=
  .known
    { sender := req.payer
      token := req.tokenMint
      amount := req.amountLocked.toNat
      paid := req.finalized
      claim :=
        if req.claimed then some ⟨req.solver, req.bondLamports.toNat, req.claimDeadline⟩
        else none }

/-- The owner has a request with this id. -/
def State.Holds (s : State) (id : UInt64) (owner : Pubkey) : Prop :=
  ∃ req, s.requests.lookup (.request owner id) = some req

/-- What the events with one id tell. -/
structure State.Told (s : State) (id : UInt64) : Prop where
  unused : (∀ owner, ¬ s.Holds id owner) → s.announcements id = []
  single : ∀ owner req, s.requests.lookup (.request owner id) = some req →
    (∀ other, s.Holds id other → other = owner) →
    ClaimLog.replay false (s.announcements id) = some req.standing
  shared : ∀ owner other, s.Holds id owner → s.Holds id other → owner ≠ other →
    ClaimLog.replay false (s.announcements id) = none

theorem State.Told.announced (h : s.Told id) (howner : s.Holds id owner) :
    s.announcements id ≠ [] := by
  intro hnil
  have hreplay : ClaimLog.replay false (s.announcements id) = some .unknown := by
    rw [hnil]
    rfl
  obtain ⟨req, hreq⟩ := howner
  by_cases honly : ∀ other, s.Holds id other → other = owner
  · rw [h.single owner req hreq honly] at hreplay
    cases hreplay
  · push Not at honly
    obtain ⟨other, hother, hne⟩ := honly
    rw [h.shared other owner hother ⟨req, hreq⟩ hne] at hreplay
    cases hreplay

/-! ## What instructions announce -/

/-- These entries were logged: `l` about the id and nothing about others. -/
structure Announces (id : UInt64) (l : List Announcement) (s s' : State) : Prop where
  announced : s'.announcements id = s.announcements id ++ l
  others : ∀ i, i ≠ id → s'.announcements i = s.announcements i

theorem announcements_append {entries : List Entry} (h : s'.log = s.log ++ entries) (i : UInt64) :
    s'.announcements i = s.announcements i ++ entries.filterMap (Entry.about i) := by
  rw [State.announcements, h, List.filterMap_append]
  rfl

/-- Nothing happened to the requests with this id. -/
theorem State.Told.same (h : s.Told id)
    (hlookup : ∀ owner, s'.requests.lookup (.request owner id) =
      s.requests.lookup (.request owner id))
    (ha : s'.announcements id = s.announcements id) : s'.Told id := by
  have hholds : ∀ owner, s'.Holds id owner ↔ s.Holds id owner := by
    intro owner
    rw [State.Holds, State.Holds, hlookup owner]
  refine ⟨fun hnone => ?_, fun owner req hreq honly => ?_, fun o₁ o₂ h₁ h₂ hne => ?_⟩
  · rw [ha]
    exact h.unused fun owner howner => hnone owner ((hholds owner).mpr howner)
  · rw [ha]
    rw [hlookup] at hreq
    exact h.single owner req hreq fun o ho => honly o ((hholds o).mpr ho)
  · rw [ha]
    exact h.shared o₁ o₂ ((hholds o₁).mp h₁) ((hholds o₂).mp h₂) hne

/-- Of a request one account was rewritten, and that was announced. -/
theorem State.Told.rewritten {l : List Announcement} (h : ∀ i, s.Told i)
    (hfound : s.requests.lookup (.request owner id) = some req)
    (hreq : s'.requests = s.requests.insert (.request owner id) req')
    (ha : Announces id l s s')
    (hdue : ClaimLog.replayFrom false req.standing l = some req'.standing) (i : UInt64) :
    s'.Told i := by
  have hlookup : ∀ other j, ¬ (other = owner ∧ j = id) →
      s'.requests.lookup (.request other j) = s.requests.lookup (.request other j) := by
    intro other j hne
    rw [hreq, AList.lookup_insert_ne]
    intro heq
    cases heq
    exact hne ⟨rfl, rfl⟩
  have hholds : ∀ other j, s'.Holds j other ↔ s.Holds j other := by
    intro other j
    by_cases hsame : other = owner ∧ j = id
    · obtain ⟨rfl, rfl⟩ := hsame
      exact ⟨fun _ => ⟨req, hfound⟩, fun _ => ⟨req', by rw [hreq, AList.lookup_insert]⟩⟩
    · rw [State.Holds, State.Holds, hlookup other j hsame]
  have howner : s.Holds id owner := ⟨req, hfound⟩
  by_cases hi : i = id
  · subst hi
    refine ⟨fun hnone => ?_, fun other r hr honly => ?_, fun o₁ o₂ h₁ h₂ hne => ?_⟩
    · exact absurd ((hholds owner i).mpr howner) (hnone owner)
    · obtain rfl : owner = other := honly owner ((hholds owner i).mpr howner)
      have hold := (h i).single owner req hfound fun o ho => honly o ((hholds o i).mpr ho)
      rw [hreq, AList.lookup_insert] at hr
      cases hr
      rw [ha.announced, ClaimLog.replay_continues hold, hdue]
    · rw [ha.announced]
      exact ClaimLog.replay_stuck
        ((h i).shared o₁ o₂ ((hholds o₁ i).mp h₁) ((hholds o₂ i).mp h₂) hne)
  · exact (h i).same (fun other => hlookup other i fun hcon => hi hcon.2) (ha.others i hi)

/-- A request was made, and that was announced. -/
theorem State.Told.deposited {a : Announcement} (h : ∀ i, s.Told i)
    (hfresh : s.requests.lookup (.request owner id) = none)
    (hreq : s'.requests = s.requests.insert (.request owner id) req)
    (ha : Announces id [a] s s')
    (hdue : ∀ strict, ClaimLog.replayFrom strict .unknown [a] = some req.standing)
    (hinit : ∃ sender token amount, a = .initiated sender token amount) (i : UInt64) :
    s'.Told i := by
  have hlookup : ∀ other j, ¬ (other = owner ∧ j = id) →
      s'.requests.lookup (.request other j) = s.requests.lookup (.request other j) := by
    intro other j hne
    rw [hreq, AList.lookup_insert_ne]
    intro heq
    cases heq
    exact hne ⟨rfl, rfl⟩
  have howner : s'.Holds id owner := ⟨req, by rw [hreq, AList.lookup_insert]⟩
  by_cases hi : i = id
  · subst hi
    have hstill : ∀ other, other ≠ owner → (s'.Holds i other ↔ s.Holds i other) := by
      intro other hne
      rw [State.Holds, State.Holds, hlookup other i fun hcon => hne hcon.1]
    -- a second announcement of the id is never due
    have hstuck : ∀ other, other ≠ owner → s'.Holds i other →
        ClaimLog.replay false (s'.announcements i) = none := by
      intro other hne hother
      obtain ⟨sender, token, amount, rfl⟩ := hinit
      rw [ha.announced]
      exact ClaimLog.replay_initiated ((h i).announced ((hstill other hne).mp hother)) _ _ _
    refine ⟨fun hnone => absurd howner (hnone owner), fun other r hr honly => ?_,
      fun o₁ o₂ h₁ h₂ hne => ?_⟩
    · obtain rfl : owner = other := honly owner howner
      have hunused : s.announcements i = [] := by
        refine (h i).unused fun o ho => ?_
        by_cases hne : o = owner
        · obtain ⟨r', hr'⟩ := ho
          rw [hne, hfresh] at hr'
          cases hr'
        · exact hne (honly o ((hstill o hne).mpr ho))
      rw [hreq, AList.lookup_insert] at hr
      cases hr
      rw [ha.announced, hunused]
      exact hdue false
    · by_cases h₁o : o₁ = owner
      · exact hstuck o₂ (fun h₂o => hne (h₁o.trans h₂o.symm)) h₂
      · exact hstuck o₁ h₁o h₁
  · exact (h i).same (fun other => hlookup other i fun hcon => hi hcon.2) (ha.others i hi)

theorem State.Told.untouched (h : ∀ i, s.Told i) (hreq : s'.requests = s.requests)
    (ha : ∀ i, s'.announcements i = s.announcements i) (i : UInt64) : s'.Told i :=
  (h i).same (fun _ => by rw [hreq]) (ha i)

/-! ## Instructions -/

/-- One event about the id, among entries that are no events. -/
theorem announces_of_log {entries : List Entry} {l : List Announcement}
    (h : s'.log = s.log ++ entries) (hid : entries.filterMap (Entry.about id) = l)
    (hothers : ∀ i, i ≠ id → entries.filterMap (Entry.about i) = []) : Announces id l s s' where
  announced := by rw [announcements_append h, hid]
  others := fun i hi => by rw [announcements_append h, hothers i hi, List.append_nil]

theorem told_deposited {payer : Signer} {mint : Pubkey} {storedId : UInt64} {args : DepositArgs}
    (h : ∀ i, s.Told i) (hd : Deposited payer mint storedId args s s') (i : UInt64) :
    s'.Told i := by
  obtain ⟨cfg, _, hreq, hlog⟩ := hd.stored
  refine State.Told.deposited h hd.fresh hreq (announces_of_log hlog ?_ ?_) (fun _ => rfl)
    ⟨payer.key, mint, (amountNet cfg args.amount).toNat, rfl⟩ i
  · simp [List.filterMap_cons, Entry.about, Event.announces]
  · intro j hj
    simp [Entry.about, Event.announces, Ne.symm hj]

theorem told_exec {i : Instruction} (hc : s.Consistent) (h : ∀ id, s.Told id)
    (hexec : exec rt i s = .ok s') (id : UInt64) : s'.Told id := by
  cases i with
  | initiateBridge acc args => exact told_deposited h (initiateBridge_ok hexec).1 id
  | initiateBridgeSol acc args => exact told_deposited h (initiateBridgeSol_ok hexec).1 id
  | claimBridge acc offset requestId solverX25519 =>
      obtain ⟨cfg, req, deadline, _, hfound, hopen, _, _, _, hreq, hlog, _⟩ :=
        claimBridge_ok hexec
      refine State.Told.rewritten h hfound hreq
        (announces_of_log (l := [.claimed acc.solver.key cfg.minSolverBond.toNat deadline]) hlog
          ?_ ?_) ?_ id
      · simp [List.filterMap_cons, Entry.about, Event.announces]
      · intro j hj
        simp [Entry.about, Event.announces, Ne.symm hj]
      · simp [BridgeRequest.standing, ClaimLog.Event.step, hopen]
  | releaseExpiredClaim acc requestId =>
      obtain ⟨cfg, req, slash, refund, _, hfound, hclaimed, _, _, hsolver, _, _, hsum, hreq, hlog,
        _⟩ := releaseExpiredClaim_ok hexec
      have hopen : req.finalized = false := by
        by_contra hfinal
        rw [(hc _ req hfound).finalized (by simpa using hfinal)] at hclaimed
        cases hclaimed
      have hslash : slash.toNat ≤ req.bondLamports.toNat := by omega
      refine State.Told.rewritten h hfound hreq
        (announces_of_log (l := [.expired acc.prevSolver slash.toNat]) hlog ?_ ?_) ?_ id
      · simp [List.filterMap_cons, Entry.about, Event.announces]
      · intro j hj
        simp [Entry.about, Event.announces, Ne.symm hj]
      · simp [BridgeRequest.standing, ClaimLog.Event.step, ClaimLog.Request.held, hopen, hclaimed,
          hsolver, hslash]
  | verifyAndSettleSpl acc requestId destTxHash evidenceHash evidenceUrl =>
      obtain ⟨cfg, req, payout, s₁, _, _, hfound, _, _, hopen, hclaimed, _, hwallet, hpayout, _, _,
        hreq, hlog, _⟩ := verifyAndSettleSpl_ok hexec
      refine State.Told.rewritten h hfound hreq
        (announces_of_log (l := [.verified, .paid acc.solverWallet acc.mint payout.toNat]) hlog
          ?_ ?_) ?_ id
      · simp [List.filterMap_cons, Entry.about, Event.announces]
      · intro j hj
        simp [Entry.about, Event.announces, Ne.symm hj]
      · simp [BridgeRequest.standing, ClaimLog.Event.step, ClaimLog.Request.held, hopen, hclaimed,
          hwallet, hpayout]
  | deliverTokens acc amount =>
      refine State.Told.untouched h (deliverTokens_ok hexec).requests (fun j => ?_) id
      rw [announcements_append (log_deliverTokens hexec)]
      exact List.append_nil _
  | deliverTokensSol acc amount =>
      refine State.Told.untouched h (deliverTokensSol_ok hexec).requests (fun j => ?_) id
      rw [announcements_append (log_deliverTokensSol hexec)]
      exact List.append_nil _
  | initConfig payer args =>
      refine State.Told.untouched h (initConfig_ok hexec).1.requests (fun j => ?_) id
      obtain ⟨_, _, hexec⟩ := bind_ok hexec
      obtain ⟨_, _, hexec⟩ := bind_ok hexec
      cases hexec
      rfl
  | setConfig authority c =>
      refine State.Told.untouched h (setConfig_ok hexec).1.requests (fun j => ?_) id
      obtain ⟨cfg, _, hexec⟩ := bind_ok hexec
      obtain ⟨_, _, hexec⟩ := bind_ok hexec
      cases hexec
      rfl

theorem told_initial (hinit : Initial s) (id : UInt64) : s.Told id := by
  have hnone : ∀ owner, ¬ s.Holds id owner := by
    rintro owner ⟨req, hreq⟩
    rw [hinit.requests] at hreq
    cases hreq
  refine ⟨fun _ => ?_, fun owner req hreq _ => absurd ⟨req, hreq⟩ (hnone owner),
    fun owner _ howner _ _ => absurd howner (hnone owner)⟩
  rw [State.announcements, hinit.log]
  rfl

theorem Reachable.told (h : Reachable rt s) : ∀ id, s.Told id := by
  obtain ⟨s₀, hinit, hrun⟩ := h
  induction hrun with
  | nil => exact told_initial hinit
  | exec before i _ succeeds ih =>
      exact told_exec (Reachable.consistent ⟨s₀, hinit, before⟩) ih succeeds
  | outside _ move ih =>
      refine State.Told.untouched ih move.requests fun id => ?_
      rw [State.announcements, move.log]
      rfl

/-- **What the events of an id tell.** In every reachable state: the events
with the id of a request tell its standing, unless a second owner has a
request with this id. Then they fit no request, and will not in any state
that follows. -/
theorem events_tell_requests (rt : Runtime) (s : State) (hreach : Reachable rt s) (id : UInt64) :
    (∀ owner req, s.requests.lookup (.request owner id) = some req →
      ((∀ other, s.Holds id other → other = owner) ↔
        ClaimLog.replay false (s.announcements id) = some req.standing)) ∧
    ∀ owner other s', s.Holds id owner → s.Holds id other → owner ≠ other →
      Run rt (fun _ _ => True) s s' →
      ClaimLog.replay false (s'.announcements id) = none := by
  refine ⟨fun owner req hreq => ⟨(hreach.told id).single owner req hreq,
    fun hreplay other hother => ?_⟩, fun owner other s' howner hother hne hrun => ?_⟩
  · by_contra hne
    rw [(hreach.told id).shared other owner hother ⟨req, hreq⟩ hne] at hreplay
    cases hreplay
  · have hkept : ∀ o, s.Holds id o → s'.Holds id o := by
      rintro o ⟨req, hreq⟩
      obtain ⟨req', hreq', -⟩ := hreach.kept hrun hreq
      exact ⟨req', hreq'⟩
    exact ((hreach.run hrun).told id).shared owner other (hkept owner howner)
      (hkept other hother) hne

/-! ### Two deposits under one id -/

namespace Sample

/-- The solver deposits nothing, under the id the user has taken. -/
def sameId : Instruction :=
  .initiateBridge
    { payer := solver
      userToken := .key 22
      mint := mint
      escrowToken := .key 21
      arciumAccepts := true }
    { computationOffset := 0
      requestId := 7
      clientPubkey := 0
      nonce := 0
      destinationCt0 := 0
      destinationCt1 := 0
      destinationCt2 := 0
      destinationCt3 := 0
      amount := 0 }

def twoOwners : List (Nat × Instruction) :=
  [(0, config), (0, deposit (.key 21)), (0, sameId)]

end Sample

theorem events_tell_requests_shared : ∃ s, Reachable Sample.runtime s ∧
    s.Holds 7 Sample.user.key ∧ ClaimLog.replay false (s.announcements 7) = none := by
  have hrun : (runMoves Sample.runtime (fun _ _ => true) Sample.twoOwners Sample.initial).map
      (fun s => ((s.requests.lookup (.request Sample.user.key 7)).isSome,
        (s.requests.lookup (.request Sample.solver.key 7)).isSome)) = some (true, true) := by
    decide +kernel
  obtain ⟨s, hs, hboth⟩ := Option.map_eq_some_iff.mp hrun
  have hreach := Sample.reachable_of_moves hs
  have huser := Option.isSome_iff_exists.mp (congrArg Prod.fst hboth)
  have hsolver := Option.isSome_iff_exists.mp (congrArg Prod.snd hboth)
  exact ⟨s, hreach, huser, (events_tell_requests Sample.runtime s hreach 7).2 Sample.user.key
    Sample.solver.key s huser hsolver (by decide) (.nil s)⟩

end LunarysBridge.Solana
