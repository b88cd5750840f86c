/-
LunarysBridge.Evm.Progress — an open request can always be settled.

There is no refund for the sender of a request, so a request that could not be
settled any more would keep its tokens for ever. `request_settleable` says
that no history leads there: one authorised node that has the bond and the
relayer are enough, at once and in two calls, whoever has claimed the request
before and whatever became of those claims. The tokens have to be there, and
the collector must not be the contract itself, which takes no ETH.
-/
import LunarysBridge.Evm.Arithmetic
import LunarysBridge.Evm.Simulation

namespace LunarysBridge.Evm

variable {ch : Chain} {t r : Tx ch.self} {s s' : State} {id : Nat} {o : Outcome}

/-- What a call that goes through has moved. -/
theorem moved_of_runs (hu : s.entered = false) (hfn : t.fn.claims = some id)
    (ho : outcome ch t s = some o) (h : runs ch t (entry ch t s) = some s') :
    Ledger.run o.eth s.eth = some s'.eth ∧ Ledger.run o.tokens s.tokens = some s'.tokens := by
  rw [accepting_eq hu hfn, ho] at h
  obtain ⟨eth, tokens, heth, htokens, rfl⟩ := apply_some h
  exact ⟨heth, htokens⟩

/-! ## The settlement -/

theorem settled_eth {verified : Event} (h : settleOutcome ch t id verified s = some o) :
    o.eth = sends ch [((s.requestClaim id).solver, (s.requestClaim id).bond)] := by
  unfold settleOutcome at h
  obtain ⟨_, h⟩ := Option.ite_none_left_eq_some.mp h
  obtain ⟨_, h⟩ := Option.ite_none_left_eq_some.mp h
  obtain ⟨_, h⟩ := Option.ite_none_left_eq_some.mp h
  obtain ⟨_, h⟩ := Option.ite_none_left_eq_some.mp h
  obtain ⟨_, h⟩ := Option.ite_none_left_eq_some.mp h
  obtain ⟨_, h⟩ := Option.ite_none_left_eq_some.mp h
  split at h
  · cases h
  · obtain ⟨_, h⟩ := Option.ite_none_left_eq_some.mp h
    cases h
    rfl

/-- The relayer settles while the claim is not overdue: the solver has the
deposit and its bond. -/
theorem settled_now (h : Reachable ch s) (hknown : (s.bridgeRequests id).sender ≠ 0)
    (hopen : (s.bridgeRequests id).finalized = false)
    (hexact : ch.exact (s.bridgeRequests id).token = true) (hbacked : Backed ch id s)
    (hheld : (s.requestClaim id).solver ≠ 0) (hlate : s.now ≤ (s.requestClaim id).deadline)
    (hfn : r.fn.settles = some id) (hvalue : r.value = 0) (hrelayer : r.sender = s.relayer) :
    ∃ s', runs ch r (entry ch r s) = some s' ∧ (s'.bridgeRequests id).finalized = true ∧
      s'.bal (s.bridgeRequests id).token (s.requestClaim id).solver =
        s.bal (s.bridgeRequests id).token (s.requestClaim id).solver +
          ((s.bridgeRequests id).amount + s.requestFeeEscrow id) ∧
      s'.eth (s.requestClaim id).solver =
        s.eth (s.requestClaim id).solver + (s.requestClaim id).bond := by
  have hother : (s.requestClaim id).solver ≠ ch.self := (h.valid.lifecycle.held id hheld).2.2
  obtain ⟨hclaims, verified, _, _, hout⟩ := outcome_settles ch s hfn
  obtain ⟨o, ho, hid, hrequest, _, htokens, _⟩ := settled_eq verified hvalue hrelayer hknown
    (by simp [hopen]) hheld (by omega) hbacked hother
  obtain ⟨tokens, hmoved⟩ := runs_tokenMoves hbacked (s.requestClaim id).solver
  obtain ⟨eth, hruns, _⟩ := runs_of_funded tokens h hclaims (hout.trans ho) (by omega)
    (by rw [htokens]; exact hmoved)
  obtain ⟨hethRun, htokensRun⟩ := moved_of_runs h.valid.unlocked hclaims (hout.trans ho) hruns
  refine ⟨_, hruns, ?_, ?_, ?_⟩
  · show (Function.update s.bridgeRequests o.id o.request id).finalized = true
    rw [hid, Function.update_self, hrequest]
  · rw [htokens, tokenMoves, if_pos hexact] at htokensRun
    have hbalance := Ledger.run_balance
      ((s.bridgeRequests id).token, (s.requestClaim id).solver) htokensRun
    simpa [State.tokens, Ne.symm hother] using hbalance
  · rw [settled_eth ho] at hethRun
    have hbalance := Ledger.run_balance (s.requestClaim id).solver hethRun
    simpa [sends, Ne.symm hother] using hbalance

/-! ## The claim -/

/-- An expired claim can be ended, if the contract pays others. -/
theorem expiry_some (hv : Valid ch s) (hheld : (s.requestClaim id).solver ≠ 0)
    (hbond : (s.requestClaim id).bond < 2 ^ 128) (hcollector : s.slashCollector ≠ ch.self) :
    ∃ e, expiry ch t id s = some e := by
  obtain ⟨_, _, hother⟩ := hv.lifecycle.held id hheld
  obtain ⟨hmul, _, _⟩ := hv.sound.slash_fits hbond
  have hproduct := (Option.ite_none_right_eq_some.mp hmul).1
  let m : Bonded.Terms :=
    ⟨(s.requestClaim id).bond, s.claimWindow, s.slashBps, hv.sound.bps⟩
  exact ⟨_, expiry_eq (m := m) rfl rfl hproduct hcollector hother⟩

/-- An authorised node claims a request nobody holds in time. -/
theorem claimed_now (h : Reachable ch s) (hb : Bounded s)
    (hknown : (s.bridgeRequests id).sender ≠ 0)
    (hopen : (s.bridgeRequests id).finalized = false)
    (hfree : (s.requestClaim id).solver = 0 ∨ (s.requestClaim id).deadline ≤ s.now)
    (hcollector : s.slashCollector ≠ ch.self) (hfn : t.fn = .claimBridge id)
    (hauth : s.authorizedNodes t.sender = true) (hbond : s.minSolverBond ≤ t.value)
    (hfunds : t.value ≤ s.eth t.sender) :
    ∃ s', runs ch t (entry ch t s) = some s' ∧ Reachable ch s' ∧
      s'.bridgeRequests id = s.bridgeRequests id ∧
      s'.requestFeeEscrow id = s.requestFeeEscrow id ∧
      s'.requestClaim id = ⟨t.sender, s.now, s.now + s.claimWindow, t.value⟩ ∧
      s'.bal = s.bal ∧ s'.now = s.now ∧ s'.relayer = s.relayer ∧
      s.eth t.sender ≤ s'.eth t.sender + t.value := by
  have hclaims : t.fn.claims = some id := by rw [hfn]; rfl
  obtain ⟨hadd, hnow, hdeadline⟩ := h.valid.sound.deadline_fits hb.now
  have hregistered : ∀ pays acts, ∃ o, registered ch t id pays acts s = some o ∧
      o.claim = ⟨t.sender, s.now, s.now + s.claimWindow, t.value⟩ := by
    intro pays acts
    unfold registered
    rw [if_neg (Nat.not_lt.mpr hbond), hadd]
    exact ⟨_, rfl, by simp only [hnow, hdeadline]⟩
  obtain ⟨o, ho, hregister, hclaim⟩ : ∃ o, outcome ch t s = some o ∧
      (∃ pays acts, registered ch t id pays acts s = some o) ∧
      o.claim = ⟨t.sender, s.now, s.now + s.claimWindow, t.value⟩ := by
    rw [outcome, hfn]
    simp only [claimOutcome]
    rw [if_neg (by simp [hauth]), if_neg hknown, if_neg (by simp [hopen])]
    by_cases hheld : (s.requestClaim id).solver = 0
    · rw [if_neg fun hlive => hlive.1 hheld, if_neg (not_not_intro hheld)]
      obtain ⟨o, ho, hclaim⟩ := hregistered [] []
      exact ⟨o, ho, ⟨_, _, ho⟩, hclaim⟩
    · have hdue := hfree.resolve_left hheld
      obtain ⟨e, he⟩ := expiry_some (t := t) h.valid hheld (hb.bonds id) hcollector
      rw [if_neg fun hlive => Nat.not_lt.mpr hdue hlive.2, if_pos hheld, he, Option.bind_some]
      obtain ⟨o, ho, hclaim⟩ := hregistered e.1 e.2
      exact ⟨o, ho, ⟨_, _, ho⟩, hclaim⟩
  obtain ⟨pays, acts, hreg⟩ := hregister
  obtain ⟨hid, hrequest, hescrow, htokens, _⟩ := registered_fields hreg
  obtain ⟨eth, hruns, hreach⟩ := runs_of_funded s.tokens h hclaims ho hfunds
    (by rw [htokens]; rfl)
  obtain ⟨hethRun, _⟩ := moved_of_runs h.valid.unlocked hclaims ho hruns
  have hbalance := Ledger.run_balance t.sender hethRun
  have hout := (shape_outcome hclaims ho).eth t.sender
  rw [if_pos rfl, if_neg (Ne.symm t.sender_ne_contract)] at hout
  refine ⟨_, hruns, hreach, ?_, ?_, ?_, rfl, rfl, rfl, ?_⟩
  · simp [Outcome.write, hid, hrequest]
  · simp [Outcome.write, hid, hescrow]
  · simp [Outcome.write, hid, hclaim]
  · omega

/-! ## Both -/

/-- **No request is stuck.** In every reachable state within the bounds, an
open request whose tokens the contract holds is settled by the relayer's call
at once, or by it after the claim of any authorised node that sends the bond.
The solver of that claim, the old one or the node, then has the whole deposit,
and its bond back. -/
theorem request_settleable (h : Reachable ch s) (hb : Bounded s)
    (hknown : (s.bridgeRequests id).sender ≠ 0)
    (hopen : (s.bridgeRequests id).finalized = false)
    (hexact : ch.exact (s.bridgeRequests id).token = true)
    (htokens : s.gross id ≤ s.bal (s.bridgeRequests id).token ch.self)
    (hcollector : s.slashCollector ≠ ch.self) (hclaim : t.fn = .claimBridge id)
    (hauth : s.authorizedNodes t.sender = true) (hbond : s.minSolverBond ≤ t.value)
    (hfunds : t.value ≤ s.eth t.sender) (hsettle : r.fn.settles = some id)
    (hvalue : r.value = 0) (hrelayer : r.sender = s.relayer) :
    ∃ solver ts s', (solver, ts) ∈ [((s.requestClaim id).solver, [r]), (t.sender, [t, r])] ∧
      runAccepting ts s = some s' ∧ (s'.bridgeRequests id).finalized = true ∧
      s'.bal (s.bridgeRequests id).token solver =
        s.bal (s.bridgeRequests id).token solver + s.gross id ∧
      s.eth solver ≤ s'.eth solver := by
  obtain ⟨hadd, hgross⟩ := h.valid.payout_fits hb.deposits hknown
  have hsum := hgross hopen
  have hfits : (s.bridgeRequests id).amount + s.requestFeeEscrow id < 2 ^ 256 :=
    (Option.ite_none_right_eq_some.mp hadd).1
  have hbacked : Backed ch id s := ⟨hfits, fun _ => hsum ▸ htokens⟩
  by_cases hlive : (s.requestClaim id).solver ≠ 0 ∧ s.now ≤ (s.requestClaim id).deadline
  · obtain ⟨s', hruns, hfinal, hbal, heth⟩ := settled_now h hknown hopen hexact hbacked hlive.1
      hlive.2 hsettle hvalue hrelayer
    refine ⟨_, _, s', List.mem_cons_self .., ?_, hfinal, hsum ▸ hbal, by omega⟩
    simp only [runAccepting]
    rw [show Reentrancy.accepting (contract ch) r (entry ch r s) = some s' from hruns]
  · have hfree : (s.requestClaim id).solver = 0 ∨ (s.requestClaim id).deadline ≤ s.now := by
      by_cases hheld : (s.requestClaim id).solver = 0
      · exact .inl hheld
      · exact .inr (Nat.le_of_not_le fun hle => hlive ⟨hheld, hle⟩)
    obtain ⟨s₁, hruns₁, hreach₁, hrequest, hescrow, hclaimed, hbal₁, hnow₁, hrelayer₁, heth₁⟩ :=
      claimed_now h hb hknown hopen hfree hcollector hclaim hauth hbond hfunds
    have hbacked₁ : Backed ch id s₁ := by
      unfold Backed
      rw [hrequest, hescrow, hbal₁]
      exact hbacked
    obtain ⟨s', hruns, hfinal, hbal, heth⟩ := settled_now hreach₁ (r := r)
      (by rw [hrequest]; exact hknown) (by rw [hrequest]; exact hopen)
      (by rw [hrequest]; exact hexact) hbacked₁ (by rw [hclaimed]; exact t.sender_ne_zero)
      (by rw [hclaimed, hnow₁]; exact Nat.le_add_right _ _) hsettle hvalue
      (by rw [hrelayer₁]; exact hrelayer)
    rw [hrequest, hescrow, hclaimed, hbal₁, hsum] at hbal
    rw [hclaimed] at heth
    simp only [] at hbal heth
    refine ⟨t.sender, [t, r], s', by simp, ?_, hfinal, hbal, by omega⟩
    simp only [runAccepting]
    rw [show Reentrancy.accepting (contract ch) t (entry ch t s) = some s₁ from hruns₁]
    simp only []
    rw [show Reentrancy.accepting (contract ch) r (entry ch r s₁) = some s' from hruns]

theorem request_settleable_expired :
    ∃ solver ts s',
      (solver, ts) ∈ [((Sample.expired.requestClaim 1).solver, [Sample.settlement]),
        (Sample.takeover.sender, [Sample.takeover, Sample.settlement])] ∧
      runAccepting ts Sample.expired = some s' ∧ (s'.bridgeRequests 1).finalized = true ∧
      s'.bal (Sample.expired.bridgeRequests 1).token solver =
        Sample.expired.bal (Sample.expired.bridgeRequests 1).token solver +
          Sample.expired.gross 1 ∧
      Sample.expired.eth solver ≤ s'.eth solver :=
  request_settleable Sample.expired_reachable Sample.expired_bounded (by decide +kernel)
    (by decide +kernel) rfl (by decide +kernel) (by decide +kernel) rfl (by decide +kernel)
    (by decide +kernel) (by decide +kernel) rfl rfl (by decide +kernel)

end LunarysBridge.Evm
