/-
LunarysBridge.Evm.TwoSteps — a takeover is a release and a claim.

The end of an expired claim is written twice, once inside `claimBridge` and
once in `releaseExpiredClaim`. Among callees that accept, the takeover and
the two calls one after the other pay the same and write the same. One thing
tells them apart: the takeover's value comes in first, so its caller must
have it before the old solver gets its refund.
-/
import LunarysBridge.Evm.Independence
import LunarysBridge.Evm.Takeover

namespace LunarysBridge.Evm

variable {ch : Chain} {t r : Tx ch.self} {s s' : State} {id : Nat}

/-! ## Events -/

def LogEntry.event? : LogEntry → Option Event
  | .emit e => some e
  | _ => none

/-- The events on a log, in order. -/
def events (log : List LogEntry) : List Event := log.filterMap LogEntry.event?

@[simp] theorem events_nil : events [] = [] := rfl

@[simp] theorem events_append (l l' : List LogEntry) :
    events (l ++ l') = events l ++ events l' :=
  List.filterMap_append

@[simp] theorem events_cons (e : LogEntry) (l : List LogEntry) :
    events (e :: l) = e.event?.toList ++ events l := by
  cases h : e.event? <;> simp [events, h]

@[simp] theorem events_slashActs (fn : Fn) (id : Nat) (collector : Address) (slash : Nat) :
    events (Book.slashActs fn id collector slash) = [] := by
  unfold Book.slashActs
  split
  · rfl
  · split <;> rfl

@[simp] theorem events_refundActs (fn : Fn) (solver : Address) (leftover : Nat) :
    events (Book.refundActs fn solver leftover) = [] := by
  unfold Book.refundActs
  split <;> rfl

/-! ## The end of the claim in either call -/

/-- Whichever call ends the claim, the same are paid, and the events are the
same. -/
theorem expiry_either (t r : Tx ch.self) (id : Nat) (s : State) :
    (expiry ch t id s).map (fun e => (e.1, events e.2)) =
      (expiry ch r id s).map fun e => (e.1, events e.2) := by
  unfold expiry
  cases checkedMul (s.requestClaim id).bond s.slashBps with
  | none => rfl
  | some product =>
      simp only []
      cases checkedSub (s.requestClaim id).bond (product / 10000) with
      | none => rfl
      | some leftover =>
          simp only []
          split
          · simp
          · rfl

/-- Whom a claim pays first makes no difference to what is registered. -/
theorem registered_either (pays pays' : List (Address × Nat)) (acts acts' : List LogEntry) :
    (registered ch t id pays acts s).map Outcome.claim =
      (registered ch t id pays' acts' s).map Outcome.claim := by
  unfold registered
  split
  · rfl
  · cases checkedAdd s.now s.claimWindow <;> rfl

/-- The state after a release that paid: the claim is reset. -/
def State.released (s : State) (id : Nat) (eth : Address → Nat) (acts : List LogEntry) :
    State :=
  { s with
    requestClaim := Function.update s.requestClaim id Claim.empty
    eth := eth
    log := s.log ++ acts }

theorem runs_release (hu : s.entered = false) (hfn : r.fn = .releaseExpiredClaim id)
    (hvalue : r.value = 0) (hheld : (s.requestClaim id).solver ≠ 0)
    (hdue : (s.requestClaim id).deadline ≤ s.now) :
    runs ch r (entry ch r s) = (expiry ch r id s).bind fun e =>
      (Ledger.run (sends ch e.1) s.eth).map fun eth => s.released id eth e.2 := by
  have hclaims : r.fn.claims = some id := by rw [hfn]; rfl
  rw [accepting_eq hu hclaims, outcome, hfn]
  simp only [releaseOutcome]
  rw [if_neg (by simpa using hvalue), if_neg hheld, if_neg (Nat.not_lt.mpr hdue),
    Option.bind_map]
  congr 1
  funext e
  show Outcome.apply _ s = _
  unfold Outcome.apply
  cases Ledger.run (sends ch e.1) s.eth with
  | none => rfl
  | some eth => simp [Ledger.run, State.tokens, State.released]

/-- A claim of an expired request, by an authorised caller. -/
theorem runs_takeover (hu : s.entered = false) (hfn : t.fn = .claimBridge id)
    (hauth : s.authorizedNodes t.sender = true) (hknown : (s.bridgeRequests id).sender ≠ 0)
    (hopen : (s.bridgeRequests id).finalized = false)
    (hheld : (s.requestClaim id).solver ≠ 0) (hdue : (s.requestClaim id).deadline ≤ s.now) :
    runs ch t (entry ch t s) = (expiry ch t id s).bind fun e =>
      (registered ch t id e.1 e.2 s).bind fun o => o.apply s := by
  have hclaims : t.fn.claims = some id := by rw [hfn]; rfl
  rw [accepting_eq hu hclaims, outcome, hfn]
  simp only [claimOutcome]
  rw [if_neg (by simp [hauth]), if_neg hknown, if_neg (by simp [hopen]),
    if_neg fun h => Nat.not_lt.mpr hdue h.2, if_pos hheld, Option.bind_assoc]

/-- A claim after the release. -/
theorem runs_claim_released {eth : Address → Nat} {acts : List LogEntry}
    (hu : s.entered = false) (hfn : t.fn = .claimBridge id)
    (hauth : s.authorizedNodes t.sender = true) (hknown : (s.bridgeRequests id).sender ≠ 0)
    (hopen : (s.bridgeRequests id).finalized = false) :
    runs ch t (entry ch t (s.released id eth acts)) =
      (registered ch t id [] [] s).bind fun o => o.apply (s.released id eth acts) := by
  have hfree : ((s.released id eth acts).requestClaim id).solver = 0 := by
    simp [State.released, Claim.empty]
  have hu' : (s.released id eth acts).entered = false := hu
  have hauth' : ¬ (s.released id eth acts).authorizedNodes t.sender = false := by
    simp [State.released, hauth]
  have hknown' : ((s.released id eth acts).bridgeRequests id).sender ≠ 0 := hknown
  have hopen' : ¬ ((s.released id eth acts).bridgeRequests id).finalized = true := by
    simp [State.released, hopen]
  have hclaims : t.fn.claims = some id := by rw [hfn]; rfl
  rw [accepting_eq hu' hclaims, outcome, hfn]
  simp only [claimOutcome]
  rw [if_neg hauth', if_neg hknown', if_neg hopen', if_neg fun h => h.1 hfree,
    if_neg fun h => h hfree]
  rfl

/-- An unauthorised caller claims nothing. -/
theorem runs_unauthorized (hu : s.entered = false) (hfn : t.fn = .claimBridge id)
    (hauth : s.authorizedNodes t.sender = false) : runs ch t (entry ch t s) = none := by
  have hclaims : t.fn.claims = some id := by rw [hfn]; rfl
  rw [accepting_eq hu hclaims, outcome, hfn]
  simp only [claimOutcome, hauth, if_true]
  rfl

/-! ## Payments before and after the value -/

/-- The contract can pay for the end of any claim. -/
theorem Valid.pays_expiry {e : List (Address × Nat) × List LogEntry} (hv : Valid ch s)
    (he : expiry ch t id s = some e) :
    (e.1.map Prod.snd).sum ≤ s.eth ch.self := by
  have hpays := expiry_pays he
  have hbonds := hv.two_bonds (i := id) (j := id + 1) (by omega)
  omega

section Funds

variable {pays : List (Address × Nat)} {ledger : Address → Nat}

theorem run_sends (hpays : (pays.map Prod.snd).sum ≤ ledger ch.self) :
    ∃ ledger', Ledger.run (sends ch pays) ledger = some ledger' := by
  apply Ledger.run_of_covered
  intro a
  rw [out_sends]
  split
  · next ha => exact ha ▸ hpays
  · exact Nat.zero_le _

/-- Nobody but the contract has less after it has paid. -/
theorem sends_le {ledger' : Address → Nat} {a : Address} (ha : a ≠ ch.self)
    (h : Ledger.run (sends ch pays) ledger = some ledger') : ledger a ≤ ledger' a := by
  have hb := Ledger.run_balance a h
  rw [out_sends, if_neg (Ne.symm ha)] at hb
  omega

/-- The payments go through with the value of a call in front, and it makes no
difference to the balances when it comes. -/
theorem run_value_sends {x : Ledger.Transfer Address} {ledger₁ : Address → Nat}
    (hpays : (pays.map Prod.snd).sum ≤ ledger ch.self) (hx : x.source ≠ ch.self)
    (hfund : x.amount ≤ ledger x.source)
    (h₁ : Ledger.run (sends ch pays) ledger = some ledger₁) : ∃ ledger₂,
      Ledger.run (x :: sends ch pays) ledger = some ledger₂ ∧
        Ledger.run [x] ledger₁ = some ledger₂ := by
  have hcovered : ∀ a, Ledger.out a (x :: sends ch pays) ≤ ledger a := by
    intro a
    rw [Ledger.out_cons, out_sends]
    by_cases ha : ch.self = a
    · subst ha
      rw [if_neg hx, if_pos rfl]
      omega
    · rw [if_neg ha]
      split
      · next hsource => exact hsource ▸ hfund
      · exact Nat.zero_le _
  obtain ⟨ledger₂, h₂⟩ := Ledger.run_of_covered hcovered
  have hfund₁ : x.amount ≤ ledger₁ x.source := Nat.le_trans hfund (sends_le hx h₁)
  have h₃ : Ledger.run [x] ledger₁ =
      some (Ledger.move ledger₁ x.source x.dest x.amount) := by
    simp [Ledger.run, Ledger.apply, hfund₁]
  have hlast : Ledger.run (sends ch pays ++ [x]) ledger =
      some (Ledger.move ledger₁ x.source x.dest x.amount) := by
    rw [Ledger.run_append, h₁, Option.bind_some, h₃]
  have hperm : (x :: sends ch pays).Perm (sends ch pays ++ [x]) :=
    (List.perm_append_singleton x (sends ch pays)).symm
  exact ⟨ledger₂, h₂, by rw [h₃, Ledger.run_perm hperm h₂ hlast]⟩

end Funds

/-! ## The two ways -/

/-- The release and then the claim, at the same time. -/
def releaseThenClaim (ch : Chain) (r t : Tx ch.self) (s : State) : Option State :=
  (runs ch r (entry ch r s)).bind fun s' => runs ch t (entry ch t s')

/-- The states differ in their logs, which have the same events. -/
structure SameButCalls (s₁ s₂ : State) : Prop where
  state : s₂ = { s₁ with log := s₂.log }
  events : events s₂.log = events s₁.log

theorem registered_events {pays : List (Address × Nat)} {acts : List LogEntry} {o : Outcome}
    (h : registered ch t id pays acts s = some o) : events o.entries =
      events acts ++ [.BridgeClaimed id t.sender t.value o.claim.deadline] := by
  obtain ⟨_, _, _, _, hentries⟩ := registered_fields h
  rw [hentries]
  simp [LogEntry.event?]

/-- A caller without the value it sends claims nothing. -/
theorem registered_unfunded {pays : List (Address × Nat)} {acts : List LogEntry} {o : Outcome}
    (hfund : ¬ t.value ≤ s.eth t.sender) (h : registered ch t id pays acts s = some o) :
    o.apply s = none := by
  have hrefused : Ledger.apply ⟨t.sender, ch.self, t.value⟩ s.eth = none := if_neg hfund
  rw [Outcome.apply, registered_eth h, Ledger.run, hrefused]
  rfl

/-- A funded claim that is registered goes through either way, and the two
ways end alike. -/
theorem registered_two_steps {pays : List (Address × Nat)} {acts acts' : List LogEntry}
    {o o' : Outcome} {eth₁ : Address → Nat} (hfund : t.value ≤ s.eth t.sender)
    (hpays : (pays.map Prod.snd).sum ≤ s.eth ch.self)
    (ho : registered ch t id pays acts s = some o)
    (ho' : registered ch t id [] [] s = some o') (hclaim : o'.claim = o.claim)
    (hacts : events acts' = events acts)
    (h₁ : Ledger.run (sends ch pays) s.eth = some eth₁) :
    ∃ s₁ s₂, o.apply s = some s₁ ∧ o'.apply (s.released id eth₁ acts') = some s₂ ∧
      SameButCalls s₁ s₂ := by
  obtain ⟨eth₂, h₂, h₃⟩ := run_value_sends (x := ⟨t.sender, ch.self, t.value⟩) hpays
    t.sender_ne_contract hfund h₁
  obtain ⟨hid, hrequest, hescrow, htokens, _⟩ := registered_fields ho
  obtain ⟨hid', hrequest', hescrow', htokens', _⟩ := registered_fields ho'
  have heth : Ledger.run o.eth s.eth = some eth₂ := by rw [registered_eth ho, h₂]
  have heth' : Ledger.run o'.eth (s.released id eth₁ acts').eth = some eth₂ := by
    rw [registered_eth ho']
    exact h₃
  have hrun : Ledger.run o.tokens s.tokens = some s.tokens := by
    rw [htokens]
    rfl
  have hrun' : Ledger.run o'.tokens (s.released id eth₁ acts').tokens = some s.tokens := by
    rw [htokens']
    rfl
  refine ⟨_, _, apply_write heth hrun, apply_write heth' hrun', ?_, ?_⟩
  · simp [Outcome.write, State.released, hid, hid', hrequest, hrequest', hescrow, hescrow',
      hclaim]
  · have hentries := registered_events ho
    have hentries' := registered_events ho'
    rw [hclaim] at hentries'
    simp [Outcome.write, State.released, hentries, hentries', hacts]

/-- **A takeover is a release and a claim.** In every reachable state in which
the claim of a request has expired, among callees that accept, `claimBridge`
goes through exactly if its caller has the value it sends and
`releaseExpiredClaim`, by anybody, and then `claimBridge` go through. Both
leave the same state: requests, claims, fee escrow, parameters and balances;
and the same events. -/
theorem takeover_two_steps (h : Reachable ch s) (hheld : (s.requestClaim id).solver ≠ 0)
    (hdue : (s.requestClaim id).deadline ≤ s.now) (hfn : t.fn = .claimBridge id)
    (hrelease : r.fn = .releaseExpiredClaim id) (hvalue : r.value = 0) :
    ((runs ch t (entry ch t s)).isSome = true ↔
      t.value ≤ s.eth t.sender ∧ (releaseThenClaim ch r t s).isSome = true) ∧
    ∀ s₁ s₂, runs ch t (entry ch t s) = some s₁ → releaseThenClaim ch r t s = some s₂ →
      SameButCalls s₁ s₂ := by
  have hv := h.valid
  have hu := hv.unlocked
  obtain ⟨hknown, hopen, _⟩ := hv.lifecycle.held id hheld
  unfold releaseThenClaim
  rw [runs_release hu hrelease hvalue hheld hdue]
  cases hauth : s.authorizedNodes t.sender with
  | false =>
      have hnone : ∀ eth acts, runs ch t (entry ch t (s.released id eth acts)) = none :=
        fun eth acts => runs_unauthorized (s := s.released id eth acts) hu hfn hauth
      rw [runs_unauthorized hu hfn hauth]
      cases expiry ch r id s with
      | none => simp
      | some e => cases Ledger.run (sends ch e.1) s.eth <;> simp [hnone]
  | true =>
      have heither := expiry_either t r id s
      rw [runs_takeover hu hfn hauth hknown hopen hheld hdue]
      cases he : expiry ch t id s with
      | none =>
          rw [he, Option.map_none, eq_comm, Option.map_eq_none_iff] at heither
          simp [heither]
      | some e =>
          rw [he, Option.map_some, eq_comm, Option.map_eq_some_iff] at heither
          obtain ⟨e', he', hsame⟩ := heither
          obtain ⟨hpays, hacts⟩ := Prod.mk.inj hsame
          obtain ⟨eth₁, h₁⟩ := run_sends (hv.pays_expiry he)
          have hreleased : runs ch t (entry ch t (s.released id eth₁ e'.2)) = _ :=
            runs_claim_released hu hfn hauth hknown hopen
          have hclaims : (registered ch t id e.1 e.2 s).map Outcome.claim =
              (registered ch t id [] [] s).map Outcome.claim := registered_either ..
          simp only [he', hpays, h₁, Option.bind_some, Option.map_some, hreleased]
          cases ho : registered ch t id e.1 e.2 s with
          | none =>
              rw [ho, Option.map_none, eq_comm, Option.map_eq_none_iff] at hclaims
              simp [hclaims]
          | some o =>
              rw [ho, Option.map_some, eq_comm, Option.map_eq_some_iff] at hclaims
              obtain ⟨o', ho', hclaim⟩ := hclaims
              by_cases hfund : t.value ≤ s.eth t.sender
              · obtain ⟨s₁, s₂, hs₁, hs₂, halike⟩ := registered_two_steps hfund
                  (hv.pays_expiry he) ho ho' hclaim hacts h₁
                simp only [ho', Option.bind_some, hs₁, hs₂]
                refine ⟨by simp [hfund], fun _ _ h₁ h₂ => ?_⟩
                cases h₁
                cases h₂
                exact halike
              · simp [registered_unfunded hfund ho, hfund]

namespace Sample

/-- The solver 5 has spent its ETH but for half of a bond. -/
def spent : State :=
  { expired with eth := Function.update expired.eth 5 (10 ^ 16) }

theorem spent_reachable : Reachable chain spent :=
  expired_reachable.step (.outside (.others expired _ expired.bal (by decide +kernel)
    fun _ _ => rfl))

end Sample

theorem takeover_two_steps_expired : ∃ s₁ s₂,
    runs Sample.chain Sample.takeover (entry Sample.chain Sample.takeover Sample.expired) =
        some s₁ ∧
      releaseThenClaim Sample.chain Sample.release Sample.takeover Sample.expired = some s₂ ∧
      SameButCalls s₁ s₂ := by
  have hclaim : Sample.expired.requestClaim 1 = ⟨5, 1000, 2200, 2 * 10 ^ 16⟩ :=
    Sample.claimed_byFive.claim
  have hheld : (Sample.expired.requestClaim 1).solver ≠ 0 := by rw [hclaim]; decide
  have hdue : (Sample.expired.requestClaim 1).deadline ≤ Sample.expired.now := by
    rw [hclaim]
    decide
  obtain ⟨hiff, hsame⟩ := takeover_two_steps (t := Sample.takeover) (r := Sample.release)
    Sample.expired_reachable hheld hdue rfl rfl rfl
  have hsome : (runs Sample.chain Sample.takeover
      (entry Sample.chain Sample.takeover Sample.expired)).isSome = true := rfl
  obtain ⟨s₁, h₁⟩ := Option.isSome_iff_exists.mp hsome
  obtain ⟨s₂, h₂⟩ := Option.isSome_iff_exists.mp (hiff.mp hsome).2
  exact ⟨s₁, s₂, h₁, h₂, hsame s₁ s₂ h₁ h₂⟩

/-- The old solver can pay for its next claim only with the refund of the
last one: it has to have that released first. -/
theorem takeover_needs_funds :
    ¬ ∀ (ch : Chain) (t r : Tx ch.self) s id, Reachable ch s →
      (s.requestClaim id).solver ≠ 0 → (s.requestClaim id).deadline ≤ s.now →
      t.fn = .claimBridge id → s.authorizedNodes t.sender = true →
      r.fn = .releaseExpiredClaim id → r.value = 0 →
      ((runs ch t (entry ch t s)).isSome = true ↔
        (releaseThenClaim ch r t s).isSome = true) := by
  intro hall
  have hclaim : Sample.spent.requestClaim 1 = ⟨5, 1000, 2200, 2 * 10 ^ 16⟩ :=
    Sample.claimed_byFive.claim
  have hiff := hall Sample.chain Sample.takeover Sample.release Sample.spent 1
    Sample.spent_reachable (by rw [hclaim]; decide) (by rw [hclaim]; decide) rfl
    Sample.claimed_byFive.authorized rfl rfl
  have hsome : (releaseThenClaim Sample.chain Sample.release Sample.takeover
      Sample.spent).isSome = true := rfl
  have hnone : (runs Sample.chain Sample.takeover
      (entry Sample.chain Sample.takeover Sample.spent)).isSome = false := rfl
  rw [hsome, hnone] at hiff
  exact absurd (hiff.mpr rfl) Bool.false_ne_true

end LunarysBridge.Evm
