/-
LunarysBridge.Relayer.Deliverer — who is paid for a verified delivery.

`handleEvmToSol` verifies a transfer, and `NewRelayer` pays the account that
holds the claim. Nothing links the two: the service reads neither the claim
transaction of its DTO nor the solver of the claim, and the settlement it
sends names no solver. `settlement_pays_deliverer` says when the account
paid is the one of the DTO all the same.
-/
import LunarysBridge.Evm.Payee
import LunarysBridge.Evm.Takeover
import LunarysBridge.Relayer.Replay

namespace LunarysBridge.Relayer

open Async
open Evm (Address)

/-- What the two chains tell of the evidence in a DTO. -/
structure Evidence where
  /-- The request and the sender of a claim transaction. -/
  claimTx : String → Option (Nat × Address)
  /-- The solver that made a transfer on Solana. -/
  transfer : String → Option Address

/-- The request a DTO has evidence for and the solver that claimed it and
delivered. -/
def Request.deliverer (ev : Evidence) : Request → Option (Nat × Address)
  | .evmToSol dto =>
      match ev.claimTx dto.ethClaimTxHash with
      | some (r, solver) =>
          if ev.transfer dto.solanaTransferSignature = some solver then some (r, solver) else none
      | none => none
  | .solToEvm _ => none

/-- The one of the call that sent a transaction. -/
def deliverer (ev : Evidence) (p : Calls) (t : Sent) : Option (Nat × Address) :=
  match p.calls[t.caller]? with
  | some c => c.request.deliverer ev
  | none => none

/-- Every settlement that was mined has paid the solver of its DTO. -/
def PaysDeliverer (ev : Evidence) (p : Calls) : Prop :=
  ∀ t ∈ p.state.sent, t.status = .mined → ∀ r, t.fn.settles = some r →
    ∃ solver, deliverer ev p t = some (r, solver) ∧ Evm.SettledTo p.state.evm r solver

/-- A settlement is mined in this step only while the solver of its DTO
holds the claim. -/
def MinedInHand (ev : Evidence) (p p' : Calls) : Prop :=
  ∀ (n : Nat) (t t' : Sent), p.state.sent[n]? = some t → t.status = .pending →
    p'.state.sent[n]? = some t' → t'.status = .mined → ∀ r, t.fn.settles = some r →
      deliverer ev p t = some (r, (p.state.evm.requestClaim r).solver)

variable {env : Setup} {ev : Evidence} {w w' w₀ : World} {p p' : Calls}
  {admits : Calls → Request → Prop} {n : Nat} {t t' : Sent}

/-! ## One step -/

theorem World.Outside.evm (h : World.Outside env w w') :
    w'.evm = w.evm ∨ Evm.Step env.ch w.evm w'.evm := by
  cases h with
  | chain step => exact .inr step
  | mined n sent pending commits => exact .inr (.tx _ commits)
  | dropped | ledger | clock => exact .inl rfl

theorem World.getElem?_setStatus {m : Nat} {status : TxStatus} (h : w.sent[m]? = some t) :
    (w.setStatus m t status).sent[n]? =
      if m = n then some { t with status := status } else w.sent[n]? := by
  have hlt : m < w.sent.length := (List.getElem?_eq_some_iff.mp h).1
  by_cases hm : m = n
  · subst hm
    simp [setStatus, hlt]
  · simp [setStatus, hm]

theorem World.Outside.mined_cases (h : World.Outside env w w') (hget : w'.sent[n]? = some t')
    (hmined : t'.status = .mined) :
    w.sent[n]? = some t' ∨ ∃ t, w.sent[n]? = some t ∧ t.status = .pending ∧
      t' = { t with status := .mined } ∧
        Reentrancy.Commits (Evm.contract env.ch) (env.tx t.fn) w.evm w'.evm := by
  cases h with
  | @mined evm m t₀ sent pending commits =>
      rw [World.getElem?_setStatus (w := { w with evm := evm }) sent] at hget
      split at hget
      · next hm =>
        subst hm
        exact .inr ⟨t₀, sent, pending, (Option.some.inj hget).symm, commits⟩
      · exact .inl hget
  | @dropped m t₀ sent pending =>
      rw [World.getElem?_setStatus sent] at hget
      split at hget
      · obtain rfl := Option.some.inj hget
        cases hmined
      · exact .inl hget
  | chain | ledger | clock => exact .inl hget

theorem World.Outside.sent_kept (h : World.Outside env w w') (hget : w.sent[n]? = some t) :
    ∃ status, w'.sent[n]? = some { t with status := status } ∧
      (t.status ≠ .pending → status = t.status) := by
  have hset : ∀ {w : World} {m : Nat} {t₀ : Sent} (status : TxStatus),
      w.sent[n]? = some t → w.sent[m]? = some t₀ → t₀.status = .pending →
        ∃ status', (w.setStatus m t₀ status).sent[n]? = some { t with status := status' } ∧
          (t.status ≠ .pending → status' = t.status) := by
    intro w m t₀ status hn hm hpending
    rw [World.getElem?_setStatus hm]
    split
    · next heq =>
      rw [← heq, hm] at hn
      obtain rfl := Option.some.inj hn
      exact ⟨status, rfl, fun hne => absurd hpending hne⟩
    · exact ⟨t.status, hn, fun _ => rfl⟩
  cases h with
  | mined m sent pending commits => exact hset .mined hget sent pending
  | dropped m sent pending => exact hset .dropped hget sent pending
  | chain | ledger | clock => exact ⟨t.status, hget, fun _ => rfl⟩

theorem World.answers_sent {i : Nat} {o : Op} {x : Except JsError o.Answer}
    (h : w.answers env i o x w') (hget : w.sent[n]? = some t) : w'.sent[n]? = some t := by
  rcases World.answers_cases h with rfl | ⟨_, _, _, rfl⟩ | ⟨_, _, -, -, rfl⟩
  · exact hget
  · exact hget
  · exact (List.getElem?_append_left (List.getElem?_eq_some_iff.mp hget).1).trans hget

/-- The contract moves by a step of its chain. -/
theorem step_evm (hstep : Step (service env) admits p p') :
    p'.state.evm = p.state.evm ∨ Evm.Step env.ch p.state.evm p'.state.evm := by
  cases hstep with
  | start => exact .inl rfl
  | resume i hat hans =>
      rcases World.answers_cases hans with rfl | ⟨_, _, _, rfl⟩ | ⟨_, _, -, -, rfl⟩
        <;> exact .inl rfl
  | outside hmove => exact hmove.evm

/-- What is mined after a step was mined before, or is pending no more. -/
theorem step_mined (hstep : Step (service env) admits p p') (hget : p'.state.sent[n]? = some t')
    (hmined : t'.status = .mined) :
    p.state.sent[n]? = some t' ∨ ∃ t, p.state.sent[n]? = some t ∧ t.status = .pending ∧
      t' = { t with status := .mined } ∧
        Reentrancy.Commits (Evm.contract env.ch) (env.tx t.fn) p.state.evm p'.state.evm := by
  cases hstep with
  | start => exact .inl hget
  | resume i hat hans =>
      rcases World.answers_cases hans with rfl | ⟨_, _, _, rfl⟩ | ⟨_, _, -, -, rfl⟩
      · exact .inl hget
      · exact .inl hget
      · left
        simp only [World.broadcast, List.getElem?_append] at hget
        split at hget
        · exact hget
        · obtain rfl := List.mem_singleton.mp (List.mem_of_getElem? hget)
          cases hmined
  | outside hmove => exact hmove.mined_cases hget hmined

/-- What was mined stays mined. -/
theorem step_stays_mined (hstep : Step (service env) admits p p')
    (hget : p.state.sent[n]? = some t) (hmined : t.status = .mined) :
    p'.state.sent[n]? = some t := by
  cases hstep with
  | start => exact hget
  | resume i hat hans => exact World.answers_sent hans hget
  | outside hmove =>
      obtain ⟨status, hget', hsame⟩ := hmove.sent_kept hget
      rw [hget', hsame (by simp [hmined])]

theorem step_deliverer (htraced : Traced env p) (hstep : Step (service env) admits p p')
    (ht : t ∈ p.state.sent) : deliverer ev p' t = deliverer ev p t := by
  obtain ⟨c, call, hget, -⟩ := htraced t ht
  obtain ⟨c', hget', hreq⟩ := hstep.request hget
  rw [deliverer, deliverer, hget, hget']
  exact congrArg (Request.deliverer ev) hreq

/-- The settlement stays with whom it has paid. -/
theorem step_settledTo (h : Evm.Reachable env.ch p.state.evm)
    (hstep : Step (service env) admits p p') {r : Nat} {account : Address}
    (hpaid : Evm.SettledTo p.state.evm r account) : Evm.SettledTo p'.state.evm r account := by
  rcases step_evm hstep with hsame | hmove
  · rw [hsame]
    exact hpaid
  · exact hpaid.step h.valid hmove

/-- Every settlement that was mined has paid somebody. -/
def Settlements (p : Calls) : Prop :=
  ∀ t ∈ p.state.sent, t.status = .mined → ∀ r, t.fn.settles = some r →
    ∃ account, Evm.SettledTo p.state.evm r account

theorem Settlements.step (hs : Settlements p) (h : Evm.Reachable env.ch p.state.evm)
    (hstep : Step (service env) admits p p') : Settlements p' := by
  intro t' ht' hmined r hr
  obtain ⟨n, hget⟩ := List.mem_iff_getElem?.mp ht'
  rcases step_mined hstep hget hmined with hold | ⟨t, hold, -, rfl, commits⟩
  · obtain ⟨account, hpaid⟩ := hs t' (List.mem_of_getElem? hold) hmined r hr
    exact ⟨account, step_settledTo h hstep hpaid⟩
  · exact ⟨_, (h.settledTo commits hr).2⟩

/-- **One step** of a run: all settlements pay the solver of their DTO after
it exactly if they did before, and it mines none while another holds the
claim. -/
theorem paysDeliverer_step_iff (htraced : Traced env p) (h : Evm.Reachable env.ch p.state.evm)
    (hs : Settlements p) (hstep : Step (service env) admits p p') :
    PaysDeliverer ev p' ↔ PaysDeliverer ev p ∧ MinedInHand ev p p' := by
  constructor
  · intro hpays
    refine ⟨fun t ht hmined r hr => ?_, fun n t t' hget hpending hget' hmined r hr => ?_⟩
    · obtain ⟨n, hget⟩ := List.mem_iff_getElem?.mp ht
      have ht' := List.mem_of_getElem? (step_stays_mined hstep hget hmined)
      obtain ⟨solver, hdeliverer, hpaid⟩ := hpays t ht' hmined r hr
      obtain ⟨account, hwas⟩ := hs t ht hmined r hr
      rw [step_deliverer htraced hstep ht] at hdeliverer
      rw [(step_settledTo h hstep hwas).unique hpaid] at hwas
      exact ⟨solver, hdeliverer, hwas⟩
    · rcases step_mined hstep hget' hmined with hold | ⟨t₀, hold, -, rfl, commits⟩
      · rw [hget] at hold
        obtain rfl := Option.some.inj hold
        rw [hpending] at hmined
        cases hmined
      · rw [hget] at hold
        obtain rfl := Option.some.inj hold
        obtain ⟨solver, hdeliverer, hpaid⟩ := hpays _ (List.mem_of_getElem? hget') rfl r hr
        rw [(h.settledTo commits hr).2.unique hpaid]
        exact (step_deliverer htraced hstep (List.mem_of_getElem? hget)).symm.trans hdeliverer
  · rintro ⟨hpays, hhand⟩ t' ht' hmined r hr
    obtain ⟨n, hget'⟩ := List.mem_iff_getElem?.mp ht'
    rcases step_mined hstep hget' hmined with hold | ⟨t, hget, hpending, rfl, commits⟩
    · have ht := List.mem_of_getElem? hold
      obtain ⟨solver, hdeliverer, hpaid⟩ := hpays t' ht hmined r hr
      exact ⟨solver, (step_deliverer htraced hstep ht).trans hdeliverer,
        step_settledTo h hstep hpaid⟩
    · have ht := List.mem_of_getElem? hget
      have hdeliverer := hhand n t _ hget hpending hget' hmined r hr
      exact ⟨_, (step_deliverer htraced hstep ht).trans hdeliverer,
        (h.settledTo commits hr).2⟩

/-! ## Runs -/

theorem Run.evm (h₀ : Evm.Reachable env.ch w₀.evm)
    (hrun : Run (service env) admits (.idle w₀) p) : Evm.Reachable env.ch p.state.evm := by
  induction hrun with
  | refl => exact h₀
  | tail _ hstep ih =>
      rcases step_evm hstep with hsame | hmove
      · rw [hsame]
        exact ih
      · exact ih.step hmove

theorem Run.settlements (h₀ : w₀.sent = []) (hevm : Evm.Reachable env.ch w₀.evm)
    (hrun : Run (service env) admits (.idle w₀) p) : Settlements p := by
  induction hrun with
  | refl =>
      intro t ht
      simp [Pool.idle, h₀] at ht
  | tail hrun hstep ih => exact ih.step (Run.evm hevm hrun) hstep

/-- A run that mines settlements only while the solver of their DTO holds
the claim. -/
abbrev RunInHand (env : Setup) (ev : Evidence) : Calls → Calls → Prop :=
  Relation.ReflTransGen fun p p' =>
    Step (service env) (fun _ _ => True) p p' ∧ MinedInHand ev p p'

theorem RunInHand.run (hrun : RunInHand env ev p p') :
    Run (service env) (fun _ _ => True) p p' :=
  Relation.ReflTransGen.mono (fun _ _ h => h.1) _ _ hrun

theorem RunInHand.paysDeliverer (h₀ : w₀.sent = []) (hevm : Evm.Reachable env.ch w₀.evm)
    (hrun : RunInHand env ev (.idle w₀) p) : PaysDeliverer ev p := by
  induction hrun with
  | refl =>
      intro t ht
      simp [Pool.idle, h₀] at ht
  | tail hrun hstep ih =>
      have hrun := RunInHand.run hrun
      exact (paysDeliverer_step_iff (Run.traced h₀ hrun) (Run.evm hevm hrun)
        (Run.settlements h₀ hevm hrun) hstep.1).mpr ⟨ih, hstep.2⟩

/-- **Settlement pays who delivered** in those states of a run, whatever
others do meanwhile, that are reached without mining a settlement while
another holds the claim. -/
theorem settlement_pays_deliverer (h₀ : w₀.sent = []) (hevm : Evm.Reachable env.ch w₀.evm)
    (hrun : Run (service env) (fun _ _ => True) (.idle w₀) p) :
    PaysDeliverer ev p ↔ RunInHand env ev (.idle w₀) p := by
  refine ⟨fun hpays => ?_, RunInHand.paysDeliverer h₀ hevm⟩
  induction hrun with
  | refl => exact .refl
  | tail hrun hstep ih =>
      have hwas := (paysDeliverer_step_iff (Run.traced h₀ hrun) (Run.evm hevm hrun)
        (Run.settlements h₀ hevm hrun) hstep).mp hpays
      exact (ih hwas.1).tail ⟨hstep, hwas.2⟩

/-! ### A claim that expired -/

namespace Sample

/-- The solvers 5 and 6 have claimed with these transactions; 6 delivered. -/
def evidence (delivered : Address) : Evidence where
  claimTx := fun hash =>
    if hash = "0x05" then some (1, 5) else if hash = "0x06" then some (1, 6) else none
  transfer := fun sig => if sig = signature then some delivered else none

/-- Settle request 1 for the solver of this claim transaction. -/
def settleFor (ethClaimTxHash : String) : Request :=
  .evmToSol { settle "1" with ethClaimTxHash := ethClaimTxHash }

/-- The solver 6 claims. -/
def claimedBySix : Option Evm.State :=
  Evm.Sample.after [Evm.Sample.call 3 0 (.authorizeNode 5) Evm.Sample.owner_ne,
    Evm.Sample.call 3 0 (.authorizeNode 6) Evm.Sample.owner_ne,
    Evm.Sample.call 4 0 (.initiateBridge 9 (10 ^ 18) 77 []) Evm.Sample.user_ne,
    Evm.Sample.call 6 (2 * 10 ^ 16) (.claimBridge 1) (by decide)]

/-- The claim has expired, and 5 takes over. -/
def takenOver : Option Evm.State :=
  claimedBySix.bind fun s => Evm.runAccepting [Evm.Sample.takeover] { s with now := 2200 }

/-- The pool after one call for the solver of this claim transaction. -/
def settled (ethClaimTxHash : String) (clock : Nat) (evm : Evm.State) : Calls :=
  served [settleFor ethClaimTxHash] { world paid evm with clock := clock }

/-- Its one transaction has settled request 1 and paid the solver 5. -/
def PaidFive (p : Calls) : Prop :=
  p.state.sent.map (fun t => (t.caller, t.fn.settles, t.status)) = [(0, some 1, .mined)] ∧
    (Evm.payouts 1 p.state.evm.log).map (fun paid => paid.2.1) = [5]

instance (p : Calls) : Decidable (PaidFive p) :=
  inferInstanceAs (Decidable (_ ∧ _))

theorem settled_run {hash : String} {clock : Nat} {evm : Evm.State} :
    Run (service setup) (fun _ _ => True) (.idle { world paid evm with clock := clock })
      (settled hash clock evm) :=
  run_served _

/-- Whether it pays the solver of the DTO is whether that is 5. -/
theorem paysDeliverer_settled {hash : String} {clock : Nat} {evm : Evm.State} {ev : Evidence}
    (hevm : Evm.Reachable setup.ch evm) (h : PaidFive (settled hash clock evm)) :
    PaysDeliverer ev (settled hash clock evm) ↔ (settleFor hash).deliverer ev = some (1, 5) := by
  have hsent : ∀ t ∈ (settled hash clock evm).state.sent,
      t.caller = 0 ∧ t.fn.settles = some 1 ∧ t.status = .mined := by
    intro t ht
    have hmem := List.mem_map_of_mem (f := fun t : Sent => (t.caller, t.fn.settles, t.status)) ht
    rw [h.1] at hmem
    simpa using hmem
  have hfive : ∀ account, Evm.SettledTo (settled hash clock evm).state.evm 1 account →
      account = 5 := fun account hpaid => List.singleton_inj.mp (hpaid.recipients.symm.trans h.2)
  have hdeliverer : ∀ t ∈ (settled hash clock evm).state.sent,
      deliverer ev (settled hash clock evm) t = (settleFor hash).deliverer ev := by
    intro t ht
    obtain ⟨c, hget, hreq⟩ : ∃ c, (settled hash clock evm).calls[0]? = some c ∧
        c.request = settleFor hash := call_served rfl
    rw [deliverer, (hsent t ht).1, hget, ← hreq]
  constructor
  · intro hpays
    obtain ⟨t, ht⟩ : ∃ t, t ∈ (settled hash clock evm).state.sent := by
      refine List.exists_mem_of_ne_nil _ fun hnil => ?_
      have hone := h.1
      rw [hnil] at hone
      cases hone
    obtain ⟨-, hr, hmined⟩ := hsent t ht
    obtain ⟨solver, hsolver, hpaid⟩ := hpays t ht hmined 1 hr
    rw [← hdeliverer t ht, hsolver, hfive solver hpaid]
  · intro hfor t ht hmined r hr
    obtain rfl : 1 = r := Option.some.inj ((hsent t ht).2.1.symm.trans hr)
    obtain ⟨account, hpaid⟩ := Run.settlements rfl hevm settled_run t ht hmined 1 hr
    obtain rfl := hfive account hpaid
    exact ⟨5, (hdeliverer t ht).trans hfor, hpaid⟩

theorem takenOver_reachable {evm : Evm.State} (h : takenOver = some evm) :
    Evm.Reachable setup.ch evm := by
  obtain ⟨s, hs, hrun⟩ := Option.bind_eq_some_iff.mp h
  have hnow : claimedBySix.map (fun s => decide (s.now ≤ 2200)) = some true := by decide +kernel
  rw [hs] at hnow
  have hlater : s.now ≤ 2200 := of_decide_eq_true (Option.some.inj hnow)
  exact ((Evm.Sample.reachable_after hs).step (.tick s 2200 hlater)).runAccepting hrun

end Sample

/-- The claim did not change hands, and 5 delivered. -/
theorem settlement_pays_deliverer_first : ∃ w p, w.sent = [] ∧
    Run (service Sample.setup) (fun _ _ => True) (.idle w) p ∧ Sample.PaidFive p ∧
      RunInHand Sample.setup (Sample.evidence 5) (.idle w) p := by
  have hfive : Sample.PaidFive (Sample.settled "0x05" 1000000 Evm.Sample.claimed) := by
    decide +kernel
  have hpays : PaysDeliverer (Sample.evidence 5)
      (Sample.settled "0x05" 1000000 Evm.Sample.claimed) :=
    (Sample.paysDeliverer_settled Evm.Sample.claimed_reachable hfive).mpr (by decide)
  exact ⟨_, _, rfl, Sample.settled_run, hfive, (settlement_pays_deliverer rfl
    Evm.Sample.claimed_reachable Sample.settled_run).mp hpays⟩

/-- The solver 6 has delivered, and 5 is paid. -/
theorem takeover_paid : ¬ ∀ (env : Setup) (ev : Evidence) (w₀ : World) (p : Calls),
    w₀.sent = [] → Evm.Reachable env.ch w₀.evm →
    Run (service env) (fun _ _ => True) (.idle w₀) p → PaysDeliverer ev p := by
  intro hall
  have hfive : (Sample.takenOver.map fun evm =>
      decide (Sample.PaidFive (Sample.settled "0x06" 2200000 evm))) = some true := by
    decide +kernel
  obtain ⟨evm, htaken, hfive⟩ := Option.map_eq_some_iff.mp hfive
  have hevm := Sample.takenOver_reachable htaken
  have hrun : Run (service Sample.setup) (fun _ _ => True) _
      (Sample.settled "0x06" 2200000 evm) := Sample.settled_run
  have hpays := hall Sample.setup (Sample.evidence 6) _ _ rfl hevm hrun
  have hfor := (Sample.paysDeliverer_settled hevm (of_decide_eq_true hfive)).mp hpays
  exact absurd hfor (by decide)

end LunarysBridge.Relayer
