/-
LunarysBridge.Fhevm.Schedule — what `useFhevm` comes to when nothing is left
to happen, and how much it does at once.

An effect runs if a dependency has changed, so what is still wanted must be
visible in the dependencies: as long as the hook is running, has a provider
and has no controller, its main effect is due or will be after the next
render (`Scheduled.wanted`). And it runs a second time under one controller
only if the counter was raised by the effects of the same render, which no
later render repeats (`Crowded`).
-/
import LunarysBridge.Fhevm.Assertions

namespace LunarysBridge.Fhevm

variable {ι ε : Type} {creates : Creation → Except ε ι → Prop}
  {calls : Hook ι ε → Option Provider → Option Nat → Prop} {h h' : Hook ι ε} {c : Creation}
  {provider : Option Provider} {chainId : Option Nat}

/-! ## What each function leaves alone -/

/-- All that decides which effects run, except the controller. -/
structure SameSchedule (h h' : Hook ι ε) : Prop where
  props : h'.props = h.props
  rendered : h'.rendered = h.rendered
  due : h'.due = h.due
  isRunning : h'.queued.isRunning = h.queued.isRunning
  providerChanged : h'.queued.providerChanged = h.queued.providerChanged
  providerRef : h'.providerRef = h.providerRef
  chainIdRef : h'.chainIdRef = h.chainIdRef

theorem sameSchedule_set (h : Hook ι ε) (i : Option ι) (e : Option (JsError ε))
    (status : FhevmGoState) : SameSchedule h (h.set i e status) :=
  ⟨rfl, rfl, rfl, rfl, rfl, rfl, rfl⟩

theorem sameSchedule_add (h : Hook ι ε) (c : Creation) (signals : Signals) :
    SameSchedule h (h.add c signals) := ⟨rfl, rfl, rfl, rfl, rfl, rfl, rfl⟩

theorem sameSchedule_cancel (h : Hook ι ε) : SameSchedule h h.cancel := by
  rw [cancel_eq, stop_rest]
  exact ⟨rfl, rfl, rfl, rfl, rfl, rfl, rfl⟩

/-- What `refresh` makes of the schedule. -/
structure Refreshed (provider : Option Provider) (chainId : Option Nat) (h h' : Hook ι ε) :
    Prop where
  props : h'.props = h.props
  rendered : h'.rendered = h.rendered
  due : h'.due = h.due
  isRunning : h'.queued.isRunning = h.queued.isRunning
  providerChanged : h'.queued.providerChanged =
    h.queued.providerChanged + if provider.isSome then 1 else 0
  providerRef : h'.providerRef = provider
  chainIdRef : h'.chainIdRef = chainId
  controller : h'.abortControllerRef = none

theorem refreshed_refresh (provider : Option Provider) (chainId : Option Nat) (h : Hook ι ε) :
    Refreshed provider chainId h (h.refresh provider chainId) := by
  rw [refresh_eq]
  unfold Hook.renew
  rw [stop_rest]
  split
  · next hsome => exact ⟨rfl, rfl, rfl, rfl, by rw [if_pos hsome]; rfl, rfl, rfl, rfl⟩
  · next hnone => exact ⟨rfl, rfl, rfl, rfl, by rw [if_neg hnone]; rfl, rfl, rfl, rfl⟩

/-! ## What is wanted is due -/

structure Scheduled (h : Hook ι ε) : Prop where
  /-- The counter only grows. -/
  counted : h.rendered.providerChanged ≤ h.queued.providerChanged
  /-- A hook that does not run has no controller, or is about to drop it. -/
  running : h.abortControllerRef.isSome = true → h.rendered.isRunning = true ∨ h.due.main = true
  /-- The flag changes with the effects only. -/
  synced : h.due ≠ .nothing → h.queued.isRunning = h.rendered.isRunning
  wanted : h.abortControllerRef = none → h.providerRef.isSome = true →
    h.queued.isRunning = true → h.due.main = true ∨ h.rendered.isRunning = false ∨
      h.rendered.providerChanged < h.queued.providerChanged
  enabled : h.due.enabled = true ∨ h.queued.isRunning = h.props.isEnabled

theorem due_ne_nothing {d : Due} (h : d.refresh = true ∨ d.enabled = true ∨ d.main = true) :
    d ≠ .nothing := by
  rintro rfl
  revert h
  decide

theorem Scheduled.refresh (hs : Scheduled h) : Scheduled (h.refresh provider chainId) := by
  have hr := refreshed_refresh provider chainId h
  constructor
  · rw [hr.rendered, hr.providerChanged]
    exact Nat.le_add_right_of_le hs.counted
  · intro hsome
    rw [hr.controller] at hsome
    cases hsome
  · rw [hr.due, hr.isRunning, hr.rendered]
    exact hs.synced
  · intro _ hsome _
    rw [hr.providerRef] at hsome
    rw [hr.rendered, hr.providerChanged, if_pos hsome]
    exact .inr (.inr (Nat.lt_succ_of_le hs.counted))
  · rw [hr.due, hr.isRunning, hr.props]
    exact hs.enabled

theorem Scheduled.render (hs : Scheduled h) (hflushed : h.due = .nothing) (props : Props) :
    Scheduled (h.render props) where
  counted := Nat.le_refl _
  running := by
    intro hsome
    have hrunning : h.rendered.isRunning = true := by
      rcases hs.running hsome with hrunning | hmain
      · exact hrunning
      · rw [hflushed] at hmain
        cases hmain
    cases hqueued : h.queued.isRunning with
    | true => exact .inl hqueued
    | false => exact .inr (decide_eq_true (.inl (by simp [hqueued, hrunning])))
  synced := fun _ => rfl
  wanted := by
    intro hnone hsome hrunning
    have hqueued : h.queued.isRunning = true := hrunning
    refine .inl (decide_eq_true ?_)
    rcases hs.wanted hnone hsome hqueued with hmain | hstopped | hlt
    · rw [hflushed] at hmain
      cases hmain
    · exact .inl (by simp [hqueued, hstopped])
    · exact .inr (Nat.ne_of_gt hlt)
  enabled := by
    have hbefore : h.queued.isRunning = h.props.isEnabled := by
      rcases hs.enabled with henabled | heq
      · rw [hflushed] at henabled
        cases henabled
      · exact heq
    by_cases heq : props.isEnabled = h.props.isEnabled
    · exact .inr (hbefore.trans heq.symm)
    · exact .inl (decide_eq_true heq)

/-- What the first two effects make of the schedule. -/
structure Settled (h h' : Hook ι ε) : Prop where
  props : h'.props = h.props
  rendered : h'.rendered = h.rendered
  due : h'.due = h.due
  isRunning : h'.queued.isRunning =
    if h.due.enabled then h.props.isEnabled else h.queued.isRunning
  kept : h.due.refresh = false → h'.abortControllerRef = h.abortControllerRef ∧
    h'.providerRef = h.providerRef ∧ h'.chainIdRef = h.chainIdRef ∧
    h'.queued.providerChanged = h.queued.providerChanged ∧
    h'.creations = h.creations ∧ h'.signals = h.signals
  renewed : h.due.refresh = true → h'.abortControllerRef = none ∧
    h'.providerRef = h.props.provider ∧ h'.chainIdRef = h.props.chainId ∧
    h'.queued.providerChanged = h.queued.providerChanged +
      if h.props.provider.isSome then 1 else 0

theorem settled_enabled (h : Hook ι ε) : Settled h h.refreshed.enabled := by
  have hr := refreshed_refresh h.props.provider h.props.chainId h
  cases hrefresh : h.due.refresh with
  | false =>
      have hsame : h.refreshed = h := by simp [Hook.refreshed, hrefresh]
      rw [hsame]
      unfold Hook.enabled
      split
      · next henabled =>
        exact ⟨rfl, rfl, rfl, by rw [if_pos henabled]; rfl, fun _ => ⟨rfl, rfl, rfl, rfl, rfl, rfl⟩,
          fun htrue => by rw [hrefresh] at htrue; cases htrue⟩
      · next henabled =>
        exact ⟨rfl, rfl, rfl, by rw [if_neg henabled], fun _ => ⟨rfl, rfl, rfl, rfl, rfl, rfl⟩,
          fun htrue => by rw [hrefresh] at htrue; cases htrue⟩
  | true =>
      have hsame : h.refreshed = h.refresh h.props.provider h.props.chainId := by
        simp [Hook.refreshed, hrefresh]
      rw [hsame]
      have hfalse : h.due.refresh = false → False := by
        rw [hrefresh]
        exact Bool.noConfusion
      unfold Hook.enabled
      rw [hr.due, hr.props]
      split
      · next henabled =>
        exact ⟨hr.props, hr.rendered, hr.due, by rw [if_pos henabled]; rfl,
          fun hno => (hfalse hno).elim,
          fun _ => ⟨hr.controller, hr.providerRef, hr.chainIdRef, hr.providerChanged⟩⟩
      · next henabled =>
        exact ⟨hr.props, hr.rendered, hr.due, by rw [if_neg henabled]; exact hr.isRunning,
          fun hno => (hfalse hno).elim,
          fun _ => ⟨hr.controller, hr.providerRef, hr.chainIdRef, hr.providerChanged⟩⟩

/-- What is still wanted after the first two effects. -/
theorem Scheduled.settled (hs : Scheduled h) (hset : Settled h h')
    (hnone : h'.abortControllerRef = none) (hsome : h'.providerRef.isSome = true)
    (hrunning : h'.queued.isRunning = true) :
    h.due.main = true ∨ h.rendered.isRunning = false ∨
      h.rendered.providerChanged < h'.queued.providerChanged := by
  cases hrefresh : h.due.refresh with
  | true =>
      obtain ⟨-, hprovider, -, hchanged⟩ := hset.renewed hrefresh
      rw [hprovider] at hsome
      rw [hchanged, if_pos hsome]
      exact .inr (.inr (Nat.lt_succ_of_le hs.counted))
  | false =>
      obtain ⟨hcontroller, hprovider, -, hchanged, -⟩ := hset.kept hrefresh
      rw [hcontroller] at hnone
      rw [hprovider] at hsome
      rw [hset.isRunning] at hrunning
      rw [hchanged]
      cases henabled : h.due.enabled with
      | false =>
          rw [henabled] at hrunning
          exact hs.wanted hnone hsome hrunning
      | true =>
          have hsynced := hs.synced (due_ne_nothing (.inr (.inl henabled)))
          cases hrendered : h.rendered.isRunning with
          | false => exact .inr (.inl rfl)
          | true =>
              rcases hs.wanted hnone hsome (hsynced.trans hrendered) with hmain | hstopped | hlt
              · exact .inl hmain
              · rw [hrendered] at hstopped
                cases hstopped
              · exact .inr (.inr hlt)

theorem Settled.counted (hset : Settled h h')
    (hle : h.rendered.providerChanged ≤ h.queued.providerChanged) :
    h.rendered.providerChanged ≤ h'.queued.providerChanged := by
  cases hrefresh : h.due.refresh with
  | true =>
      obtain ⟨-, -, -, hchanged⟩ := hset.renewed hrefresh
      rw [hchanged]
      exact Nat.le_add_right_of_le hle
  | false =>
      obtain ⟨-, -, -, hchanged, -⟩ := hset.kept hrefresh
      rw [hchanged]
      exact hle

theorem Settled.enabled (hset : Settled h h') (hs : Scheduled h) :
    h'.queued.isRunning = h.props.isEnabled := by
  rw [hset.isRunning]
  cases henabled : h.due.enabled with
  | true => rfl
  | false =>
      rcases hs.enabled with htrue | heq
      · rw [henabled] at htrue
        cases htrue
      · exact heq

/-- The effects ran, and the controller is as the main effect leaves it. -/
theorem Scheduled.flushed {h₁ h₂ : Hook ι ε} (hs : Scheduled h) (hset : Settled h h₁)
    (hsame : SameSchedule h₁ h₂)
    (hcontroller : h₂.abortControllerRef.isSome = true → h.rendered.isRunning = true)
    (hwanted : h₂.abortControllerRef = none → h₂.providerRef.isSome = true →
      h₂.queued.isRunning = true →
      h.rendered.isRunning = false ∨ h.rendered.providerChanged < h₂.queued.providerChanged) :
    Scheduled { h₂ with due := .nothing } where
  counted := by
    show h₂.rendered.providerChanged ≤ h₂.queued.providerChanged
    rw [hsame.rendered, hset.rendered, hsame.providerChanged]
    exact hset.counted hs.counted
  running := by
    intro hsome
    show h₂.rendered.isRunning = true ∨ _
    rw [hsame.rendered, hset.rendered]
    exact .inl (hcontroller hsome)
  synced := fun hne => absurd rfl hne
  wanted := by
    intro hnone hsome hrunning
    show _ ∨ h₂.rendered.isRunning = false ∨
      h₂.rendered.providerChanged < h₂.queued.providerChanged
    rw [hsame.rendered, hset.rendered]
    exact .inr (hwanted hnone hsome hrunning)
  enabled := by
    show _ ∨ h₂.queued.isRunning = h₂.props.isEnabled
    rw [hsame.isRunning, hsame.props, hset.props]
    exact .inr (hset.enabled hs)

theorem Scheduled.effects (hs : Scheduled h) (hsound : Sound creates h)
    (heffects : h.effects = .ok h') : Scheduled h' := by
  have hset : Settled h h.refreshed.enabled := settled_enabled h
  have hsettings : Sound creates h.refreshed.enabled := hsound.refreshed.enabled
  unfold Hook.effects at heffects
  dsimp only at heffects
  split at heffects
  · next hmain =>
    rcases hsettings.main_cases with ⟨hstopped, heq⟩ | ⟨hrunning, hprovider, -, heq⟩ |
      ⟨hrunning, c, signals, heq, -⟩
    · rw [heq] at heffects
      cases heffects
      rw [hset.rendered] at hstopped
      refine hs.flushed hset (sameSchedule_cancel _) ?_ ?_
      · intro hsome
        rw [cancel_eq] at hsome
        have hnone := stop_abortControllerRef h.refreshed.enabled
        change h.refreshed.enabled.stop.abortControllerRef.isSome = true at hsome
        rw [hnone] at hsome
        cases hsome
      · exact fun _ _ _ => .inl hstopped
    · rw [heq] at heffects
      cases heffects
      rw [hset.rendered] at hrunning
      refine hs.flushed hset (sameSchedule_set _ _ _ _) (fun _ => hrunning) ?_
      intro _ hsome _
      have hsome' : h.refreshed.enabled.providerRef.isSome = true := hsome
      rw [hprovider] at hsome'
      cases hsome'
    · rw [heq] at heffects
      cases heffects
      rw [hset.rendered] at hrunning
      refine hs.flushed hset (sameSchedule_add _ _ _) (fun _ => hrunning) ?_
      intro hnone _ _
      cases hnone
  · next hmain =>
    cases heffects
    have hnotdue : ¬ h.due.main = true := by
      rw [← hset.due]
      exact hmain
    refine hs.flushed hset ⟨rfl, rfl, rfl, rfl, rfl, rfl, rfl⟩ ?_ ?_
    · intro hsome
      cases hrefresh : h.due.refresh with
      | true =>
          rw [(hset.renewed hrefresh).1] at hsome
          cases hsome
      | false =>
          rw [(hset.kept hrefresh).1] at hsome
          exact (hs.running hsome).resolve_right hnotdue
    · intro hnone hsome hrunning
      exact (hs.settled hset hnone hsome hrunning).resolve_left hnotdue

theorem Scheduled.same (hs : Scheduled h) (hsame : SameSchedule h h')
    (hcontroller : h'.abortControllerRef = h.abortControllerRef) : Scheduled h' where
  counted := by
    rw [hsame.rendered, hsame.providerChanged]
    exact hs.counted
  running := by
    rw [hcontroller, hsame.rendered, hsame.due]
    exact hs.running
  synced := by
    rw [hsame.due, hsame.isRunning, hsame.rendered]
    exact hs.synced
  wanted := by
    rw [hcontroller, hsame.providerRef, hsame.isRunning, hsame.due, hsame.rendered,
      hsame.providerChanged]
    exact hs.wanted
  enabled := by
    rw [hsame.due, hsame.isRunning, hsame.props]
    exact hs.enabled

theorem scheduled_mount (props : Props) : Scheduled (mount props : Hook ι ε) where
  counted := Nat.le_refl _
  running := fun hsome => by cases hsome
  synced := fun _ => rfl
  wanted := fun _ _ _ => .inl rfl
  enabled := .inl rfl

theorem Scheduled.step (hs : Scheduled h) (hsound : Sound creates h)
    (hstep : Step creates calls h (.ok h')) : Scheduled h' := by
  generalize hr : (Except.ok h' : Except (JsError ε) (Hook ι ε)) = r at hstep
  cases hstep with
  | render props flushed =>
      cases hr
      exact hs.render flushed props
  | effects => exact hs.effects hsound hr.symm
  | refresh provider chainId called =>
      cases hr
      exact hs.refresh
  | settle n result pending settles =>
      rcases hsound.settle_cases pending settles with ⟨-, hsettle⟩ | ⟨-, i, e, status, hsettle, -⟩
      · cases hr.trans hsettle
        exact hs.same ⟨rfl, rfl, rfl, rfl, rfl, rfl, rfl⟩ rfl
      · cases hr.trans hsettle
        exact hs.same ⟨rfl, rfl, rfl, rfl, rfl, rfl, rfl⟩ rfl

theorem Reachable.scheduled (hreach : Reachable creates calls h) : Scheduled h := by
  induction hreach with
  | mount props => exact scheduled_mount props
  | step before next ih => exact ih.step before.sound next

/-! ## The provider of the last render -/

/-- The hook works for the parameters of the last render, or is about to. -/
def Current (h : Hook ι ε) : Prop :=
  h.due.refresh = true ∨ (h.providerRef = h.props.provider ∧ h.chainIdRef = h.props.chainId)

theorem Current.effects (hc : Current h) (hsound : Sound creates h)
    (heffects : h.effects = .ok h') : Current h' := by
  have hset : Settled h h.refreshed.enabled := settled_enabled h
  have hsettings : Sound creates h.refreshed.enabled := hsound.refreshed.enabled
  have hrefs : h.refreshed.enabled.providerRef = h.props.provider ∧
      h.refreshed.enabled.chainIdRef = h.props.chainId := by
    cases hrefresh : h.due.refresh with
    | true => exact ⟨(hset.renewed hrefresh).2.1, (hset.renewed hrefresh).2.2.1⟩
    | false =>
        obtain ⟨-, hprovider, hchainId, -⟩ := hset.kept hrefresh
        rw [hprovider, hchainId]
        exact hc.resolve_left (by simp [hrefresh])
  have hflushed : ∀ h₂, SameSchedule h.refreshed.enabled h₂ →
      Current ({ h₂ with due := .nothing } : Hook ι ε) := by
    intro h₂ hsame
    refine .inr ?_
    show h₂.providerRef = h₂.props.provider ∧ h₂.chainIdRef = h₂.props.chainId
    rw [hsame.providerRef, hsame.chainIdRef, hsame.props, hset.props]
    exact hrefs
  unfold Hook.effects at heffects
  dsimp only at heffects
  split at heffects
  · rcases hsettings.main_cases with ⟨-, heq⟩ | ⟨-, -, -, heq⟩ | ⟨-, c, signals, heq, -⟩
    · rw [heq] at heffects
      cases heffects
      exact hflushed _ (sameSchedule_cancel _)
    · rw [heq] at heffects
      cases heffects
      exact hflushed _ (sameSchedule_set _ _ _ _)
    · rw [heq] at heffects
      cases heffects
      exact hflushed _ (sameSchedule_add _ _ _)
  · cases heffects
    exact hflushed _ ⟨rfl, rfl, rfl, rfl, rfl, rfl, rfl⟩

theorem Current.step (hc : Current h) (hsound : Sound creates h)
    (hstep : Step creates latest h (.ok h')) : Current h' := by
  generalize hr : (Except.ok h' : Except (JsError ε) (Hook ι ε)) = r at hstep
  cases hstep with
  | render props flushed =>
      cases hr
      have hbefore := hc.resolve_left (by simp [flushed, Due.nothing])
      by_cases hchanged : props.provider ≠ h.props.provider ∨ props.chainId ≠ h.props.chainId
      · exact .inl (decide_eq_true hchanged)
      · obtain ⟨hprovider, hchainId⟩ := not_or.mp hchanged
        exact .inr ⟨hbefore.1.trans (not_not.mp hprovider).symm,
          hbefore.2.trans (not_not.mp hchainId).symm⟩
  | effects => exact hc.effects hsound hr.symm
  | refresh provider chainId called =>
      cases hr
      have hr := refreshed_refresh provider chainId h
      refine .inr ?_
      rw [hr.providerRef, hr.chainIdRef, hr.props]
      exact called
  | settle n result pending settles =>
      rcases hsound.settle_cases pending settles with ⟨-, hsettle⟩ | ⟨-, i, e, status, hsettle, -⟩
      · cases hr.trans hsettle
        exact hc
      · cases hr.trans hsettle
        exact hc

theorem Reachable.current (hreach : Reachable creates latest h) : Current h := by
  induction hreach with
  | mount props => exact .inl rfl
  | step before next ih => exact ih.step before.sound next

/-! ## How many creations there are at once -/

/-- How many of the pending creations may still do something. -/
def Hook.live (h : Hook ι ε) : Nat := h.creations.countP fun c => !h.signals.aborted c.signal

/-- Where two are live the main effect will not start a third. -/
structure Crowded (h : Hook ι ε) : Prop where
  bound : h.live ≤ 2
  counters : h.due ≠ .nothing → 1 ≤ h.live →
    h.rendered.providerChanged = h.queued.providerChanged
  full : 2 ≤ h.live → h.rendered.providerChanged = h.queued.providerChanged ∧
    (h.due.main = true → h.rendered.isRunning = false)

theorem Sound.live_stop (hs : Sound creates h) : h.stop.live = 0 := by
  unfold Hook.live
  rw [stop_creations, List.countP_eq_zero]
  intro c hc hlive
  exact hs.stop_not_live hc (by simpa [Hook.Live] using hlive)

theorem Sound.live_of_none (hs : Sound creates h) (hnone : h.abortControllerRef = none) :
    h.live = 0 := by
  have hstop := hs.live_stop
  rwa [stop_of_none hnone] at hstop

theorem crowded_of_zero (hzero : h.live = 0) : Crowded h :=
  ⟨by omega, fun _ h1 => by omega, fun h2 => by omega⟩

theorem Sound.live_pos (hs : Sound creates h) (hlive : 1 ≤ h.live) :
    h.abortControllerRef.isSome = true := by
  cases hcontroller : h.abortControllerRef with
  | none =>
      have hzero := hs.live_of_none hcontroller
      omega
  | some n => rfl

theorem live_add (c : Creation) (signals : Signals) (h : Hook ι ε)
    (hsignals : signals.aborted = h.signals.aborted) : (h.add c signals).live ≤ h.live + 1 := by
  show List.countP (fun c => !signals.aborted c.signal) (h.creations ++ [c]) ≤ _
  rw [hsignals, List.countP_append]
  refine Nat.add_le_add_left ?_ _
  exact List.countP_le_length

theorem live_without (n : Nat) (h : Hook ι ε) : (h.without n).live ≤ h.live :=
  (List.eraseIdx_sublist ..).countP_le

theorem Crowded.render (hc : Crowded h) (hs : Scheduled h) (hsound : Sound creates h)
    (hflushed : h.due = .nothing) (props : Props) : Crowded (h.render props) where
  bound := hc.bound
  counters := fun _ _ => rfl
  full := by
    intro h2
    have hfull := hc.full h2
    have hsome : h.abortControllerRef.isSome = true := by
      have hlive : 2 ≤ h.live := h2
      exact hsound.live_pos (by omega)
    have hrunning : h.rendered.isRunning = true :=
      (hs.running hsome).resolve_right (by simp [hflushed, Due.nothing])
    refine ⟨rfl, fun hmain => ?_⟩
    rcases of_decide_eq_true hmain with hchanged | hchanged
    · show h.queued.isRunning = false
      rw [hrunning] at hchanged
      exact (Bool.not_eq_true _).mp hchanged
    · exact absurd hfull.1.symm hchanged

/-- The creations after the first two effects. -/
theorem Settled.live {h₁ : Hook ι ε} (hset : Settled h h₁) (hsound : Sound creates h₁) :
    (h.due.refresh = true ∧ h₁.live = 0) ∨
      (h.due.refresh = false ∧ h₁.live = h.live ∧
        h₁.queued.providerChanged = h.queued.providerChanged) := by
  cases hrefresh : h.due.refresh with
  | true => exact .inl ⟨rfl, hsound.live_of_none (hset.renewed hrefresh).1⟩
  | false =>
      obtain ⟨-, -, -, hchanged, hcreations, hsignals⟩ := hset.kept hrefresh
      refine .inr ⟨rfl, ?_, hchanged⟩
      unfold Hook.live
      rw [hcreations, hsignals]

/-- The main effect adds a creation: there was one at most. -/
theorem Crowded.add (hc : Crowded h) {h₁ : Hook ι ε} (hset : Settled h h₁)
    (hsound : Sound creates h₁) (hmain : h.due.main = true) (hrunning : h.rendered.isRunning = true)
    {signals : Signals} (hsignals : signals.aborted = h₁.signals.aborted) :
    Crowded { h₁.add c signals with due := .nothing } := by
  have hadd := live_add c signals h₁ hsignals
  have hbefore : h.live ≤ 1 := by
    by_contra hmany
    have hstopped := (hc.full (by omega)).2 hmain
    rw [hrunning] at hstopped
    cases hstopped
  refine ⟨?_, fun hne => absurd rfl hne, fun h2 => ⟨?_, fun hfalse => by cases hfalse⟩⟩
  · show (h₁.add c signals).live ≤ 2
    rcases hset.live hsound with ⟨-, hzero⟩ | ⟨-, hsame, -⟩
    · omega
    · omega
  · have h2' : 2 ≤ (h₁.add c signals).live := h2
    show h₁.rendered.providerChanged = h₁.queued.providerChanged
    rcases hset.live hsound with ⟨-, hzero⟩ | ⟨-, hsame, hchanged⟩
    · omega
    · rw [hset.rendered, hchanged]
      exact hc.counters (due_ne_nothing (.inr (.inr hmain))) (by omega)

theorem Crowded.effects (hc : Crowded h) (hsound : Sound creates h)
    (heffects : h.effects = .ok h') : Crowded h' := by
  have hset : Settled h h.refreshed.enabled := settled_enabled h
  have hsettings : Sound creates h.refreshed.enabled := hsound.refreshed.enabled
  unfold Hook.effects at heffects
  dsimp only at heffects
  split at heffects
  · next hmain =>
    rw [hset.due] at hmain
    rcases hsettings.main_cases with ⟨-, heq⟩ | ⟨-, -, hnone, heq⟩ |
      ⟨hrunning, c, signals, heq, -, -, -, hsignals⟩
    · rw [heq] at heffects
      cases heffects
      exact crowded_of_zero hsettings.live_stop
    · rw [heq] at heffects
      cases heffects
      exact crowded_of_zero (hsettings.live_of_none hnone)
    · rw [heq] at heffects
      cases heffects
      rw [hset.rendered] at hrunning
      exact hc.add hset hsettings hmain hrunning hsignals
  · next hmain =>
    cases heffects
    rcases hset.live hsettings with ⟨-, hzero⟩ | ⟨-, hsame, hchanged⟩
    · exact crowded_of_zero hzero
    · refine ⟨?_, fun hne => absurd rfl hne, fun h2 => ⟨?_, fun hfalse => by cases hfalse⟩⟩
      · show h.refreshed.enabled.live ≤ 2
        rw [hsame]
        exact hc.bound
      show h.refreshed.enabled.rendered.providerChanged =
        h.refreshed.enabled.queued.providerChanged
      rw [hset.rendered, hchanged]
      exact (hc.full (hsame.symm ▸ h2)).1

theorem Crowded.fewer (hc : Crowded h) (hle : h'.live ≤ h.live) (hsame : SameSchedule h h') :
    Crowded h' where
  bound := Nat.le_trans hle hc.bound
  counters := by
    intro hne h1
    rw [hsame.due] at hne
    rw [hsame.rendered, hsame.providerChanged]
    exact hc.counters hne (Nat.le_trans h1 hle)
  full := by
    intro h2
    rw [hsame.rendered, hsame.providerChanged, hsame.due]
    exact hc.full (Nat.le_trans h2 hle)

theorem Crowded.step (hc : Crowded h) (hs : Scheduled h) (hsound : Sound creates h)
    (hstep : Step creates calls h (.ok h')) : Crowded h' := by
  generalize hr : (Except.ok h' : Except (JsError ε) (Hook ι ε)) = r at hstep
  cases hstep with
  | render props flushed =>
      cases hr
      exact hc.render hs hsound flushed props
  | effects => exact hc.effects hsound hr.symm
  | refresh provider chainId called =>
      cases hr
      exact crowded_of_zero
        (hsound.refresh.live_of_none (refreshed_refresh provider chainId h).controller)
  | settle n result pending settles =>
      have hwithout := live_without n h
      rcases hsound.settle_cases pending settles with ⟨-, hsettle⟩ | ⟨-, i, e, status, hsettle, -⟩
      · cases hr.trans hsettle
        exact hc.fewer hwithout ⟨rfl, rfl, rfl, rfl, rfl, rfl, rfl⟩
      · cases hr.trans hsettle
        exact hc.fewer hwithout ⟨rfl, rfl, rfl, rfl, rfl, rfl, rfl⟩

theorem Reachable.crowded (hreach : Reachable creates calls h) : Crowded h := by
  induction hreach with
  | mount props => exact crowded_of_zero rfl
  | step before next ih => exact ih.step before.scheduled before.sound next

/-- **At most two creations are live at once**, whatever `refresh` is called,
and all of them are for the provider the hook has now, under one controller. -/
theorem live_creations (creates : Creation → Except ε ι → Prop)
    (calls : Hook ι ε → Option Provider → Option Nat → Prop) (h : Hook ι ε)
    (hreach : Reachable creates calls h) :
    h.live ≤ 2 ∧ ∀ c ∈ h.creations, h.signals.aborted c.signal = false →
      h.abortControllerRef = some c.signal ∧ h.providerRef = some c.provider :=
  ⟨hreach.crowded.bound, hreach.sound.live⟩

theorem live_creations_twice :
    Sample.twice.live = 2 ∧ ∀ c ∈ Sample.twice.creations,
      Sample.twice.signals.aborted c.signal = false →
        Sample.twice.abortControllerRef = some c.signal ∧
        Sample.twice.providerRef = some c.provider :=
  ⟨rfl, (live_creations Sample.creates latest Sample.twice (Sample.twice_reachable latest)).2⟩

/-! ## Nothing left to happen -/

/-- All effects ran, the last render has read everything, and no promise is
pending that could change anything. -/
structure Hook.Quiet (h : Hook ι ε) : Prop where
  flushed : h.due = .nothing
  rendered : h.rendered = h.queued
  settled : ∀ c ∈ h.creations, ¬ h.Live c

/-- What the page shows in the end. -/
inductive Outcome (creates : Creation → Except ε ι → Prop) (p : Provider) (v : View ι ε) :
    Prop where
  | ready (i : ι) (c : Creation) (status : v.status = .ready)
      (shown : v.fhevmInstance = some i) (created : creates c (.ok i)) (made : c.provider = p)
  | error (e : JsError ε) (status : v.status = .error) (shown : v.fhevmInstance = none)
      (reported : v.error = some e)

/-- **The hook never gets stuck**, where consumers call the `refresh` of the
last render only (an older one refreshes for the provider of its render). Once
nothing is left to happen, a component that is enabled and has a provider
shows an instance created for that provider, or an error; every other shows
that it is idle. -/
theorem quiet_outcome (creates : Creation → Except ε ι → Prop) (h : Hook ι ε)
    (hreach : Reachable creates latest h) (hquiet : h.Quiet) :
    (∀ p, h.props.isEnabled = true → h.props.provider = some p →
      Outcome creates p h.rendered) ∧
    (h.props.isEnabled = false ∨ h.props.provider = none →
      h.rendered.status = .idle ∧ h.rendered.fhevmInstance = none ∧ h.rendered.error = none) := by
  have hsound := hreach.sound
  have hscheduled := hreach.scheduled
  have hprovider : h.providerRef = h.props.provider :=
    (hreach.current.resolve_left (by simp [hquiet.flushed, Due.nothing])).1
  have henabled : h.rendered.isRunning = h.props.isEnabled := by
    rw [hquiet.rendered]
    exact hscheduled.enabled.resolve_left (by simp [hquiet.flushed, Due.nothing])
  have hagrees : h.rendered.Agrees := hsound.rendered
  unfold View.Agrees at hagrees
  constructor
  · intro p hrunning hp
    have hbusy : h.rendered.status ≠ .idle := by
      intro hidle
      rw [hquiet.rendered] at hidle
      have hnone := hsound.idle.mpr hidle
      have hqueued : h.queued.isRunning = true := by
        rw [← hquiet.rendered, henabled, hrunning]
      rcases hscheduled.wanted hnone (by rw [hprovider, hp]; rfl) hqueued with
        hmain | hstopped | hlt
      · simp [hquiet.flushed, Due.nothing] at hmain
      · rw [henabled, hrunning] at hstopped
        cases hstopped
      · rw [hquiet.rendered] at hlt
        exact absurd hlt (Nat.lt_irrefl _)
    cases hstatus : h.rendered.status with
    | idle => exact absurd hstatus hbusy
    | loading =>
        rw [hquiet.rendered] at hstatus
        obtain ⟨c, hc, hlive⟩ := hsound.loading hstatus
        exact absurd hlive (hquiet.settled c hc)
    | ready =>
        rw [hstatus] at hagrees
        obtain ⟨i, hi⟩ := Option.isSome_iff_exists.mp hagrees.1
        obtain ⟨c, hcreated, -, hmade⟩ := hsound.made i (hquiet.rendered ▸ hi)
        rw [hprovider, hp] at hmade
        exact .ready i c hstatus hi hcreated (Option.some.inj hmade).symm
    | error =>
        rw [hstatus] at hagrees
        obtain ⟨e, he⟩ := Option.isSome_iff_exists.mp hagrees.2
        exact .error e hstatus hagrees.1 he
  · intro hoff
    have hnone : h.abortControllerRef = none := by
      cases hcontroller : h.abortControllerRef with
      | none => rfl
      | some n =>
          rcases hoff with hstopped | hnoprovider
          · have hrunning := (hscheduled.running (by rw [hcontroller]; rfl)).resolve_right
              (by simp [hquiet.flushed, Due.nothing])
            rw [henabled, hstopped] at hrunning
            cases hrunning
          · have hsome := (hsound.controller n hcontroller).2
            rw [hprovider, hnoprovider] at hsome
            cases hsome
    have hidle : h.rendered.status = .idle := by
      rw [hquiet.rendered]
      exact hsound.idle.mp hnone
    rw [hidle] at hagrees
    exact ⟨hidle, hagrees.1, hagrees.2⟩

theorem quiet_outcome_shown :
    Outcome Sample.creates (.url "http://localhost:8545") Sample.shown.rendered :=
  (quiet_outcome Sample.creates Sample.shown (Sample.shown_reachable latest)
    ⟨rfl, rfl, fun _ h => absurd h List.not_mem_nil⟩).1 _ rfl rfl

end LunarysBridge.Fhevm
