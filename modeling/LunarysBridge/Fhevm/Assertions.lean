/-
LunarysBridge.Fhevm.Assertions — the assertions of `useFhevm`, and what its
status says.

All rests on one observation: a promise whose signal is not aborted was
started under the controller the hook has now, for the provider it has now
(`Sound.live`). Whatever changes the provider aborts the controller before,
so the handlers of a promise that may still act find the provider it was
started for.
-/
import LunarysBridge.Fhevm.Hook

namespace LunarysBridge.Fhevm

variable {ι ε : Type} {creates : Creation → Except ε ι → Prop}
  {calls : Hook ι ε → Option Provider → Option Nat → Prop} {h h' : Hook ι ε} {c : Creation}
  {provider : Option Provider} {chainId : Option Nat}

/-! ## The invariant -/

/-- The status says which of the instance and the error there is. While a new
instance is created the old one may still be there. -/
def View.Agrees (v : View ι ε) : Prop :=
  match v.status with
  | .idle => v.fhevmInstance = none ∧ v.error = none
  | .loading => v.error = none
  | .ready => v.fhevmInstance.isSome = true ∧ v.error = none
  | .error => v.fhevmInstance = none ∧ v.error.isSome = true

/-- The handlers of a creation may still do something. -/
def Hook.Live (h : Hook ι ε) (c : Creation) : Prop := h.signals.aborted c.signal = false

/-- The instance was created for the provider the hook has now, under its
present controller. -/
def Hook.Made (creates : Creation → Except ε ι → Prop) (h : Hook ι ε) (i : ι) : Prop :=
  ∃ c : Creation, creates c (.ok i) ∧ h.abortControllerRef = some c.signal ∧
    h.providerRef = some c.provider

structure Sound (creates : Creation → Except ε ι → Prop) (h : Hook ι ε) : Prop where
  controller : ∀ n, h.abortControllerRef = some n →
    h.signals.aborted n = false ∧ h.providerRef.isSome = true
  live : ∀ c ∈ h.creations, h.Live c →
    h.abortControllerRef = some c.signal ∧ h.providerRef = some c.provider
  made : ∀ i, h.queued.fhevmInstance = some i → h.Made creates i
  loading : h.queued.status = .loading → ∃ c ∈ h.creations, h.Live c
  idle : h.abortControllerRef = none ↔ h.queued.status = .idle
  rendered : h.rendered.Agrees
  queued : h.queued.Agrees

theorem assert_ok {condition : Bool} {message : String} (h : condition = true) :
    (assert condition message : Except (JsError ε) Unit) = .ok () := if_pos h

/-! ## A component that stops -/

/-- The controller, if there is one, is aborted and dropped. -/
def Hook.stop (h : Hook ι ε) : Hook ι ε :=
  match h.abortControllerRef with
  | none => h
  | some controller =>
      { h with signals := h.signals.abort controller, abortControllerRef := none }

theorem cancel_eq (h : Hook ι ε) : h.cancel = h.stop.set none none .idle := rfl

/-- What `refresh` leaves before it calls for the main effect. -/
def Hook.renew (provider : Option Provider) (chainId : Option Nat) (h : Hook ι ε) : Hook ι ε :=
  ({ h.stop with providerRef := provider, chainIdRef := chainId } : Hook ι ε).set none none .idle

theorem refresh_eq (provider : Option Provider) (chainId : Option Nat) (h : Hook ι ε) :
    h.refresh provider chainId =
      if provider.isSome then (h.renew provider chainId).setProviderChanged
      else h.renew provider chainId := by
  unfold Hook.refresh Hook.renew Hook.stop
  cases h.abortControllerRef with
  | none => rfl
  | some controller => rfl

theorem stop_abortControllerRef (h : Hook ι ε) : h.stop.abortControllerRef = none := by
  unfold Hook.stop
  split
  · next hnone => exact hnone
  · rfl

theorem stop_of_none (hnone : h.abortControllerRef = none) : h.stop = h := by
  unfold Hook.stop
  rw [hnone]

/-- Nothing else changes. -/
theorem stop_rest (h : Hook ι ε) :
    h.stop = { h with signals := h.stop.signals, abortControllerRef := none } := by
  unfold Hook.stop
  split
  · next hnone => cases h; cases hnone; rfl
  · rfl

theorem stop_creations (h : Hook ι ε) : h.stop.creations = h.creations := by
  rw [stop_rest]

/-- No creation survives it. -/
theorem Sound.stop_not_live (hs : Sound creates h) (hc : c ∈ h.creations) : ¬ h.stop.Live c := by
  intro hlive
  unfold Hook.stop at hlive
  split at hlive
  · next hnone =>
    have hcontroller := (hs.live c hc hlive).1
    rw [hnone] at hcontroller
    cases hcontroller
  · next controller hsome =>
    obtain ⟨hne, hbefore⟩ := Signals.aborted_abort_eq_false.mp hlive
    have hcontroller := (hs.live c hc hbefore).1
    rw [hsome] at hcontroller
    exact hne (Option.some.inj hcontroller).symm

/-- A component that was stopped has nothing to show. -/
theorem Sound.stopped (hs : Sound creates h) (hrendered : h'.rendered = h.rendered)
    (hsignals : h'.signals = h.stop.signals) (hcreations : h'.creations = h.creations)
    (hcontroller : h'.abortControllerRef = none) (hinstance : h'.queued.fhevmInstance = none)
    (herror : h'.queued.error = none) (hstatus : h'.queued.status = .idle) :
    Sound creates h' where
  controller := by
    intro n hn
    rw [hcontroller] at hn
    cases hn
  live := by
    intro c hc hlive
    rw [hcreations] at hc
    unfold Hook.Live at hlive
    rw [hsignals] at hlive
    exact absurd hlive (hs.stop_not_live hc)
  made := by
    intro i hi
    rw [hinstance] at hi
    cases hi
  loading := by
    intro hloading
    rw [hstatus] at hloading
    cases hloading
  idle := by
    rw [hcontroller, hstatus]
    exact ⟨fun _ => rfl, fun _ => rfl⟩
  rendered := by
    rw [hrendered]
    exact hs.rendered
  queued := by
    unfold View.Agrees
    rw [hstatus]
    exact ⟨hinstance, herror⟩

theorem Sound.cancel (hs : Sound creates h) : Sound creates h.cancel := by
  rw [cancel_eq]
  refine hs.stopped ?_ rfl (stop_creations h) (stop_abortControllerRef h) rfl rfl rfl
  show h.stop.rendered = h.rendered
  rw [stop_rest]

theorem Sound.renew (hs : Sound creates h) : Sound creates (h.renew provider chainId) := by
  refine hs.stopped ?_ rfl (stop_creations h) (stop_abortControllerRef h) rfl rfl rfl
  show h.stop.rendered = h.rendered
  rw [stop_rest]

/-- The flag and the counter are of no concern here. -/
theorem Sound.of_eq (hs : Sound creates h) (hrendered : h'.rendered.Agrees)
    (hsignals : h'.signals = h.signals) (hcreations : h'.creations = h.creations)
    (hcontroller : h'.abortControllerRef = h.abortControllerRef)
    (hprovider : h'.providerRef = h.providerRef)
    (hinstance : h'.queued.fhevmInstance = h.queued.fhevmInstance)
    (herror : h'.queued.error = h.queued.error)
    (hstatus : h'.queued.status = h.queued.status) : Sound creates h' where
  controller := by
    rw [hcontroller, hsignals, hprovider]
    exact hs.controller
  live := by
    unfold Hook.Live
    rw [hcreations, hsignals, hcontroller, hprovider]
    exact hs.live
  made := by
    unfold Hook.Made
    rw [hinstance, hcontroller, hprovider]
    exact hs.made
  loading := by
    unfold Hook.Live
    rw [hstatus, hcreations, hsignals]
    exact hs.loading
  idle := by
    rw [hcontroller, hstatus]
    exact hs.idle
  rendered := hrendered
  queued := by
    unfold View.Agrees
    rw [hinstance, herror, hstatus]
    exact hs.queued

theorem Sound.refresh (hs : Sound creates h) : Sound creates (h.refresh provider chainId) := by
  have hrenewed : Sound creates (h.renew provider chainId) := hs.renew
  rw [refresh_eq]
  split
  · exact hrenewed.of_eq hrenewed.rendered rfl rfl rfl rfl rfl rfl rfl
  · exact hrenewed

/-! ## A component that creates -/

/-- One more creation, under the controller of the hook. -/
theorem Sound.started (hs : Sound creates h) (hprovider : h.providerRef = some c.provider)
    (hbefore : h.abortControllerRef = none ∨ h.abortControllerRef = some c.signal)
    (hsignal : h.signals.aborted c.signal = false)
    (hcontroller : h'.abortControllerRef = some c.signal)
    (hsignals : h'.signals.aborted = h.signals.aborted)
    (hcreations : h'.creations = h.creations ++ [c]) (hprovider' : h'.providerRef = h.providerRef)
    (hrendered : h'.rendered = h.rendered)
    (hinstance : h'.queued.fhevmInstance = h.queued.fhevmInstance)
    (herror : h'.queued.error = none) (hstatus : h'.queued.status = .loading) :
    Sound creates h' where
  controller := by
    intro n hn
    rw [hcontroller] at hn
    cases hn
    rw [hsignals, hprovider', hprovider]
    exact ⟨hsignal, rfl⟩
  live := by
    intro d hd hlive
    rw [hcontroller, hprovider', hprovider]
    unfold Hook.Live at hlive
    rw [hsignals] at hlive
    rw [hcreations, List.mem_append, List.mem_singleton] at hd
    rcases hd with hold | rfl
    · obtain ⟨hd, hdprovider⟩ := hs.live d hold hlive
      rcases hbefore with hnone | hsome
      · rw [hnone] at hd
        cases hd
      · exact ⟨hsome.symm.trans hd, hprovider.symm.trans hdprovider⟩
    · exact ⟨rfl, rfl⟩
  made := by
    intro i hi
    rw [hinstance] at hi
    obtain ⟨d, hd, hdcontroller, hdprovider⟩ := hs.made i hi
    refine ⟨d, hd, ?_, hprovider'.trans hdprovider⟩
    rcases hbefore with hnone | hsome
    · rw [hnone] at hdcontroller
      cases hdcontroller
    · exact hcontroller.trans (hsome.symm.trans hdcontroller)
  loading := by
    intro _
    refine ⟨c, by simp [hcreations], ?_⟩
    unfold Hook.Live
    rw [hsignals]
    exact hsignal
  idle := by simp [hcontroller, hstatus]
  rendered := by
    rw [hrendered]
    exact hs.rendered
  queued := by
    unfold View.Agrees
    rw [hstatus]
    exact herror

/-- The hook with a creation more. -/
def Hook.add (c : Creation) (signals : Signals) (h : Hook ι ε) : Hook ι ε :=
  { h.set h.queued.fhevmInstance none .loading with
    abortControllerRef := some c.signal
    signals := signals
    creations := h.creations ++ [c] }

/-- The first assertion holds. -/
theorem Sound.create (hs : Sound creates h) (p : Provider) :
    ∃ n signals, h.create p = .ok (h.add ⟨n, p, h.mockChainsRef⟩ signals) ∧
      (h.abortControllerRef = none ∨ h.abortControllerRef = some n) ∧
      h.signals.aborted n = false ∧ signals.aborted = h.signals.aborted := by
  unfold Hook.create Hook.controller
  cases hcontroller : h.abortControllerRef with
  | none =>
      refine ⟨h.signals.made, h.signals.new, ?_, .inl rfl, Signals.aborted_made _, rfl⟩
      dsimp only
      rw [assert_ok (by simp)]
      rfl
  | some n =>
      have hn : h.signals.aborted n = false := (hs.controller n hcontroller).1
      refine ⟨n, h.signals, ?_, .inr rfl, hn, rfl⟩
      dsimp only
      rw [assert_ok (by simp [hn]), Hook.add, ← hcontroller]
      rfl

/-- What the main effect does. -/
theorem Sound.main_cases (hs : Sound creates h) :
    (h.rendered.isRunning = false ∧ h.main = .ok h.cancel) ∨
    (h.rendered.isRunning = true ∧ h.providerRef = none ∧ h.abortControllerRef = none ∧
      h.main = .ok (h.set none none .idle)) ∨
    (h.rendered.isRunning = true ∧ ∃ c signals, h.main = .ok (h.add c signals) ∧
      h.providerRef = some c.provider ∧ h.signals.aborted c.signal = false ∧
      (h.abortControllerRef = none ∨ h.abortControllerRef = some c.signal) ∧
      signals.aborted = h.signals.aborted) := by
  unfold Hook.main
  split
  · next hstopped => exact .inl ⟨hstopped, rfl⟩
  · next hrunning =>
    have hrunning' : h.rendered.isRunning = true := (Bool.not_eq_false _).mp hrunning
    cases hprovider : h.providerRef with
    | none =>
        have hnone : h.abortControllerRef = none := by
          cases hcontroller : h.abortControllerRef with
          | none => rfl
          | some n =>
              have hsome := (hs.controller n hcontroller).2
              rw [hprovider] at hsome
              cases hsome
        exact .inr (.inl ⟨hrunning', rfl, hnone, rfl⟩)
    | some p =>
        obtain ⟨n, signals, hcreate, hbefore, hsignal, hsignals⟩ := hs.create p
        exact .inr (.inr ⟨hrunning', ⟨n, p, h.mockChainsRef⟩, signals, hcreate, rfl, hsignal,
          hbefore, hsignals⟩)

theorem Sound.main (hs : Sound creates h) : ∃ h', h.main = .ok h' ∧ Sound creates h' := by
  rcases hs.main_cases with ⟨-, hmain⟩ | ⟨-, -, hnone, hmain⟩ |
    ⟨-, c, signals, hmain, hprovider, hsignal, hbefore, hsignals⟩
  · exact ⟨_, hmain, hs.cancel⟩
  · have hcancel : Sound creates h.cancel := hs.cancel
    rw [cancel_eq, stop_of_none hnone] at hcancel
    exact ⟨_, hmain, hcancel⟩
  · exact ⟨_, hmain, hs.started hprovider hbefore hsignal rfl hsignals rfl rfl rfl rfl rfl rfl⟩

theorem Sound.refreshed (hs : Sound creates h) : Sound creates h.refreshed := by
  unfold Hook.refreshed
  split
  · exact hs.refresh
  · exact hs

theorem Sound.enabled (hs : Sound creates h) : Sound creates h.enabled := by
  unfold Hook.enabled
  split
  · exact hs.of_eq hs.rendered rfl rfl rfl rfl rfl rfl rfl
  · exact hs

/-- The render is over with its effects. -/
theorem Sound.flushed (hs : Sound creates h) : Sound creates { h with due := .nothing } :=
  hs.of_eq hs.rendered rfl rfl rfl rfl rfl rfl rfl

theorem Sound.effects (hs : Sound creates h) : ∃ h', h.effects = .ok h' ∧ Sound creates h' := by
  have hsettings : Sound creates h.refreshed.enabled := hs.refreshed.enabled
  unfold Hook.effects
  dsimp only
  split
  · obtain ⟨h', hmain, hs'⟩ := hsettings.main
    exact ⟨{ h' with due := .nothing }, by rw [hmain]; rfl, hs'.flushed⟩
  · exact ⟨{ h.refreshed.enabled with due := .nothing }, rfl, hsettings.flushed⟩

/-! ## Promises that are settled -/

/-- A promise is taken out of those that are pending. -/
def Hook.without (n : Nat) (h : Hook ι ε) : Hook ι ε :=
  { h with creations := h.creations.eraseIdx n }

/-- A settled promise may leave an instance, or an error. -/
theorem Sound.shown (hs : Sound creates h) {n : Nat} (hpending : h.creations[n]? = some c)
    (hlive : h.Live c) (hcreations : h'.creations = h.creations.eraseIdx n)
    (hsignals : h'.signals = h.signals) (hcontroller : h'.abortControllerRef = h.abortControllerRef)
    (hprovider : h'.providerRef = h.providerRef) (hrendered : h'.rendered = h.rendered)
    (hqueued : h'.queued.Agrees)
    (hstatus : h'.queued.status = .ready ∨ h'.queued.status = .error)
    (hmade : ∀ i, h'.queued.fhevmInstance = some i → creates c (.ok i)) : Sound creates h' where
  controller := by
    rw [hcontroller, hsignals, hprovider]
    exact hs.controller
  live := by
    intro d hd hdlive
    unfold Hook.Live at hdlive
    rw [hsignals] at hdlive
    rw [hcreations] at hd
    rw [hcontroller, hprovider]
    exact hs.live d (List.mem_of_mem_eraseIdx hd) hdlive
  made := by
    intro i hi
    obtain ⟨hc, hcprovider⟩ := hs.live c (List.mem_of_getElem? hpending) hlive
    exact ⟨c, hmade i hi, hcontroller.trans hc, hprovider.trans hcprovider⟩
  loading := by
    intro hloading
    rw [hloading] at hstatus
    rcases hstatus with hready | herror
    · cases hready
    · cases herror
  idle := by
    obtain ⟨hc, -⟩ := hs.live c (List.mem_of_getElem? hpending) hlive
    rw [hcontroller, hc]
    rcases hstatus with hready | herror
    · simp [hready]
    · simp [herror]
  rendered := by
    rw [hrendered]
    exact hs.rendered
  queued := hqueued

/-- A promise nobody waits for any more. -/
theorem Sound.ignored (hs : Sound creates h) {n : Nat} (hpending : h.creations[n]? = some c)
    (hlive : ¬ h.Live c) : Sound creates (h.without n) where
  controller := hs.controller
  live := fun d hd => hs.live d (List.mem_of_mem_eraseIdx hd)
  made := hs.made
  loading := by
    intro hloading
    obtain ⟨d, hd, hdlive⟩ := hs.loading hloading
    have hne : d ≠ c := fun heq => hlive (heq ▸ hdlive)
    obtain ⟨m, hm⟩ := List.getElem?_of_mem hd
    have hmn : m ≠ n := by
      rintro rfl
      exact hne (Option.some.inj (hm.symm.trans hpending))
    exact ⟨d, List.mem_eraseIdx_iff_getElem?.mpr ⟨m, hmn, hm⟩, hdlive⟩
  idle := hs.idle
  rendered := hs.rendered
  queued := hs.queued

/-- What the handlers of a promise do; their assertions hold. -/
theorem Sound.settle_cases (hs : Sound creates h) {n : Nat} {result : Except ε ι}
    (hpending : h.creations[n]? = some c) (hcreates : creates c result) :
    (¬ h.Live c ∧ (h.without n).settle c result = .ok (h.without n)) ∨
    (h.Live c ∧ ∃ i e status,
      (h.without n).settle c result = .ok ((h.without n).set i e status) ∧
      ((h.without n).set i e status).queued.Agrees ∧ (status = .ready ∨ status = .error) ∧
      ∀ j, i = some j → creates c (.ok j)) := by
  by_cases hlive : h.Live c
  · refine .inr ⟨hlive, ?_⟩
    obtain ⟨-, hprovider⟩ := hs.live c (List.mem_of_getElem? hpending) hlive
    have hnot : ¬ (h.without n).signals.aborted c.signal = true := by
      have hfalse : h.signals.aborted c.signal = false := hlive
      show ¬ h.signals.aborted c.signal = true
      rw [hfalse]
      exact Bool.false_ne_true
    have hassert : (assert (some c.provider = (h.without n).providerRef)
        "thisProvider === _providerRef.current" : Except (JsError ε) Unit) = .ok () :=
      assert_ok (decide_eq_true hprovider.symm)
    cases result with
    | ok i =>
        refine ⟨some i, none, .ready, ?_, ⟨rfl, rfl⟩, .inl rfl, ?_⟩
        · unfold Hook.settle Hook.created
          dsimp only
          rw [if_neg hnot, hassert]
          rfl
        · intro j hj
          cases hj
          exact hcreates
    | error e =>
        refine ⟨none, some (.other e), .error, ?_, ⟨rfl, rfl⟩, .inr rfl, ?_⟩
        · unfold Hook.settle Hook.failed
          dsimp only
          rw [if_neg hnot, hassert]
          rfl
        · intro j hj
          cases hj
  · refine .inl ⟨hlive, ?_⟩
    have haborted : (h.without n).signals.aborted c.signal = true :=
      (Bool.not_eq_false _).mp hlive
    cases result with
    | ok i =>
        unfold Hook.settle Hook.created
        dsimp only
        rw [if_pos haborted]
        rfl
    | error e =>
        unfold Hook.settle Hook.failed
        dsimp only
        rw [if_pos haborted]

theorem Sound.settle (hs : Sound creates h) {n : Nat} {result : Except ε ι}
    (hpending : h.creations[n]? = some c) (hcreates : creates c result) :
    ∃ h', (h.without n).settle c result = .ok h' ∧ Sound creates h' := by
  rcases hs.settle_cases hpending hcreates with ⟨hlive, hsettle⟩ |
    ⟨hlive, i, e, status, hsettle, hagrees, hstatus, hmade⟩
  · exact ⟨_, hsettle, hs.ignored hpending hlive⟩
  · exact ⟨_, hsettle, hs.shown hpending hlive rfl rfl rfl rfl rfl hagrees hstatus hmade⟩

/-! ## Every run -/

theorem sound_mount (props : Props) : Sound creates (mount props : Hook ι ε) where
  controller := fun n hn => by cases hn
  live := fun c hc => absurd hc List.not_mem_nil
  made := fun i hi => by cases hi
  loading := fun hloading => by cases hloading
  idle := ⟨fun _ => rfl, fun _ => rfl⟩
  rendered := ⟨rfl, rfl⟩
  queued := ⟨rfl, rfl⟩

theorem Sound.step (hs : Sound creates h) {r : Except (JsError ε) (Hook ι ε)}
    (hstep : Step creates calls h r) : ∃ h', r = .ok h' ∧ Sound creates h' := by
  cases hstep with
  | render props flushed =>
      exact ⟨_, rfl, hs.of_eq hs.queued rfl rfl rfl rfl rfl rfl rfl⟩
  | effects => exact hs.effects
  | refresh provider chainId called => exact ⟨_, rfl, hs.refresh⟩
  | settle n result pending settles => exact hs.settle pending settles

theorem Reachable.sound (hreach : Reachable creates calls h) : Sound creates h := by
  induction hreach with
  | mount props => exact sound_mount props
  | step before next ih =>
      obtain ⟨h', heq, hs⟩ := ih.step next
      cases heq
      exact hs

/-- **No assertion of the hook ever fails**, in whatever order renders, their
effects, calls of any `refresh` and settled promises come. -/
theorem assertions_hold (creates : Creation → Except ε ι → Prop)
    (calls : Hook ι ε → Option Provider → Option Nat → Prop) (h : Hook ι ε)
    (r : Except (JsError ε) (Hook ι ε)) (hreach : Reachable creates calls h)
    (hstep : Step creates calls h r) : ∃ h', r = .ok h' := by
  obtain ⟨h', heq, -⟩ := hreach.sound.step hstep
  exact ⟨h', heq⟩

theorem assertions_hold_twice :
    ∃ h', (({ Sample.twice with creations := Sample.twice.creations.eraseIdx 1 } :
      Hook Nat String).settle Sample.creation (.error "offline")) = .ok h' :=
  assertions_hold Sample.creates latest Sample.twice _ (Sample.twice_reachable latest)
    (.settle 1 (.error "offline") rfl (.inr rfl))

/-- **The status never lies**: what is rendered, and what is queued for the
next render, is ready only with an instance, failed only with an error and
without an instance, and idle with neither. While it is loading the instance
of before may still be there. One that is queued was created for the provider
and under the controller the hook has now. -/
theorem status_agrees (creates : Creation → Except ε ι → Prop)
    (calls : Hook ι ε → Option Provider → Option Nat → Prop) (h : Hook ι ε)
    (hreach : Reachable creates calls h) :
    h.rendered.Agrees ∧ h.queued.Agrees ∧
      ∀ i, h.queued.fhevmInstance = some i → ∃ c : Creation, creates c (.ok i) ∧
        h.abortControllerRef = some c.signal ∧ h.providerRef = some c.provider :=
  ⟨hreach.sound.rendered, hreach.sound.queued, hreach.sound.made⟩

theorem status_agrees_shown :
    Sample.shown.queued.fhevmInstance = some 7 ∧
      ∃ c : Creation, Sample.creates c (.ok 7) ∧
        Sample.shown.abortControllerRef = some c.signal ∧
        Sample.shown.providerRef = some c.provider :=
  ⟨rfl, (status_agrees Sample.creates latest Sample.shown
    (Sample.shown_reachable latest)).2.2 7 rfl⟩

end LunarysBridge.Fhevm
