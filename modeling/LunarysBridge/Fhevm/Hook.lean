/-
LunarysBridge.Fhevm.Hook — `useFhevm`, the React hook that keeps an FHE
instance for the provider of a page.

A component that uses the hook lives through renders, the effects of each
render, calls of `refresh`, and promises of `createFhevmInstance` that are
settled, in any order React and the event loop leave open:

* A render reads all updates that were queued before it, and its effects run
  before the next render. Between a render and its effects anything else may
  happen.
* The effects of a render run without a break and in the order of the source,
  each if one of its dependencies changed; those of the first render all run.
* A promise may be settled at any later moment, in any order, and a consumer
  may call any `refresh` it was ever handed.

The component has no cleanup, so there is no step for its end. A failed
`_assert` is an exception of the step it is in.
-/
import LunarysBridge.Lib.Signals
import Mathlib.Data.List.Basic

namespace LunarysBridge.Fhevm

/-- A URL, or an object with a method `request`. -/
inductive Provider where
  | url (rpcUrl : String)
  | eip1193 (object : Nat)
  deriving DecidableEq

/-- `Record<number, string>`, by chain id. -/
abbrev MockChains := List (Nat × String)

inductive FhevmGoState where
  | idle | loading | ready | error
  deriving DecidableEq

/-- What is thrown: by an assertion, or by somebody else. -/
inductive JsError (ε : Type) where
  | assertionFailed (message : String)
  | other (e : ε)

structure Props where
  provider : Option Provider
  chainId : Option Nat
  enabled : Option Bool
  initialMockChains : Option MockChains

/-- `enabled = true` -/
def Props.isEnabled (p : Props) : Bool := p.enabled.getD true

/-- The values of the state hooks. -/
structure View (ι ε : Type) where
  fhevmInstance : Option ι
  status : FhevmGoState
  error : Option (JsError ε)
  isRunning : Bool
  providerChanged : Nat

/-- A call of `createFhevmInstance` that is not settled. -/
structure Creation where
  signal : Nat
  provider : Provider
  mockChains : Option MockChains
  deriving DecidableEq

/-- The effects of a render that are still to run. -/
structure Due where
  refresh : Bool
  enabled : Bool
  main : Bool
  deriving DecidableEq

def Due.nothing : Due := ⟨false, false, false⟩

/-- A component that uses the hook. -/
structure Hook (ι ε : Type) where
  /-- The parameters of the last render. -/
  props : Props
  /-- What the last render has read. -/
  rendered : View ι ε
  /-- What the next one will read. -/
  queued : View ι ε
  due : Due
  abortControllerRef : Option Nat
  providerRef : Option Provider
  chainIdRef : Option Nat
  mockChainsRef : Option MockChains
  signals : Signals
  creations : List Creation

variable {ι ε : Type}

/-! ## The functions of the hook -/

/-- `_assert` -/
def assert (condition : Bool) (message : String) : Except (JsError ε) Unit :=
  if condition then .ok () else .error (.assertionFailed ("Assertion failed: " ++ message))

/-- `_setInstance`, `_setError` and `_setStatus`, which mostly come together. -/
def Hook.set (h : Hook ι ε) (fhevmInstance : Option ι) (error : Option (JsError ε))
    (status : FhevmGoState) : Hook ι ε :=
  { h with
    queued := { h.queued with fhevmInstance := fhevmInstance, error := error, status := status } }

/-- `_setProviderChanged((prev) => prev + 1)` -/
def Hook.setProviderChanged (h : Hook ι ε) : Hook ι ε :=
  { h with queued := { h.queued with providerChanged := h.queued.providerChanged + 1 } }

/-- `_setIsRunning` -/
def Hook.setIsRunning (h : Hook ι ε) (isRunning : Bool) : Hook ι ε :=
  { h with queued := { h.queued with isRunning := isRunning } }

/-- `refresh`, as made by a render with these parameters. -/
def Hook.refresh (provider : Option Provider) (chainId : Option Nat) (h : Hook ι ε) : Hook ι ε :=
  let h :=
    match h.abortControllerRef with
    | none => h
    | some controller =>
        -- no provider and no chain id during abort
        let h := { h with providerRef := none, chainIdRef := none }
        { h with signals := h.signals.abort controller, abortControllerRef := none }
  let h := { h with providerRef := provider, chainIdRef := chainId }
  let h := h.set none none .idle
  if provider.isSome then h.setProviderChanged else h

/-- The main effect where the hook is not running. -/
def Hook.cancel (h : Hook ι ε) : Hook ι ε :=
  let h :=
    match h.abortControllerRef with
    | none => h
    | some controller =>
        { h with signals := h.signals.abort controller, abortControllerRef := none }
  h.set none none .idle

/-- The controller there is, or a new one. -/
def Hook.controller (h : Hook ι ε) : Nat × Hook ι ε :=
  match h.abortControllerRef with
  | some controller => (controller, h)
  | none =>
      (h.signals.made, { h with
        abortControllerRef := some h.signals.made, signals := h.signals.new })

/-- The main effect where there is a provider to create an instance for. -/
def Hook.create (provider : Provider) (h : Hook ι ε) : Except (JsError ε) (Hook ι ε) := do
  let (controller, h) := h.controller
  assert (!h.signals.aborted controller) "!controllerRef.current.signal.aborted"
  -- keep old instance
  let h := h.set h.queued.fhevmInstance none .loading
  pure { h with creations := h.creations ++ [⟨controller, provider, h.mockChainsRef⟩] }

/-- The main effect. -/
def Hook.main (h : Hook ι ε) : Except (JsError ε) (Hook ι ε) :=
  if h.rendered.isRunning = false then .ok h.cancel
  else
    match h.providerRef with
    | none => .ok (h.set none none .idle)
    | some provider => h.create provider

/-- The first effect, if it is due. -/
def Hook.refreshed (h : Hook ι ε) : Hook ι ε :=
  if h.due.refresh then h.refresh h.props.provider h.props.chainId else h

/-- The second, if it is due. -/
def Hook.enabled (h : Hook ι ε) : Hook ι ε :=
  if h.due.enabled then h.setIsRunning h.props.isEnabled else h

/-- The effects of the last render. -/
def Hook.effects (h : Hook ι ε) : Except (JsError ε) (Hook ι ε) :=
  let h := h.refreshed.enabled
  (if h.due.main then h.main else .ok h).map fun h => { h with due := .nothing }

/-- `.then((i) => …)` -/
def Hook.created (c : Creation) (i : ι) (h : Hook ι ε) : Except (JsError ε) (Hook ι ε) :=
  if h.signals.aborted c.signal then .ok h
  else do
    assert (some c.provider = h.providerRef) "thisProvider === _providerRef.current"
    pure (h.set (some i) none .ready)

/-- `.catch((e) => …)` -/
def Hook.failed (c : Creation) (e : JsError ε) (h : Hook ι ε) :
    Except (JsError ε) (Hook ι ε) :=
  if h.signals.aborted c.signal then .ok h
  else do
    assert (some c.provider = h.providerRef) "thisProvider === _providerRef.current"
    pure (h.set none (some e) .error)

/-- The two handlers of a promise, one after the other. -/
def Hook.settle (c : Creation) (result : Except ε ι) (h : Hook ι ε) :
    Except (JsError ε) (Hook ι ε) :=
  match result with
  | .error e => h.failed c (.other e)
  | .ok i => tryCatch (h.created c i) fun e => h.failed c e

/-! ## The life of a component -/

/-- The first render. -/
def mount (props : Props) : Hook ι ε :=
  let view : View ι ε :=
    { fhevmInstance := none
      status := .idle
      error := none
      isRunning := props.isEnabled
      providerChanged := 0 }
  { props := props
    rendered := view
    queued := view
    due := ⟨true, true, true⟩
    abortControllerRef := none
    providerRef := props.provider
    chainIdRef := props.chainId
    mockChainsRef := props.initialMockChains
    signals := .none
    creations := [] }

/-- A later render. An effect is due if a dependency changed; `refresh` is
another function if the provider or the chain id did. -/
def Hook.render (props : Props) (h : Hook ι ε) : Hook ι ε :=
  { h with
    props := props
    rendered := h.queued
    due :=
      { refresh := props.provider ≠ h.props.provider ∨ props.chainId ≠ h.props.chainId
        enabled := props.isEnabled ≠ h.props.isEnabled
        main := h.queued.isRunning ≠ h.rendered.isRunning ∨
          h.queued.providerChanged ≠ h.rendered.providerChanged } }

section Runs

variable (creates : Creation → Except ε ι → Prop)
  (calls : Hook ι ε → Option Provider → Option Nat → Prop)

/-- What may happen to a component next. How a creation may be settled is up
to `createFhevmInstance`, and which `refresh` is called to its consumers. -/
inductive Step : Hook ι ε → Except (JsError ε) (Hook ι ε) → Prop where
  | render {h : Hook ι ε} (props : Props) (flushed : h.due = .nothing) :
      Step h (.ok (h.render props))
  | effects (h : Hook ι ε) : Step h h.effects
  | refresh {h : Hook ι ε} (provider : Option Provider) (chainId : Option Nat)
      (called : calls h provider chainId) : Step h (.ok (h.refresh provider chainId))
  | settle {h : Hook ι ε} {c : Creation} (n : Nat) (result : Except ε ι)
      (pending : h.creations[n]? = some c) (settles : creates c result) :
      Step h (({ h with creations := h.creations.eraseIdx n } : Hook ι ε).settle c result)

/-- The states a component comes to. -/
inductive Reachable : Hook ι ε → Prop where
  | mount (props : Props) : Reachable (mount props)
  | step {h h' : Hook ι ε} (before : Reachable h) (next : Step creates calls h (.ok h')) :
      Reachable h'

end Runs

/-- Only the `refresh` of the last render is called. -/
def latest (h : Hook ι ε) (provider : Option Provider) (chainId : Option Nat) : Prop :=
  provider = h.props.provider ∧ chainId = h.props.chainId

namespace Sample

def props : Props := ⟨some (.url "http://localhost:8545"), some 31337, none, none⟩

/-- A promise may be kept or broken. -/
def creates (_ : Creation) (r : Except String Nat) : Prop := r = .ok 7 ∨ r = .error "offline"

/-- The hook after a step that does not fail. -/
def after (h : Hook Nat String) : Except (JsError String) (Hook Nat String) → Hook Nat String
  | .ok h' => h'
  | .error _ => h

/-- The effects of the first render start a creation. -/
def mounted : Hook Nat String := after (mount props) (mount props).effects

/-- Those of the second start another under the same controller. -/
def twice : Hook Nat String := after (mounted.render props) (mounted.render props).effects

def creation : Creation := ⟨0, .url "http://localhost:8545", none⟩

/-- The first promise that is pending is settled. -/
def settling (r : Except String Nat) (h : Hook Nat String) : Hook Nat String :=
  after h (({ h with creations := h.creations.eraseIdx 0 } : Hook Nat String).settle creation r)

/-- One creation fails, the other does not, and the page is rendered. -/
def shown : Hook Nat String := ((settling (.ok 7) (settling (.error "offline") twice)).render props)

theorem twice_reachable (calls : Hook Nat String → Option Provider → Option Nat → Prop) :
    Reachable creates calls twice :=
  .step (.step (.step (.mount props) (.effects _)) (.render props rfl)) (.effects _)

theorem shown_reachable (calls : Hook Nat String → Option Provider → Option Nat → Prop) :
    Reachable creates calls shown := by
  have hfailed : Reachable creates calls (settling (.error "offline") twice) :=
    .step (twice_reachable calls) (.settle (c := creation) 0 (.error "offline") rfl (.inr rfl))
  have hready : Reachable creates calls (settling (.ok 7) (settling (.error "offline") twice)) :=
    .step hfailed (.settle (c := creation) 0 (.ok 7) rfl (.inl rfl))
  exact .step hready (.render props rfl)

end Sample

end LunarysBridge.Fhevm
