/-
LunarysBridge.Fhevm.Component — a component whose promises are the calls of
its page.

`Hook` leaves open how `createFhevmInstance` may settle a creation; here it is
as a call with its parameters has ended in the page (`settledIn`). So what is
known of each of the two holds of both together: the instance a component
has was made for the provider it has now, from a key of the right ACL.
-/
import LunarysBridge.Fhevm.Assertions
import LunarysBridge.Fhevm.OnePage

namespace LunarysBridge.Fhevm.Create

open Async

variable {ι : Type} {lib : Library ι} {s₀ : Page ι} {p : Calls ι}

/-- What `createFhevmInstance` is called with for a creation. -/
def parametersOf (c : Creation) : Parameters where
  provider := c.provider
  mockChains := c.mockChains
  signal := c.signal

/-- A call for the creation has ended so. -/
def settledIn (p : Calls ι) (c : Creation) (result : Except Failure ι) : Prop :=
  ∃ (i : Nat) (call : Call (api ι) Failure ι Parameters), p.calls[i]? = some call ∧
    call.request = parametersOf c ∧ call.code = Prog.ofExcept result

/-- An instance for this provider, in this page: of the mock library for a
mocked chain, or of the SDK while the page can be used. -/
inductive MadeFor (lib : Library ι) (s₀ s : Page ι) (provider : Provider) (a : ι) : Prop where
  | mock (m : Mocked ι) (q : Parameters) (mem : m ∈ s.mocked) (made : m.fhevmInstance = a)
      (provider_eq : q.provider = provider) (mocks : q.Mocks m.rpcUrl m.chainId)
  | sdk (n : Nat) (m : Made ι) (get : s.made[n]? = some m) (made : m.fhevmInstance = a)
      (network : m.config.network = provider)
      (sourced : Sourced lib s₀ (s.made.take n) m.config) (usable : ¬ s.Unusable)

/-- **Component and page together.** Whatever renders, effects, calls of
`refresh` and interleavings there were, the instance a component keeps was
made for the provider it has now: by the SDK, for an ACL whose key and
parameters came from that ACL, and only in a page where neither the script nor
the database has failed; or by the mock library for a mocked chain. -/
theorem component_instance {admits : Calls ι → Parameters → Prop}
    {calls : Hook ι Failure → Option Provider → Option Nat → Prop} {h : Hook ι Failure}
    (h₀ : s₀.Initial) (hrun : Run (service lib) admits (.idle s₀) p)
    (hreach : Reachable (settledIn p) calls h) {a : ι}
    (hkept : h.queued.fhevmInstance = some a) :
    ∃ provider, h.providerRef = some provider ∧ MadeFor lib s₀ p.state provider a := by
  obtain ⟨c, ⟨i, call, hget, hrequest, hcode⟩, _, hprovider⟩ :=
    (status_agrees (settledIn p) calls h hreach).2.2 a hkept
  refine ⟨c.provider, hprovider, ?_⟩
  have hshared := shared h₀ hrun
  rcases (hshared.returned i call a hget hcode).origin with hmock | hsdk
  · obtain ⟨m, hm, _, hmade, hmocks⟩ := hmock
    exact .mock m call.request hm hmade (by rw [hrequest]; rfl) hmocks
  · obtain ⟨m, hm, _, hmade, hnetwork⟩ := hsdk
    obtain ⟨n, hn⟩ := List.mem_iff_getElem?.mp hm
    refine .sdk n m hn hmade (by rw [hnetwork, hrequest]; rfl) (hshared.inv.sourced n m hn) ?_
    intro hunusable
    rw [hshared.inv.none_made hunusable] at hm
    cases hm

/-! ## A component in the page of two calls -/

namespace Sample

def isReturned (c : Call (api Nat) Failure Nat Parameters) : Bool :=
  match c.code with
  | .ret a => decide (a = 0 ∧ c.request = request)
  | _ => false

theorem ended_of_isReturned {c : Call (api Nat) Failure Nat Parameters}
    (h : isReturned c = true) : c.request = request ∧ c.code = .ret 0 := by
  obtain ⟨q, code⟩ := c
  unfold isReturned at h
  split at h
  · next a hcode =>
    obtain ⟨rfl, hrequest⟩ := of_decide_eq_true h
    exact ⟨hrequest, hcode⟩
  · cases h

def props : Props := ⟨some (.eip1193 0), none, none, none⟩

def creation : Creation := ⟨0, .eip1193 0, none⟩

/-- The first call is that of the component. -/
theorem creation_settled : settledIn twice creation (.ok 0) := by
  have hany : twice.calls[0]?.any isReturned = true := by decide +kernel
  cases hget : twice.calls[0]? with
  | none =>
      rw [hget] at hany
      cases hany
  | some c =>
      rw [hget] at hany
      obtain ⟨hrequest, hcode⟩ := ended_of_isReturned hany
      exact ⟨0, c, hget, hrequest, hcode⟩

/-- The component after the effects of its first render. -/
def mounted : Hook Nat Failure :=
  match (mount props).effects with
  | .ok h => h
  | .error _ => mount props

/-- The component when its promise is kept. -/
def ready : Hook Nat Failure :=
  ({ mounted with creations := [] } : Hook Nat Failure).set (some 0) none .ready

theorem ready_reachable (calls : Hook Nat Failure → Option Provider → Option Nat → Prop) :
    Reachable (settledIn twice) calls ready := by
  have hmounted : Reachable (settledIn twice) calls mounted := .step (.mount props) (.effects _)
  exact .step hmounted (.settle (c := creation) 0 (.ok 0) rfl creation_settled)

end Sample

theorem component_instance_shown :
    ∃ provider, Sample.ready.providerRef = some provider ∧
      MadeFor Sample.library Sample.page Sample.twice.state provider 0 :=
  component_instance Sample.initial Sample.twice_run (Sample.ready_reachable latest) rfl

end LunarysBridge.Fhevm.Create
