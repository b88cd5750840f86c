/-
LunarysBridge.Frontend.Signer — `useReownEthersSigner`, and what the form does
when the account is switched.

The hook keeps a signer in its state and makes a new one when its effect finds
that something has changed. But it compares the chain with a reference that
the effect before it has just updated, and the signer with itself, so all that
counts is the provider object: `signer_iff` says that the signer is
the one of the account at which the provider was adopted. A wallet that goes
on with another account has the same provider, and the form is left with the
new account and the old signer.
-/
import LunarysBridge.Frontend.Submitted

namespace LunarysBridge.Frontend.ReownSigner

open Evm (Address)

/-! ## The hook -/

/-- What a render reads of the wallet, objects by their identity. -/
structure Appkit where
  walletProvider : Option Nat
  chainId : Option Nat
  isConnected : Bool
  address : Option Address
  initialMockChains : Nat
  deriving DecidableEq

structure JsonRpcSigner where
  provider : Nat
  address : Address
  deriving DecidableEq

/-- The references of the hook, its state, and the dependencies of the last
render. -/
structure State where
  chainIdRef : Option Nat
  walletProviderRef : Option Nat
  ethersSignerRef : Option JsonRpcSigner
  ethersSigner : Option JsonRpcSigner
  last : Option Appkit
  deriving DecidableEq

def State.initial : State := ⟨none, none, none, none, none⟩

def State.sameChain (s : State) (chainId : Option Nat) : Prop := chainId = s.chainIdRef

def State.sameSigner (s : State) (ethersSigner : Option JsonRpcSigner) : Prop :=
  ethersSigner = s.ethersSignerRef

instance (s : State) (chainId : Option Nat) : Decidable (s.sameChain chainId) :=
  inferInstanceAs (Decidable (_ = _))

instance (s : State) (e : Option JsonRpcSigner) : Decidable (s.sameSigner e) :=
  inferInstanceAs (Decidable (_ = _))

/-- Provider and address, if nothing is missing. -/
def Appkit.connection (a : Appkit) : Option (Nat × Address) :=
  match a.walletProvider, a.chainId, a.address with
  | some walletProvider, some chainId, some address =>
      if chainId ≠ 0 ∧ a.isConnected = true then some (walletProvider, address) else none
  | _, _, _ => none

/-- A render that is committed; `made` says whether a signer can be made. -/
structure Commit where
  props : Appkit
  made : Bool
  deriving DecidableEq

/-- The first effect. -/
def chainEffect (a : Appkit) (s : State) : State := { s with chainIdRef := a.chainId }

/-- The second effect. -/
def signerEffect (a : Appkit) (made : Bool) (s : State) : State :=
  match a.connection with
  | none => { s with walletProviderRef := none, ethersSignerRef := none, ethersSigner := none }
  | some (walletProvider, address) =>
      if s.walletProviderRef = some walletProvider ∧ s.sameChain a.chainId ∧
          s.sameSigner s.ethersSignerRef then s
      else if made then
        { s with
          walletProviderRef := some walletProvider
          ethersSignerRef := some ⟨walletProvider, address⟩
          ethersSigner := some ⟨walletProvider, address⟩ }
      else { s with ethersSignerRef := none, ethersSigner := none }

/-- The effects of a render, each if one of its dependencies has changed. -/
def commit (s : State) (c : Commit) : State :=
  let s₁ := if s.last.map (·.chainId) = some c.props.chainId then s else chainEffect c.props s
  let s₂ := if s.last = some c.props then s₁ else signerEffect c.props c.made s₁
  { s₂ with last := some c.props }

def run (cs : List Commit) : State := cs.foldl commit .initial

/-! ## Whose signer it is -/

variable {s : State} {c : Commit} {cs : List Commit} {σ : JsonRpcSigner}

/-- What holds between two renders. -/
structure State.Sound (s : State) : Prop where
  chain : ∀ a, s.last = some a → s.chainIdRef = a.chainId
  signer : ∀ σ, s.ethersSigner = some σ → s.walletProviderRef = some σ.provider ∧
    ∃ a address, s.last = some a ∧ a.connection = some (σ.provider, address)

/-- The provider is new, and a signer is made for the account. -/
structure Adopts (s : State) (c : Commit) (σ : JsonRpcSigner) : Prop where
  connection : c.props.connection = some (σ.provider, σ.address)
  made : c.made = true
  fresh : s.walletProviderRef ≠ some σ.provider
  changed : s.last ≠ some c.props

/-- The wallet is connected with the same provider, whatever the account. -/
def Stays (σ : JsonRpcSigner) (c : Commit) : Prop :=
  ∃ address, c.props.connection = some (σ.provider, address)

theorem run_append (cs : List Commit) (c : Commit) : run (cs ++ [c]) = commit (run cs) c := by
  simp [run]

/-- The reference to the chain is up to date when the signer is looked at. -/
theorem State.Sound.chain_current (hs : s.Sound) (c : Commit) :
    (if s.last.map (·.chainId) = some c.props.chainId then s
      else chainEffect c.props s) = chainEffect c.props s := by
  split
  · next h =>
    obtain ⟨a, hlast, hchain⟩ := Option.map_eq_some_iff.mp h
    have hcurrent : s.chainIdRef = c.props.chainId := (hs.chain a hlast).trans hchain
    rw [chainEffect, ← hcurrent]
  · rfl

theorem commit_same (hs : s.Sound) (h : s.last = some c.props) :
    commit s c = { chainEffect c.props s with last := some c.props } := by
  unfold commit
  rw [hs.chain_current]
  simp only [if_pos h]

theorem commit_changed (hs : s.Sound) (h : s.last ≠ some c.props) :
    commit s c = { signerEffect c.props c.made (chainEffect c.props s) with
      last := some c.props } := by
  unfold commit
  rw [hs.chain_current]
  simp only [if_neg h]

/-- The effect compares nothing but the provider. -/
theorem signerEffect_connected {a : Appkit} {made : Bool} {walletProvider : Nat}
    {address : Address} (h : a.connection = some (walletProvider, address)) :
    signerEffect a made (chainEffect a s) =
      if s.walletProviderRef = some walletProvider then chainEffect a s
      else if made then
        { chainEffect a s with
          walletProviderRef := some walletProvider
          ethersSignerRef := some ⟨walletProvider, address⟩
          ethersSigner := some ⟨walletProvider, address⟩ }
      else { chainEffect a s with ethersSignerRef := none, ethersSigner := none } := by
  unfold signerEffect
  rw [h]
  simp [chainEffect, State.sameChain, State.sameSigner]

/-- The hook goes on with the signer it has. -/
structure Keeps (s : State) (c : Commit) : Prop where
  signer : (commit s c).ethersSigner = s.ethersSigner
  provider : (commit s c).walletProviderRef = s.walletProviderRef
  reason : s.last = some c.props ∨ ∃ walletProvider address,
    c.props.connection = some (walletProvider, address) ∧ s.walletProviderRef = some walletProvider

/-- The hook has a new signer. -/
structure Makes (s : State) (c : Commit) (σ : JsonRpcSigner) : Prop where
  adopts : Adopts s c σ
  signer : (commit s c).ethersSigner = some σ
  provider : (commit s c).walletProviderRef = some σ.provider

/-- The hook has none any more. -/
structure Drops (s : State) (c : Commit) : Prop where
  signer : (commit s c).ethersSigner = none
  reason : ∀ walletProvider address, c.props.connection = some (walletProvider, address) →
    c.made = false ∧ s.walletProviderRef ≠ some walletProvider

/-- **What a commit does to the signer.** -/
theorem commit_cases (hs : s.Sound) (c : Commit) :
    Keeps s c ∨ (∃ σ, Makes s c σ) ∨ Drops s c := by
  by_cases hlast : s.last = some c.props
  · rw [← or_assoc]
    refine .inl (.inl ⟨?_, ?_, .inl hlast⟩) <;> rw [commit_same hs hlast] <;> rfl
  · have hcommit := commit_changed hs hlast
    cases hconnection : c.props.connection with
    | none =>
        refine .inr (.inr ⟨?_, fun walletProvider address h => ?_⟩)
        · rw [hcommit, signerEffect, hconnection]
        · rw [hconnection] at h
          cases h
    | some connection =>
        obtain ⟨walletProvider, address⟩ := connection
        rw [signerEffect_connected hconnection] at hcommit
        by_cases hsame : s.walletProviderRef = some walletProvider
        · rw [if_pos hsame] at hcommit
          exact .inl ⟨by rw [hcommit]; rfl, by rw [hcommit]; rfl,
            .inr ⟨walletProvider, address, hconnection, hsame⟩⟩
        · rw [if_neg hsame] at hcommit
          cases hmade : c.made with
          | true =>
              rw [if_pos hmade] at hcommit
              exact .inr (.inl ⟨⟨walletProvider, address⟩,
                ⟨hconnection, hmade, hsame, hlast⟩, by rw [hcommit], by rw [hcommit]⟩)
          | false =>
              rw [if_neg (by simp [hmade])] at hcommit
              refine .inr (.inr ⟨by rw [hcommit], fun walletProvider' address' h => ⟨hmade, ?_⟩⟩)
              rw [hconnection] at h
              cases h
              exact hsame

theorem commit_chain (hs : s.Sound) : (commit s c).chainIdRef = c.props.chainId := by
  by_cases hlast : s.last = some c.props
  · rw [commit_same hs hlast]
    rfl
  · rw [commit_changed hs hlast]
    unfold signerEffect
    split
    · rfl
    · split
      · rfl
      · split <;> rfl

theorem State.Sound.commit (hs : s.Sound) (c : Commit) : (commit s c).Sound where
  chain a ha := by
    obtain rfl : c.props = a := Option.some.inj ha
    exact commit_chain hs
  signer σ hσ := by
    rcases commit_cases hs c with hkeeps | ⟨σ', hmakes⟩ | hdrops
    · rw [hkeeps.signer] at hσ
      obtain ⟨hprovider, a, address, hlast, hconnection⟩ := hs.signer σ hσ
      refine ⟨hkeeps.provider.trans hprovider, c.props, ?_⟩
      rcases hkeeps.reason with hsame | ⟨walletProvider, address', hconnection', hsame⟩
      · obtain rfl : a = c.props := Option.some.inj (hlast.symm.trans hsame)
        exact ⟨address, rfl, hconnection⟩
      · obtain rfl : walletProvider = σ.provider :=
          Option.some.inj (hsame.symm.trans hprovider)
        exact ⟨address', rfl, hconnection'⟩
    · rw [hmakes.signer] at hσ
      obtain rfl := Option.some.inj hσ
      exact ⟨hmakes.provider, c.props, σ'.address, rfl, hmakes.adopts.connection⟩
    · rw [hdrops.signer] at hσ
      cases hσ

theorem run_sound (cs : List Commit) : (run cs).Sound := by
  induction cs using List.reverseRecOn with
  | nil =>
      constructor
      · intro a h
        cases h
      · intro σ h
        cases h
  | append_singleton cs c ih =>
      rw [run_append]
      exact ih.commit c

/-- A provider that is adopted gives the signer. -/
theorem Adopts.signer (hs : s.Sound) (h : Adopts s c σ) : (commit s c).ethersSigner = some σ := by
  rcases commit_cases hs c with hkeeps | ⟨σ', hmakes⟩ | hdrops
  · rcases hkeeps.reason with hsame | ⟨walletProvider, address, hconnection, hsame⟩
    · exact absurd hsame h.changed
    · rw [h.connection] at hconnection
      cases hconnection
      exact absurd hsame h.fresh
  · have hconnection := hmakes.adopts.connection.symm.trans h.connection
    obtain ⟨hprovider, haddress⟩ := Prod.mk.inj (Option.some.inj hconnection)
    obtain ⟨provider, address⟩ := σ
    obtain ⟨provider', address'⟩ := σ'
    obtain rfl : provider' = provider := hprovider
    obtain rfl : address' = address := haddress
    exact hmakes.signer
  · have hmade := (hdrops.reason _ _ h.connection).1
    rw [h.made] at hmade
    cases hmade

/-- With the same provider the signer stays. -/
theorem Stays.signer (hs : s.Sound) (h : Stays σ c) (hσ : s.ethersSigner = some σ) :
    (commit s c).ethersSigner = some σ := by
  obtain ⟨address, hconnection⟩ := h
  have hprovider := (hs.signer σ hσ).1
  rcases commit_cases hs c with hkeeps | ⟨σ', hmakes⟩ | hdrops
  · exact hkeeps.signer.trans hσ
  · have hsame := hmakes.adopts.connection.symm.trans hconnection
    have heq : σ'.provider = σ.provider := (Prod.mk.inj (Option.some.inj hsame)).1
    exact absurd (heq ▸ hprovider) hmakes.adopts.fresh
  · exact absurd hprovider (hdrops.reason _ _ hconnection).2

/-- A signer that is there was kept or made. -/
theorem signer_before (hs : s.Sound) (h : (commit s c).ethersSigner = some σ) :
    (s.ethersSigner = some σ ∧ Stays σ c) ∨ Adopts s c σ := by
  rcases commit_cases hs c with hkeeps | ⟨σ', hmakes⟩ | hdrops
  · have hσ := hkeeps.signer.symm.trans h
    obtain ⟨-, a, address, hlast, hconnection⟩ := (hs.commit c).signer σ h
    obtain rfl : c.props = a := Option.some.inj hlast
    exact .inl ⟨hσ, address, hconnection⟩
  · obtain rfl := Option.some.inj (hmakes.signer.symm.trans h)
    exact .inr hmakes.adopts
  · rw [hdrops.signer] at h
    cases h

/-- The signer was made when its provider was adopted, and the wallet has been
connected with this provider since, whatever its accounts. -/
theorem signer_iff (cs : List Commit) (σ : JsonRpcSigner) :
    (run cs).ethersSigner = some σ ↔ ∃ earlier adopted since,
      cs = earlier ++ adopted :: since ∧ Adopts (run earlier) adopted σ ∧ ∀ c ∈ since, Stays σ c := by
  induction cs using List.reverseRecOn with
  | nil =>
      constructor
      · intro h
        cases h
      · rintro ⟨earlier, adopted, since, hcs, -, -⟩
        simp at hcs
  | append_singleton cs c ih =>
      rw [run_append]
      constructor
      · intro h
        rcases signer_before (run_sound cs) h with ⟨hσ, hstays⟩ | hadopts
        · obtain ⟨earlier, adopted, since, rfl, hadopts, hsince⟩ := ih.mp hσ
          refine ⟨earlier, adopted, since ++ [c], by simp, hadopts, fun c' hc' => ?_⟩
          rcases List.mem_append.mp hc' with hold | hnew
          · exact hsince c' hold
          · obtain rfl := List.mem_singleton.mp hnew
            exact hstays
        · exact ⟨cs, c, [], rfl, hadopts, by simp⟩
      · rintro ⟨earlier, adopted, since, hcs, hadopts, hsince⟩
        rcases List.eq_nil_or_concat since with rfl | ⟨since, c', rfl⟩
        · obtain ⟨rfl, hc⟩ := List.append_inj' hcs rfl
          obtain rfl := List.singleton_inj.mp hc
          exact hadopts.signer (run_sound cs)
        · rw [List.concat_eq_append] at hcs hsince
          rw [← List.cons_append, ← List.append_assoc] at hcs
          obtain ⟨rfl, hc⟩ := List.append_inj' hcs rfl
          obtain rfl := List.singleton_inj.mp hc
          have hσ := ih.mpr ⟨earlier, adopted, since, rfl, hadopts,
            fun c' hc' => hsince c' (List.mem_append_left _ hc')⟩
          exact (hsince c (by simp)).signer (run_sound _) hσ

/-! ## The form, when the account is switched -/

open Async EvmBridge

/-- The form of this render: the account is the wallet's, and the signer the
one that earlier renders have left. -/
structure Captured (before : List Commit) (newest : Appkit) (r : Render) : Prop where
  account : r.account = newest.address
  signer : r.signer = (run before).ethersSigner.map (·.address)

section Switched

variable {env : Setup} {w₀ : World} {p : Calls} {admits : Calls → Render → Prop}
  {before : List Commit} {newest : Appkit} {r : Render}

/-- No deposit of the call is mined, and it does not return. -/
def Fails (p : Calls) (i : Nat) (c : Call api Relayer.JsError BridgeResult Render) : Prop :=
  (∀ t ∈ p.state.sent, t.caller = i → t.payload.fn.isSome = true →
    ∀ announced, t.status ≠ .mined announced) ∧ ∀ res, c.code ≠ .ret res

theorem fails_of_mismatch (h₀ : w₀.Initial env) (hrun : Run (service env) admits (.idle w₀) p)
    {i : Nat} {c : Call api Relayer.JsError BridgeResult Render} (hget : p.calls[i]? = some c)
    (hdiffer : c.request.account ≠ c.request.signer) : Fails p i c := by
  have hform : ∀ f : Form env c.request, f.signer ≠ f.owner := by
    intro f heq
    rw [f.account, f.signs, heq] at hdiffer
    exact hdiffer rfl
  have hs := Run.sound h₀ hrun
  constructor
  · rintro t ht rfl hdeposit announced hm
    obtain ⟨c', hget', f, hgoes⟩ := Run.goesBy h₀ hrun t ht
    obtain rfl : c' = c := Option.some.inj (hget'.symm.trans hget)
    exact hform f (hgoes.2 hdeposit announced hm)
  · intro res hret
    obtain ⟨f, ⟨t, announced, hsent, -, hdeposits, hm⟩, -⟩ := Run.done hrun hget hret
    exact hform f (hdeposits.owner (hs.recorded t (List.mem_of_getElem? hsent)) hm)

/-- **A switched account cannot deposit.** When the wallet has gone on to
another account with the provider that was adopted for the first, the hook
still has the old signer, and so has the form: whatever else happens, none of
its calls gets a deposit mined, and none returns. -/
theorem switched_account_fails {earlier since : List Commit} {adopted : Commit}
    {σ : JsonRpcSigner} (hcaptured : Captured (earlier ++ adopted :: since) newest r)
    (hadopts : Adopts (run earlier) adopted σ) (hsince : ∀ c ∈ since, Stays σ c)
    (hswitched : newest.address ≠ some σ.address) (h₀ : w₀.Initial env)
    (hrun : Run (service env) admits (.idle w₀) p) {i : Nat}
    {c : Call api Relayer.JsError BridgeResult Render} (hget : p.calls[i]? = some c)
    (hform : c.request = r) :
    (run (earlier ++ adopted :: since)).ethersSigner = some σ ∧ Fails p i c := by
  have hσ := (signer_iff (earlier ++ adopted :: since) σ).mpr
    ⟨earlier, adopted, since, rfl, hadopts, hsince⟩
  refine ⟨hσ, fails_of_mismatch h₀ hrun hget ?_⟩
  rw [hform, hcaptured.account, hcaptured.signer, hσ]
  exact hswitched

end Switched

namespace Sample

/-- The wallet is connected with the account 4. -/
def connected : Commit := ⟨⟨some 1, some defaultChainId, true, some 4, 0⟩, true⟩

/-- It goes on with the account 5. -/
def newest : Appkit := { connected.props with address := some 5 }

/-- The form with the account 5 and the signer of the account 4. -/
def switched : Render := { EvmBridge.Sample.filledIn with account := some 5 }

theorem adopted : Adopts (run []) connected ⟨1, 4⟩ where
  connection := by decide
  made := rfl
  fresh := by decide
  changed := by decide

theorem captured : Captured ([] ++ connected :: []) newest switched where
  account := rfl
  signer := by decide

end Sample

/-- The approval of the account 4 is mined, and the deposit is not. -/
theorem switched_account_fails_once : ∃ w p c, w.Initial EvmBridge.Sample.form ∧
    Run (service EvmBridge.Sample.form) (fun _ _ => True) (.idle w) p ∧ p.calls[0]? = some c ∧
    ((run ([] ++ Sample.connected :: [])).ethersSigner = some ⟨1, 4⟩ ∧ Fails p 0 c) ∧
    p.state.sent.map (fun t => (t.sender, t.payload.fn.isSome, t.status)) =
      [(4, false, .mined none), (4, true, .pending)] := by
  have hfacts : EvmBridge.Sample.deployed.map (fun evm =>
      (EvmBridge.Sample.serve Sample.switched (.idle ⟨evm, []⟩)).state.sent.map
        fun t => (t.sender, t.payload.fn.isSome, t.status)) =
      some [(4, false, .mined none), (4, true, .pending)] := by
    decide +kernel
  obtain ⟨evm, hevm, hsent⟩ := Option.map_eq_some_iff.mp hfacts
  have hinit : World.Initial EvmBridge.Sample.form ⟨evm, []⟩ :=
    ⟨EvmBridge.Sample.reachable_deployed hevm, rfl⟩
  have hrun := EvmBridge.Sample.run_serve Sample.switched (.idle ⟨evm, []⟩)
  have hfails := switched_account_fails (i := 0) Sample.captured Sample.adopted
    (by simp) (by decide) hinit hrun rfl rfl
  exact ⟨_, _, _, hinit, hrun, rfl, hfails, hsent⟩

end LunarysBridge.Frontend.ReownSigner
