/-
LunarysBridge.Fhevm.OnePage — what holds in every run of the calls of
`createFhevmInstance` in one page.

The script is added once and by one call; a call that comes while it is
loading is turned away for good (`one_loader`). Once the script has failed, or
the database, no later call helps: the element stays in the document and the
promise in its variable (`failed_for_good`). A key that an instance is created
with came from the same ACL (`keys_sourced`), and an instance leaves its key
behind even if its call is aborted (`saved_even_if_aborted`).
-/
import LunarysBridge.Fhevm.Sharing

namespace LunarysBridge.Fhevm.Create

open Async

variable {ι : Type} {lib : Library ι} {s₀ s s' : Page ι} {p p' : Calls ι} {i j : Nat}

/-! ## The calls on record -/

/-- The calls the page has on record. -/
def Page.callers (s : Page ι) : List Nat := s.added ++ s.rejected ++ s.made.map Made.caller

theorem callers_of_change {o : Op} (h : Change j s o s') :
    ∀ k ∈ s'.callers, k = j ∨ k ∈ s.callers := by
  intro k hk
  cases h with
  | added => simp [Page.callers] at hk ⊢; tauto
  | rejected => simp [Page.callers] at hk ⊢; tauto
  | made config a => simp [Page.callers] at hk ⊢; tauto
  | _ => exact .inr hk

theorem callers_of_outside (h : Page.Outside s s') : s'.callers = s.callers := by
  cases h <;> rfl

theorem Page.Initial.callers (h : s₀.Initial) : s₀.callers = [] := by
  simp [Page.callers, h.added, h.rejected, h.made]

/-- The number of a call that is still to come is not on record. -/
theorem fresh_next {admits : Calls ι → Parameters → Prop} (h₀ : s₀.Initial)
    (hrun : Run ((service lib).under (Inv lib s₀)) admits (.idle s₀) p) :
    Fresh p.calls.length p.state := by
  have hcalls : ∀ k ∈ p.state.callers, k < p.calls.length := by
    have hrecorded := Run.recorded Page.callers id (fun _ _ _ => True) h₀.callers
      (fun _ _ hans k hk => by
        rcases callers_of_change (change_of_answers hans.1) k hk with hown | hold
        · exact .inl ⟨hown, trivial⟩
        · exact .inr ⟨k, hold, rfl, fun _ => id⟩)
      (fun _ hout k hk => ⟨k, (callers_of_outside hout.1) ▸ hk, rfl, fun _ => id⟩) hrun
    intro k hk
    obtain ⟨c, hget, _⟩ := hrecorded k hk
    exact (List.getElem?_eq_some_iff.mp hget).1
  have hlt : ∀ {k}, k ∈ p.state.callers → k ≠ p.calls.length := by
    rintro k hk rfl
    exact Nat.lt_irrefl _ (hcalls _ hk)
  refine ⟨fun hmem => hlt ?_ rfl, fun hmem => hlt ?_ rfl, fun m hm => hlt ?_⟩
  · simp [Page.callers, hmem]
  · simp [Page.callers, hmem]
  · exact List.mem_append_right _ (List.mem_map.mpr ⟨m, hm, rfl⟩)

/-! ## Every run -/

/-- What is known of the page and of each call that has ended. -/
structure Shared (lib : Library ι) (s₀ : Page ι) (p : Calls ι) : Prop where
  inv : Inv lib s₀ p.state
  returned : ∀ i c a, p.calls[i]? = some c → c.code = .ret a →
    Returned lib i c.request a p.state
  failed : ∀ i c e, p.calls[i]? = some c → c.code = .fail e → FailedWith lib i e p.state

theorem shared {admits : Calls ι → Parameters → Prop} (h₀ : s₀.Initial)
    (hrun : Run (service lib) admits (.idle s₀) p) : Shared lib s₀ p := by
  have hcode : ∀ (p : Calls ι) (q : Parameters),
      Run ((service lib).under (Inv lib s₀)) admits (.idle s₀) p → admits p q →
      (createFhevmInstance lib q).wp (((service lib).under (Inv lib s₀)).answers p.calls.length)
        (Later p.calls.length) (fun _ _ _ s' => Inv lib s₀ s') (Ended lib p.calls.length q)
        p.state :=
    fun p q hrun _ => meets_createFhevmInstance (fresh_next h₀ hrun)
  obtain ⟨hinv, hrun'⟩ := Run.under (inv_initial h₀) later_relies ended_later hcode
    (fun hout hinv => hinv.outside hout) hrun
  have hkeeps : KeepsTo ((service lib).under (Inv lib s₀)) Later
      (fun _ _ _ _ s' => Inv lib s₀ s') (Ended lib) p :=
    Run.keepsTo later_relies ended_later hcode hrun'
  refine ⟨hinv, fun i c a hget hcode => ?_, fun i c e hget hcode => ?_⟩
  · have hended := hkeeps i c hget
    rw [hcode] at hended
    exact hended
  · have hended := hkeeps i c hget
    rw [hcode] at hended
    exact hended

/-! ## One loader -/

/-- **At most one call adds the script.** Another call may be rejected only
after that; it never makes an instance, and never returns one, whatever becomes
of the script. -/
theorem one_loader {admits : Calls ι → Parameters → Prop} (h₀ : s₀.Initial)
    (hrun : Run (service lib) admits (.idle s₀) p) :
    p.state.added.length ≤ 1 ∧ ∀ j ∈ p.state.rejected,
      (∃ i, i ≠ j ∧ p.state.added = [i]) ∧ (∀ m ∈ p.state.made, m.caller ≠ j) ∧
      ∀ c a, p.calls[j]? = some c → c.code ≠ .ret a := by
  have h := shared h₀ hrun
  have hreturned : ∀ j ∈ p.state.rejected, ∀ c a, p.calls[j]? = some c → c.code ≠ .ret a :=
    fun j hj c a hget hcode => (h.returned j c a hget hcode).rejected hj
  have hmade : ∀ j ∈ p.state.rejected, ∀ m ∈ p.state.made, m.caller ≠ j := by
    rintro j hj m hm rfl
    exact h.inv.rejected m hm hj
  rcases h.inv.loader with ⟨_, hadded, hnone⟩ | ⟨_, i, hadded, hi⟩
  · refine ⟨by simp [hadded], fun j hj => ?_⟩
    simp [hnone] at hj
  · refine ⟨by simp [hadded], fun j hj => ⟨⟨i, ?_, hadded⟩, hmade j hj, hreturned j hj⟩⟩
    rintro rfl
    exact hi hj

/-! ## Failures -/

/-- The script has failed, or has left no valid SDK, or the database cannot be
opened. -/
def Page.Unusable (s : Page ι) : Prop :=
  s.script = .failed ∨ (s.script = .loaded ∧ s.relayerSDK.isValid = false) ∨
    ∃ message, s.db = .failed message

theorem Page.Unusable.change {o : Op} (h : s.Unusable) (hchange : Change j s o s') :
    s'.Unusable := by
  cases hchange with
  | added _ hscript =>
      rcases h with hfailed | ⟨hloaded, _⟩ | hdb
      · simp [hscript] at hfailed
      · simp [hscript] at hloaded
      · exact .inr (.inr hdb)
  | initialized result =>
      rcases h with hfailed | ⟨hloaded, hinvalid⟩ | hdb
      · exact .inl hfailed
      · exact .inr (.inl ⟨hloaded, by simp [hinvalid]⟩)
      · exact .inr (.inr hdb)
  | opened hunfailed =>
      rcases h with hfailed | hloaded | ⟨message, hdb⟩
      · exact .inl hfailed
      · exact .inr (.inl hloaded)
      · exact absurd hdb (hunfailed message)
  | failed message => exact .inr (.inr ⟨message, rfl⟩)
  | _ => exact h

theorem Page.Unusable.outside (h : s.Unusable) (hout : Page.Outside s s') : s'.Unusable := by
  cases hout with
  | abort => exact h
  | scriptFailed => exact .inl rfl
  | scriptLoaded loading =>
      rcases h with hfailed | ⟨hloaded, _⟩ | hdb
      · simp [loading] at hfailed
      · simp [loading] at hloaded
      · exact .inr (.inr hdb)

/-- Nothing that happens in the page mends it. -/
theorem Page.Unusable.run {admits : Calls ι → Parameters → Prop} (h : p.state.Unusable)
    (hrun : Run (service lib) admits p p') : p'.state.Unusable := by
  induction hrun with
  | refl => exact h
  | tail _ hstep ih =>
      cases hstep with
      | start => exact ih
      | resume j hat hans => exact ih.change (change_of_answers hans)
      | outside hout => exact ih.outside hout

theorem Inv.none_made (h : Inv lib s₀ s) (hunusable : s.Unusable) : s.made = [] := by
  by_contra hmade
  obtain ⟨hvalid, hopened⟩ := h.usable hmade
  rcases hunusable with hfailed | ⟨_, hinvalid⟩ | ⟨message, hdb⟩
  · exact hmade (h.no_instance (by simp [hfailed]))
  · simp [hvalid] at hinvalid
  · simp [hopened] at hdb

/-- **A failed load is final.** From then on the SDK makes no instance, and has
made none; every instance that a call of the page returns, before or after, is
one of the mock library for a mocked chain. -/
theorem failed_for_good {admits : Calls ι → Parameters → Prop} (h₀ : s₀.Initial)
    (hrun : Run (service lib) admits (.idle s₀) p) (hunusable : p.state.Unusable)
    (hlater : Run (service lib) admits p p') :
    p'.state.Unusable ∧ p'.state.made = [] ∧
      ∀ i c a, p'.calls[i]? = some c → c.code = .ret a → OfMock i c.request a p'.state := by
  have hunusable' := hunusable.run hlater
  have h := shared h₀ (hrun.trans hlater)
  have hnone := h.inv.none_made hunusable'
  refine ⟨hunusable', hnone, fun i c a hget hcode => ?_⟩
  rcases (h.returned i c a hget hcode).origin with hmock | ⟨m, hm, _⟩
  · exact hmock
  · rw [hnone] at hm
    cases hm

/-! ## Keys -/

/-- **Keys keep to their ACL.** An instance is created for an ACL that is an
address, from a key and parameters the browser had stored for that ACL at
first, or that an earlier instance for it gave out. What a call returns was
made for its own provider, or by the mock library for a mocked chain. -/
theorem keys_sourced {admits : Calls ι → Parameters → Prop} (h₀ : s₀.Initial)
    (hrun : Run (service lib) admits (.idle s₀) p) :
    (∀ n m, p.state.made[n]? = some m → Sourced lib s₀ (p.state.made.take n) m.config) ∧
      ∀ i c a, p.calls[i]? = some c → c.code = .ret a →
        OfMock i c.request a p.state ∨ OfSDK i c.request a p.state := by
  have h := shared h₀ hrun
  exact ⟨h.inv.sourced, fun i c a hget hcode => (h.returned i c a hget hcode).origin⟩

/-- **The key is saved even if aborted.** Once the call that made an instance
has returned, or was aborted, there is a key under the ACL of the instance, if
that gave one out; so there are parameters. They are known of that ACL. -/
theorem saved_even_if_aborted {admits : Calls ι → Parameters → Prop} (h₀ : s₀.Initial)
    (hrun : Run (service lib) admits (.idle s₀) p) {m : Made ι} (hm : m ∈ p.state.made)
    {c : Call (api ι) Failure ι Parameters} (hget : p.calls[m.caller]? = some c)
    (hended : (∃ a, c.code = .ret a) ∨ c.code = .fail .FhevmAbortError) :
    ∃ acl, m.config.sepoliaConfig.aclContractAddress = .string acl ∧
      (∀ k, lib.getPublicKey m.fhevmInstance = .valid k →
        ∃ k', p.state.publicKeyStore acl = .valid k' ∧
          Known s₀.publicKeyStore lib.getPublicKey p.state.made acl k') ∧
      ∀ v, lib.getPublicParams m.fhevmInstance = .valid v →
        ∃ v', p.state.paramsStore acl = .valid v' ∧
          Known s₀.paramsStore lib.getPublicParams p.state.made acl v' := by
  have h := shared h₀ hrun
  have hsaved : Saved lib m p.state := by
    rcases hended with ⟨a, hcode⟩ | hcode
    · exact (h.returned _ c a hget hcode).saved m hm rfl
    · exact h.failed _ c _ hget hcode rfl m hm rfl
  obtain ⟨n, hn⟩ := List.mem_iff_getElem?.mp hm
  obtain ⟨acl, hacl, _⟩ := h.inv.sourced n m hn
  refine ⟨acl, hacl, fun k hk => ?_, fun v hv => ?_⟩
  · obtain ⟨k', hk'⟩ := (hsaved acl hacl).1 k hk
    exact ⟨k', hk', h.inv.publicKeys acl k' hk'⟩
  · obtain ⟨v', hv'⟩ := (hsaved acl hacl).2 v hv
    exact ⟨v', hv', h.inv.publicParams acl v' hv'⟩

/-! ## Four schedules -/

namespace Sample

def isACL (address : String) : Bool := address == "0xACL"

def givenKey (_ : Nat) : Shape StoredPublicKey := .valid ⟨"key", [7]⟩

def givenParams (_ : Nat) : Shape StoredPublicParams := .null

/-- The instances of this library are the numbers of their calls. -/
def library : Library Nat := ⟨isACL, givenKey, givenParams⟩

def noKey (_ : String) : Shape StoredPublicKey := .null

def noParams (_ : String) : Shape StoredPublicParams := .null

def page : Page Nat :=
  ⟨.absent, .none, .unopened, noKey, noParams, Signals.none, [], [], [], []⟩

def request : Parameters := ⟨.eip1193 0, none, 0⟩

def config : SepoliaConfig := ⟨.string "0xACL", []⟩

/-- Nothing fails that need not. -/
def answer (i : Nat) (s : Page Nat) : (o : Op) → Except Failure (o.Answer Nat) × Page Nat
  | .chainId _ => (.ok (some 11155111), s)
  | .clientVersion _ => (.ok none, s)
  | .relayerMetadata _ => (.ok none, s)
  | .mockCreateInstance rpcUrl chainId metadata =>
      (.ok i, { s with mocked := s.mocked ++ [⟨i, rpcUrl, chainId, metadata, i⟩] })
  | .aborted signal => (.ok (s.signals.aborted signal), s)
  | .notify _ => (.ok (), s)
  | .isFhevmWindowType => (.ok s.relayerSDK.isValid, s)
  | .isFhevmInitialized => (.ok s.relayerSDK.isInitialized, s)
  | .load => s.load i
  | .scriptEvent =>
      (if s.script = .loaded then .ok () else
        .error (.Error ("RelayerSDKLoader: Failed to load Relayer SDK from " ++ SDK_CDN_URL)), s)
  | .initSDK => (.ok true, s)
  | .setInitialized result =>
      (.ok (), { s with relayerSDK := s.relayerSDK.setInitialized result })
  | .sepoliaConfig => (.ok config, s)
  | .getDB => (.ok (), { s with db := .opened })
  | .getPublicKey acl => (.ok (s.publicKeyStore acl), s)
  | .getPublicParams acl => (.ok (s.paramsStore acl), s)
  | .createInstance config => (.ok i, { s with made := s.made ++ [⟨i, config, i⟩] })
  | .putPublicKey acl value =>
      (.ok (), { s with
        publicKeyStore := Function.update s.publicKeyStore acl (.valid value) })
  | .putPublicParams acl value =>
      (.ok (), { s with paramsStore := Function.update s.paramsStore acl (.valid value) })

/-- Where the answers are those of the page. -/
def check (s : Page Nat) : Op → Bool
  | .scriptEvent => s.script = .failed ∨ s.script = .loaded ∧ s.relayerSDK.isValid
  | .sepoliaConfig => s.relayerSDK = .valid true config
  | .getDB => s.db = .unopened ∨ s.db = .opened
  | _ => true

theorem answers_of_check (i : Nat) (s : Page Nat) (o : Op) (h : check s o = true) :
    (service library).answers i s o (answer i s o).1 (answer i s o).2 := by
  cases o with
  | load =>
      show s.answers i .load (s.load i).1 (s.load i).2
      cases hload : (s.load i).1 with
      | ok waits => exact Prod.ext hload rfl
      | error e => exact Prod.ext hload rfl
  | scriptEvent =>
      rcases of_decide_eq_true h with hfailed | ⟨hloaded, hvalid⟩
      · simp only [answer, hfailed]
        exact ⟨.inl ⟨hfailed, rfl⟩, rfl⟩
      · simp only [answer, hloaded]
        exact ⟨hloaded, hvalid, rfl⟩
  | sepoliaConfig => exact ⟨⟨true, of_decide_eq_true h⟩, rfl⟩
  | getDB =>
      refine ⟨fun message hfailed => ?_, rfl⟩
      rcases of_decide_eq_true h with hdb | hdb <;> simp [hdb] at hfailed
  | chainId | clientVersion | relayerMetadata | mockCreateInstance | notify | initSDK
  | setInitialized | createInstance | putPublicKey | putPublicParams => rfl
  | aborted | isFhevmWindowType | isFhevmInitialized | getPublicKey | getPublicParams =>
      exact ⟨rfl, rfl⟩

def played (p : Calls Nat) (order : List Nat) : Calls Nat := order.foldl (Pool.advance answer) p

theorem run_played (p : Calls Nat) (order : List Nat)
    (h : p.passes check answer order = true) :
    Run (service library) (fun _ _ => True) p (played p order) :=
  Run.schedule answers_of_check h

theorem initial : page.Initial := ⟨rfl, rfl, rfl, rfl, rfl, rfl, rfl⟩

/-- Two calls, and the second comes while the first has the script loading. -/
def raced : Calls Nat :=
  played ((Pool.idle page).startAll (service library) [request, request])
    (List.replicate 5 0 ++ List.replicate 5 1)

theorem raced_run : Run (service library) (fun _ _ => True) (.idle page) raced :=
  (Run.startAll [request, request] (.idle page)).trans (run_played _ _ rfl)

/-- The script fails. -/
def broken : Calls Nat := { raced with state := { raced.state with script := .failed } }

theorem broken_run : Run (service library) (fun _ _ => True) (.idle page) broken :=
  raced_run.tail (.outside (.scriptFailed raced.state rfl))

/-- The first call goes on, and another one comes. -/
def hopeless : Calls Nat :=
  played (broken.startAll (service library) [request]) (0 :: List.replicate 5 2)

theorem hopeless_run : Run (service library) (fun _ _ => True) broken hopeless :=
  (Run.startAll [request] broken).trans (run_played _ _ rfl)

/-- The script is loaded, and the first call goes on until it has made an
instance. -/
def created : Calls Nat :=
  played { raced with
    state := { raced.state with script := .loaded, relayerSDK := .valid false config } }
    (List.replicate 17 0)

theorem created_run : Run (service library) (fun _ _ => True) (.idle page) created :=
  (raced_run.tail (.outside (.scriptLoaded raced.state rfl _))).trans
    (run_played _ _ rfl)

/-- It returns, and another call finds its key. -/
def twice : Calls Nat :=
  played (created.startAll (service library) [request])
    (List.replicate 3 0 ++ List.replicate 14 2)

theorem twice_run : Run (service library) (fun _ _ => True) (.idle page) twice :=
  created_run.trans ((Run.startAll [request] created).trans
    (run_played _ _ rfl))

/-- It is aborted instead. -/
def aborted : Calls Nat :=
  played { created with state := { created.state with signals := created.state.signals.abort 0 } }
    (List.replicate 3 0)

theorem aborted_run : Run (service library) (fun _ _ => True) (.idle page) aborted :=
  (created_run.tail (.outside (.abort created.state 0))).trans
    (run_played _ _ rfl)

/-- What it has made. -/
def left : Made Nat := ⟨0, ⟨config, .eip1193 0, none, none⟩, 0⟩

/-- The call that is aborted. -/
def abortedCall : Call (api Nat) Failure Nat Parameters := ⟨request, .fail .FhevmAbortError⟩

def isAborted (c : Call (api Nat) Failure Nat Parameters) : Bool :=
  match c.code with
  | .fail .FhevmAbortError => decide (c.request = request)
  | _ => false

theorem eq_abortedCall {c : Call (api Nat) Failure Nat Parameters} (h : isAborted c = true) :
    c = abortedCall := by
  obtain ⟨q, code⟩ := c
  unfold isAborted at h
  split at h
  · next hcode =>
    obtain rfl : q = request := of_decide_eq_true h
    exact congrArg (Call.mk request) hcode
  · cases h

theorem aborted_call : aborted.calls[0]? = some abortedCall := by
  have h : aborted.calls[0]?.any isAborted = true := rfl
  cases hget : aborted.calls[0]? with
  | none =>
      rw [hget] at h
      cases h
  | some c =>
      rw [hget] at h
      rw [eq_abortedCall h]

end Sample

theorem one_loader_twice :
    Sample.twice.state.added.length ≤ 1 ∧ ∀ j ∈ Sample.twice.state.rejected,
      (∃ i, i ≠ j ∧ Sample.twice.state.added = [i]) ∧
      (∀ m ∈ Sample.twice.state.made, m.caller ≠ j) ∧
      ∀ c a, Sample.twice.calls[j]? = some c → c.code ≠ .ret a :=
  one_loader Sample.initial Sample.twice_run

theorem failed_for_good_hopeless :
    Sample.hopeless.state.Unusable ∧ Sample.hopeless.state.made = [] ∧
      ∀ i c a, Sample.hopeless.calls[i]? = some c → c.code = .ret a →
        OfMock i c.request a Sample.hopeless.state :=
  failed_for_good Sample.initial Sample.broken_run (.inl rfl)
    Sample.hopeless_run

theorem keys_sourced_twice :
    (∀ n m, Sample.twice.state.made[n]? = some m →
      Sourced Sample.library Sample.page (Sample.twice.state.made.take n) m.config) ∧
      ∀ i c a, Sample.twice.calls[i]? = some c → c.code = .ret a →
        OfMock i c.request a Sample.twice.state ∨ OfSDK i c.request a Sample.twice.state :=
  keys_sourced Sample.initial Sample.twice_run

theorem saved_even_if_aborted_once :
    ∃ acl, Sample.left.config.sepoliaConfig.aclContractAddress = .string acl ∧
      (∀ k, Sample.library.getPublicKey Sample.left.fhevmInstance = .valid k →
        ∃ k', Sample.aborted.state.publicKeyStore acl = .valid k' ∧
          Known Sample.page.publicKeyStore Sample.library.getPublicKey
            Sample.aborted.state.made acl k') ∧
      ∀ v, Sample.library.getPublicParams Sample.left.fhevmInstance = .valid v →
        ∃ v', Sample.aborted.state.paramsStore acl = .valid v' ∧
          Known Sample.page.paramsStore Sample.library.getPublicParams
            Sample.aborted.state.made acl v' :=
  saved_even_if_aborted Sample.initial Sample.aborted_run
    (List.contains_iff_mem.mp rfl) Sample.aborted_call (.inr rfl)

end LunarysBridge.Fhevm.Create
