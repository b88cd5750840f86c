/-
LunarysBridge.Fhevm.Sharing — what one call of `createFhevmInstance` does to
the page while others run.

The page keeps `Inv` as long as each call comes to `load`, to the SDK and to
the stores only in order (`Fit`). A call may rely on `Later`: the SDK stays
valid and the database open, and nobody else adds a script, is rejected or
makes an instance under its name.
-/
import LunarysBridge.Fhevm.Creation

namespace LunarysBridge.Fhevm.Create

open Async

variable {ι : Type} {lib : Library ι} {s₀ s s' s₁ s₂ : Page ι} {i j : Nat} {q : Parameters}

/-! ## What one operation changes -/

/-- All an operation of the `j`-th call can do to the page. -/
inductive Change (j : Nat) (s : Page ι) : Op → Page ι → Prop where
  | nothing (o : Op) : Change j s o s
  | mocked (rpcUrl : String) (chainId : Nat) (metadata : RelayerMetadata) (a : ι) :
      Change j s (.mockCreateInstance rpcUrl chainId metadata)
        { s with mocked := s.mocked ++ [⟨j, rpcUrl, chainId, metadata, a⟩] }
  | added (absent : s.relayerSDK = .absent) (script : s.script = .none) :
      Change j s .load { s with script := .loading, added := s.added ++ [j] }
  | rejected (script : s.relayerSDK = .invalid ∨ s.script ≠ .none) :
      Change j s .load { s with rejected := s.rejected ++ [j] }
  | initialized (result : Bool) : Change j s (.setInitialized result)
      { s with relayerSDK := s.relayerSDK.setInitialized result }
  | opened (unfailed : ∀ message, s.db ≠ .failed message) :
      Change j s .getDB { s with db := .opened }
  | failed (message : String) (unopened : s.db = .unopened ∨ s.db = .failed message) :
      Change j s .getDB { s with db := .failed message }
  | made (config : FhevmInstanceConfig) (a : ι) :
      Change j s (.createInstance config) { s with made := s.made ++ [⟨j, config, a⟩] }
  | putPublicKey (acl : String) (value : StoredPublicKey) : Change j s (.putPublicKey acl value)
      { s with publicKeyStore := Function.update s.publicKeyStore acl (.valid value) }
  | putPublicParams (acl : String) (value : StoredPublicParams) :
      Change j s (.putPublicParams acl value)
        { s with paramsStore := Function.update s.paramsStore acl (.valid value) }

/-- What `load` comes to. -/
theorem load_cases (j : Nat) (s : Page ι) :
    (s.relayerSDK.isValid = true ∧ s.load j = (.ok false, s)) ∨
    (s.relayerSDK = .absent ∧ s.script = .none ∧
      s.load j = (.ok true, { s with script := .loading, added := s.added ++ [j] })) ∨
    ((s.relayerSDK = .invalid ∨ s.script ≠ .none) ∧ ∃ message,
      s.load j = (.error (.Error message), { s with rejected := s.rejected ++ [j] })) := by
  unfold Page.load
  cases hsdk : s.relayerSDK with
  | valid initialized config => exact .inl ⟨rfl, rfl⟩
  | invalid => exact .inr (.inr ⟨.inl rfl, _, rfl⟩)
  | absent =>
      by_cases hscript : s.script = .none
      · exact .inr (.inl ⟨rfl, hscript, if_pos hscript⟩)
      · exact .inr (.inr ⟨.inr hscript, _, if_neg hscript⟩)

/-- Operations that change nothing. -/
def Op.quiet : Op → Bool
  | .mockCreateInstance _ _ _ | .load | .setInitialized _ | .getDB | .createInstance _
  | .putPublicKey _ _ | .putPublicParams _ _ => false
  | _ => true

theorem answers_quiet {o : Op} {x : Except Failure (o.Answer ι)} (hquiet : o.quiet = true)
    (h : s.answers j o x s') : s' = s := by
  cases x with
  | ok a =>
      cases o with
      | scriptEvent => exact h.2.2
      | aborted | isFhevmWindowType | isFhevmInitialized | sepoliaConfig | getPublicKey
      | getPublicParams => exact h.2
      | chainId | clientVersion | relayerMetadata | notify | initSDK => exact h
      | _ => cases hquiet
  | error e =>
      cases o with
      | aborted | isFhevmWindowType | isFhevmInitialized => exact h.elim
      | sepoliaConfig => exact h.2.2
      | scriptEvent | getPublicKey | getPublicParams | chainId | clientVersion | relayerMetadata
      | notify | initSDK => exact h.2
      | _ => cases hquiet

theorem change_of_answers {o : Op} {x : Except Failure (o.Answer ι)}
    (h : s.answers j o x s') : Change j s o s' := by
  by_cases hquiet : o.quiet = true
  · rw [answers_quiet hquiet h]
    exact .nothing o
  · cases x with
    | ok a =>
        cases o with
        | load =>
            rcases load_cases j s with ⟨_, heq⟩ | ⟨habsent, hscript, heq⟩ | ⟨_, message, heq⟩
            · cases heq.symm.trans h
              exact .nothing _
            · cases heq.symm.trans h
              exact .added habsent hscript
            · cases heq.symm.trans h
        | getDB =>
            obtain ⟨hunfailed, rfl⟩ := h
            exact .opened hunfailed
        | mockCreateInstance | setInitialized | createInstance | putPublicKey
        | putPublicParams =>
            cases h
            constructor
        | _ => exact absurd rfl hquiet
    | error e =>
        cases o with
        | load =>
            rcases load_cases j s with ⟨_, heq⟩ | ⟨_, _, heq⟩ | ⟨hscript, message, heq⟩
            · cases heq.symm.trans h
            · cases heq.symm.trans h
            · cases heq.symm.trans h
              exact .rejected hscript
        | getDB =>
            obtain ⟨message, _, rfl, hdb⟩ := h
            exact .failed message hdb
        | setInitialized result =>
            obtain ⟨_, _, rfl⟩ := h
            exact .nothing _
        | mockCreateInstance | createInstance | putPublicKey | putPublicParams =>
            obtain ⟨_, rfl⟩ := h
            exact .nothing _
        | _ => exact absurd rfl hquiet

@[simp] theorem isValid_setInitialized (g : Global) (result : Bool) :
    (g.setInitialized result).isValid = g.isValid := by
  cases g <;> rfl

theorem setInitialized_absent (g : Global) (result : Bool) :
    g.setInitialized result = .absent ↔ g = .absent := by
  cases g <;> simp [Global.setInitialized]

/-! ## The invariant -/

/-- The value was in the store at first, or an instance that was made for the
same ACL has given it out. -/
def Known {α : Type} (stored : String → Shape α) (given : ι → Shape α) (made : List (Made ι))
    (acl : String) (value : α) : Prop :=
  stored acl = .valid value ∨
    ∃ m ∈ made, m.config.sepoliaConfig.aclContractAddress = .string acl ∧
      given m.fhevmInstance = .valid value

theorem Known.mono {α : Type} {stored : String → Shape α} {given : ι → Shape α}
    {made made' : List (Made ι)} {acl : String} {value : α} (hsub : made ⊆ made')
    (h : Known stored given made acl value) : Known stored given made' acl value := by
  rcases h with hstored | ⟨m, hm, hacl, hgiven⟩
  · exact .inl hstored
  · exact .inr ⟨m, hsub hm, hacl, hgiven⟩

/-- The ACL of the configuration is an address, and its key and parameters are
known of that ACL. -/
def Sourced (lib : Library ι) (s₀ : Page ι) (made : List (Made ι))
    (config : FhevmInstanceConfig) : Prop :=
  ∃ acl, config.sepoliaConfig.aclContractAddress = .string acl ∧ lib.isAddress acl = true ∧
    (∀ k, config.publicKey = some k →
      k.publicKeyId ≠ "" ∧ Known s₀.publicKeyStore lib.getPublicKey made acl k) ∧
    ∀ v, config.publicParams = some v → Known s₀.paramsStore lib.getPublicParams made acl v

/-- At most one call has added the script, and none that was rejected. -/
def OneLoader (s : Page ι) : Prop :=
  (s.script = .none ∧ s.added = [] ∧ s.rejected = []) ∨
    (s.script ≠ .none ∧ ∃ j, s.added = [j] ∧ j ∉ s.rejected)

/-- The page, against what there was at first. -/
structure Inv (lib : Library ι) (s₀ s : Page ι) : Prop where
  loader : OneLoader s
  sdk : s.relayerSDK ≠ .absent → s.script = .loaded
  usable : s.made ≠ [] → s.relayerSDK.isValid = true ∧ s.db = .opened
  rejected : ∀ m ∈ s.made, m.caller ∉ s.rejected
  publicKeys : ∀ acl k, s.publicKeyStore acl = .valid k →
    Known s₀.publicKeyStore lib.getPublicKey s.made acl k
  publicParams : ∀ acl v, s.paramsStore acl = .valid v →
    Known s₀.paramsStore lib.getPublicParams s.made acl v
  sourced : ∀ n m, s.made[n]? = some m → Sourced lib s₀ (s.made.take n) m.config

theorem inv_initial (h : s₀.Initial) : Inv lib s₀ s₀ where
  loader := .inl ⟨h.script, h.added, h.rejected⟩
  sdk hpresent := absurd h.relayerSDK hpresent
  usable hmade := absurd h.made hmade
  rejected m hm := by
    rw [h.made] at hm
    cases hm
  publicKeys _ _ := .inl
  publicParams _ _ := .inl
  sourced n m hget := by
    rw [h.made] at hget
    cases hget

/-- What is to hold where the `i`-th call comes to an operation. -/
def Fit (lib : Library ι) (s₀ : Page ι) (i : Nat) (s : Page ι) : Op → Prop
  | .load => i ∉ s.added ∧ ∀ m ∈ s.made, m.caller ≠ i
  | .createInstance config =>
      s.relayerSDK.isValid = true ∧ s.db = .opened ∧ i ∉ s.rejected ∧
        Sourced lib s₀ s.made config
  | .putPublicKey acl value => Known s₀.publicKeyStore lib.getPublicKey s.made acl value
  | .putPublicParams acl value => Known s₀.paramsStore lib.getPublicParams s.made acl value
  | _ => True

theorem Inv.added (h : Inv lib s₀ s) (hscript : s.script = .none) :
    Inv lib s₀ { s with script := .loading, added := s.added ++ [i] } := by
  obtain ⟨hadded, hrejected⟩ : s.added = [] ∧ s.rejected = [] := by
    rcases h.loader with ⟨_, hnone⟩ | ⟨hsome, _⟩
    · exact hnone
    · exact absurd hscript hsome
  refine { h with loader := .inr ⟨Script.noConfusion, i, ?_, ?_⟩, sdk := fun hpresent => ?_ }
  · exact congrArg (· ++ [i]) hadded
  · simp [hrejected]
  · have hloaded := h.sdk hpresent
    rw [hscript] at hloaded
    cases hloaded

theorem Inv.reject (h : Inv lib s₀ s) (hscript : s.relayerSDK = .invalid ∨ s.script ≠ .none)
    (hfit : Fit lib s₀ i s .load) : Inv lib s₀ { s with rejected := s.rejected ++ [i] } := by
  have hsome : s.script ≠ .none := by
    rcases hscript with hinvalid | hsome
    · have hloaded := h.sdk (by simp [hinvalid])
      simp [hloaded]
    · exact hsome
  obtain ⟨j, hadded, hj⟩ : ∃ j, s.added = [j] ∧ j ∉ s.rejected := by
    rcases h.loader with ⟨hnone, _⟩ | ⟨_, hone⟩
    · exact absurd hnone hsome
    · exact hone
  obtain ⟨hnot, hnone⟩ := hfit
  have hij : j ≠ i := by
    rintro rfl
    exact hnot (by simp [hadded])
  refine { h with loader := .inr ⟨hsome, j, hadded, ?_⟩, rejected := fun m hm => ?_ }
  · simp [hj, hij]
  · simp [h.rejected m hm, hnone m hm]

theorem Inv.initialized (h : Inv lib s₀ s) (result : Bool) :
    Inv lib s₀ { s with relayerSDK := s.relayerSDK.setInitialized result } :=
  { h with
    sdk := fun hpresent => h.sdk fun habsent =>
      hpresent ((setInitialized_absent _ _).mpr habsent)
    usable := fun hmade => by
      obtain ⟨hvalid, hopened⟩ := h.usable hmade
      exact ⟨by simp [hvalid], hopened⟩ }

theorem Inv.opened (h : Inv lib s₀ s) : Inv lib s₀ { s with db := .opened } :=
  { h with usable := fun hmade => ⟨(h.usable hmade).1, rfl⟩ }

theorem Inv.failed (h : Inv lib s₀ s) {message : String}
    (hdb : s.db = .unopened ∨ s.db = .failed message) :
    Inv lib s₀ { s with db := .failed message } :=
  { h with
    usable := fun hmade => by
      have hopened := (h.usable hmade).2
      rcases hdb with hdb | hdb <;> simp [hdb] at hopened }

theorem Inv.made {config : FhevmInstanceConfig} {a : ι} (h : Inv lib s₀ s)
    (hfit : Fit lib s₀ i s (.createInstance config)) :
    Inv lib s₀ { s with made := s.made ++ [⟨i, config, a⟩] } := by
  obtain ⟨hvalid, hopened, hrejected, hsourced⟩ := hfit
  have hsub : s.made ⊆ s.made ++ [⟨i, config, a⟩] := List.subset_append_left _ _
  refine { h with
    usable := fun _ => ⟨hvalid, hopened⟩
    rejected := fun m' hm => ?_
    publicKeys := fun acl k hk => (h.publicKeys acl k hk).mono hsub
    publicParams := fun acl v hv => (h.publicParams acl v hv).mono hsub
    sourced := fun n m' hget => ?_ }
  · rcases List.mem_append.mp hm with hold | hnew
    · exact h.rejected m' hold
    · rw [List.mem_singleton.mp hnew]
      exact hrejected
  · rcases getElem?_concat hget with hold | ⟨rfl, rfl⟩
    · have hlt := (List.getElem?_eq_some_iff.mp hold).1
      show Sourced lib s₀ ((s.made ++ [(⟨i, config, a⟩ : Made ι)]).take n) m'.config
      rw [List.take_append_of_le_length (Nat.le_of_lt hlt)]
      exact h.sourced n m' hold
    · show Sourced lib s₀ ((s.made ++ [(⟨i, config, a⟩ : Made ι)]).take s.made.length) config
      rw [List.take_left]
      exact hsourced

/-- A value of a store after a `put`. -/
theorem update_valid {α : Type} {store : String → Shape α} {acl acl' : String} {value k : α}
    (h : Function.update store acl (.valid value) acl' = .valid k) :
    (acl' = acl ∧ k = value) ∨ store acl' = .valid k := by
  by_cases hacl : acl' = acl
  · subst hacl
    rw [Function.update_self] at h
    cases h
    exact .inl ⟨rfl, rfl⟩
  · rw [Function.update_of_ne hacl] at h
    exact .inr h

theorem Inv.putPublicKey {acl : String} {value : StoredPublicKey} (h : Inv lib s₀ s)
    (hfit : Fit lib s₀ i s (.putPublicKey acl value)) : Inv lib s₀
      { s with publicKeyStore := Function.update s.publicKeyStore acl (.valid value) } := by
  refine { h with publicKeys := fun acl' k hk => ?_ }
  rcases update_valid hk with ⟨rfl, rfl⟩ | hold
  · exact hfit
  · exact h.publicKeys acl' k hold

theorem Inv.putPublicParams {acl : String} {value : StoredPublicParams} (h : Inv lib s₀ s)
    (hfit : Fit lib s₀ i s (.putPublicParams acl value)) : Inv lib s₀
      { s with paramsStore := Function.update s.paramsStore acl (.valid value) } := by
  refine { h with publicParams := fun acl' v hv => ?_ }
  rcases update_valid hv with ⟨rfl, rfl⟩ | hold
  · exact hfit
  · exact h.publicParams acl' v hold

/-- **A fit operation keeps the invariant**, whatever it answers. -/
theorem Inv.answers {o : Op} {x : Except Failure (o.Answer ι)} (h : Inv lib s₀ s)
    (hfit : Fit lib s₀ i s o) (hans : s.answers i o x s') : Inv lib s₀ s' := by
  cases change_of_answers hans with
  | nothing => exact h
  | mocked => exact { h with }
  | added _ hscript => exact h.added hscript
  | rejected hscript => exact h.reject hscript hfit
  | initialized result => exact h.initialized result
  | opened => exact h.opened
  | failed message hdb => exact h.failed hdb
  | made config a => exact h.made hfit
  | putPublicKey acl value => exact h.putPublicKey hfit
  | putPublicParams acl value => exact h.putPublicParams hfit

theorem Inv.no_instance (h : Inv lib s₀ s) (hscript : s.script ≠ .loaded) : s.made = [] := by
  by_contra hmade
  have hvalid := (h.usable hmade).1
  refine hscript (h.sdk fun habsent => ?_)
  rw [habsent] at hvalid
  cases hvalid

/-- What happens around the calls keeps it. -/
theorem Inv.outside (h : Inv lib s₀ s) (hout : Page.Outside s s') : Inv lib s₀ s' := by
  cases hout with
  | abort signal => exact { h with }
  | scriptLoaded loading relayerSDK =>
      have hnone : s.made = [] := h.no_instance (by simp [loading])
      refine { h with loader := ?_, sdk := fun _ => rfl, usable := fun hmade => absurd hnone hmade }
      rcases h.loader with ⟨habsent, _⟩ | ⟨_, hone⟩
      · simp [loading] at habsent
      · exact .inr ⟨Script.noConfusion, hone⟩
  | scriptFailed loading =>
      have hnone : s.made = [] := h.no_instance (by simp [loading])
      refine { h with loader := ?_, sdk := fun hpresent => ?_ }
      · rcases h.loader with ⟨habsent, _⟩ | ⟨_, hone⟩
        · simp [loading] at habsent
        · exact .inr ⟨Script.noConfusion, hone⟩
      · have hloaded := h.sdk hpresent
        simp [loading] at hloaded

/-! ## What the others do -/

/-- What may have happened while the `i`-th call waited. -/
structure Later (i : Nat) (s s' : Page ι) : Prop where
  valid : s.relayerSDK.isValid = true → s'.relayerSDK.isValid = true
  opened : s.db = .opened → s'.db = .opened
  added : i ∈ s'.added → i ∈ s.added
  rejected : i ∈ s'.rejected → i ∈ s.rejected
  made : ∃ ms, s'.made = s.made ++ ms ∧ ∀ m ∈ ms, m.caller ≠ i
  mocked : s.mocked ⊆ s'.mocked
  publicKeys : ∀ acl k, s.publicKeyStore acl = .valid k → ∃ k', s'.publicKeyStore acl = .valid k'
  publicParams : ∀ acl v, s.paramsStore acl = .valid v → ∃ v', s'.paramsStore acl = .valid v'

theorem Later.refl (i : Nat) (s : Page ι) : Later i s s where
  valid := id
  opened := id
  added := id
  rejected := id
  made := ⟨[], by simp, by simp⟩
  mocked := List.Subset.refl _
  publicKeys _ k hk := ⟨k, hk⟩
  publicParams _ v hv := ⟨v, hv⟩

theorem Later.trans (h₁ : Later i s s₁) (h₂ : Later i s₁ s₂) : Later i s s₂ where
  valid h := h₂.valid (h₁.valid h)
  opened h := h₂.opened (h₁.opened h)
  added h := h₁.added (h₂.added h)
  rejected h := h₁.rejected (h₂.rejected h)
  made := by
    obtain ⟨ms₁, heq₁, hothers₁⟩ := h₁.made
    obtain ⟨ms₂, heq₂, hothers₂⟩ := h₂.made
    refine ⟨ms₁ ++ ms₂, ?_, List.forall_mem_append.mpr ⟨hothers₁, hothers₂⟩⟩
    rw [heq₂, heq₁, List.append_assoc]
  mocked := List.Subset.trans h₁.mocked h₂.mocked
  publicKeys acl k hk := by
    obtain ⟨k₁, hk₁⟩ := h₁.publicKeys acl k hk
    exact h₂.publicKeys acl k₁ hk₁
  publicParams acl v hv := by
    obtain ⟨v₁, hv₁⟩ := h₁.publicParams acl v hv
    exact h₂.publicParams acl v₁ hv₁

/-- A value stays in a store, or another takes its place. -/
theorem update_keeps {α : Type} {store : String → Shape α} (acl : String) (value : α)
    (acl' : String) (k : α) (hk : store acl' = .valid k) :
    ∃ k', Function.update store acl (.valid value) acl' = .valid k' := by
  by_cases hacl : acl' = acl
  · subst hacl
    exact ⟨value, Function.update_self ..⟩
  · exact ⟨k, by rw [Function.update_of_ne hacl, hk]⟩

/-- What others do is no more than that. -/
theorem Later.of_change {o : Op} (hij : i ≠ j) (h : Change j s o s') : Later i s s' := by
  have hother : ∀ {l : List Nat}, i ∈ l ++ [j] → i ∈ l := by
    intro l hmem
    rcases List.mem_append.mp hmem with hold | hnew
    · exact hold
    · exact absurd (List.mem_singleton.mp hnew) hij
  cases h with
  | nothing => exact .refl i s
  | mocked => exact { Later.refl i s with mocked := List.subset_append_left _ _ }
  | added => exact { Later.refl i s with added := hother }
  | rejected => exact { Later.refl i s with rejected := hother }
  | initialized result => exact { Later.refl i s with valid := by simp }
  | opened => exact { Later.refl i s with opened := fun _ => rfl }
  | failed message hdb =>
      refine { Later.refl i s with opened := fun hopened => ?_ }
      rcases hdb with hdb | hdb <;> simp [hdb] at hopened
  | made config a =>
      exact { Later.refl i s with made := ⟨[⟨j, config, a⟩], rfl, by simp [Ne.symm hij]⟩ }
  | putPublicKey acl value =>
      exact { Later.refl i s with publicKeys := update_keeps acl value }
  | putPublicParams acl value =>
      exact { Later.refl i s with publicParams := update_keeps acl value }

theorem Later.of_outside (hinv : Inv lib s₀ s) (h : Page.Outside s s') : Later i s s' := by
  cases h with
  | abort signal => exact { Later.refl i s with }
  | scriptFailed loading => exact { Later.refl i s with }
  | scriptLoaded loading relayerSDK =>
      refine { Later.refl i s with valid := fun hvalid => ?_ }
      have hloaded := hinv.sdk fun habsent => by simp [habsent, Global.isValid] at hvalid
      simp [loading] at hloaded

theorem later_relies : Relies ((service lib).under (Inv lib s₀)) Later where
  refl := Later.refl
  trans := Later.trans
  others hij h := .of_change hij (change_of_answers h.1)
  outside h := .of_outside h.2 h.1

/-! ## What a call knows -/

/-- What the others do not undo. -/
def Stable (i : Nat) (P : Page ι → Prop) : Prop := ∀ {s₁ s₂}, Later i s₁ s₂ → P s₁ → P s₂

/-- The `i`-th call has made no instance. -/
def NoneMade (i : Nat) (s : Page ι) : Prop := ∀ m ∈ s.made, m.caller ≠ i

/-- It has come to no `load` either. -/
structure Fresh (i : Nat) (s : Page ι) : Prop where
  added : i ∉ s.added
  rejected : i ∉ s.rejected
  noneMade : NoneMade i s

/-- It has found a valid SDK, or has had it loaded. -/
structure Ready (i : Nat) (s : Page ι) : Prop where
  valid : s.relayerSDK.isValid = true
  rejected : i ∉ s.rejected
  noneMade : NoneMade i s

/-- It has opened the database. -/
structure Opened (i : Nat) (s : Page ι) : Prop where
  ready : Ready i s
  db : s.db = .opened

/-- It knows the key and the parameters of an ACL. -/
structure Informed (lib : Library ι) (s₀ : Page ι) (i : Nat) (acl : String)
    (pub : Option StoredPublicKey × Option StoredPublicParams) (s : Page ι) : Prop where
  opened : Opened i s
  publicKey : ∀ k, pub.1 = some k →
    k.publicKeyId ≠ "" ∧ Known s₀.publicKeyStore lib.getPublicKey s.made acl k
  publicParams : ∀ v, pub.2 = some v → Known s₀.paramsStore lib.getPublicParams s.made acl v

/-- It has made this instance, and no other. -/
structure Created (m : Made ι) (s : Page ι) : Prop where
  rejected : m.caller ∉ s.rejected
  made : m ∈ s.made
  only : ∀ m' ∈ s.made, m'.caller = m.caller → m' = m

/-- The key and the parameters of an instance have been stored. -/
def Saved (lib : Library ι) (m : Made ι) (s : Page ι) : Prop :=
  ∀ acl, m.config.sepoliaConfig.aclContractAddress = .string acl →
    (∀ k, lib.getPublicKey m.fhevmInstance = .valid k →
      ∃ k', s.publicKeyStore acl = .valid k') ∧
    ∀ v, lib.getPublicParams m.fhevmInstance = .valid v → ∃ v', s.paramsStore acl = .valid v'

theorem Later.mem (h : Later i s s') {m : Made ι} (hm : m ∈ s.made) : m ∈ s'.made := by
  obtain ⟨ms, heq, _⟩ := h.made
  rw [heq]
  exact List.mem_append_left _ hm

/-- The instances of the call itself are those it had. -/
theorem Later.own (h : Later i s s') {m : Made ι} (hm : m ∈ s'.made) (hcaller : m.caller = i) :
    m ∈ s.made := by
  obtain ⟨ms, heq, hothers⟩ := h.made
  rw [heq] at hm
  rcases List.mem_append.mp hm with hold | hnew
  · exact hold
  · exact absurd hcaller (hothers m hnew)

theorem stable_noneMade : Stable i (NoneMade i : Page ι → Prop) :=
  fun hlater h m hm hcaller => h m (hlater.own hm hcaller) hcaller

theorem stable_fresh : Stable i (Fresh i : Page ι → Prop) :=
  fun hlater h => ⟨fun hmem => h.added (hlater.added hmem),
    fun hmem => h.rejected (hlater.rejected hmem), stable_noneMade hlater h.noneMade⟩

theorem stable_ready : Stable i (Ready i : Page ι → Prop) :=
  fun hlater h => ⟨hlater.valid h.valid, fun hmem => h.rejected (hlater.rejected hmem),
    stable_noneMade hlater h.noneMade⟩

theorem stable_opened : Stable i (Opened i : Page ι → Prop) :=
  fun hlater h => ⟨stable_ready hlater h.ready, hlater.opened h.db⟩

theorem stable_known {α : Type} {stored : String → Shape α} {given : ι → Shape α} {acl : String}
    {value : α} : Stable i fun s => Known stored given s.made acl value :=
  fun hlater h => h.mono fun _ hm => hlater.mem hm

theorem stable_informed {acl : String}
    {pub : Option StoredPublicKey × Option StoredPublicParams} :
    Stable i (Informed lib s₀ i acl pub) :=
  fun hlater h => ⟨stable_opened hlater h.opened,
    fun k hk => ⟨(h.publicKey k hk).1, stable_known hlater (h.publicKey k hk).2⟩,
    fun v hv => stable_known hlater (h.publicParams v hv)⟩

theorem stable_created {m : Made ι} : Stable m.caller (Created m) :=
  fun hlater h => ⟨fun hmem => h.rejected (hlater.rejected hmem), hlater.mem h.made,
    fun m' hm' hcaller => h.only m' (hlater.own hm' hcaller) hcaller⟩

theorem stable_saved {m : Made ι} : Stable i (Saved lib m) := by
  intro s₁ s₂ hlater h acl hacl
  refine ⟨fun k hk => ?_, fun v hv => ?_⟩
  · obtain ⟨k', hk'⟩ := (h acl hacl).1 k hk
    exact hlater.publicKeys acl k' hk'
  · obtain ⟨v', hv'⟩ := (h acl hacl).2 v hv
    exact hlater.publicParams acl v' hv'

/-! ## The code of a call -/

/-- The function keeps the invariant among the other calls, and ends so. -/
abbrev Meets {α : Type} (lib : Library ι) (s₀ : Page ι) (i : Nat) (p : Promise ι α)
    (ok : α → Page ι → Prop) (err : Failure → Page ι → Prop) (s : Page ι) : Prop :=
  p.wp (((service lib).under (Inv lib s₀)).answers i) (Later i)
    (fun _ _ _ s' => Inv lib s₀ s') (Prog.ends ok err) s

theorem meets_await {o : Op} {ok : o.Answer ι → Page ι → Prop} {err : Failure → Page ι → Prop}
    (hfit : ∀ s₁, Later i s s₁ → Fit lib s₀ i s₁ o)
    (h : ∀ s₁ x s₂, Later i s s₁ → Inv lib s₀ s₁ → s₁.answers i o x s₂ →
      Prog.ends ok err x s₂) :
    Meets lib s₀ i (await o) ok err s := by
  refine Prog.wp_call.mpr fun s₁ hlater x s₂ hacts => ?_
  obtain ⟨hans, hinv⟩ := hacts
  exact ⟨hinv.answers (hfit s₁ hlater) hans, h s₁ x s₂ hlater hinv hans⟩

theorem fit_quiet {o : Op} (hquiet : o.quiet = true) : Fit lib s₀ i s o := by
  cases o with
  | load | createInstance | putPublicKey | putPublicParams => cases hquiet
  | _ => trivial

section

variable {P : Page ι → Prop} {err : Failure → Page ι → Prop}

/-- A call goes on knowing what it knew, and more if the answer tells. -/
theorem meets_read {o : Op} {ok : o.Answer ι → Page ι → Prop} (hquiet : o.quiet = true)
    (hstable : Stable i P) (herr : ∀ e s, P s → err e s) (h : P s)
    (hok : ∀ a s, Inv lib s₀ s → P s → s.succeeds i o a s → ok a s) :
    Meets lib s₀ i (await o) ok err s := by
  refine meets_await (fun _ _ => fit_quiet hquiet) fun s₁ x s₂ hlater hinv hans => ?_
  have h₁ := hstable hlater h
  obtain rfl := answers_quiet hquiet hans
  cases x with
  | ok a => exact hok a _ hinv h₁ hans
  | error e => exact herr e _ h₁

theorem meets_quiet {o : Op} (hquiet : o.quiet = true) (hstable : Stable i P)
    (herr : ∀ e s, P s → err e s) (h : P s) :
    Meets lib s₀ i (await o) (fun _ s => P s) err s :=
  meets_read hquiet hstable herr h fun _ _ _ h _ => h

theorem meets_throwIfAborted (hstable : Stable i P) (herr : ∀ e s, P s → err e s) (h : P s) :
    Meets lib s₀ i (throwIfAborted q) (fun _ s => P s) err s := by
  refine Prog.wp.bind (meets_quiet rfl hstable herr h) fun aborted s₁ h₁ => ?_
  cases aborted with
  | true => exact herr _ _ h₁
  | false => exact h₁

/-! ### Mocked chains -/

/-- The chain is mocked, and its node has this URL: that of the provider, or
the one given for the chain. -/
def Parameters.Mocks (q : Parameters) (rpcUrl : String) (chainId : Nat) : Prop :=
  ∃ mockUrl, mockRpcUrl q.mockChains chainId = some mockUrl ∧
    (q.provider = .url rpcUrl ∧ rpcUrl ≠ "" ∨ rpcUrl = mockUrl)

theorem meets_resolve (hstable : Stable i P) (herr : ∀ e s, P s → err e s) (h : P s) :
    Meets lib s₀ i (resolve q) (fun mock s => P s ∧
      ∀ rpcUrl chainId, mock = some (rpcUrl, chainId) → q.Mocks rpcUrl chainId) err s := by
  refine Prog.wp.bind (meets_quiet rfl hstable herr h) fun chainId s₁ h₁ => ?_
  cases chainId with
  | none => exact ⟨h₁, fun _ _ hnone => by cases hnone⟩
  | some chainId =>
      cases hurl : mockRpcUrl q.mockChains chainId with
      | none =>
          simp only [hurl]
          exact ⟨h₁, fun _ _ hnone => by cases hnone⟩
      | some mockUrl =>
          simp only [hurl]
          cases hprovider : q.provider with
          | eip1193 object =>
              refine ⟨h₁, fun rpcUrl' chainId' heq => ?_⟩
              cases heq
              exact ⟨_, hurl, .inr rfl⟩
          | url rpcUrl =>
              refine ⟨h₁, fun rpcUrl' chainId' heq => ?_⟩
              cases heq
              by_cases hempty : rpcUrl = ""
              · exact ⟨mockUrl, hurl, .inr (if_pos hempty)⟩
              · rw [if_neg hempty]
                exact ⟨mockUrl, hurl, .inl ⟨hprovider, hempty⟩⟩

theorem meets_tryFetch {rpcUrl : String} (hstable : Stable i P) (herr : ∀ e s, P s → err e s)
    (h : P s) : Meets lib s₀ i (tryFetchFHEVMHardhatNodeRelayerMetadata rpcUrl)
      (fun _ s => P s) err s := by
  have hclient : Meets lib s₀ i (getWeb3Client rpcUrl) (fun _ s => P s) err s :=
    Prog.wp.tryCatch (meets_quiet rfl hstable (fun _ _ h => h) h) fun e s₁ h₁ => herr _ _ h₁
  refine Prog.wp.bind hclient fun version s₁ h₁ => ?_
  by_cases hhardhat : isHardhat version = true
  · rw [if_pos hhardhat]
    have hmetadata : Meets lib s₀ i (await (.relayerMetadata rpcUrl)) (fun _ s => P s)
        (fun _ s => P s) s₁ := meets_quiet rfl hstable (fun _ _ h => h) h₁
    exact Prog.wp.tryCatch (Prog.wp.bind hmetadata fun metadata s₂ h₂ => h₂) fun e s₂ h₂ => h₂
  · rw [if_neg hhardhat]
    exact h₁

theorem meets_mockMetadata {mock : Option (String × Nat)} (hstable : Stable i P)
    (herr : ∀ e s, P s → err e s) (h : P s) :
    Meets lib s₀ i (mockMetadata mock) (fun hardhat s => P s ∧
      ∀ rpcUrl chainId metadata, hardhat = some (rpcUrl, chainId, metadata) →
        mock = some (rpcUrl, chainId)) err s := by
  cases mock with
  | none => exact ⟨h, fun _ _ _ hnone => by cases hnone⟩
  | some node =>
      refine Prog.wp.bind (meets_tryFetch hstable herr h) fun metadata s₁ h₁ => ⟨h₁, ?_⟩
      intro rpcUrl chainId m heq
      cases metadata with
      | none => cases heq
      | some metadata =>
          cases heq
          rfl

/-! ### The SDK -/

theorem meets_load (herr : ∀ e s, NoneMade i s → err e s) (h : Fresh i s) :
    Meets lib s₀ i (await .load) (fun waits s => i ∉ s.rejected ∧ NoneMade i s ∧
      (waits = false → s.relayerSDK.isValid = true)) err s := by
  refine meets_await (fun s₁ hlater => ?_) fun s₁ x s₂ hlater _ hans => ?_
  · have h₁ := stable_fresh hlater h
    exact ⟨h₁.added, h₁.noneMade⟩
  · have h₁ := stable_fresh hlater h
    rcases load_cases i s₁ with ⟨hvalid, heq⟩ | ⟨_, _, heq⟩ | ⟨_, message, heq⟩
    · cases x with
      | ok a =>
          cases heq.symm.trans hans
          exact ⟨h₁.rejected, h₁.noneMade, fun _ => hvalid⟩
      | error e => cases heq.symm.trans hans
    · cases x with
      | ok a =>
          cases heq.symm.trans hans
          exact ⟨h₁.rejected, h₁.noneMade, fun hno => Bool.noConfusion hno⟩
      | error e => cases heq.symm.trans hans
    · cases x with
      | ok a => cases heq.symm.trans hans
      | error e =>
          cases heq.symm.trans hans
          exact herr _ _ h₁.noneMade

theorem meets_fhevmLoadSDK (herr : ∀ e s, NoneMade i s → err e s) (h : Fresh i s) :
    Meets lib s₀ i fhevmLoadSDK (fun _ s => Ready i s) err s := by
  refine Prog.wp.bind (meets_load herr h) fun waits s₁ h₁ => ?_
  obtain ⟨hrejected, hnone, hvalid⟩ := h₁
  cases waits with
  | false => exact ⟨hvalid rfl, hrejected, hnone⟩
  | true =>
      have hstable : Stable i fun s : Page ι => i ∉ s.rejected ∧ NoneMade i s :=
        fun hlater h => ⟨fun hmem => h.1 (hlater.rejected hmem), stable_noneMade hlater h.2⟩
      refine meets_read rfl hstable (fun e s h => herr e s h.2) ⟨hrejected, hnone⟩ ?_
      intro _ s _ hknown hevent
      exact ⟨hevent.2.1, hknown.1, hknown.2⟩

theorem meets_ensureLoaded (herr : ∀ e s, NoneMade i s → err e s) (h : Fresh i s) :
    Meets lib s₀ i (ensureLoaded q) (fun _ s => Ready i s) err s := by
  have hfresh : ∀ e s, Fresh i s → err e s := fun e s h => herr e s h.noneMade
  have hready : ∀ e s, Ready i s → err e s := fun e s h => herr e s h.noneMade
  have hasked : Meets lib s₀ i (await .isFhevmWindowType)
      (fun loaded s => Fresh i s ∧ (loaded = true → s.relayerSDK.isValid = true)) err s :=
    meets_read rfl stable_fresh hfresh h fun loaded s _ h hans =>
      ⟨h, fun hloaded => hans.1.symm.trans hloaded⟩
  refine Prog.wp.bind hasked fun loaded s₁ h₁ => ?_
  cases loaded with
  | true => exact ⟨h₁.2 rfl, h₁.1.rejected, h₁.1.noneMade⟩
  | false =>
      refine Prog.wp.bind (meets_quiet rfl stable_fresh hfresh h₁.1) fun _ s₂ h₂ => ?_
      refine Prog.wp.bind (meets_fhevmLoadSDK herr h₂) fun _ s₃ h₃ => ?_
      refine Prog.wp.bind (meets_throwIfAborted stable_ready hready h₃) fun _ s₄ h₄ => ?_
      exact meets_quiet rfl stable_ready hready h₄

theorem meets_setInitialized {result : Bool} (herr : ∀ e s, Ready i s → err e s)
    (h : Ready i s) :
    Meets lib s₀ i (await (.setInitialized result)) (fun _ s => Ready i s) err s := by
  refine meets_await (fun _ _ => trivial) fun s₁ x s₂ hlater _ hans => ?_
  have h₁ := stable_ready hlater h
  cases x with
  | ok a =>
      cases hans
      exact { h₁ with valid := by simp [h₁.valid] }
  | error e =>
      obtain ⟨_, _, rfl⟩ := hans
      exact herr e _ h₁

theorem meets_ensureInitialized (herr : ∀ e s, Ready i s → err e s) (h : Ready i s) :
    Meets lib s₀ i (ensureInitialized q) (fun _ s => Ready i s) err s := by
  have hinit : ∀ s, Ready i s → Meets lib s₀ i fhevmInitSDK (fun _ s => Ready i s) err s := by
    intro s h
    refine Prog.wp.bind (meets_quiet rfl stable_ready herr h) fun available s₁ h₁ => ?_
    cases available with
    | false => exact herr _ _ h₁
    | true =>
        refine Prog.wp.bind (meets_quiet rfl stable_ready herr h₁) fun result s₂ h₂ => ?_
        refine Prog.wp.bind (meets_setInitialized herr h₂) fun _ s₃ h₃ => ?_
        cases result with
        | true => exact h₃
        | false => exact herr _ _ h₃
  refine Prog.wp.bind (meets_quiet rfl stable_ready herr h) fun initialized s₁ h₁ => ?_
  cases initialized with
  | true => exact h₁
  | false =>
      refine Prog.wp.bind (meets_quiet rfl stable_ready herr h₁) fun _ s₂ h₂ => ?_
      refine Prog.wp.bind (hinit s₂ h₂) fun _ s₃ h₃ => ?_
      refine Prog.wp.bind (meets_throwIfAborted stable_ready herr h₃) fun _ s₄ h₄ => ?_
      exact meets_quiet rfl stable_ready herr h₄

theorem meets_checkedAddress {config : SepoliaConfig} (herr : ∀ e s, P s → err e s) (h : P s) :
    Meets lib s₀ i (checkedAddress lib config) (fun acl s => P s ∧
      config.aclContractAddress = .string acl ∧ lib.isAddress acl = true) err s := by
  unfold checkedAddress
  cases hacl : config.aclContractAddress with
  | shown text => exact herr _ _ h
  | string acl =>
      by_cases haddress : lib.isAddress acl = true
      · simp only [haddress, if_true]
        exact ⟨h, rfl, haddress⟩
      · simp only [haddress]
        exact herr _ _ h

/-! ### The stored keys -/

theorem meets_readStored {α : Type} {read : Promise ι (Shape α)} {Q : α → Page ι → Prop}
    (hread : Meets lib s₀ i read (fun x s => P s ∧ ∀ v, x = .valid v → Q v s) (fun _ s => P s) s) :
    Meets lib s₀ i (readStored read) (fun x s => P s ∧ ∀ v, x = some v → Q v s) err s := by
  refine Prog.wp.tryCatch (Prog.wp.bind hread fun x s₁ h₁ => ?_) fun e s₁ (h₁ : P s₁) =>
    ⟨h₁, fun _ hnone => by cases hnone⟩
  cases x with
  | null => exact ⟨h₁.1, fun _ hnone => by cases hnone⟩
  | malformed message => exact h₁.1
  | valid value =>
      refine ⟨h₁.1, fun v hv => ?_⟩
      cases hv
      exact h₁.2 value rfl

/-- The database is open when a call goes on. -/
theorem meets_getDB (hstable : Stable i P) (hdb : ∀ s db, P s → P { s with db := db })
    (herr : ∀ message s, P s → err (.other message) s) (h : P s) :
    Meets lib s₀ i (await .getDB) (fun _ s => P s ∧ s.db = .opened) err s := by
  refine meets_await (fun _ _ => trivial) fun s₁ x s₂ hlater _ hans => ?_
  have h₁ := hstable hlater h
  cases x with
  | ok a =>
      obtain ⟨_, rfl⟩ := hans
      exact ⟨hdb s₁ _ h₁, rfl⟩
  | error e =>
      obtain ⟨message, rfl, rfl, _⟩ := hans
      exact herr message _ (hdb s₁ _ h₁)

theorem meets_publicKeyStorageGet {acl : String} (herr : ∀ e s, Ready i s → err e s)
    (h : Ready i s) :
    Meets lib s₀ i (publicKeyStorageGet acl) (fun pub s => Informed lib s₀ i acl pub s)
      err s := by
  refine Prog.wp.bind (meets_getDB stable_ready (fun _ _ h => { h with })
    (fun message s h => herr _ s h) h) fun _ s₁ h₁ => ?_
  have hkey : Meets lib s₀ i (readStored (await (.getPublicKey acl)))
      (fun key s => Opened i s ∧ ∀ k, key = some k →
        Known s₀.publicKeyStore lib.getPublicKey s.made acl k) err s₁ :=
    meets_readStored (meets_read rfl stable_opened (fun _ _ h => h) ⟨h₁.1, h₁.2⟩
      fun x s hinv h hans => ⟨h, fun k hk => hinv.publicKeys acl k (hans.1.symm.trans hk)⟩)
  refine Prog.wp.bind hkey fun key s₂ h₂ => ?_
  have hstable : Stable i fun s : Page ι => Opened i s ∧ ∀ k, key = some k →
      Known s₀.publicKeyStore lib.getPublicKey s.made acl k :=
    fun hlater h => ⟨stable_opened hlater h.1, fun k hk => stable_known hlater (h.2 k hk)⟩
  have hparams : Meets lib s₀ i (readStored (await (.getPublicParams acl)))
      (fun params s => (Opened i s ∧ ∀ k, key = some k →
        Known s₀.publicKeyStore lib.getPublicKey s.made acl k) ∧ ∀ v, params = some v →
          Known s₀.paramsStore lib.getPublicParams s.made acl v) err s₂ :=
    meets_readStored (meets_read rfl hstable (fun _ _ h => h) h₂
      fun x s hinv h hans => ⟨h, fun v hv => hinv.publicParams acl v (hans.1.symm.trans hv)⟩)
  refine Prog.wp.bind hparams fun params s₃ h₃ => ⟨h₃.1.1, fun k hk => ?_, h₃.2⟩
  obtain ⟨hk, hid⟩ := Option.filter_eq_some_iff.mp hk
  exact ⟨of_decide_eq_true hid, h₃.1.2 k hk⟩

/-- An instance that is made from what is known of its ACL. -/
theorem meets_createInstance {acl : String} {config : FhevmInstanceConfig}
    (hacl : config.sepoliaConfig.aclContractAddress = .string acl)
    (haddress : lib.isAddress acl = true) (herr : ∀ e s, NoneMade i s → err e s)
    (h : Informed lib s₀ i acl (config.publicKey, config.publicParams) s) :
    Meets lib s₀ i (await (.createInstance config)) (fun a s => Created ⟨i, config, a⟩ s)
      err s := by
  refine meets_await (fun s₁ hlater => ?_) fun s₁ x s₂ hlater _ hans => ?_
  · have h₁ := stable_informed hlater h
    exact ⟨h₁.opened.ready.valid, h₁.opened.db, h₁.opened.ready.rejected,
      acl, hacl, haddress, h₁.publicKey, h₁.publicParams⟩
  · have h₁ := (stable_informed hlater h).opened.ready
    cases x with
    | error e =>
        obtain ⟨_, rfl⟩ := hans
        exact herr e _ h₁.noneMade
    | ok a =>
        cases hans
        refine ⟨h₁.rejected, List.mem_append_right _ (List.mem_singleton.mpr rfl), ?_⟩
        intro m hm hcaller
        rcases List.mem_append.mp hm with hold | hnew
        · exact absurd hcaller (h₁.noneMade m hold)
        · exact List.mem_singleton.mp hnew

theorem meets_assertStored {α : Type} {value : Shape α}
    (herr : ∀ message s, P s → err (.Error message) s) (h : P s) :
    Meets lib s₀ i (assertStored value)
      (fun x s => P s ∧ ∀ v, x = some v ↔ value = .valid v) err s := by
  cases value with
  | null => exact ⟨h, fun _ => by simp⟩
  | valid value => exact ⟨h, fun _ => by simp⟩
  | malformed message => exact herr message s h

end

/-! ### Storing the keys -/

section

variable {m : Made ι} {acl : String} {err : Failure → Page ι → Prop}

/-- The key of the instance has been stored for the ACL, if it has one. -/
def SavedKey (lib : Library ι) (m : Made ι) (acl : String) (s : Page ι) : Prop :=
  ∀ k, lib.getPublicKey m.fhevmInstance = .valid k → ∃ k', s.publicKeyStore acl = .valid k'

theorem stable_savedKey : Stable m.caller fun s => Created m s ∧ SavedKey lib m acl s := by
  intro s₁ s₂ hlater h
  refine ⟨stable_created hlater h.1, fun k hk => ?_⟩
  obtain ⟨k', hk'⟩ := h.2 k hk
  exact hlater.publicKeys acl k' hk'

theorem meets_putPublicKey {value : StoredPublicKey}
    (hacl : m.config.sepoliaConfig.aclContractAddress = .string acl)
    (hvalue : lib.getPublicKey m.fhevmInstance = .valid value)
    (herr : ∀ message s, err (.other message) s) (h : Created m s) :
    Meets lib s₀ m.caller (await (.putPublicKey acl value))
      (fun _ s => Created m s ∧ SavedKey lib m acl s) err s := by
  refine meets_await (fun s₁ hlater => ?_) fun s₁ x s₂ hlater _ hans => ?_
  · exact .inr ⟨m, (stable_created hlater h).made, hacl, hvalue⟩
  · have h₁ := stable_created hlater h
    cases x with
    | ok a =>
        cases hans
        exact ⟨{ h₁ with }, fun _ _ => ⟨value, Function.update_self ..⟩⟩
    | error e =>
        obtain ⟨⟨message, rfl⟩, rfl⟩ := hans
        exact herr message _

theorem meets_putPublicParams {value : StoredPublicParams}
    (hacl : m.config.sepoliaConfig.aclContractAddress = .string acl)
    (hvalue : lib.getPublicParams m.fhevmInstance = .valid value)
    (herr : ∀ message s, err (.other message) s) (h : Created m s ∧ SavedKey lib m acl s) :
    Meets lib s₀ m.caller (await (.putPublicParams acl value))
      (fun _ s => (Created m s ∧ SavedKey lib m acl s) ∧ ∃ v', s.paramsStore acl = .valid v')
      err s := by
  refine meets_await (fun s₁ hlater => ?_) fun s₁ x s₂ hlater _ hans => ?_
  · exact .inr ⟨m, (stable_created hlater h.1).made, hacl, hvalue⟩
  · have h₁ := stable_savedKey hlater h
    cases x with
    | ok a =>
        cases hans
        exact ⟨⟨{ h₁.1 with }, h₁.2⟩, value, Function.update_self ..⟩
    | error e =>
        obtain ⟨⟨message, rfl⟩, rfl⟩ := hans
        exact herr message _

theorem meets_publicKeyStorageSet
    (hacl : m.config.sepoliaConfig.aclContractAddress = .string acl)
    (herr : ∀ e s, e ≠ .FhevmAbortError → err e s) (h : Created m s) :
    Meets lib s₀ m.caller (publicKeyStorageSet acl (lib.getPublicKey m.fhevmInstance)
      (lib.getPublicParams m.fhevmInstance))
      (fun _ s => Created m s ∧ Saved lib m s) err s := by
  have hError : ∀ message s, Created m s → err (.Error message) s :=
    fun message s _ => herr _ s Failure.noConfusion
  have hother : ∀ message s, err (.other message) s :=
    fun message s => herr _ s Failure.noConfusion
  refine Prog.wp.bind (meets_assertStored hError h) fun key s₁ h₁ => ?_
  refine Prog.wp.bind (meets_assertStored hError h₁.1) fun params s₂ h₂ => ?_
  refine Prog.wp.bind (meets_getDB stable_created (fun _ _ h => { h with })
    (fun message s _ => hother message s) h₂.1) fun _ s₃ h₃ => ?_
  have hkey : Meets lib s₀ m.caller (ifSome key fun value => await (.putPublicKey acl value))
      (fun _ s => Created m s ∧ SavedKey lib m acl s) err s₃ := by
    cases hsome : key with
    | some value => exact meets_putPublicKey hacl ((h₁.2 value).mp hsome) hother h₃.1
    | none =>
        refine ⟨h₃.1, fun k hk => ?_⟩
        have hkey := (h₁.2 k).mpr hk
        rw [hsome] at hkey
        cases hkey
  refine Prog.wp.bind hkey fun _ s₄ h₄ => ?_
  have hsaved : ∀ s, Created m s ∧ SavedKey lib m acl s →
      (∀ v, lib.getPublicParams m.fhevmInstance = .valid v →
        ∃ v', s.paramsStore acl = .valid v') → Created m s ∧ Saved lib m s := by
    intro s h hparams
    refine ⟨h.1, fun acl' hacl' => ?_⟩
    cases hacl.symm.trans hacl'
    exact ⟨h.2, hparams⟩
  cases hsome : params with
  | some value =>
      have hput : Meets lib s₀ m.caller (await (.putPublicParams acl value))
          (fun _ s => (Created m s ∧ SavedKey lib m acl s) ∧ ∃ v', s.paramsStore acl = .valid v')
          err s₄ := meets_putPublicParams hacl ((h₂.2 value).mp hsome) hother h₄
      refine Prog.wp.mono _ (fun r s hr => ?_) hput
      cases r with
      | ok a => exact hsaved s hr.1 fun _ _ => hr.2
      | error e => exact hr
  | none =>
      refine hsaved s₄ h₄ fun v hv => ?_
      have hparams := (h₂.2 v).mpr hv
      rw [hsome] at hparams
      cases hparams

end

/-! ### The function -/

/-- Where a call fails. An aborted one has saved what its instance gave out. -/
def FailedWith (lib : Library ι) (i : Nat) (e : Failure) (s : Page ι) : Prop :=
  e = .FhevmAbortError → ∀ m ∈ s.made, m.caller = i → Saved lib m s

/-- The instance was made by the mock library, of a node of a mocked chain. -/
def OfMock (i : Nat) (q : Parameters) (a : ι) (s : Page ι) : Prop :=
  ∃ m ∈ s.mocked, m.caller = i ∧ m.fhevmInstance = a ∧ q.Mocks m.rpcUrl m.chainId

/-- The instance was made by the SDK, for the provider of the call. -/
def OfSDK (i : Nat) (q : Parameters) (a : ι) (s : Page ι) : Prop :=
  ∃ m ∈ s.made, m.caller = i ∧ m.fhevmInstance = a ∧ m.config.network = q.provider

/-- Where a call returns an instance. -/
structure Returned (lib : Library ι) (i : Nat) (q : Parameters) (a : ι) (s : Page ι) : Prop where
  rejected : i ∉ s.rejected
  origin : OfMock i q a s ∨ OfSDK i q a s
  saved : ∀ m ∈ s.made, m.caller = i → Saved lib m s

theorem failedWith_of_noneMade (e : Failure) (s : Page ι) (h : NoneMade i s) :
    FailedWith lib i e s := fun _ m hm hcaller => absurd hcaller (h m hm)

theorem Created.saved {m : Made ι} (h : Created m s ∧ Saved lib m s) :
    ∀ m' ∈ s.made, m'.caller = m.caller → Saved lib m' s := by
  intro m' hm' hcaller
  rw [h.1.only m' hm' hcaller]
  exact h.2

theorem Created.stable_saved {m : Made ι} :
    Stable m.caller fun s => Created m s ∧ Saved lib m s :=
  fun hlater h => ⟨stable_created hlater h.1, Create.stable_saved hlater h.2⟩

/-- From the instance on. -/
theorem meets_saved {m : Made ι} {acl : String}
    (hacl : m.config.sepoliaConfig.aclContractAddress = .string acl)
    (hnetwork : m.config.network = q.provider) (h : Created m s) :
    Meets lib s₀ m.caller
      (do
        publicKeyStorageSet acl (lib.getPublicKey m.fhevmInstance)
          (lib.getPublicParams m.fhevmInstance)
        throwIfAborted q
        pure m.fhevmInstance)
      (fun a s => Returned lib m.caller q a s) (FailedWith lib m.caller) s := by
  refine Prog.wp.bind (meets_publicKeyStorageSet hacl (fun e s hne he => absurd he hne) h)
    fun _ s₁ h₁ => ?_
  have haborted : Meets lib s₀ m.caller (throwIfAborted q)
      (fun _ s => Created m s ∧ Saved lib m s) (FailedWith lib m.caller) s₁ :=
    meets_throwIfAborted Created.stable_saved (fun e s h _ => Created.saved h) h₁
  refine Prog.wp.bind haborted fun _ s₂ h₂ => ?_
  exact ⟨h₂.1.rejected, .inr ⟨m, h₂.1.made, rfl, rfl, hnetwork⟩, Created.saved h₂⟩

theorem meets_createWithSDK (h : Fresh i s) :
    Meets lib s₀ i (createWithSDK lib q) (fun a s => Returned lib i q a s) (FailedWith lib i)
      s := by
  have hready : ∀ e s, Ready i s → FailedWith lib i e s :=
    fun e s h => failedWith_of_noneMade e s h.noneMade
  refine Prog.wp.bind (meets_ensureLoaded failedWith_of_noneMade h) fun _ s₁ h₁ => ?_
  refine Prog.wp.bind (meets_ensureInitialized hready h₁) fun _ s₂ h₂ => ?_
  refine Prog.wp.bind (meets_quiet rfl stable_ready hready h₂) fun config s₃ h₃ => ?_
  refine Prog.wp.bind (meets_checkedAddress hready h₃) fun acl s₄ h₄ => ?_
  obtain ⟨hready₄, hacl, haddress⟩ := h₄
  refine Prog.wp.bind (meets_publicKeyStorageGet hready hready₄) fun pub s₅ h₅ => ?_
  have hinformed : ∀ e s, Informed lib s₀ i acl pub s → FailedWith lib i e s :=
    fun e s h => hready e s h.opened.ready
  refine Prog.wp.bind (meets_throwIfAborted stable_informed hinformed h₅) fun _ s₆ h₆ => ?_
  refine Prog.wp.bind (meets_quiet rfl stable_informed hinformed h₆) fun _ s₇ h₇ => ?_
  refine Prog.wp.bind (meets_createInstance hacl haddress failedWith_of_noneMade h₇)
    fun a s₈ h₈ => ?_
  exact meets_saved hacl rfl h₈

theorem meets_mockCreateInstance {rpcUrl : String} {chainId : Nat} {metadata : RelayerMetadata}
    (hmocks : q.Mocks rpcUrl chainId) (h : Fresh i s) :
    Meets lib s₀ i (await (.mockCreateInstance rpcUrl chainId metadata))
      (fun a s => Fresh i s ∧ OfMock i q a s) (FailedWith lib i) s := by
  refine meets_await (fun _ _ => trivial) fun s₁ x s₂ hlater _ hans => ?_
  have h₁ := stable_fresh hlater h
  cases x with
  | error e =>
      obtain ⟨_, rfl⟩ := hans
      exact failedWith_of_noneMade e _ h₁.noneMade
  | ok a =>
      cases hans
      exact ⟨{ h₁ with }, _, List.mem_append_right _ (List.mem_singleton.mpr rfl),
        rfl, rfl, hmocks⟩

/-- **A call in company**, from a page it has not touched. -/
theorem meets_createFhevmInstance (h : Fresh i s) :
    Meets lib s₀ i (createFhevmInstance lib q) (fun a s => Returned lib i q a s)
      (FailedWith lib i) s := by
  have hfresh : ∀ e s, Fresh i s → FailedWith lib i e s :=
    fun e s h => failedWith_of_noneMade e s h.noneMade
  refine Prog.wp.bind (meets_resolve stable_fresh hfresh h) fun mock s₁ h₁ => ?_
  refine Prog.wp.bind (meets_mockMetadata stable_fresh hfresh h₁.1) fun hardhat s₂ h₂ => ?_
  cases hardhat with
  | none =>
      refine Prog.wp.bind (meets_throwIfAborted stable_fresh hfresh h₂.1) fun _ s₃ h₃ => ?_
      exact meets_createWithSDK h₃
  | some node =>
      obtain ⟨rpcUrl, chainId, metadata⟩ := node
      have hmocks : q.Mocks rpcUrl chainId := h₁.2 rpcUrl chainId (h₂.2 _ _ _ rfl)
      refine Prog.wp.bind (meets_quiet rfl stable_fresh hfresh h₂.1) fun _ s₃ h₃ => ?_
      refine Prog.wp.bind (meets_mockCreateInstance hmocks h₃) fun a s₄ h₄ => ?_
      have hstable : Stable i fun s => Fresh i s ∧ OfMock i q a s := by
        intro s s' hlater h
        obtain ⟨m, hm, hof⟩ := h.2
        exact ⟨stable_fresh hlater h.1, m, hlater.mocked hm, hof⟩
      refine Prog.wp.bind (meets_throwIfAborted hstable (fun e s h => hfresh e s h.1) h₄)
        fun _ s₅ h₅ => ?_
      exact ⟨h₅.1.rejected, .inl h₅.2, failedWith_of_noneMade .FhevmAbortError s₅
        h₅.1.noneMade rfl⟩

/-- Where a call ends. -/
def Ended (lib : Library ι) (i : Nat) (q : Parameters) : Except Failure ι → Page ι → Prop :=
  Prog.ends (Returned lib i q) (FailedWith lib i)

theorem ended_later (i : Nat) (q : Parameters) (r : Except Failure ι) (s s' : Page ι)
    (hlater : Later i s s') (h : Ended lib i q r s) : Ended lib i q r s' := by
  have hsaved : (∀ m ∈ s.made, m.caller = i → Saved lib m s) →
      ∀ m ∈ s'.made, m.caller = i → Saved lib m s' :=
    fun h m hm hcaller => stable_saved hlater (h m (hlater.own hm hcaller) hcaller)
  cases r with
  | error e => exact fun he => hsaved (h he)
  | ok a =>
      refine ⟨fun hmem => h.rejected (hlater.rejected hmem), ?_, hsaved h.saved⟩
      rcases h.origin with ⟨m, hm, hof⟩ | ⟨m, hm, hof⟩
      · exact .inl ⟨m, hlater.mocked hm, hof⟩
      · exact .inr ⟨m, hlater.mem hm, hof⟩

end LunarysBridge.Fhevm.Create
