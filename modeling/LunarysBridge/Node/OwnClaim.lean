/-
LunarysBridge.Node.OwnClaim — does the node pay once, and under its own claim?

A call of the handler sends one transfer at most. Nothing keeps a second
delivery of an event from sending another: its call finds the request
claimed, by the node itself, and goes on to pay. It goes on in the same way
when the claim is a rival's, and to a destination for tests when it cannot
decrypt. `node_pays_once` says that nothing else goes wrong, in any
interleaving with the chain.
-/
import LunarysBridge.Lib.Rely
import LunarysBridge.Evm.Record
import LunarysBridge.Evm.Settlement
import LunarysBridge.Node.EvmToSol

namespace LunarysBridge.Node.EvmToSol

open Async
open Relayer (JsError falsy uint256)

variable {env : Setup} {w w' w'' w₀ : World} {i j : Nat}

/-! ## One transfer for a call -/

/-- The transfer an operation sends. -/
def Op.payment : Op → Option Payment
  | .sendAndConfirmTransaction dest lamports => some (.sol dest lamports)
  | .transfer source destination amount => some (.spl source destination amount)
  | _ => none

def Op.Pays (o : Op) : Prop := o.payment ≠ none

/-- The transfers of a call. -/
def World.paidBy (w : World) (i : Nat) : Nat := w.transfers.countP (·.caller == i)

/-- What an operation does to the world, whatever it answers. -/
theorem World.answers_cases {o : Op} {x : Except JsError o.Answer} (h : w.answers env i o x w') :
    w' = w ∨ (∃ r, w' = w.broadcast r) ∨
      ∃ payment, o.payment = some payment ∧ w' = w.pays i payment := by
  cases x with
  | error e =>
      cases o with
      | claimBridge requestId =>
          rcases h with rfl | ⟨r, -, rfl⟩
          · exact .inl rfl
          · exact .inr (.inl ⟨r, rfl⟩)
      | sendAndConfirmTransaction dest lamports =>
          rcases h with rfl | rfl
          · exact .inl rfl
          · exact .inr (.inr ⟨_, rfl, rfl⟩)
      | transfer source destination amount =>
          rcases h with rfl | rfl
          · exact .inl rfl
          · exact .inr (.inr ⟨_, rfl, rfl⟩)
      | _ => exact .inl h
  | ok a =>
      cases o with
      | requestClaim requestId =>
          obtain ⟨_, _, _, _, hw⟩ := h
          exact .inl hw
      | claimBridge requestId =>
          obtain ⟨r, _, _, hw⟩ := h
          exact .inr (.inl ⟨r, hw⟩)
      | bridgeRequests requestId =>
          obtain ⟨_, _, _, hw⟩ := h
          exact .inl hw
      | wait | userDecrypt | getOrCreateAssociatedTokenAccount => exact .inl h.2
      | sendAndConfirmTransaction | transfer => exact .inr (.inr ⟨_, rfl, h⟩)
      | fhevmInstance | ensureDecryptionSignature | post => exact .inl h

theorem World.paidBy_pays (payment : Payment) :
    (w.pays i payment).paidBy j = w.paidBy j + if j = i then 1 else 0 := by
  by_cases hj : j = i
  · subst hj
    simp [paidBy, pays]
  · simp [paidBy, pays, hj, Ne.symm hj]

theorem World.Outside.transfers (h : World.Outside env w w') : w'.transfers = w.transfers := by
  cases h <;> rfl

theorem Op.Apart.payment_eq {o : Op} (h : o.Apart) : o.payment = none := by
  cases o <;> first | rfl | exact h.elim

/-- What awaits no payment pays nothing. -/
theorem unpaid_of_only {α : Type} {f : Promise α} (hf : f.Only (fun o : Op => o.payment = none)) :
    f.AtMost Op.Pays 0 :=
  hf.avoids fun _ hnone hpays => hpays hnone

theorem unpaid_of_apart {α : Type} {f : Promise α} (hf : f.Only Op.Apart) :
    f.AtMost Op.Pays 0 :=
  unpaid_of_only (hf.mono fun _ h => h.payment_eq)

theorem only_submitVerification (request : VerificationRequest) :
    (submitVerification env request).Only (fun o : Op => o.payment = none) := by
  unfold submitVerification
  split
  · exact Prog.Only.tryCatch (Prog.Only.bind (only_await rfl) fun _ => trivial) fun _ => trivial
  · trivial

theorem atMost_sendAndConfirmTransaction (dest : String) (lamports : Int) :
    (sendAndConfirmTransaction dest lamports).AtMost Op.Pays 1 := Prog.atMost_call _

theorem atMost_transfer (source dest : String) (amount : Int) :
    (transfer source dest amount).AtMost Op.Pays 1 := Prog.atMost_call _

theorem atMost_pay (req : BridgeRequest) (solDest : String) :
    (pay env req solDest).AtMost Op.Pays 1 := by
  have hlift : ∀ {x : Except JsError String}, (liftM x : Promise String).AtMost Op.Pays 0 :=
    unpaid_of_only (only_lift _)
  have hata : ∀ {mint owner : String},
      (getOrCreateAssociatedTokenAccount mint owner).AtMost Op.Pays 0 :=
    unpaid_of_only (only_await rfl)
  unfold pay
  split
  · exact hlift.zero_bind fun dest => atMost_sendAndConfirmTransaction dest _
  · split
    · trivial
    · exact hlift.zero_bind fun mint => hlift.zero_bind fun dest =>
        hata.zero_bind fun srcAta => hata.zero_bind fun dstAta => atMost_transfer srcAta dstAta _

/-- **A call pays once at most.** -/
theorem handler_pays_once (req : BridgeRequest) :
    (handleBridgeInitiated env req).AtMost Op.Pays 1 := by
  have hprocess : (processRequest env req).AtMost Op.Pays 1 :=
    (unpaid_of_apart only_claim).zero_bind fun claimTxHash =>
      (unpaid_of_apart only_destination).zero_bind fun solDest =>
        (atMost_pay req solDest).bind_zero fun signature =>
          (unpaid_of_only (only_submitVerification
            (verificationOf req claimTxHash solDest signature))).bind_zero fun _ => trivial
  exact Prog.AtMost.tryCatch (n := 0) hprocess fun _ => trivial

/-! ## The chain among the calls -/

/-- What holds of the world between two moves. -/
structure World.Sound (env : Setup) (w : World) : Prop where
  valid : Evm.Valid env.ch w.evm
  held : ∀ r, (w.evm.requestClaim r).solver = env.wallet → w.registered r = true
  known : ∀ r, w.registered r = true → (w.evm.bridgeRequests r).sender ≠ 0
  mined : ∀ t ∈ w.claims, t.mined = true → w.registered t.requestId = true

/-- What a call may rely on while others move the world. -/
structure World.Later (env : Setup) (w w' : World) : Prop where
  sound : w.Sound env → w'.Sound env
  registered : ∀ r, w.registered r = true → w'.registered r = true
  deposit : w.Sound env → ∀ r, (w.evm.bridgeRequests r).sender ≠ 0 →
    (w.evm.bridgeRequests r).SameDeposit (w'.evm.bridgeRequests r)
  claims : ∀ (n : Nat) (t : ClaimTx), w.claims[n]? = some t →
    ∃ t', w'.claims[n]? = some t' ∧ t'.requestId = t.requestId

theorem World.Later.refl (w : World) : w.Later env w where
  sound h := h
  registered _ h := h
  deposit _ _ _ := .refl _
  claims _ t h := ⟨t, h, rfl⟩

theorem World.Later.trans (h : w.Later env w') (h' : w'.Later env w'') : w.Later env w'' where
  sound hs := h'.sound (h.sound hs)
  registered r hr := h'.registered r (h.registered r hr)
  deposit hs r hr := by
    have hfirst := h.deposit hs r hr
    exact hfirst.trans (h'.deposit (h.sound hs) r (hfirst.sender ▸ hr))
  claims n t ht := by
    obtain ⟨t', ht', heq⟩ := h.claims n t ht
    obtain ⟨t'', ht'', heq'⟩ := h'.claims n t' ht'
    exact ⟨t'', ht'', heq'.trans heq⟩

/-- The chain goes on. -/
theorem World.Sound.kept {evm : Evm.State} (hs : w.Sound env)
    (hstep : Evm.Step env.ch w.evm evm) {r : Nat} (hr : (w.evm.bridgeRequests r).sender ≠ 0) :
    (w.evm.bridgeRequests r).SameDeposit (evm.bridgeRequests r) :=
  (hs.valid.kept hstep).deposit ((hs.valid.lifecycle.known r).mp hr).2

theorem World.registered_setEvm {evm : Evm.State} {r : Nat} :
    (w.setEvm env evm).registered r = true ↔
      w.registered r = true ∨ (evm.requestClaim r).solver = env.wallet := by
  simp [setEvm]

theorem World.Sound.setEvm {evm : Evm.State} (hs : w.Sound env)
    (hstep : Evm.Step env.ch w.evm evm) : (w.setEvm env evm).Sound env where
  valid := hs.valid.step hstep
  held r hr := World.registered_setEvm.mpr (.inr hr)
  known r hr := by
    rcases World.registered_setEvm.mp hr with hold | hnow
    · have hk := hs.known r hold
      exact (hs.kept hstep hk).sender ▸ hk
    · have hne : (evm.requestClaim r).solver ≠ 0 := hnow ▸ env.wallet_ne_zero
      exact ((hs.valid.step hstep).lifecycle.held r hne).1
  mined t ht hm := World.registered_setEvm.mpr (.inl (hs.mined t ht hm))

theorem World.Later.setEvm {evm : Evm.State} (hstep : Evm.Step env.ch w.evm evm) :
    w.Later env (w.setEvm env evm) where
  sound hs := hs.setEvm hstep
  registered _ hr := World.registered_setEvm.mpr (.inl hr)
  deposit hs _ hr := hs.kept hstep hr
  claims _ t ht := ⟨t, ht, rfl⟩

/-- A claim of the node is mined: the node is the solver. -/
theorem World.Later.mined {evm : Evm.State} {n : Nat} {t : ClaimTx} (hget : w.claims[n]? = some t)
    (hc : Reentrancy.Commits (Evm.contract env.ch) (env.claimTx t.requestId) w.evm evm) :
    w.Later env
      { w.setEvm env evm with claims := w.claims.set n { t with mined := true } } where
  sound hs := by
    have hset := hs.setEvm (.tx _ hc)
    refine ⟨hset.valid, hset.held, hset.known, fun t' ht' hm => ?_⟩
    rcases List.mem_or_eq_of_mem_set ht' with hold | rfl
    · exact hset.mined t' hold hm
    · exact World.registered_setEvm.mpr (.inr (Evm.commits_claim rfl hc))
  registered _ hr := World.registered_setEvm.mpr (.inl hr)
  deposit hs _ hr := hs.kept (.tx _ hc) hr
  claims m t' ht' := by
    by_cases hmn : n = m
    · subst hmn
      obtain rfl : t = t' := Option.some.inj (hget.symm.trans ht')
      have hlt : n < w.claims.length := (List.getElem?_eq_some_iff.mp hget).1
      exact ⟨{ t with mined := true }, by simp [hlt], rfl⟩
    · exact ⟨t', by rw [← ht']; exact List.getElem?_set_ne hmn, rfl⟩

theorem World.Later.broadcast (r : Nat) : w.Later env (w.broadcast r) where
  sound hs := by
    refine ⟨hs.valid, hs.held, hs.known, fun t ht hm => ?_⟩
    rcases List.mem_append.mp ht with hold | hnew
    · exact hs.mined t hold hm
    · obtain rfl := List.mem_singleton.mp hnew
      cases hm
  registered _ h := h
  deposit _ _ _ := .refl _
  claims n t ht := by
    have hlt : n < w.claims.length := (List.getElem?_eq_some_iff.mp ht).1
    exact ⟨t, by rw [← ht]; exact List.getElem?_append_left hlt, rfl⟩

theorem World.Later.outside (h : World.Outside env w w') : w.Later env w' := by
  cases h with
  | chain step => exact .setEvm step
  | mined n sent pending commits => exact .mined sent commits
  | clock clock later =>
      exact ⟨fun hs => ⟨hs.valid, hs.held, hs.known, hs.mined⟩, fun _ h => h,
        fun _ _ _ => .refl _, fun n t h => ⟨t, h, rfl⟩⟩

theorem World.Later.answers {o : Op} {x : Except JsError o.Answer}
    (h : w.answers env i o x w') : w.Later env w' := by
  rcases World.answers_cases h with rfl | ⟨r, rfl⟩ | ⟨payment, -, rfl⟩
  · exact .refl _
  · exact .broadcast r
  · exact ⟨fun hs => ⟨hs.valid, hs.held, hs.known, hs.mined⟩, fun _ h => h,
      fun _ _ _ => .refl _, fun n t h => ⟨t, h, rfl⟩⟩

theorem World.Initial.sound (h : w.Initial env) : w.Sound env where
  valid := h.reachable.valid
  held r hr := by simp [h.registered, hr]
  known r hr := by
    have hsolver : (w.evm.requestClaim r).solver = env.wallet := by simpa [h.registered] using hr
    have hne : (w.evm.requestClaim r).solver ≠ 0 := hsolver ▸ env.wallet_ne_zero
    exact (h.reachable.valid.lifecycle.held r hne).1
  mined t ht := by
    rw [h.claims] at ht
    cases ht

/-! ## The code of one call -/

/-- The destination encrypted in a request. -/
def World.destinationOf (env : Setup) (w : World) (r : Nat) : String :=
  uint256ToSolanaAddress env (env.plaintext (w.evm.bridgeRequests r).encryptedSolanaDestination)

/-- The payment goes to this address, or to an account of it. -/
def PaysTo (env : Setup) (solDest : String) : Payment → Prop
  | .sol dest _ => env.publicKey solDest = .ok dest
  | .spl _ destination _ => ∃ mint dest, env.publicKey solDest = .ok dest ∧
      destination = env.ata mint dest

/-- The node is, or was, the solver of the request, and the payment goes to
its destination. -/
def Authorised (env : Setup) (req : BridgeRequest) (payment : Payment) (w : World) : Prop :=
  ∃ r, uint256 req.requestId = some r ∧ w.registered r = true ∧
    PaysTo env (w.destinationOf env r) payment

/-- Where the node goes wrong: a live claim that it reads is a rival's, or a
decryption fails and there is a destination for tests. This is neither. -/
def Careful (env : Setup) (o : Op) (x : Except JsError o.Answer) : Prop :=
  match o, x with
  | .requestClaim _, .ok answer => answer.1.solver ≠ 0 → answer.2 / 1000 < answer.1.deadline →
      answer.1.solver = env.wallet
  | .fhevmInstance, .error _ => falsy env.testSolDest = true
  | .bridgeRequests _, .error _ => falsy env.testSolDest = true
  | .ensureDecryptionSignature, .error _ => falsy env.testSolDest = true
  | .userDecrypt _, .error _ => falsy env.testSolDest = true
  | .userDecrypt _, .ok value => value = (0 : Nat) → falsy env.testSolDest = true
  | _, _ => True

/-- The service, where every operation is answered with care. -/
def careful (env : Setup) : Service api JsError Unit BridgeRequest World where
  handler := handleBridgeInitiated env
  answers := fun i w o x w' => w.answers env i o x w' ∧ Careful env o x
  outside := World.Outside env

/-- A payment that is sent is authorised. -/
def May (env : Setup) (req : BridgeRequest) (w : World) (o : Op) (_ : Except JsError o.Answer)
    (_ : World) : Prop :=
  ∀ payment, o.payment = some payment → Authorised env req payment w

abbrev Meets {α : Type} (env : Setup) (i : Nat) (req : BridgeRequest) (ok : α → World → Prop)
    (err : JsError → World → Prop) (p : Promise α) (w : World) : Prop :=
  p.wp ((careful env).answers i) (World.Later env) (May env req) (Prog.ends ok err) w

/-- The node is the solver of the request, or was. -/
structure Held (env : Setup) (r : Nat) (w : World) : Prop where
  sound : w.Sound env
  registered : w.registered r = true

section Code

variable {req : BridgeRequest} {α : Type} {ok : α → World → Prop} {err : JsError → World → Prop}
  {r : Nat}

theorem Held.later (h : Held env r w) (hl : w.Later env w') : Held env r w' :=
  ⟨hl.sound h.sound, hl.registered r h.registered⟩

theorem Held.destination (h : Held env r w) (hl : w.Later env w') :
    w'.destinationOf env r = w.destinationOf env r := by
  have hsame := hl.deposit h.sound r (h.sound.known r h.registered)
  rw [World.destinationOf, World.destinationOf, hsame.destination]

/-- An operation that pays nothing. -/
theorem meets_await {o : Op} {ok : o.Answer → World → Prop} (ho : o.payment = none)
    (h : ∀ w₁ x w₂, w.Later env w₁ → w₁.answers env i o x w₂ → Careful env o x →
      Prog.ends ok err x w₂) : Meets env i req ok err (await o) w := by
  refine Prog.wp_call.mpr fun w₁ hlater x w₂ hans => ⟨?_, h w₁ x w₂ hlater hans.1 hans.2⟩
  intro payment hpay
  rw [ho] at hpay
  cases hpay

theorem meets_requestClaim {requestId : Int} (hs : w.Sound env) :
    Meets env i req (fun answer w => w.Sound env ∧ (answer.1.solver ≠ 0 →
        answer.2 / 1000 < answer.1.deadline → ∃ r, uint256 requestId = some r ∧ Held env r w))
      (fun _ _ => True) (requestClaim requestId) w := by
  refine meets_await rfl fun w₁ x w₂ hlater hans hcare => ?_
  cases x with
  | error e => trivial
  | ok answer =>
      obtain ⟨r, hr, hclaim, -, rfl⟩ := hans
      have hs₁ := hlater.sound hs
      refine ⟨hs₁, fun hne hlive => ⟨r, hr, hs₁, hs₁.held r ?_⟩⟩
      rw [← hclaim]
      exact hcare hne hlive

theorem meets_isRequestClaimed {requestId : Int} (hs : w.Sound env) :
    Meets env i req (fun claimed w => w.Sound env ∧
        (claimed = true → ∃ r, uint256 requestId = some r ∧ Held env r w))
      (fun _ _ => True) (isRequestClaimed requestId) w := by
  refine Prog.wp.bind (meets_requestClaim hs) fun answer w₁ hanswer => ?_
  obtain ⟨hs₁, hlive⟩ := hanswer
  dsimp only
  split
  · next hne => exact ⟨hs₁, fun h => hlive hne (of_decide_eq_true h)⟩
  · exact ⟨hs₁, fun h => by cases h⟩

theorem meets_claimBridge {requestId : Int} (hs : w.Sound env) :
    Meets env i req (fun tx w => w.Sound env ∧ ∃ r t, uint256 requestId = some r ∧
        w.claims[tx.index]? = some t ∧ t.requestId = r)
      (fun _ _ => True) (claimBridge requestId) w := by
  refine meets_await rfl fun w₁ x w₂ hlater hans _ => ?_
  cases x with
  | error e => trivial
  | ok tx =>
      obtain ⟨r, hr, hindex, rfl⟩ := hans
      refine ⟨(World.Later.broadcast r).sound (hlater.sound hs), r, ⟨r, false⟩, hr, ?_, rfl⟩
      simp [hindex, World.broadcast]

theorem meets_wait {n : Nat} {t : ClaimTx} (hs : w.Sound env) (hget : w.claims[n]? = some t) :
    Meets env i req (fun status w => status = some 1 → Held env t.requestId w)
      (fun _ _ => True) (wait n) w := by
  refine meets_await rfl fun w₁ x w₂ hlater hans _ => ?_
  cases x with
  | error e => trivial
  | ok status =>
      obtain ⟨hmined, rfl⟩ := hans
      have hs₁ := hlater.sound hs
      intro hstatus
      obtain ⟨t', hget', hm⟩ := hmined hstatus
      obtain ⟨t'', hget'', heq⟩ := hlater.claims n t hget
      obtain rfl : t' = t'' := Option.some.inj (hget'.symm.trans hget'')
      exact heq ▸ ⟨hs₁, hs₁.mined t' (List.mem_of_getElem? hget') hm⟩

theorem meets_claimBridgeRequest {requestId : Int} (hs : w.Sound env) :
    Meets env i req (fun _ w => ∃ r, uint256 requestId = some r ∧ Held env r w)
      (fun _ _ => True) (claimBridgeRequest requestId) w := by
  refine Prog.wp.bind (meets_claimBridge hs) fun tx w₁ hsent => ?_
  obtain ⟨hs₁, r, t, hr, hget, rfl⟩ := hsent
  refine Prog.wp.bind (meets_wait hs₁ hget) fun status w₂ hheld => ?_
  split
  · trivial
  · next hstatus => exact ⟨_, hr, hheld (not_not.mp hstatus)⟩

/-- After its first section the node is, or was, the solver. -/
theorem meets_claim {requestId : Int} (hs : w.Sound env) :
    Meets env i req (fun _ w => ∃ r, uint256 requestId = some r ∧ Held env r w)
      (fun _ _ => True) (claim requestId) w := by
  refine Prog.wp.bind (meets_isRequestClaimed hs) fun claimed w₁ hclaimed => ?_
  split
  · next h => exact hclaimed.2 h
  · exact meets_claimBridgeRequest hclaimed.1

/-- A step of the decryption that leaves the world as it is. -/
theorem meets_held {o : Op} (ho : o.payment = none) (h : Held env r w)
    (herr : ∀ e (w₁ w₂ : World), w₁.answers env i o (.error e) w₂ → Careful env o (.error e) →
      falsy env.testSolDest = true) :
    Meets env i req (fun _ w => Held env r w) (fun _ _ => falsy env.testSolDest = true)
      (await o) w := by
  refine meets_await ho fun w₁ x w₂ hlater hans hcare => ?_
  cases x with
  | error e => exact herr e w₁ w₂ hans hcare
  | ok a => exact (h.later hlater).later (.answers hans)

theorem meets_bridgeRequests {requestId : Int} (h : Held env r w)
    (hr : uint256 requestId = some r) :
    Meets env i req (fun br w => Held env r w ∧
        uint256ToSolanaAddress env (env.plaintext br.encryptedSolanaDestination) =
          w.destinationOf env r)
      (fun _ _ => falsy env.testSolDest = true) (bridgeRequests requestId) w := by
  refine meets_await rfl fun w₁ x w₂ hlater hans hcare => ?_
  cases x with
  | error e => exact hcare
  | ok br =>
      obtain ⟨r', hr', rfl, rfl⟩ := hans
      obtain rfl : r = r' := Option.some.inj (hr.symm.trans hr')
      exact ⟨h.later hlater, rfl⟩

theorem meets_decryptSolanaAddress {requestId : Int} (h : Held env r w)
    (hr : uint256 requestId = some r) :
    Meets env i req (fun d w => Held env r w ∧ d = w.destinationOf env r)
      (fun _ _ => falsy env.testSolDest = true) (decryptSolanaAddress env requestId) w := by
  refine Prog.wp.bind (meets_held rfl h fun e _ _ _ hcare => hcare) fun _ w₁ h₁ => ?_
  refine Prog.wp.bind (meets_bridgeRequests h₁ hr) fun br w₂ hread => ?_
  obtain ⟨h₂, hbr⟩ := hread
  have hsign : Meets env i req (fun _ w => Held env r w ∧ uint256ToSolanaAddress env
        (env.plaintext br.encryptedSolanaDestination) = w.destinationOf env r)
      (fun _ _ => falsy env.testSolDest = true) ensureDecryptionSignature w₂ := by
    refine meets_await rfl fun w₃ x w₄ hlater hans hcare => ?_
    cases x with
    | error e => exact hcare
    | ok u =>
        have hall := hlater.trans (.answers hans)
        exact ⟨h₂.later hall, (h₂.destination hall).symm ▸ hbr⟩
  refine Prog.wp.bind hsign fun _ w₃ hsigned => ?_
  obtain ⟨h₃, hbr₃⟩ := hsigned
  have hdecrypt : Meets env i req (fun value w => (value = 0 → falsy env.testSolDest = true) ∧
        (value ≠ 0 → Held env r w ∧ uint256ToSolanaAddress env value = w.destinationOf env r))
      (fun _ _ => falsy env.testSolDest = true)
      (userDecrypt br.encryptedSolanaDestination) w₃ := by
    refine meets_await rfl fun w₄ x w₅ hlater hans hcare => ?_
    cases x with
    | error e => exact hcare
    | ok value =>
        obtain ⟨hvalue, rfl⟩ := hans
        refine ⟨hcare, fun hne => ⟨h₃.later hlater, ?_⟩⟩
        rcases hvalue with hzero | ⟨-, rfl⟩
        · exact absurd hzero hne
        · exact (h₃.destination hlater).symm ▸ hbr₃
  refine Prog.wp.bind hdecrypt fun value w₄ hvalue => ?_
  split
  · next hzero => exact hvalue.1 hzero
  · next hne => exact hvalue.2 hne

/-- After its second section the node has the destination. -/
theorem meets_destination {requestId : Int} (h : Held env r w) (hr : uint256 requestId = some r) :
    Meets env i req (fun d w => Held env r w ∧ d = w.destinationOf env r) (fun _ _ => True)
      (destination env requestId) w := by
  refine Prog.wp.tryCatch (meets_decryptSolanaAddress h hr) fun e w₁ hfalsy => ?_
  rw [if_pos hfalsy]
  trivial

/-- A payment of this kind is authorised, and so is what follows. -/
theorem meets_payment {o : Op} (payment : Payment) (ho : o.payment = some payment)
    (h : Held env r w) (hr : uint256 req.requestId = some r)
    (hpays : PaysTo env (w.destinationOf env r) payment) :
    Meets env i req (fun _ _ => True) (fun _ _ => True) (await o) w := by
  refine Prog.wp_call.mpr fun w₁ hlater x w₂ _ => ⟨?_, ?_⟩
  · intro payment' hpay
    obtain rfl : payment = payment' := Option.some.inj (ho.symm.trans hpay)
    exact ⟨r, hr, (h.later hlater).registered, (h.destination hlater).symm ▸ hpays⟩
  · cases x <;> trivial

theorem meets_transferSOL {lamports : Int} (h : Held env r w)
    (hr : uint256 req.requestId = some r) :
    Meets env i req (fun _ _ => True) (fun _ _ => True)
      (transferSOL env (w.destinationOf env r) lamports) w := by
  cases hdest : env.publicKey (w.destinationOf env r) with
  | error e =>
      simp only [transferSOL, hdest]
      trivial
  | ok dest =>
      simp only [transferSOL, hdest]
      exact meets_payment (.sol dest (number lamports)) rfl h hr hdest

theorem meets_transferSPLToken {mintAddress : String} {amount : Int} (h : Held env r w)
    (hr : uint256 req.requestId = some r) :
    Meets env i req (fun _ _ => True) (fun _ _ => True)
      (transferSPLToken env mintAddress (w.destinationOf env r) amount) w := by
  have haccount : ∀ mint owner (w₁ : World), Held env r w₁ →
      Meets env i req (fun account w₂ => account = env.ata mint owner ∧ Held env r w₂ ∧
          w₂.destinationOf env r = w₁.destinationOf env r) (fun _ _ => True)
        (getOrCreateAssociatedTokenAccount mint owner) w₁ := by
    intro mint owner w₁ h₁
    refine meets_await rfl fun w₂ x w₃ hlater hans _ => ?_
    cases x with
    | error e => trivial
    | ok account =>
        obtain ⟨haccount, rfl⟩ := hans
        exact ⟨haccount, h₁.later hlater, h₁.destination hlater⟩
  have hmint : Meets env i req (fun _ w₁ => w₁ = w) (fun _ _ => True)
      (liftM (env.publicKey mintAddress) : Promise String) w := by
    cases env.publicKey mintAddress with
    | error e => trivial
    | ok mint => exact rfl
  refine Prog.wp.bind hmint fun mint w₁ hw₁ => ?_
  subst hw₁
  cases hdest : env.publicKey (w₁.destinationOf env r) with
  | error e => trivial
  | ok dest =>
      simp only [Prog.lift_ok, Prog.ret_bind]
      refine Prog.wp.bind (haccount mint env.solWallet w₁ h) fun srcAta w₂ hsrc => ?_
      obtain ⟨-, h₂, hd₂⟩ := hsrc
      refine Prog.wp.bind (haccount mint dest w₂ h₂) fun dstAta w₃ hdst => ?_
      obtain ⟨rfl, h₃, hd₃⟩ := hdst
      refine meets_payment (.spl srcAta (env.ata mint dest) (number amount)) rfl h₃ hr ?_
      rw [hd₃, hd₂]
      exact ⟨mint, dest, hdest, rfl⟩

/-- The third section pays the destination. -/
theorem meets_pay (h : Held env r w) (hr : uint256 req.requestId = some r) :
    Meets env i req (fun _ _ => True) (fun _ _ => True)
      (pay env req (w.destinationOf env r)) w := by
  unfold pay
  split
  · exact meets_transferSOL h hr
  · split
    · trivial
    · exact meets_transferSPLToken h hr

/-- **The handler pays under its own claim**, whatever others do while it
runs. -/
theorem meets_handleBridgeInitiated (hs : w.Sound env) :
    (handleBridgeInitiated env req).wp ((careful env).answers i) (World.Later env) (May env req)
      (fun _ _ => True) w := by
  have hprocess : Meets env i req (fun _ _ => True) (fun _ _ => True)
      (processRequest env req) w := by
    refine Prog.wp.bind (meets_claim hs) fun claimTxHash w₁ hheld => ?_
    obtain ⟨r, hr, h₁⟩ := hheld
    refine Prog.wp.bind (meets_destination h₁ hr) fun solDest w₂ hdest => ?_
    obtain ⟨h₂, rfl⟩ := hdest
    refine Prog.wp.bind (meets_pay h₂ hr) fun signature w₃ _ => ?_
    have hquiet : (do
        let _ ← submitVerification env (verificationOf req claimTxHash
          (w₂.destinationOf env r) signature)
        return : Promise Unit).Only (fun o : Op => o.payment = none) :=
      (only_submitVerification _).bind fun _ => trivial
    refine Prog.wp.mono _ (fun x _ _ => by cases x <;> trivial) (Prog.wp_of_only hquiet ?_)
    intro _ o _ _ hnone payment hpay
    rw [hnone] at hpay
    cases hpay
  have hhandler : Meets env i req (fun _ _ => True) (fun _ _ => True)
      (handleBridgeInitiated env req) w :=
    Prog.wp.tryCatch hprocess fun e w₁ _ => trivial
  exact Prog.wp.mono _ (fun _ _ _ => trivial) hhandler

end Code

/-! ## Runs -/

/-- No call for the request still runs, or has sent a transfer. -/
def Fresh (p : Calls) (req : BridgeRequest) : Prop :=
  ∀ j req', Live World.paidBy p j req' → req'.requestId ≠ req.requestId

/-- One transfer at most is sent for a request; every transfer is sent after
the node has become the solver, and to the destination of the request. -/
structure PaysOnce (env : Setup) (p : Calls) : Prop where
  once : ∀ (m n : Nat) (t t' : Transfer) (c c' : Call api JsError Unit BridgeRequest),
    p.state.transfers[m]? = some t → p.state.transfers[n]? = some t' →
    p.calls[t.caller]? = some c → p.calls[t'.caller]? = some c' →
    c.request.requestId = c'.request.requestId → m = n
  own : ∀ t ∈ p.state.transfers, ∃ c, p.calls[t.caller]? = some c ∧
    Authorised env c.request t.payment p.state

section Runs

variable {p : Calls} {admits : Calls → BridgeRequest → Prop}

theorem careful_counts : Counts (careful env) Op.Pays World.paidBy where
  answers := by
    intro i w w' o x h j
    rcases World.answers_cases h.1 with rfl | ⟨r, rfl⟩ | ⟨payment, hpay, rfl⟩
    · exact .inl (Nat.le_refl _)
    · exact .inl (Nat.le_refl _)
    · rw [World.paidBy_pays]
      by_cases hj : j = i
      · exact .inr ⟨hj, by simp [Op.Pays, hpay], by simp [hj]⟩
      · exact .inl (by simp [hj])
  outside := by
    intro w w' h j
    exact Nat.le_of_eq (congrArg (List.countP _) h.transfers)

theorem careful_relies : Relies (careful env) fun _ => World.Later env where
  refl _ := .refl
  trans := .trans
  others _ h := .answers h.1
  outside := .outside

theorem Run.sound (h₀ : w₀.Initial env) (hrun : Run (careful env) admits (.idle w₀) p) :
    p.state.Sound env := by
  induction hrun with
  | refl => exact h₀.sound
  | tail _ hstep ih =>
      cases hstep with
      | start => exact ih
      | resume i _ hans => exact (World.Later.answers hans.1).sound ih
      | outside hmove => exact (World.Later.outside hmove).sound ih

theorem Authorised.later {req : BridgeRequest} {payment : Payment} (hs : w.Sound env)
    (hl : w.Later env w') (h : Authorised env req payment w) : Authorised env req payment w' := by
  obtain ⟨r, hr, hreg, hpays⟩ := h
  have hheld : Held env r w := ⟨hs, hreg⟩
  exact ⟨r, hr, hl.registered r hreg, (hheld.destination hl).symm ▸ hpays⟩

/-- Every transfer is its call's, and authorised. -/
theorem Run.authorised (h₀ : w₀.Initial env)
    (hrun : Run (careful env) admits (.idle w₀) p) :
    ∀ t ∈ p.state.transfers, ∃ c, p.calls[t.caller]? = some c ∧
      Authorised env c.request t.payment p.state := by
  refine Run.recorded World.transfers Transfer.caller
    (fun req t w => Authorised env req t.payment w) h₀.transfers ?_ ?_ hrun
  · intro p i req o k x w' hrun hat hans t ht
    have hs := Run.sound h₀ hrun
    have hlater := World.Later.answers hans.1
    have hold : t ∈ p.state.transfers → ∃ t₀ ∈ p.state.transfers, t₀.caller = t.caller ∧
        ∀ q, Authorised env q t₀.payment p.state → Authorised env q t.payment w' :=
      fun ht => ⟨t, ht, rfl, fun _ => .later hs hlater⟩
    rcases World.answers_cases hans.1 with rfl | ⟨r, rfl⟩ | ⟨payment, hpay, rfl⟩
    · exact .inr (hold ht)
    · exact .inr (hold ht)
    · rcases List.mem_append.mp ht with hmem | hnew
      · exact .inr (hold hmem)
      · obtain rfl := List.mem_singleton.mp hnew
        have hkeeps := Run.keeps careful_relies
          (fun p q hrun _ => meets_handleBridgeInitiated (Run.sound h₀ hrun)) hrun
        exact .inl ⟨rfl, .later hs hlater (hkeeps.step careful_relies hat hans payment hpay)⟩
  · intro p w' hrun hmove t ht
    rw [hmove.transfers] at ht
    exact ⟨t, ht, rfl, fun _ => .later (Run.sound h₀ hrun) (.outside hmove)⟩

/-- **The node pays once, under its own claim**, in every run whose calls
are started with fresh requests and whose operations are answered with
care. -/
theorem node_pays_once (h₀ : w₀.Initial env) (hrun : Run (careful env) Fresh (.idle w₀) p) :
    PaysOnce env p where
  own := Run.authorised h₀ hrun
  once := by
    intro m n t t' c c' ht ht' hget hget' hid
    have hlive : ∀ {t : Transfer} {c : Call api JsError Unit BridgeRequest},
        t ∈ p.state.transfers → p.calls[t.caller]? = some c →
          Live World.paidBy p t.caller c.request := by
      intro t c ht hget
      exact ⟨c, hget, rfl, .inr (List.countP_pos_iff.mpr ⟨t, ht, by simp⟩)⟩
    have hi := hlive (List.mem_of_getElem? ht) hget
    have hj := hlive (List.mem_of_getElem? ht') hget'
    rcases Nat.lt_trichotomy t.caller t'.caller with hlt | heq | hgt
    · exact absurd hid (Run.separated careful_counts (fun p q hf => hf) hrun hlt hi hj)
    · have hstart : ∀ j, w₀.paidBy j = 0 := fun j => by simp [World.paidBy, h₀.transfers]
      have hle := Run.count_le careful_counts handler_pays_once hstart hrun t.caller
      exact countP_unique hle ht ht' (by simp) (by simp [heq])
    · exact absurd hid.symm (Run.separated careful_counts (fun p q hf => hf) hrun hgt hj hi)

end Runs

/-! ## The world in which everything works -/

/-- A pending claim is mined, if the contract accepts it. -/
def World.mine (env : Setup) (w : World) (n : Nat) : Option World :=
  match w.claims[n]? with
  | some t =>
      if t.mined then none
      else
        match Reentrancy.accepting (Evm.contract env.ch) (env.claimTx t.requestId)
            (Evm.entry env.ch (env.claimTx t.requestId) w.evm) with
        | some evm =>
            some { w.setEvm env evm with claims := w.claims.set n { t with mined := true } }
        | none => none
  | none => none

/-- Both chains answer at once, and a claim is mined when it is waited for.
Only the relayer does not answer, and nobody who asks for a rival's claim. -/
def World.answer (env : Setup) (i : Nat) (w : World) : (o : Op) → Except JsError o.Answer × World
  | .requestClaim requestId =>
      match uint256 requestId with
      | some r =>
          if (w.evm.requestClaim r).solver ≠ 0 ∧ (w.evm.requestClaim r).solver ≠ env.wallet then
            (Relayer.unavailable, w)
          else (.ok (w.evm.requestClaim r, w.clock), w)
      | none => (Relayer.unavailable, w)
  | .claimBridge requestId =>
      match uint256 requestId with
      | some r => (.ok ⟨w.claims.length, "0xc1"⟩, w.broadcast r)
      | none => (Relayer.unavailable, w)
  | .wait n =>
      match w.mine env n with
      | some w' => (.ok (some 1), w')
      | none => (Relayer.unavailable, w)
  | .fhevmInstance => (.ok (), w)
  | .bridgeRequests requestId =>
      match uint256 requestId with
      | some r => (.ok (w.evm.bridgeRequests r), w)
      | none => (Relayer.unavailable, w)
  | .ensureDecryptionSignature => (.ok (), w)
  | .userDecrypt handle =>
      if .allowed handle env.wallet ∈ w.evm.log then (.ok (env.plaintext handle), w)
      else (Relayer.unavailable, w)
  | .sendAndConfirmTransaction dest lamports => (.ok "sol", w.pays i (.sol dest lamports))
  | .getOrCreateAssociatedTokenAccount mint owner => (.ok (env.ata mint owner), w)
  | .transfer source destination amount => (.ok "spl", w.pays i (.spl source destination amount))
  | .post _ _ => (Relayer.unavailable, w)

theorem World.mine_outside {n : Nat} (h : w.mine env n = some w') :
    Outside env w w' ∧ ∃ t, w'.claims[n]? = some t ∧ t.mined = true := by
  unfold mine at h
  split at h
  · next t ht =>
    split at h
    · cases h
    · next hp =>
      split at h
      · next evm hevm =>
        obtain rfl := Option.some.inj h
        have hlt : n < w.claims.length := (List.getElem?_eq_some_iff.mp ht).1
        refine ⟨.mined n ht (Bool.not_eq_true _ ▸ hp) (Reentrancy.exec_of_accepting _ hevm),
          { t with mined := true }, ?_, rfl⟩
        simp [hlt]
      · cases h
  · cases h

/-- These answers are given with care, where no destination for tests is set. -/
theorem World.answer_settled (htest : falsy env.testSolDest = true) (o : Op) :
    (careful env).settled i w o (w.answer env i o).1 (w.answer env i o).2 := by
  have hnow : ∀ {x w'}, w.answers env i o x w' → Careful env o x →
      (careful env).settled i w o x w' := fun h hc => ⟨w, .refl, h, hc⟩
  cases o with
  | requestClaim requestId =>
      simp only [answer]
      split
      · next r hr =>
        split
        · exact hnow rfl trivial
        · next hno =>
          refine hnow ⟨r, hr, rfl, Nat.le_refl _, rfl⟩ fun hne _ => ?_
          exact not_not.mp fun hrival => hno ⟨hne, hrival⟩
      · exact hnow rfl trivial
  | claimBridge requestId =>
      simp only [answer]
      split
      · next r hr => exact hnow ⟨r, hr, rfl, rfl⟩ trivial
      · exact hnow (.inl rfl) trivial
  | wait n =>
      simp only [answer]
      split
      · next w' hmine =>
        obtain ⟨hout, hmined⟩ := mine_outside hmine
        exact ⟨w', .single hout, ⟨fun _ => hmined, rfl⟩, trivial⟩
      · exact hnow rfl trivial
  | bridgeRequests requestId =>
      simp only [answer]
      split
      · next r hr => exact hnow ⟨r, hr, rfl, rfl⟩ trivial
      · exact hnow rfl htest
  | userDecrypt handle =>
      simp only [answer]
      split
      · next hallowed => exact hnow ⟨.inr ⟨hallowed, rfl⟩, rfl⟩ fun _ => htest
      · exact hnow rfl htest
  | getOrCreateAssociatedTokenAccount mint owner => exact hnow ⟨rfl, rfl⟩ trivial
  | fhevmInstance | ensureDecryptionSignature | sendAndConfirmTransaction | transfer
    | post => exact hnow rfl trivial

/-! ### One event -/

namespace Sample

/-- The solver 5 of the sample chain runs the node. -/
def node : Setup where
  table := fun chainId => if chainId = 31337 then
    some [⟨Relayer.addressString 9, SolToEvm.Sample.wsol.mint, ⟨18, 9⟩⟩] else none
  chainId := 31337
  testSolDest := none
  relayerApi := false
  publicKey := .ok
  ata := fun mint owner => mint ++ "/" ++ owner
  bs58 := fun bytes => String.ofList (bytes.map fun b => Nat.digitChar (b.toNat % 16))
  solWallet := "wallet"
  ch := Evm.Sample.chain
  wallet := 5
  bond := 2 * 10 ^ 16
  plaintext := fun handle => handle.toNat
  wallet_ne_zero := by decide
  wallet_ne_contract := by decide

/-- The event of the first request. -/
def initiated : BridgeRequest := ⟨1, Relayer.addressString 9, 997 * 10 ^ 15⟩

/-- The event of the second. -/
def alsoInitiated : BridgeRequest := { initiated with requestId := 2 }

/-- The chain after two deposits, which nobody has claimed yet. -/
def deposited : Option Evm.State :=
  Evm.Sample.after (Evm.Sample.calls.take 2 ++ Evm.Sample.moreCalls.take 1)

def world (evm : Evm.State) : World where
  evm := evm
  registered := fun r => (evm.requestClaim r).solver == node.wallet
  clock := 1000000
  claims := []
  transfers := []

def serve (req : BridgeRequest) (p : Calls) : Calls :=
  p.serve (careful node) (fun i w => w.answer node i) req

theorem run_serve {req : BridgeRequest} {p p' : Calls} (hrun : Run (careful node) Fresh p p')
    (hfresh : Fresh p' req) : Run (careful node) Fresh p (serve req p') :=
  hrun.trans (Run.serve (fun _ _ o => World.answer_settled rfl o) hfresh)

theorem initial {evm : Evm.State} (h : deposited = some evm) : (world evm).Initial node :=
  ⟨Evm.Sample.reachable_after h, rfl, rfl, rfl⟩

end Sample

/-- The events of two requests, each of which is paid once. -/
theorem node_pays_once_each : ∃ w p, w.Initial Sample.node ∧
    Run (careful Sample.node) Fresh (.idle w) p ∧ PaysOnce Sample.node p ∧
      p.state.transfers.map (·.caller) = [0, 1] := by
  have hsent : Sample.deposited.map (fun evm =>
      (Sample.serve Sample.alsoInitiated (Sample.serve Sample.initiated
        (.idle (Sample.world evm)))).state.transfers.map (·.caller)) = some [0, 1] := by
    decide +kernel
  obtain ⟨evm, hevm, hsent⟩ := Option.map_eq_some_iff.mp hsent
  have hfirst : Fresh (.idle (Sample.world evm)) Sample.initiated := by
    rintro j req ⟨c, hget, -⟩
    simp [Pool.idle] at hget
  have hsecond : Fresh (Sample.serve Sample.initiated (.idle (Sample.world evm)))
      Sample.alsoInitiated := by
    rintro j req ⟨c, hget, rfl, -⟩
    have hmem := List.mem_of_getElem? hget
    simp only [Sample.serve, Pool.serve, Pool.idle, List.nil_append, List.mem_singleton] at hmem
    have hrequest : c.request = Sample.initiated := by rw [hmem]
    rw [hrequest]
    decide
  have hrun := Sample.run_serve (Sample.run_serve .refl hfirst) hsecond
  exact ⟨_, _, Sample.initial hevm, hrun, node_pays_once (Sample.initial hevm) hrun, hsent⟩

/-- The event is delivered twice, and paid twice. -/
theorem event_paid_twice : ¬ ∀ (env : Setup) (w₀ : World) (p : Calls), w₀.Initial env →
    Run (service env) (fun _ _ => True) (.idle w₀) p → PaysOnce env p := by
  intro hall
  have hsent : Sample.deposited.map (fun evm =>
      (Sample.serve Sample.initiated (Sample.serve Sample.initiated
        (.idle (Sample.world evm)))).state.transfers.map (·.caller)) =
      some [0, 1] := by decide +kernel
  obtain ⟨evm, hevm, hsent⟩ := Option.map_eq_some_iff.mp hsent
  have hanswer : ∀ i w o, (service Sample.node).settled i w o (w.answer Sample.node i o).1
      (w.answer Sample.node i o).2 := by
    intro i w o
    have hsettled : (careful Sample.node).settled i w o (w.answer Sample.node i o).1
        (w.answer Sample.node i o).2 := World.answer_settled rfl o
    obtain ⟨w₁, hout, hans, -⟩ := hsettled
    exact ⟨w₁, hout, hans⟩
  have hserve : ∀ p, Run (service Sample.node) (fun _ _ => True) p
      (Sample.serve Sample.initiated p) :=
    fun p => Run.serve hanswer trivial
  have honce := hall Sample.node (Sample.world evm) _ (Sample.initial hevm)
    ((hserve _).trans (hserve _))
  generalize hp : Sample.serve Sample.initiated (Sample.serve Sample.initiated
    (.idle (Sample.world evm))) = p at hsent honce
  have hget : ∀ j, j < 2 → ∃ t, p.state.transfers[j]? = some t ∧ t.caller = j := by
    intro j hj
    have hcaller : (p.state.transfers.map (·.caller))[j]? = some j := by
      rw [hsent]
      match j, hj with
      | 0, _ => rfl
      | 1, _ => rfl
    rw [List.getElem?_map] at hcaller
    exact Option.map_eq_some_iff.mp hcaller
  have hcalls : ∀ j, j < 2 → ∃ c, p.calls[j]? = some c ∧ c.request = Sample.initiated := by
    intro j hj
    rw [← hp]
    match j, hj with
    | 0, _ => exact ⟨_, rfl, rfl⟩
    | 1, _ => exact ⟨_, rfl, rfl⟩
  obtain ⟨t, ht, hcaller⟩ := hget 0 (by decide)
  obtain ⟨t', ht', hcaller'⟩ := hget 1 (by decide)
  obtain ⟨c, hc, hreq⟩ := hcalls 0 (by decide)
  obtain ⟨c', hc', hreq'⟩ := hcalls 1 (by decide)
  have heq := honce.once 0 1 t t' c c' ht ht' (hcaller ▸ hc) (hcaller' ▸ hc')
    (by rw [hreq, hreq'])
  exact absurd heq (by decide)

end LunarysBridge.Node.EvmToSol
