/-
LunarysBridge.Frontend.Submitted — what the form sends, and what becomes of it.

A `Form` is what a call reads out of its captured render when every check is
passed. A call sends nothing before it has one, and then an approval and a
deposit that go by it (`Form.Sends`), each once at most. The input that is
deposited is bound to the account, so the contract accepts it from no other
signer: an approval may be somebody else's, but a mined deposit is not.

The world keeps the deposits of the form apart (`World.Sound`): each that is
mined has a number of its own, and is what the contract has stored under it.
-/
import LunarysBridge.Lib.Rely
import LunarysBridge.Frontend.EvmBridge

namespace LunarysBridge.Frontend.EvmBridge

open Async
open Evm (Address Bytes32)
open Relayer (JsError uint256)

variable {env : Setup} {r : Render} {w w' w'' w₀ : World} {i n : Nat} {t t' : Sent}

/-! ## The captured form -/

/-- A captured render that passes every check, with what is read out of it.
Who is not connected, or on another chain, needs a wallet that can be asked. -/
structure Form (env : Setup) (r : Render) where
  token : EvmTokenConfig
  owner : Address
  signer : Address
  encoded : EncodedDestination
  parsed : Int
  valid : isValidSolanaAddress r.solanaDestination = true
  tokenConfig : r.tokenConfig env = some token
  entered : env.positive r.amount = true
  ready : r.fheStatus = .ready
  hasInstance : r.fhevm = true
  connected : r.isConnected = true ∨ r.ethereum.isSome = true
  onNetwork : r.isCorrectNetwork = true ∨ r.ethereum = some true
  account : r.account = some owner
  signs : r.signer = some signer
  decodes : decodeSolanaAddressToBigInt env.bs58 r.solanaDestination = .ok encoded
  parses : env.parseUnits (sanitized r.amount) token.decimals = .ok parsed
  positive : 0 < parsed

namespace Form

variable (f : Form env r)

/-- The transaction approves the amount of the form for the contract. -/
def Approves (sender : Address) (payload : Payload) : Prop :=
  sender = f.signer ∧ ∃ amount, uint256 f.parsed = some amount ∧
    payload = .approve f.token.address env.ch.self amount

/-- The transaction deposits the amount of the form, with its destination. -/
def Deposits (sender : Address) (payload : Payload) : Prop :=
  sender = f.signer ∧ ∃ amount handle proof, uint256 f.parsed = some amount ∧
    payload = .initiateBridge f.token.address amount handle proof ∧
    env.Encrypts f.owner f.encoded.value handle proof

def Sends (sender : Address) (payload : Payload) : Prop :=
  f.Approves sender payload ∨ f.Deposits sender payload

end Form

/-! ## Deposits and their numbers -/

/-- If it is a mined deposit, the contract has it under the announced number. -/
def Sent.Recorded (env : Setup) (evm : Evm.State) (t : Sent) : Prop :=
  ∀ announced token amount handle proof, t.status = .mined announced →
    t.payload = .initiateBridge token amount handle proof →
    ∃ id, announced = some id ∧ id ≤ evm.bridgeNonce ∧
      (evm.bridgeRequests id).DepositOf env.ch t.sender token amount handle proof

/-- What holds of the world between two moves. -/
structure World.Sound (env : Setup) (w : World) : Prop where
  valid : Evm.Valid env.ch w.evm
  recorded : ∀ t ∈ w.sent, t.Recorded env w.evm
  known : ∀ t ∈ w.sent, ∀ id, t.status = .mined (some id) → id ≤ w.evm.bridgeNonce
  distinct : ∀ (m n : Nat) (t t' : Sent) (id : Nat), w.sent[m]? = some t → w.sent[n]? = some t' →
    t.status = .mined (some id) → t'.status = .mined (some id) → m = n

/-- What has become of a transaction: nothing but its status changes, and
that not any more when it is mined. -/
structure Sent.Becomes (t t' : Sent) : Prop where
  caller : t'.caller = t.caller
  sender : t'.sender = t.sender
  payload : t'.payload = t.payload
  mined : ∀ announced, t.status = .mined announced → t'.status = .mined announced

theorem Sent.Becomes.refl (t : Sent) : t.Becomes t := ⟨rfl, rfl, rfl, fun _ h => h⟩

theorem Sent.Becomes.trans {t'' : Sent} (h : t.Becomes t') (h' : t'.Becomes t'') :
    t.Becomes t'' where
  caller := h'.caller.trans h.caller
  sender := h'.sender.trans h.sender
  payload := h'.payload.trans h.payload
  mined announced hm := h'.mined announced (h.mined announced hm)

/-- What a call may rely on while others move the world. -/
structure World.Later (env : Setup) (w w' : World) : Prop where
  sound : w.Sound env → w'.Sound env
  sent : ∀ (n : Nat) (t : Sent), w.sent[n]? = some t →
    ∃ t', w'.sent[n]? = some t' ∧ t.Becomes t'

theorem World.Later.refl (w : World) : w.Later env w where
  sound h := h
  sent _ t h := ⟨t, h, .refl t⟩

theorem World.Later.trans (h : w.Later env w') (h' : w'.Later env w'') : w.Later env w'' where
  sound hs := h'.sound (h.sound hs)
  sent n t ht := by
    obtain ⟨t', ht', hb⟩ := h.sent n t ht
    obtain ⟨t'', ht'', hb'⟩ := h'.sent n t' ht'
    exact ⟨t'', ht'', hb.trans hb'⟩

theorem Sent.Recorded.kept {evm evm' : Evm.State} (hv : Evm.Valid env.ch evm)
    (hstep : Evm.Step env.ch evm evm') (h : t.Recorded env evm) : t.Recorded env evm' := by
  intro announced token amount handle proof hm hp
  obtain ⟨id, hid, hle, hdeposit⟩ := h announced token amount handle proof hm hp
  have hkept : Evm.Kept evm evm' id := hv.kept hstep
  exact ⟨id, hid, Nat.le_trans hle hkept.nonce, hdeposit.kept (hkept.deposit hle)⟩

/-- The chain goes on. -/
theorem World.Sound.setEvm {evm : Evm.State} (hs : w.Sound env)
    (hstep : Evm.Step env.ch w.evm evm) : ({ w with evm := evm } : World).Sound env where
  valid := hs.valid.step hstep
  recorded t ht := (hs.recorded t ht).kept hs.valid hstep
  known t ht id hm := by
    have hkept : Evm.Kept w.evm evm id := hs.valid.kept hstep
    exact Nat.le_trans (hs.known t ht id hm) hkept.nonce
  distinct := hs.distinct

/-- A transaction gets a status; a number it announces is new. -/
theorem World.Sound.setStatus {status : TxStatus} (hs : w.Sound env)
    (hrecorded : ({ t with status := status } : Sent).Recorded env w.evm)
    (hknown : ∀ id, status = .mined (some id) → id ≤ w.evm.bridgeNonce)
    (hfresh : ∀ id, status = .mined (some id) → ∀ t' ∈ w.sent, t'.status ≠ .mined (some id)) :
    (w.setStatus n t status).Sound env where
  valid := hs.valid
  recorded t' ht' := by
    rcases List.mem_or_eq_of_mem_set ht' with hold | rfl
    · exact hs.recorded t' hold
    · exact hrecorded
  known t' ht' := by
    rcases List.mem_or_eq_of_mem_set ht' with hold | rfl
    · exact hs.known t' hold
    · exact hknown
  distinct m k t₁ t₂ id h₁ h₂ hm₁ hm₂ := by
    rcases getElem?_replaced h₁ with ⟨rfl, rfl⟩ | ⟨-, hold₁⟩ <;>
      rcases getElem?_replaced h₂ with ⟨rfl, rfl⟩ | ⟨-, hold₂⟩
    · rfl
    · exact absurd hm₂ (hfresh id hm₁ t₂ (List.mem_of_getElem? hold₂))
    · exact absurd hm₁ (hfresh id hm₂ t₁ (List.mem_of_getElem? hold₁))
    · exact hs.distinct m k t₁ t₂ id hold₁ hold₂ hm₁ hm₂

theorem Sent.becomes_status {status : TxStatus} (hp : t.status = .pending) :
    t.Becomes { t with status := status } :=
  ⟨rfl, rfl, rfl, fun announced hm => by rw [hp] at hm; cases hm⟩

/-- All but one transaction stay as they are. -/
theorem sent_setStatus {status : TxStatus} (hget : w.sent[n]? = some t)
    (hp : t.status = .pending) : ∀ (m : Nat) (t₁ : Sent), w.sent[m]? = some t₁ →
      ∃ t₂, (w.setStatus n t status).sent[m]? = some t₂ ∧ t₁.Becomes t₂ := by
  intro m t₁ ht₁
  by_cases hmn : n = m
  · subst hmn
    obtain rfl : t = t₁ := Option.some.inj (hget.symm.trans ht₁)
    have hlt : n < w.sent.length := (List.getElem?_eq_some_iff.mp hget).1
    exact ⟨{ t with status := status }, by simp [World.setStatus, hlt], Sent.becomes_status hp⟩
  · exact ⟨t₁, by rw [← ht₁]; exact List.getElem?_set_ne hmn, .refl t₁⟩

/-- A deposit is mined: its number is the newest. -/
theorem World.Sound.mined {evm : Evm.State} {tx : Evm.Tx env.ch.self} (hs : w.Sound env)
    (hsender : tx.sender = t.sender) (hfn : t.payload.fn = some tx.fn)
    (hc : Reentrancy.Commits (Evm.contract env.ch) tx w.evm evm) :
    ({ w with evm := evm }.setStatus n t (.mined (Evm.announcedLast evm.log)) : World).Sound
      env := by
  cases hpayload : t.payload with
  | approve token spender amount =>
      rw [hpayload] at hfn
      cases hfn
  | initiateBridge token amount handle proof =>
      rw [hpayload] at hfn
      have hinitiated := hs.valid.initiated (Option.some.inj hfn).symm hc
      obtain ⟨hnonce, hdeposit, hannounced⟩ := hinitiated
      rw [hannounced]
      refine (hs.setEvm (.tx tx hc)).setStatus ?_ ?_ ?_
      · intro announced token' amount' handle' proof' hm hp
        obtain rfl := TxStatus.mined.inj hm
        have hp' : t.payload = .initiateBridge token' amount' handle' proof' := hp
        rw [hpayload] at hp'
        obtain ⟨rfl, rfl, rfl, rfl⟩ := Payload.initiateBridge.inj hp'
        exact ⟨evm.bridgeNonce, rfl, Nat.le_refl _, hsender ▸ hdeposit⟩
      · intro id hm
        exact Nat.le_of_eq (Option.some.inj (TxStatus.mined.inj hm)).symm
      · intro id hm t' ht' hm'
        have hid : evm.bridgeNonce = id := Option.some.inj (TxStatus.mined.inj hm)
        have hle := hs.known t' ht' id hm'
        omega

theorem World.Later.outside (h : World.Outside env w w') : w.Later env w' := by
  cases h with
  | chain step => exact ⟨fun hs => hs.setEvm step, fun _ t h => ⟨t, h, .refl t⟩⟩
  | mined n tx sent pending sender fn commits =>
      exact ⟨fun hs => hs.mined sender fn commits, sent_setStatus sent pending⟩
  | @approved n t sent pending fn =>
      refine ⟨fun hs => hs.setStatus ?_ ?_ ?_, sent_setStatus sent pending⟩
      · intro announced token amount handle proof _ hp
        have hp' : t.payload = .initiateBridge token amount handle proof := hp
        rw [hp'] at fn
        cases fn
      · intro id hm
        cases hm
      · intro id hm
        cases hm
  | dropped n sent pending =>
      refine ⟨fun hs => hs.setStatus ?_ ?_ ?_, sent_setStatus sent pending⟩
      · intro announced token amount handle proof hm
        cases hm
      · intro id hm
        cases hm
      · intro id hm
        cases hm

theorem World.Later.broadcast (caller : Nat) (sender : Address) (payload : Payload) :
    w.Later env (w.broadcast caller sender payload) where
  sound hs := by
    refine ⟨hs.valid, fun t ht => ?_, fun t ht id hm => ?_, fun m k t₁ t₂ id h₁ h₂ hm₁ hm₂ => ?_⟩
    · rcases List.mem_append.mp ht with hold | hnew
      · exact hs.recorded t hold
      · obtain rfl := List.mem_singleton.mp hnew
        intro announced token amount handle proof hm
        cases hm
    · rcases List.mem_append.mp ht with hold | hnew
      · exact hs.known t hold id hm
      · obtain rfl := List.mem_singleton.mp hnew
        cases hm
    · rcases getElem?_concat h₁ with hold₁ | ⟨-, rfl⟩
      · rcases getElem?_concat h₂ with hold₂ | ⟨-, rfl⟩
        · exact hs.distinct m k t₁ t₂ id hold₁ hold₂ hm₁ hm₂
        · cases hm₂
      · cases hm₁
  sent m t ht := by
    have hlt : m < w.sent.length := (List.getElem?_eq_some_iff.mp ht).1
    exact ⟨t, by rw [← ht]; exact List.getElem?_append_left hlt, .refl t⟩

/-- What an operation does to the world, whatever it answers. -/
theorem World.answers_cases {o : Op} {x : Except JsError o.Answer} (h : w.answers env i o x w') :
    w' = w ∨ ∃ sender payload, o.transaction = some (sender, payload) ∧
      w' = w.broadcast i sender payload := by
  cases x with
  | error e => exact h
  | ok a =>
      cases o with
      | approve | initiateBridge =>
          obtain ⟨amount, hamount, -, rfl⟩ := h
          exact .inr ⟨_, _, by simp [Op.transaction, hamount], rfl⟩
      | requestAccounts | switchChain | setTimeout | allowance => exact .inl h
      | encrypt => exact .inl h.2
      | wait => exact .inl h.2.2

theorem World.Later.answers {o : Op} {x : Except JsError o.Answer}
    (h : w.answers env i o x w') : w.Later env w' := by
  rcases World.answers_cases h with rfl | ⟨sender, payload, -, rfl⟩
  · exact .refl _
  · exact .broadcast i sender payload

theorem World.Initial.sound (h : w.Initial env) : w.Sound env where
  valid := h.reachable.valid
  recorded t ht := by
    rw [h.sent] at ht
    cases ht
  known t ht := by
    rw [h.sent] at ht
    cases ht
  distinct m n t t' id ht := by
    rw [h.sent] at ht
    simp at ht

/-! ## The code of one call -/

/-- What a call sends goes by its form. -/
def May (env : Setup) (r : Render) (_ : World) (o : Op) (_ : Except JsError o.Answer)
    (_ : World) : Prop :=
  ∀ sender payload, o.transaction = some (sender, payload) →
    ∃ f : Form env r, f.Sends sender payload

abbrev Meets {α : Type} (env : Setup) (i : Nat) (r : Render) (ok : α → World → Prop)
    (p : Promise α) (w : World) : Prop :=
  p.wp (World.answers env · i) (World.Later env) (May env r) (Prog.ends ok fun _ _ => True) w

/-- The call has sent such a transaction under this hash. -/
def World.SentBy (w : World) (i : Nat) (Q : Address → Payload → Prop) (tx : TxHash) : Prop :=
  ∃ t, w.sent[tx]? = some t ∧ t.caller = i ∧ Q t.sender t.payload

/-- It is mined. -/
def World.MinedBy (w : World) (i : Nat) (Q : Address → Payload → Prop) (tx : TxHash) : Prop :=
  ∃ t announced, w.sent[tx]? = some t ∧ t.caller = i ∧ Q t.sender t.payload ∧
    t.status = .mined announced

theorem World.MinedBy.later {Q : Address → Payload → Prop} {tx : TxHash} (h : w.MinedBy i Q tx)
    (hl : w.Later env w') : w'.MinedBy i Q tx := by
  obtain ⟨t, announced, hget, hcaller, hQ, hm⟩ := h
  obtain ⟨t', hget', hb⟩ := hl.sent tx t hget
  refine ⟨t', announced, hget', hb.caller.trans hcaller, ?_, hb.mined announced hm⟩
  rw [hb.sender, hb.payload]
  exact hQ

/-- The approval of the form, if one was needed, is mined. -/
def World.Approved (w : World) (i : Nat) (f : Form env r) (approvalTxHash : Option TxHash) :
    Prop :=
  ∀ tx ∈ approvalTxHash, w.MinedBy i f.Approves tx

/-- What a call has done that returns: its deposit is mined, and so is its
approval if it sent one. -/
def Done (env : Setup) (i : Nat) (r : Render) (res : BridgeResult) (w : World) : Prop :=
  ∃ f : Form env r, w.MinedBy i f.Deposits res.bridgeTxHash ∧ w.Approved i f res.approvalTxHash

theorem Done.later {res : BridgeResult} (h : Done env i r res w) (hl : w.Later env w') :
    Done env i r res w' := by
  obtain ⟨f, hdeposit, happroval⟩ := h
  exact ⟨f, hdeposit.later hl, fun tx htx => (happroval tx htx).later hl⟩

section Code

variable {α : Type} {ok : α → World → Prop}

/-- An operation that sends nothing. -/
def Op.Quiet (o : Op) : Prop := o.transaction = none

theorem meets_await {o : Op} {ok : o.Answer → World → Prop} (ho : o.Quiet)
    (h : ∀ w₁ a w₂, w.Later env w₁ → w₁.answers env i o (.ok a) w₂ → ok a w₂) :
    Meets env i r ok (await o) w := by
  refine Prog.wp_call.mpr fun w₁ hlater x w₂ hans => ⟨fun sender payload hsends => ?_, ?_⟩
  · rw [ho] at hsends
    cases hsends
  · cases x with
    | error e => trivial
    | ok a => exact h w₁ a w₂ hlater hans

theorem meets_quiet {p : Promise α} (hp : p.Only Op.Quiet) :
    Meets env i r (fun _ _ => True) p w := by
  refine Prog.wp.mono p (fun x w₁ _ => by cases x <;> trivial) (Prog.wp_of_only hp ?_)
  intro w₁ o x w₂ ho sender payload hsends
  rw [ho] at hsends
  cases hsends

theorem meets_lift {x : Except JsError α} :
    Meets env i r (fun a _ => x = .ok a) (liftM x : Promise α) w := by
  cases x with
  | error e => trivial
  | ok a => exact rfl

theorem quiet_connected : (connected r).Only Op.Quiet := by
  have hwallet : (ensureEvmWallet r).Only Op.Quiet := by
    unfold ensureEvmWallet
    split
    · trivial
    · trivial
    · exact Prog.Only.tryCatch (Prog.Only.bind (Prog.only_call rfl) fun _ => trivial)
        fun _ => trivial
  unfold connected
  split
  · refine hwallet.bind fun ok => ?_
    split <;> trivial
  · trivial

theorem quiet_onNetwork : (onNetwork r).Only Op.Quiet := by
  have hswitch : (ensureSepoliaNetwork r).Only Op.Quiet := by
    unfold ensureSepoliaNetwork
    split
    · exact Prog.Only.tryCatch (Prog.Only.bind (Prog.only_call rfl) fun _ => trivial)
        fun _ => trivial
    · trivial
  unfold onNetwork
  split
  · refine hswitch.bind fun ok => ?_
    split
    · exact Prog.only_call rfl
    · trivial
  · trivial

/-- What holds anyway holds after code that sends nothing. -/
theorem meets_anyway {P : Prop} {p : Promise α} (hp : p.Only Op.Quiet) (h : P) :
    Meets env i r (fun _ _ => P) p w := by
  refine Prog.wp.mono p (fun x w₁ _ => ?_) (meets_quiet hp)
  cases x with
  | error e => trivial
  | ok a => exact h

/-- Who is not connected has a wallet that can be asked. -/
theorem meets_connected :
    Meets env i r (fun _ _ => r.isConnected = true ∨ r.ethereum.isSome = true)
      (connected r) w := by
  cases hconnected : r.isConnected with
  | true => exact meets_anyway quiet_connected (.inl rfl)
  | false =>
      cases hwallet : r.ethereum with
      | some hasRequest => exact meets_anyway quiet_connected (.inr rfl)
      | none =>
          have hfails : connected r = error "No EVM wallet" := by
            simp [connected, hconnected, ensureEvmWallet, hwallet]
          rw [hfails]
          trivial

/-- Who is on another chain has a wallet that can switch. -/
theorem meets_onNetwork :
    Meets env i r (fun _ _ => r.isCorrectNetwork = true ∨ r.ethereum = some true)
      (onNetwork r) w := by
  cases hnetwork : r.isCorrectNetwork with
  | true => exact meets_anyway quiet_onNetwork (.inl rfl)
  | false =>
      by_cases hwallet : r.ethereum = some true
      · exact meets_anyway quiet_onNetwork (.inr hwallet)
      · have hfails : onNetwork r = error "Wrong network" := by
          simp [onNetwork, hnetwork, ensureSepoliaNetwork]
        rw [hfails]
        trivial

/-- What is encrypted is the destination, for the account, by an instance. -/
theorem meets_encryptSolanaDestination :
    Meets env i r (fun encrypted _ => r.fhevm = true ∧
        ∃ owner encoded, r.account = some owner ∧
        decodeSolanaAddressToBigInt env.bs58 r.solanaDestination = .ok encoded ∧
        env.Encrypts owner encoded.value encrypted.handle encrypted.proof)
      (encryptSolanaDestination env r r.solanaDestination) w := by
  unfold encryptSolanaDestination
  cases haccount : r.account with
  | none => trivial
  | some owner =>
      dsimp only
      split
      · trivial
      · next hready =>
        refine Prog.wp.bind meets_lift fun encoded w₁ hdecodes => ?_
        have hinstance : r.fhevm = true := by
          simpa using fun hnone => hready (.inl hnone)
        have hencrypt : Meets env i r (fun encrypted _ => ∀ handle ∈ encrypted.handles.head?,
            env.Encrypts owner encoded.value handle encrypted.inputProof)
            (encrypt owner encoded.value) w₁ :=
          meets_await rfl fun _ _ _ _ hans => hans.1
        refine Prog.wp.bind hencrypt fun encrypted w₂ hbound => ?_
        split
        · trivial
        · next firstHandle hfirst =>
          exact ⟨hinstance, owner, encoded, rfl, hdecodes, hbound firstHandle hfirst⟩

theorem meets_parseAmount {amountStr : String} {decimals : Nat} :
    Meets env i r (fun parsed _ => env.parseUnits (sanitized amountStr) decimals = .ok parsed ∧
        0 < parsed)
      (parseAmount env amountStr decimals) w := by
  refine Prog.wp.bind meets_lift fun parsed w₁ hparses => ?_
  split
  · trivial
  · next hpositive => exact ⟨hparses, by omega⟩

/-- A transaction that goes by the form. -/
theorem meets_send {o : Op} {ok : o.Answer → World → Prop} {f : Form env r}
    (hsends : ∀ sender payload, o.transaction = some (sender, payload) → f.Sends sender payload)
    (h : ∀ (w₁ : World) (a : o.Answer) (w₂ : World), w₁.answers env i o (.ok a) w₂ → ok a w₂) :
    Meets env i r ok (await o) w := by
  refine Prog.wp_call.mpr fun w₁ hlater x w₂ hans => ⟨fun sender payload ho => ?_, ?_⟩
  · exact ⟨f, hsends sender payload ho⟩
  · cases x with
    | error e => trivial
    | ok a => exact h w₁ a w₂ hans

theorem World.sentBy_broadcast {Q : Address → Payload → Prop} {sender : Address}
    {payload : Payload} (h : Q sender payload) :
    (w.broadcast i sender payload).SentBy i Q w.sent.length :=
  ⟨⟨i, sender, payload, .pending⟩, by simp [World.broadcast], rfl, h⟩

theorem meets_approve (f : Form env r) :
    Meets env i r (fun tx w => w.SentBy i f.Approves tx)
      (approve f.signer f.token.address env.ch.self f.parsed) w := by
  refine meets_send (f := f) (fun sender payload ho => .inl ?_) fun w₁ tx w₂ hans => ?_
  · simp only [Op.transaction, Option.bind_eq_bind, Option.bind_eq_some_iff, Option.pure_def,
      Option.some.injEq, Prod.mk.injEq] at ho
    obtain ⟨amount, hamount, rfl, rfl⟩ := ho
    exact ⟨rfl, amount, hamount, rfl⟩
  · obtain ⟨amount, hamount, rfl, rfl⟩ := hans
    exact World.sentBy_broadcast ⟨rfl, amount, hamount, rfl⟩

theorem meets_initiateBridge (f : Form env r) {handle : Bytes32} {proof : List UInt8}
    (hbound : env.Encrypts f.owner f.encoded.value handle proof) :
    Meets env i r (fun tx w => w.SentBy i f.Deposits tx)
      (initiateBridge f.signer f.token.address f.parsed handle proof) w := by
  refine meets_send (f := f) (fun sender payload ho => .inr ?_) fun w₁ tx w₂ hans => ?_
  · simp only [Op.transaction, Option.bind_eq_bind, Option.bind_eq_some_iff, Option.pure_def,
      Option.some.injEq, Prod.mk.injEq] at ho
    obtain ⟨amount, hamount, rfl, rfl⟩ := ho
    exact ⟨rfl, amount, handle, proof, hamount, rfl, hbound⟩
  · obtain ⟨amount, hamount, rfl, rfl⟩ := hans
    exact World.sentBy_broadcast ⟨rfl, amount, handle, proof, hamount, rfl, hbound⟩

/-- Who waits for a transaction finds it mined. -/
theorem meets_wait {Q : Address → Payload → Prop} {tx : TxHash} (h : w.SentBy i Q tx) :
    Meets env i r (fun receipt w => receipt.getD tx = tx ∧ w.MinedBy i Q tx) (wait tx) w := by
  refine meets_await rfl fun w₁ receipt w₂ hlater hans => ?_
  obtain ⟨⟨t₁, announced, hget₁, hm⟩, hreceipt, rfl⟩ := hans
  obtain ⟨t, hget, hcaller, hQ⟩ := h
  obtain ⟨t', hget', hb⟩ := hlater.sent tx t hget
  obtain rfl : t₁ = t' := Option.some.inj (hget₁.symm.trans hget')
  refine ⟨?_, t₁, announced, hget₁, hb.caller.trans hcaller, ?_, hm⟩
  · rcases hreceipt with rfl | rfl <;> rfl
  · rw [hb.sender, hb.payload]
    exact hQ

theorem meets_approveIfNeeded (f : Form env r) {owner : Address} :
    Meets env i r (fun approvalTxHash w => w.Approved i f approvalTxHash)
      (approveIfNeeded f.signer f.token.address owner env.ch.self f.parsed) w := by
  refine Prog.wp.bind (meets_quiet (Prog.only_call rfl)) fun currentAllowance w₁ _ => ?_
  split
  · refine Prog.wp.bind (meets_approve f) fun tx w₂ hsent => ?_
    refine Prog.wp.bind (meets_wait hsent) fun receipt w₃ hmined => ?_
    intro tx' htx'
    obtain rfl := Option.some.inj htx'
    rw [hmined.1]
    exact hmined.2
  · intro tx htx
    cases htx

theorem meets_contractRunner {signer : Option Address} :
    Meets env i r (fun s _ => signer = some s) (contractRunner signer) w := by
  cases signer with
  | none => trivial
  | some s => exact rfl

theorem meets_addressable {account : Option Address} :
    Meets env i r (fun _ _ => True) (addressable account) w := by
  cases account <;> trivial

theorem meets_evmToSolBridge {token : EvmTokenConfig}
    (hvalid : isValidSolanaAddress r.solanaDestination = true)
    (htoken : r.tokenConfig env = some token) (hentered : env.positive r.amount = true)
    (hready : r.fheStatus = .ready) (hconnected : r.isConnected = true ∨ r.ethereum.isSome = true)
    (hnetwork : r.isCorrectNetwork = true ∨ r.ethereum = some true) :
    Meets env i r (Done env i r)
      (evmToSolBridge env r.signer r.account env.ch.self token r.amount r.solanaDestination
        (encryptSolanaDestination env r)) w := by
  refine Prog.wp.bind meets_encryptSolanaDestination fun encrypted w₁ hencrypted => ?_
  obtain ⟨hinstance, owner, encoded, haccount, hdecodes, hbound⟩ := hencrypted
  refine Prog.wp.bind meets_parseAmount fun parsed w₂ hparsed => ?_
  obtain ⟨hparses, hpositive⟩ := hparsed
  refine Prog.wp.bind meets_contractRunner fun signer w₃ hsigner => ?_
  refine Prog.wp.bind meets_addressable fun _ w₄ _ => ?_
  let f : Form env r := ⟨token, owner, signer, encoded, parsed, hvalid, htoken, hentered, hready,
    hinstance, hconnected, hnetwork, haccount, hsigner, hdecodes, hparses, hpositive⟩
  refine Prog.wp.bind (meets_approveIfNeeded f) fun approvalTxHash w₅ happroved => ?_
  -- the approval stays mined while the deposit is sent and waited for
  have hstays : ∀ {w w' : World}, w.Later env w' → w.Approved i f approvalTxHash →
      w'.Approved i f approvalTxHash := fun hl h tx htx => (h tx htx).later hl
  refine Prog.wp.bind (Prog.wp.frame hstays (fun hans => hstays (.answers hans)) happroved
    (meets_initiateBridge f hbound)) fun tx w₆ hsent => ?_
  refine Prog.wp.bind (Prog.wp.frame hstays (fun hans => hstays (.answers hans)) hsent.2
    (meets_wait hsent.1)) fun receipt w₇ hdone => ?_
  obtain ⟨⟨hhash, hmined⟩, happroved₇⟩ := hdone
  exact ⟨f, by rw [hhash]; exact hmined, happroved₇⟩

/-- **The code of one call** sends what goes by its form, and returns when it
is mined. -/
theorem meets_bridge : Meets env i r (Done env i r) (bridge env r) w := by
  unfold bridge
  split
  · trivial
  · next hvalid =>
    split
    · trivial
    · next token htoken =>
      split
      · trivial
      · next hentered =>
        split
        · trivial
        · next hready =>
          refine Prog.wp.bind meets_connected fun _ w₁ hconnected => ?_
          refine Prog.wp.bind meets_onNetwork fun _ w₂ hnetwork => ?_
          exact meets_evmToSolBridge (by simpa using hvalid) htoken (by simpa using hentered)
            (not_not.mp hready) hconnected hnetwork

end Code

/-! ## Runs -/

/-- The operation sends a deposit, or an approval. -/
def Op.SendsKind (deposit : Bool) (o : Op) : Prop :=
  ∃ sender payload, o.transaction = some (sender, payload) ∧ payload.fn.isSome = deposit

/-- The deposits of a call, or its approvals. -/
def World.sentBy (deposit : Bool) (w : World) (i : Nat) : Nat :=
  w.sent.countP fun t => t.caller == i && t.payload.fn.isSome == deposit

section Runs

variable {deposit : Bool} {p : Calls} {admits : Calls → Render → Prop}

theorem World.sentBy_broadcast_le (w : World) (deposit : Bool) (i : Nat) (sender : Address)
    (payload : Payload) (j : Nat) :
    (w.broadcast i sender payload).sentBy deposit j ≤ w.sentBy deposit j ∨
      (j = i ∧ payload.fn.isSome = deposit ∧
        (w.broadcast i sender payload).sentBy deposit j ≤ w.sentBy deposit j + 1) := by
  simp only [World.sentBy, World.broadcast, List.countP_append, List.countP_singleton]
  by_cases hnew : (i == j && payload.fn.isSome == deposit) = true
  · obtain ⟨hi, hkind⟩ := Bool.and_eq_true_iff.mp hnew
    exact .inr ⟨(beq_iff_eq.mp hi).symm, beq_iff_eq.mp hkind, by rw [if_pos hnew]⟩
  · exact .inl (by rw [if_neg hnew]; exact Nat.le_refl _)

theorem World.sentBy_setStatus {status : TxStatus} (hget : w.sent[n]? = some t) (j : Nat) :
    (w.setStatus n t status).sentBy deposit j = w.sentBy deposit j := by
  obtain ⟨hlt, rfl⟩ := List.getElem?_eq_some_iff.mp hget
  simp only [World.sentBy, World.setStatus]
  rw [List.countP_set hlt]
  by_cases hcounts : (w.sent[n].caller == j && w.sent[n].payload.fn.isSome == deposit) = true
  · have hpos : 0 < w.sent.countP fun t => t.caller == j && t.payload.fn.isSome == deposit :=
      List.countP_pos_iff.mpr ⟨_, List.getElem_mem hlt, hcounts⟩
    simp only [hcounts, if_true]
    omega
  · simp only [if_neg hcounts]
    omega

theorem service_counts : Counts (service env) (Op.SendsKind deposit) (World.sentBy deposit) where
  answers := by
    intro i w w' o x h j
    rcases World.answers_cases h with rfl | ⟨sender, payload, ho, rfl⟩
    · exact .inl (Nat.le_refl _)
    · have hadds := w.sentBy_broadcast_le deposit i sender payload j
      rcases hadds with hle | ⟨hj, hkind, hle⟩
      · exact .inl hle
      · exact .inr ⟨hj, ⟨sender, payload, ho, hkind⟩, hle⟩
  outside := by
    intro w w' h j
    cases h with
    | chain step => exact Nat.le_refl _
    | mined n tx sent => exact Nat.le_of_eq (World.sentBy_setStatus (w := ⟨_, _⟩) sent j)
    | approved n sent => exact Nat.le_of_eq (World.sentBy_setStatus sent j)
    | dropped n sent => exact Nat.le_of_eq (World.sentBy_setStatus sent j)

theorem unsent_of_quiet {α : Type} {p : Promise α} (hp : p.Only Op.Quiet) :
    p.AtMost (Op.SendsKind deposit) 0 := by
  refine hp.avoids fun o hquiet hsends => ?_
  obtain ⟨sender, payload, ho, _⟩ := hsends
  rw [hquiet] at ho
  cases ho

theorem quiet_encryptSolanaDestination {destination : String} :
    (encryptSolanaDestination env r destination).Only Op.Quiet := by
  unfold encryptSolanaDestination
  split
  · trivial
  · split
    · trivial
    · refine Prog.Only.bind (Prog.only_ofExcept _) fun encoded => ?_
      refine Prog.Only.bind (Prog.only_call rfl) fun encrypted => ?_
      split <;> trivial

theorem quiet_parseAmount {amountStr : String} {decimals : Nat} :
    (parseAmount env amountStr decimals).Only Op.Quiet := by
  refine Prog.Only.bind (Prog.only_ofExcept _) fun parsed => ?_
  split <;> trivial

theorem unsent_allowance {token owner spender : Address} :
    (allowance token owner spender).AtMost (Op.SendsKind deposit) 0 :=
  unsent_of_quiet (Prog.only_call rfl)

theorem unsent_wait {tx : TxHash} : (wait tx).AtMost (Op.SendsKind deposit) 0 :=
  unsent_of_quiet (Prog.only_call rfl)

/-- One approval, and no deposit. -/
theorem atMost_approveIfNeeded {signer token owner spender : Address} {parsed : Int} :
    (approveIfNeeded signer token owner spender parsed).AtMost (Op.SendsKind deposit)
      (if deposit then 0 else 1) := by
  refine unsent_allowance.zero_bind fun currentAllowance => ?_
  split
  · refine Prog.AtMost.bind_zero ?_ fun tx => unsent_wait.zero_bind fun receipt => trivial
    cases deposit with
    | false => exact Prog.atMost_call _
    | true =>
        refine Prog.atMost_call_of_not ?_
        rintro ⟨sender, payload, ho, hkind⟩
        simp only [Op.transaction, Option.bind_eq_bind, Option.bind_eq_some_iff, Option.pure_def,
          Option.some.injEq, Prod.mk.injEq] at ho
        obtain ⟨amount, -, -, rfl⟩ := ho
        cases hkind
  · trivial

/-- One deposit, and no approval. -/
theorem atMost_initiateBridge {signer token : Address} {parsed : Int} {handle : Bytes32}
    {proof : List UInt8} :
    (initiateBridge signer token parsed handle proof).AtMost (Op.SendsKind deposit)
      (if deposit then 1 else 0) := by
  cases deposit with
  | true => exact Prog.atMost_call _
  | false =>
      refine Prog.atMost_call_of_not ?_
      rintro ⟨sender, payload, ho, hkind⟩
      simp only [Op.transaction, Option.bind_eq_bind, Option.bind_eq_some_iff, Option.pure_def,
        Option.some.injEq, Prod.mk.injEq] at ho
      obtain ⟨amount, -, -, rfl⟩ := ho
      cases hkind

/-- **A call sends each kind once at most.** -/
theorem bridge_sends_once : (bridge env r).AtMost (Op.SendsKind deposit) 1 := by
  have hsum : (if deposit then 0 else 1) + (if deposit then 1 else 0) = 1 := by
    cases deposit <;> rfl
  have hrunner : ∀ signer, (contractRunner signer).Only Op.Quiet := by
    intro signer
    cases signer <;> trivial
  have howner : ∀ account, (addressable account).Only Op.Quiet := by
    intro account
    cases account <;> trivial
  unfold bridge
  split
  · trivial
  · split
    · trivial
    · next token htoken =>
      split
      · trivial
      · split
        · trivial
        · refine (unsent_of_quiet quiet_connected).zero_bind fun _ => ?_
          refine (unsent_of_quiet quiet_onNetwork).zero_bind fun _ => ?_
          refine (unsent_of_quiet quiet_encryptSolanaDestination).zero_bind fun encrypted => ?_
          refine (unsent_of_quiet quiet_parseAmount).zero_bind fun parsed => ?_
          refine (unsent_of_quiet (hrunner _)).zero_bind fun signer => ?_
          refine (unsent_of_quiet (howner _)).zero_bind fun owner => ?_
          rw [← hsum]
          refine atMost_approveIfNeeded.bind fun approvalTxHash => ?_
          refine atMost_initiateBridge.bind_zero fun tx => ?_
          exact unsent_wait.zero_bind fun receipt => trivial

theorem service_relies : Relies (service env) fun _ => World.Later env where
  refl _ := .refl
  trans := .trans
  others _ h := .answers h
  outside := .outside

theorem Run.sound (h₀ : w₀.Initial env) (hrun : Run (service env) admits (.idle w₀) p) :
    p.state.Sound env := by
  induction hrun with
  | refl => exact h₀.sound
  | tail _ hstep ih =>
      cases hstep with
      | start => exact ih
      | resume i _ hans => exact (World.Later.answers hans).sound ih
      | outside hmove => exact (World.Later.outside hmove).sound ih

theorem Run.meets (hrun : Run (service env) admits (.idle w₀) p) :
    KeepsTo (service env) (fun _ => World.Later env) (May env)
      (fun i r => Prog.ends (Done env i r) fun _ _ => True) p := by
  refine Run.keepsTo service_relies (fun i r x w w' hl h => ?_) (fun _ _ _ _ => meets_bridge) hrun
  cases x with
  | error e => trivial
  | ok res => exact h.later hl

/-- A call that has returned is done, from then on. -/
theorem Run.done (hrun : Run (service env) admits (.idle w₀) p) {c : Call api JsError _ Render}
    {res : BridgeResult} (hget : p.calls[i]? = some c) (hret : c.code = .ret res) :
    Done env i c.request res p.state := by
  have hmeets := Run.meets hrun i c hget
  rw [hret] at hmeets
  exact hmeets

theorem World.Outside.sent (h : World.Outside env w w') (ht' : t' ∈ w'.sent) :
    ∃ t ∈ w.sent, t'.caller = t.caller ∧ t'.sender = t.sender ∧ t'.payload = t.payload := by
  have hset : ∀ {n : Nat} {t : Sent} {status : TxStatus}, w.sent[n]? = some t →
      t' ∈ w.sent.set n { t with status := status } →
      ∃ t ∈ w.sent, t'.caller = t.caller ∧ t'.sender = t.sender ∧ t'.payload = t.payload := by
    intro n t status hget ht'
    rcases List.mem_or_eq_of_mem_set ht' with hold | rfl
    · exact ⟨t', hold, rfl, rfl, rfl⟩
    · exact ⟨t, List.mem_of_getElem? hget, rfl, rfl, rfl⟩
  cases h with
  | chain step => exact ⟨t', ht', rfl, rfl, rfl⟩
  | mined n tx sent => exact hset sent ht'
  | approved n sent => exact hset sent ht'
  | dropped n sent => exact hset sent ht'

/-- Every transaction goes by the form of its call. -/
theorem Run.filled (h₀ : w₀.Initial env) (hrun : Run (service env) admits (.idle w₀) p) :
    ∀ t ∈ p.state.sent, ∃ c, p.calls[t.caller]? = some c ∧
      ∃ f : Form env c.request, f.Sends t.sender t.payload := by
  refine Run.recorded World.sent Sent.caller
    (fun r t _ => ∃ f : Form env r, f.Sends t.sender t.payload) h₀.sent ?_ ?_ hrun
  · intro p i r o k x w' hrun hat hans t ht
    rcases World.answers_cases hans with rfl | ⟨sender, payload, ho, rfl⟩
    · exact .inr ⟨t, ht, rfl, fun _ h => h⟩
    · rcases List.mem_append.mp ht with hold | hnew
      · exact .inr ⟨t, hold, rfl, fun _ h => h⟩
      · obtain rfl := List.mem_singleton.mp hnew
        have hmay := (Run.meets hrun i _ hat p.state (.refl _) x _ hans).1
        exact .inl ⟨rfl, hmay sender payload ho⟩
  · intro p w' hrun hmove t' ht'
    obtain ⟨t, ht, hcaller, hsender, hpayload⟩ := hmove.sent ht'
    exact ⟨t, ht, hcaller.symm, fun _ h => by rw [hsender, hpayload]; exact h⟩

/-- What a call sends goes by its form, and is its account's where it is a
mined deposit. -/
def GoesBy (env : Setup) (r : Render) (t : Sent) : Prop :=
  ∃ f : Form env r, f.Sends t.sender t.payload ∧ (t.payload.fn.isSome = true →
    ∀ announced, t.status = .mined announced → f.signer = f.owner)

theorem Form.Deposits.owner {f : Form env r} (h : f.Deposits t.sender t.payload)
    (hrecorded : t.Recorded env w.evm) {announced : Option Nat}
    (hm : t.status = .mined announced) : f.signer = f.owner := by
  obtain ⟨hsender, amount, handle, proof, -, hpayload, hbound⟩ := h
  obtain ⟨id, -, -, hdeposit⟩ := hrecorded announced _ _ _ _ hm hpayload
  exact hsender ▸ (hbound _ _ hdeposit.destination).1

theorem Run.goesBy (h₀ : w₀.Initial env) (hrun : Run (service env) admits (.idle w₀) p) :
    ∀ t ∈ p.state.sent, ∃ c, p.calls[t.caller]? = some c ∧ GoesBy env c.request t := by
  intro t ht
  obtain ⟨c, hget, f, hsends⟩ := Run.filled h₀ hrun t ht
  refine ⟨c, hget, f, hsends, fun hdeposit announced hm => ?_⟩
  rcases hsends with ⟨-, amount, -, hpayload⟩ | hdeposits
  · rw [hpayload] at hdeposit
    cases hdeposit
  · exact hdeposits.owner ((Run.sound h₀ hrun).recorded t ht) hm

/-- **The form sends what was filled in**, in every run: each call one
approval and one deposit at most, of the amount and the token it has captured,
and nothing unless the captured form passes all checks. A deposit signed by
another than the account is never mined. -/
theorem sends_as_filled (h₀ : w₀.Initial env) (hrun : Run (service env) admits (.idle w₀) p) :
    (∀ deposit i, p.state.sentBy deposit i ≤ 1) ∧
    ∀ t ∈ p.state.sent, ∃ c, p.calls[t.caller]? = some c ∧ GoesBy env c.request t := by
  have hstart : ∀ deposit i, w₀.sentBy deposit i = 0 := by
    intro deposit i
    simp [World.sentBy, h₀.sent]
  exact ⟨fun deposit => Run.count_le service_counts (fun _ => bridge_sends_once)
    (hstart deposit) hrun, Run.goesBy h₀ hrun⟩

end Runs

/-! ## The world in which everything works -/

/-- A pending transaction is mined, if the contract accepts it. -/
def World.mine (env : Setup) (w : World) (n : Nat) : Option World :=
  match w.sent[n]? with
  | none => none
  | some t =>
      if t.status = .pending then
        match t.payload.fn with
        | none => some (w.setStatus n t (.mined none))
        | some fn =>
            if h : t.sender ≠ 0 ∧ t.sender ≠ env.ch.self then
              let tx : Evm.Tx env.ch.self := ⟨t.sender, 0, fn, h.1, h.2⟩
              match Reentrancy.accepting (Evm.contract env.ch) tx
                  (Evm.entry env.ch tx w.evm) with
              | some evm => some ({ w with evm := evm }.setStatus n t
                  (.mined (Evm.announcedLast evm.log)))
              | none => none
            else none
      else none

theorem World.mine_outside (h : w.mine env n = some w') :
    World.Outside env w w' ∧ ∃ t announced, w'.sent[n]? = some t ∧ t.status = .mined announced := by
  unfold World.mine at h
  split at h
  · cases h
  · next t hget =>
    have hlt : n < w.sent.length := (List.getElem?_eq_some_iff.mp hget).1
    split at h
    · next hp =>
      split at h
      · next hfn =>
        obtain rfl := Option.some.inj h
        refine ⟨.approved n hget hp hfn, { t with status := .mined none }, none, ?_, rfl⟩
        simp [World.setStatus, hlt]
      · next fn hfn =>
        split at h
        · next hsender =>
          dsimp only at h
          split at h
          · next evm hevm =>
            obtain rfl := Option.some.inj h
            refine ⟨.mined n ⟨t.sender, 0, fn, hsender.1, hsender.2⟩ hget hp rfl hfn
              (Reentrancy.exec_of_accepting _ hevm),
              { t with status := .mined (Evm.announcedLast evm.log) }, _, ?_, rfl⟩
            simp [World.setStatus, hlt]
          · cases h
        · cases h
    · cases h

/-- The wallet does as it is asked, nothing is approved yet, and a transaction
is mined when it is waited for. Encryption is left to `input`. -/
def World.answer (env : Setup) (input : Address → Int → Option Encrypted) (i : Nat) (w : World) :
    (o : Op) → Except JsError o.Answer × World
  | .requestAccounts => (.ok (), w)
  | .switchChain => (.ok (), w)
  | .setTimeout _ => (.ok (), w)
  | .encrypt userAddress value =>
      match input userAddress value with
      | some encrypted => (.ok encrypted, w)
      | none => (Relayer.unavailable, w)
  | .allowance _ _ _ => (.ok (0 : Nat), w)
  | .approve signer token spender amount =>
      match uint256 amount with
      | some n => (.ok w.sent.length, w.broadcast i signer (.approve token spender n))
      | none => (Relayer.unavailable, w)
  | .initiateBridge signer token amount handle proof =>
      match uint256 amount with
      | some n => (.ok w.sent.length, w.broadcast i signer (.initiateBridge token n handle proof))
      | none => (Relayer.unavailable, w)
  | .wait tx =>
      match w.mine env tx with
      | some w' => (.ok (some tx), w')
      | none => (Relayer.unavailable, w)

theorem World.answer_settled {input : Address → Int → Option Encrypted}
    (hinput : ∀ account value encrypted, input account value = some encrypted →
      ∀ handle ∈ encrypted.handles.head?,
        env.Encrypts account value handle encrypted.inputProof) (o : Op) :
    (service env).settled i w o (w.answer env input i o).1 (w.answer env input i o).2 := by
  have hnow : ∀ {x w'}, w.answers env i o x w' → (service env).settled i w o x w' :=
    fun h => ⟨w, .refl, h⟩
  cases o with
  | encrypt userAddress value =>
      simp only [World.answer]
      split
      · next encrypted hencrypted => exact hnow ⟨hinput _ _ _ hencrypted, rfl⟩
      · exact hnow (.inl rfl)
  | approve signer token spender amount =>
      simp only [World.answer]
      split
      · next n hn => exact hnow ⟨n, hn, rfl, rfl⟩
      · exact hnow (.inl rfl)
  | initiateBridge signer token amount handle proof =>
      simp only [World.answer]
      split
      · next n hn => exact hnow ⟨n, hn, rfl, rfl⟩
      · exact hnow (.inl rfl)
  | wait tx =>
      simp only [World.answer]
      split
      · next w' hmine =>
        obtain ⟨hout, t, announced, hget, hm⟩ := World.mine_outside hmine
        exact ⟨w', .single hout, ⟨t, announced, hget, hm⟩, .inr rfl, rfl⟩
      · exact hnow (.inl rfl)
  | requestAccounts | switchChain | setTimeout | allowance => exact hnow rfl

namespace Sample

/-- The input 77 is accepted from the user 4 only, and 78 from the user 5. -/
def chain : Evm.Chain :=
  { Evm.Sample.chain with
    fromExternal := fun user input _ =>
      if (user = 4 ∧ input = 77) ∨ (user = 5 ∧ input = 78) then some input else none }

def genesis : Evm.Genesis chain where
  eth := Evm.Sample.genesis.eth
  bal := Evm.Sample.genesis.bal
  now := 1000
  no_eth := rfl
  no_tokens := fun _ => rfl

def deployed : Option Evm.State := (Evm.deploy chain genesis 2 3).toOption

theorem reachable_deployed {evm : Evm.State} (h : deployed = some evm) :
    Evm.Reachable chain evm := by
  unfold deployed at h
  cases hdeploy : Evm.deploy chain genesis 2 3 with
  | error e =>
      rw [hdeploy] at h
      cases h
  | ok s =>
      rw [hdeploy] at h
      obtain rfl := Option.some.inj h
      exact .deployed genesis 2 3 hdeploy

/-- One token, and one amount that can be read. -/
def form : Setup where
  ch := chain
  bs58 := Frontend.Sample.bs58
  tokens := fun chainId symbol =>
    if chainId = defaultChainId ∧ symbol = "CTKN" then some ⟨9, 18⟩ else none
  parseUnits := fun s decimals =>
    if s = "1" then .ok (10 ^ decimals) else .error ⟨.Error, "invalid FixedNumber string value"⟩
  positive := fun s => s == "1"
  plaintext := fun _ => 1

/-- The user fills in the address of the key 1. -/
def filledIn : Render where
  amount := "1"
  selectedToken := "CTKN"
  solanaDestination := " 11111111111111111111111111111112"
  account := some 4
  appkitConnected := true
  signer := some 4
  chainId := some defaultChainId
  fhevm := true
  fheStatus := .ready
  ethereum := some true

/-- The key 1, encrypted for one of the users. -/
def input (account : Address) (value : Int) : Option Encrypted :=
  if value = 1 then
    if account = 4 then some ⟨[77], []⟩ else if account = 5 then some ⟨[78], []⟩ else none
  else none

/-- An accepted input is its user's. -/
theorem bound_of_accepts {account : Address} {handle : Bytes32}
    (h : ∀ user : Address, (user = 4 ∧ handle = 77) ∨ (user = 5 ∧ handle = 78) →
      user = account) : form.Encrypts account 1 handle [] := by
  intro user h' haccepts
  have haccepts' : (if (user = 4 ∧ handle = 77) ∨ (user = 5 ∧ handle = 78) then some handle
    else none) = some h' := haccepts
  split at haccepts'
  · next huser => exact ⟨h user huser, rfl⟩
  · cases haccepts'

theorem input_bound (account : Address) (value : Int) (encrypted : Encrypted)
    (h : input account value = some encrypted) :
    ∀ handle ∈ encrypted.handles.head?,
      form.Encrypts account value handle encrypted.inputProof := by
  unfold input at h
  split at h
  · next hvalue =>
    subst hvalue
    split at h
    · next haccount =>
      obtain rfl := Option.some.inj h
      intro handle hhandle
      obtain rfl := Option.some.inj hhandle
      refine bound_of_accepts fun user huser => ?_
      rcases huser with ⟨rfl, -⟩ | ⟨-, hother⟩
      · exact haccount.symm
      · exact absurd hother (by decide)
    · split at h
      · next haccount =>
        obtain rfl := Option.some.inj h
        intro handle hhandle
        obtain rfl := Option.some.inj hhandle
        refine bound_of_accepts fun user huser => ?_
        rcases huser with ⟨-, hother⟩ | ⟨rfl, -⟩
        · exact absurd hother (by decide)
        · exact haccount.symm
      · cases h
  · cases h

def serve (r : Render) (p : Calls) : Calls :=
  p.serve (service form) (fun i w => w.answer form input i) r

theorem run_serve (r : Render) (p : Calls) :
    Run (service form) (fun _ _ => True) p (serve r p) :=
  Run.serve (fun _ _ o => World.answer_settled input_bound o) trivial

/-- The result of the first call, and the world it leaves. -/
def first (evm : Evm.State) : Except JsError BridgeResult × World :=
  Prog.run (World.answer form input 0) (bridge form filledIn) ⟨evm, []⟩

theorem ofExcept_first {evm : Evm.State} {res : BridgeResult}
    (h : (first evm).1.toOption = some res) :
    (Prog.ofExcept (first evm).1 : Promise BridgeResult) = .ret res := by
  cases hfirst : (first evm).1 with
  | error e =>
      rw [hfirst] at h
      cases h
  | ok res' =>
      rw [hfirst] at h
      obtain rfl := Option.some.inj h
      rfl

/-- The form is sent twice. -/
def twice (evm : Evm.State) : Calls := serve filledIn (serve filledIn (.idle ⟨evm, []⟩))

theorem run_twice (evm : Evm.State) :
    Run (service form) (fun _ _ => True) (.idle ⟨evm, []⟩) (twice evm) :=
  (run_serve filledIn _).trans (run_serve filledIn _)

end Sample

/-- Two calls with the same form. -/
theorem sends_as_filled_twice : ∃ w p, w.Initial Sample.form ∧
    Run (service Sample.form) (fun _ _ => True) (.idle w) p ∧
    ((∀ deposit i, p.state.sentBy deposit i ≤ 1) ∧
      ∀ t ∈ p.state.sent, ∃ c, p.calls[t.caller]? = some c ∧ GoesBy Sample.form c.request t) ∧
    p.state.sent.length = 4 := by
  have hfacts : Sample.deployed.map (fun evm => (Sample.twice evm).state.sent.length) =
      some 4 := by
    decide +kernel
  obtain ⟨evm, hevm, hlength⟩ := Option.map_eq_some_iff.mp hfacts
  have hinit : World.Initial Sample.form ⟨evm, []⟩ := ⟨Sample.reachable_deployed hevm, rfl⟩
  have hrun := Sample.run_twice evm
  exact ⟨_, _, hinit, hrun, sends_as_filled hinit hrun, hlength⟩

end LunarysBridge.Frontend.EvmBridge
