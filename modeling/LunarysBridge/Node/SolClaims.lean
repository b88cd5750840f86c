/-
LunarysBridge.Node.SolClaims — does the node pay under its own claim on
Solana?

Every call of `onSolBridgeInitiated` claims the request before it pays, and
the claim fails while somebody has one. So an event that is delivered again
may be paid again, but only after another bond (`paid_under_claim`). What is
paid is what the account of the request holds, to an address that is read in
the output of the call's own claim.

As it is, that address never is one: the node puts 16 digits together where an
address has 40. What ethers resolves is a parameter, and if it resolves no
such string then the node only claims (`never_pays`).

The chain among the calls is the program of `Solana.Program`, with any
transactions of anybody. A claim whose answer is an error may have gone
through as well; it is one of these transactions then.
-/
import LunarysBridge.Lib.Rely
import LunarysBridge.Node.Reseal
import LunarysBridge.Node.SolToEvm
import LunarysBridge.Solana.Computations

namespace LunarysBridge.Node.SolToEvm

open Async
open Relayer (JsError)
open Solana (Bytes32 Pubkey Mxe Signer Runtime Instruction State offsetFree resealed)

/-! ## The world of the service -/

/-- What the service is configured with, its wallet, and the MXE. -/
structure Setup where
  table : Table
  chainId : Nat
  mxe : Mxe
  solverPriv : mxe.scheme.PrivateKey
  mxePublicKey : Except JsError Bytes32
  relayerApi : Bool
  publicKey : String → Except JsError Pubkey
  rt : Runtime
  /-- The keypair of `SOLANA_PRIVATE_KEY`. -/
  wallet : Signer

def Setup.node (env : Setup) : Env where
  table := env.table
  chainId := env.chainId
  scheme := env.mxe.scheme
  solverPriv := env.solverPriv
  mxePublicKey := env.mxePublicKey
  relayerApi := env.relayerApi
  publicKey := env.publicKey

/-- The address of the account an event is about. -/
def Setup.account (env : Setup) (ev : SolBridgeRequest) : Option Pubkey :=
  match env.publicKey ev.payer with
  | .error _ => none
  | .ok owner =>
      if 0 ≤ ev.requestId ∧ ev.requestId < 2 ^ 64 then
        some (.request owner (UInt64.ofNat ev.requestId.toNat))
      else none

/-- A claim that went through, with the call it was made in. -/
structure Claimed where
  caller : Nat
  request : Pubkey
  offset : UInt64
  solverX25519 : Bytes32

/-- A payment that was sent; it may have failed for its call. -/
structure Sent where
  caller : Nat
  payment : EvmPayment

structure World where
  sol : State
  claims : List Claimed
  payments : List Sent

def World.pays (w : World) (i : Nat) (payment : EvmPayment) : World :=
  { w with payments := w.payments ++ [⟨i, payment⟩] }

/-- The transaction of `claimRequest`. -/
def Setup.claim (env : Setup) (requestId : UInt64) (requestOwner : Pubkey) (offset : UInt64)
    (solverX25519 : Bytes32) : Instruction :=
  .claimBridge ⟨env.wallet, requestOwner, true⟩ offset requestId solverX25519

/-- The `i`-th call claims: the program accepts, and so does Arcium. -/
def World.claimsBy (env : Setup) (i : Nat) (w : World) (requestId : UInt64)
    (requestOwner : Pubkey) (offset : UInt64) (solverX25519 : Bytes32) (w' : World) : Prop :=
  ∃ sol, offsetFree (env.claim requestId requestOwner offset solverX25519) w.sol ∧
    Solana.exec env.rt (env.claim requestId requestOwner offset solverX25519) w.sol = .ok sol ∧
    w' = { w with
      sol := sol
      claims := w.claims ++ [⟨i, .request requestOwner requestId, offset, solverX25519⟩] }

/-- The account of a computation under this offset holds this output. -/
def World.outputs (env : Setup) (w : World) (offset : UInt64) (out : ResealOutput) : Prop :=
  ∃ c ∈ w.sol.queue, c.offset = offset ∧ ∃ e, c.execute env.mxe = some e ∧ out = readOutput e

/-- What an operation of the `i`-th call may answer and do. -/
def World.answers (env : Setup) (i : Nat) (w : World) (o : Op) (x : Except JsError o.Answer)
    (w' : World) : Prop :=
  match o, x with
  | .claimBridge requestId requestOwner offset solverX25519, .ok _ =>
      w.claimsBy env i requestId requestOwner offset solverX25519 w'
  | .fetchResealOutput offset, .ok out => w.outputs env offset out ∧ w' = w
  | .sendTransaction dest value, .ok _ => w' = w.pays i (.native dest value)
  | .sendTransaction dest value, .error _ => w' = w ∨ w' = w.pays i (.native dest value)
  | .transfer token dest amount, .ok _ => w' = w.pays i (.erc20 token dest amount)
  | .transfer token dest amount, .error _ => w' = w ∨ w' = w.pays i (.erc20 token dest amount)
  | _, _ => w' = w

/-- The chain goes on without the service. -/
def World.Outside (env : Setup) (w w' : World) : Prop :=
  ∃ sol, Solana.Run env.rt offsetFree w.sol sol ∧ w' = { w with sol := sol }

/-- Before the service has had an event. -/
structure World.Initial (env : Setup) (w : World) : Prop where
  reachable : Solana.Reachable env.rt w.sol
  differ : w.sol.OffsetsDiffer
  claims : w.claims = []
  payments : w.payments = []

abbrev Calls := Pool api JsError Unit SolBridgeRequest World

def service (env : Setup) : Service api JsError Unit SolBridgeRequest World where
  handler := onSolBridgeInitiated env.node
  answers := fun i w o x w' => w.answers env i o x w'
  outside := World.Outside env

variable {env : Setup} {w w' w'' w₀ : World} {i j : Nat} {ev : SolBridgeRequest}

theorem World.answers_cases {o : Op} {x : Except JsError o.Answer} (h : w.answers env i o x w') :
    w' = w ∨ (∃ payment, o.payment = some payment ∧ w' = w.pays i payment) ∨
      ∃ requestId requestOwner offset solverX25519, o.payment = none ∧
        w.claimsBy env i requestId requestOwner offset solverX25519 w' := by
  cases o with
  | claimBridge requestId requestOwner offset solverX25519 =>
      cases x with
      | ok claimSig => exact .inr (.inr ⟨_, _, _, _, rfl, h⟩)
      | error e => exact .inl h
  | fetchResealOutput offset =>
      cases x with
      | ok out => exact .inl h.2
      | error e => exact .inl h
  | sendTransaction dest value =>
      cases x with
      | ok txHash => exact .inr (.inl ⟨_, rfl, h⟩)
      | error e => exact h.imp_right fun hsent => .inl ⟨_, rfl, hsent⟩
  | transfer token dest amount =>
      cases x with
      | ok txHash => exact .inr (.inl ⟨_, rfl, h⟩)
      | error e => exact h.imp_right fun hsent => .inl ⟨_, rfl, hsent⟩
  | pickComputationOffset | waitFinalization | wait | post =>
      cases x <;> exact .inl h

/-! ## One payment for a call -/

def World.paidBy (w : World) (i : Nat) : Nat := w.payments.countP (·.caller == i)

theorem World.paidBy_pays (payment : EvmPayment) :
    (w.pays i payment).paidBy j = w.paidBy j + if j = i then 1 else 0 := by
  by_cases hj : j = i
  · subst hj
    simp [paidBy, pays]
  · simp [paidBy, pays, hj, Ne.symm hj]

theorem atMost_transferResult {tx : Promise String} {reverted : String}
    (htx : tx.AtMost Op.Pays 1) : (transferResult tx reverted).AtMost Op.Pays 1 := by
  have hrest : ∀ txHash, Prog.AtMost Op.Pays (do
      let status ← wait txHash
      if status ≠ some 1 then error reverted
      else return ⟨txHash, true, none⟩ : Promise EvmTransferResult) 0 := by
    intro txHash
    refine unpaid_of_only (Prog.Only.bind (only_await rfl) fun status => ?_)
    split <;> trivial
  exact Prog.AtMost.tryCatch (n := 0) (htx.bind_zero hrest) fun _ => trivial

theorem atMost_pay {node : Env} {evmDest : String} : (pay node ev evmDest).AtMost Op.Pays 1 := by
  unfold pay
  cases mappingOf node ev.mint with
  | none => exact (atMost_transferResult (Prog.atMost_call _)).bind_zero fun _ => unpaid_txHashOf
  | some mapping =>
      exact (atMost_transferResult (Prog.atMost_call _)).bind_zero fun _ => unpaid_txHashOf

/-- **A call pays once at most.** -/
theorem handler_pays_once {node : Env} : (onSolBridgeInitiated node ev).AtMost Op.Pays 1 := by
  have hresolve : ∀ requestOwner,
      (resolveEvmDestination node ev.requestId requestOwner).AtMost Op.Pays 0 := fun _ =>
    unpaid_of_only (only_resolveEvmDestination.mono fun _ h => h.payment_eq)
  have hlift : (liftM (node.publicKey ev.payer) : Promise Pubkey).AtMost Op.Pays 0 :=
    unpaid_of_only (only_lift _)
  have hprocess : (processRequest node ev).AtMost Op.Pays 1 :=
    hlift.zero_bind fun requestOwner => (hresolve requestOwner).zero_bind fun resolved =>
      atMost_pay.bind_zero fun txHash =>
        (unpaid_of_only (only_submitVerification _)).bind_zero fun _ => trivial
  exact Prog.AtMost.tryCatch (n := 0) hprocess fun _ => trivial

theorem service_counts : Counts (service env) Op.Pays World.paidBy where
  answers := by
    intro i w w' o x h j
    rcases World.answers_cases h with rfl | ⟨payment, hpay, rfl⟩ | ⟨_, _, _, _, _, sol, _, _, rfl⟩
    · exact .inl (Nat.le_refl _)
    · rw [World.paidBy_pays]
      by_cases hj : j = i
      · exact .inr ⟨hj, by simp [Op.Pays, hpay], by simp [hj]⟩
      · exact .inl (by simp [hj])
    · exact .inl (Nat.le_refl _)
  outside := by
    rintro w w' ⟨sol, _, rfl⟩ j
    exact Nat.le_refl _

/-! ## The chain among the calls -/

/-- The bonds a wallet has put up for a request. -/
def bondsOf (s : State) (wallet request : Pubkey) : Nat :=
  s.log.countP fun
    | .bonded request' solver _ => decide (request' = request ∧ solver = wallet)
    | _ => false

/-- What holds of the world between two moves. -/
structure World.Sound (env : Setup) (w : World) : Prop where
  reachable : Solana.Reachable env.rt w.sol
  differ : w.sol.OffsetsDiffer
  /-- A claim has queued the words of its request. -/
  queued : ∀ c ∈ w.claims, ∃ req, w.sol.requests.lookup c.request = some req ∧
    resealed req c.offset c.solverX25519 ∈ w.sol.queue
  bonded : ∀ r, w.claims.countP (·.request == r) ≤ bondsOf w.sol env.wallet.key r

/-- What a call may rely on while others move the world. -/
structure World.Later (env : Setup) (w w' : World) : Prop where
  sound : w.Sound env → w'.Sound env
  onward : w.sol.Onward w'.sol
  claims : w.claims ⊆ w'.claims

theorem World.Later.refl (w : World) : w.Later env w where
  sound h := h
  onward := .refl _
  claims := List.Subset.refl _

theorem World.Later.trans (h : w.Later env w') (h' : w'.Later env w'') : w.Later env w'' where
  sound hs := h'.sound (h.sound hs)
  onward := h.onward.trans h'.onward
  claims := List.Subset.trans h.claims h'.claims

/-- A claim queues the same words whatever else has become of its request. -/
theorem resealed_congr {req req' : Solana.BridgeRequest} (h : req.SameDeposit req')
    (offset : UInt64) (solverX25519 : Bytes32) :
    resealed req' offset solverX25519 = resealed req offset solverX25519 := by
  simp only [resealed, h.nonceLe, h.destCtW0, h.destCtW1, h.destCtW2, h.destCtW3]

theorem bondsOf_mono {s s' : State} (h : s.Onward s') (wallet r : Pubkey) :
    bondsOf s wallet r ≤ bondsOf s' wallet r :=
  h.log.sublist.countP_le

theorem World.Sound.onward {sol : State} (hs : w.Sound env)
    (hreach : Solana.Reachable env.rt sol) (hdiffer : sol.OffsetsDiffer)
    (h : w.sol.Onward sol) : ({ w with sol := sol } : World).Sound env where
  reachable := hreach
  differ := hdiffer
  queued c hc := by
    obtain ⟨req, hl, hqueued⟩ := hs.queued c hc
    obtain ⟨req', hl', hsame⟩ := h.deposit _ req hl
    exact ⟨req', hl', resealed_congr hsame _ _ ▸ h.queue.subset hqueued⟩
  bonded r := Nat.le_trans (hs.bonded r) (bondsOf_mono h _ r)

theorem World.Later.outside (h : World.Outside env w w') : w.Later env w' := by
  obtain ⟨sol, hrun, rfl⟩ := h
  refine ⟨fun hs => ?_, hrun.onward, List.Subset.refl _⟩
  exact hs.onward (hs.reachable.run (hrun.mono fun _ _ _ => trivial))
    (hrun.offsetsDiffer hs.differ) hrun.onward

/-- A claim that goes through is bonded, and its computation queued. -/
theorem World.Later.claimsBy {requestId offset : UInt64} {requestOwner : Pubkey}
    {solverX25519 : Bytes32}
    (h : w.claimsBy env i requestId requestOwner offset solverX25519 w') : w.Later env w' := by
  obtain ⟨sol, hfree, hexec, rfl⟩ := h
  have honward := Solana.onward_exec hexec
  refine ⟨fun hs => ?_, honward, List.subset_append_left _ _⟩
  have hreach := hs.reachable.run ((Solana.Run.nil w.sol).exec _ trivial hexec)
  have hkept := hs.onward hreach (Solana.offsetsDiffer_exec hs.differ hfree hexec) honward
  obtain ⟨cfg, req, deadline, _, _, _, _, _, _, hrequests, hlog, _, _, hqueue, _⟩ :=
    Solana.claimBridge_ok hexec
  refine ⟨hkept.reachable, hkept.differ, fun c hc => ?_, fun r => ?_⟩
  · rcases List.mem_append.mp hc with hold | hnew
    · exact hkept.queued c hold
    · obtain rfl := List.mem_singleton.mp hnew
      refine ⟨_, by rw [hrequests, AList.lookup_insert], ?_⟩
      rw [hqueue]
      exact List.mem_append_right _ (List.mem_singleton.mpr rfl)
  · have hold := hs.bonded r
    have hbonds : bondsOf sol env.wallet.key r = bondsOf w.sol env.wallet.key r +
        if Pubkey.request requestOwner requestId = r then 1 else 0 := by
      rw [bondsOf, bondsOf, hlog, List.countP_append]
      congr 1
      by_cases hr : Pubkey.request requestOwner requestId = r <;> simp [hr]
    rw [hbonds, List.countP_append, List.countP_singleton]
    by_cases hr : Pubkey.request requestOwner requestId = r
    · simpa [hr] using hold
    · simpa [hr] using hold

theorem World.Later.answers {o : Op} {x : Except JsError o.Answer}
    (h : w.answers env i o x w') : w.Later env w' := by
  rcases World.answers_cases h with rfl | ⟨payment, _, rfl⟩ | ⟨_, _, _, _, _, hclaims⟩
  · exact .refl _
  · exact ⟨fun hs => ⟨hs.reachable, hs.differ, hs.queued, hs.bonded⟩, .refl _,
      List.Subset.refl _⟩
  · exact .claimsBy hclaims

theorem World.Initial.sound (h : w.Initial env) : w.Sound env where
  reachable := h.reachable
  differ := h.differ
  queued c hc := by
    rw [h.claims] at hc
    cases hc
  bonded r := by simp [h.claims]

theorem service_relies : Relies (service env) fun _ => World.Later env where
  refl _ := .refl
  trans := .trans
  others _ h := .answers h
  outside := .outside

theorem Run.sound {p : Calls} {admits : Calls → SolBridgeRequest → Prop} (h₀ : w₀.Initial env)
    (hrun : Run (service env) admits (.idle w₀) p) : p.state.Sound env := by
  induction hrun with
  | refl => exact h₀.sound
  | tail _ hstep ih =>
      cases hstep with
      | start => exact ih
      | resume i _ hans => exact (World.Later.answers hans).sound ih
      | outside hmove => exact (World.Later.outside hmove).sound ih

/-! ## The code of one call -/

/-- The destination is read in the output of the claim's own computation. -/
def World.Reads (env : Setup) (w : World) (c : Claimed) (evmDest : String) : Prop :=
  ∃ req e mxePub, w.sol.requests.lookup c.request = some req ∧
    (resealed req c.offset c.solverX25519).execute env.mxe = some e ∧
    env.mxePublicKey = .ok mxePub ∧ evmDest = evmDestination
      ((plains env.mxe.scheme env.solverPriv mxePub (readOutput e)).map UInt64.toNat)

/-- The call that has sent this payment has claimed the request of the event,
and pays what the event says to the address of its own claim. -/
def World.Backs (env : Setup) (ev : SolBridgeRequest) (t : Sent) (w : World) : Prop :=
  ∃ c ∈ w.claims, c.caller = t.caller ∧ env.account ev = some c.request ∧
    ∃ evmDest, w.Reads env c evmDest ∧
      t.payment = paymentOf env.node ev.mint ev.amountAfterFee evmDest

/-- A payment that is sent is backed. -/
def May (env : Setup) (ev : SolBridgeRequest) (w : World) (o : Op) (_ : Except JsError o.Answer)
    (w' : World) : Prop :=
  o.payment ≠ none → ∀ t, w'.payments = w.payments ++ [t] → w'.Backs env ev t

abbrev Meets {α : Type} (env : Setup) (i : Nat) (ev : SolBridgeRequest) (ok : α → World → Prop)
    (f : Promise α) (w : World) : Prop :=
  f.wp ((service env).answers i) (World.Later env) (May env ev)
    (Prog.ends ok fun _ _ => True) w

/-- The call has claimed the request of its event. -/
structure Held (env : Setup) (i : Nat) (ev : SolBridgeRequest) (c : Claimed) (w : World) :
    Prop where
  sound : w.Sound env
  mem : c ∈ w.claims
  caller : c.caller = i
  account : env.account ev = some c.request

section Code

variable {α : Type} {ok : α → World → Prop} {c : Claimed} {evmDest : String}

theorem Held.later (h : Held env i ev c w) (hl : w.Later env w') : Held env i ev c w' :=
  ⟨hl.sound h.sound, hl.claims h.mem, h.caller, h.account⟩

theorem World.Reads.later (h : w.Reads env c evmDest) (hl : w.Later env w') :
    w'.Reads env c evmDest := by
  obtain ⟨req, e, mxePub, hreq, he, hpub, hdest⟩ := h
  obtain ⟨req', hreq', hsame⟩ := hl.onward.deposit _ req hreq
  exact ⟨req', e, mxePub, hreq', by rw [resealed_congr hsame, he], hpub, hdest⟩

theorem World.Backs.later {t : Sent} (h : w.Backs env ev t) (hl : w.Later env w') :
    w'.Backs env ev t := by
  obtain ⟨c, hc, hcaller, haccount, evmDest, hreads, hpayment⟩ := h
  exact ⟨c, hl.claims hc, hcaller, haccount, evmDest, hreads.later hl, hpayment⟩

/-- An operation that pays nothing. -/
theorem meets_await {o : Op} {ok : o.Answer → World → Prop} (ho : o.payment = none)
    (h : ∀ w₁ x w₂, w.Later env w₁ → w₁.answers env i o x w₂ →
      Prog.ends ok (fun _ _ => True) x w₂) : Meets env i ev ok (await o) w := by
  exact Prog.wp_call.mpr fun w₁ hlater x w₂ hans =>
    ⟨fun hpays => absurd ho hpays, h w₁ x w₂ hlater hans⟩

theorem meets_claimRequest {requestOwner : Pubkey} {offset : UInt64} {solverX25519 : Bytes32}
    (hs : w.Sound env) (howner : env.publicKey ev.payer = .ok requestOwner) :
    Meets env i ev (fun _ w => ∃ c, Held env i ev c w ∧ c.offset = offset)
      (claimRequest ev.requestId requestOwner offset solverX25519) w := by
  unfold claimRequest
  split
  · next hid =>
    refine meets_await rfl fun w₁ x w₂ hlater hans => ?_
    cases x with
    | error e => trivial
    | ok claimSig =>
        have hs₂ := (hlater.trans (.answers hans)).sound hs
        obtain ⟨sol, _, _, rfl⟩ := hans
        refine ⟨_, ⟨hs₂, List.mem_append_right _ (List.mem_singleton.mpr rfl), rfl, ?_⟩, rfl⟩
        simp only [Setup.account, howner, if_pos hid]
  · trivial

/-- No other computation has the offset of the claim. -/
theorem meets_fetchResealOutput (h : Held env i ev c w) :
    Meets env i ev (fun out w => Held env i ev c w ∧ ∃ req e,
        w.sol.requests.lookup c.request = some req ∧
        (resealed req c.offset c.solverX25519).execute env.mxe = some e ∧ out = readOutput e)
      (fetchResealOutput c.offset) w := by
  refine meets_await rfl fun w₁ x w₂ hlater hans => ?_
  cases x with
  | error e => trivial
  | ok out =>
      obtain ⟨⟨computation, hmem, hoffset, e, he, hout⟩, rfl⟩ := hans
      have h₁ := h.later hlater
      obtain ⟨req, hreq, hqueued⟩ := h₁.sound.queued c h₁.mem
      obtain rfl := h₁.sound.differ.unique hmem hqueued hoffset
      exact ⟨h₁, req, e, hreq, he, hout⟩

theorem meets_resolveEvmDestination {requestOwner : Pubkey} (hs : w.Sound env)
    (howner : env.publicKey ev.payer = .ok requestOwner) :
    Meets env i ev (fun resolved w => ∃ c, Held env i ev c w ∧ w.Reads env c resolved.1)
      (resolveEvmDestination env.node ev.requestId requestOwner) w := by
  have hpick : Meets env i ev (fun _ w => w.Sound env) pickComputationOffset w :=
    meets_await rfl fun w₁ x w₂ hlater hans => by
      have hs₂ := (hlater.trans (.answers hans)).sound hs
      cases x <;> trivial
  refine Prog.wp.bind hpick fun offset w₁ hs₁ => ?_
  refine Prog.wp.bind (meets_claimRequest hs₁ howner) fun claimSig w₂ hclaimed => ?_
  obtain ⟨c, h₂, rfl⟩ := hclaimed
  have hwait : Meets env i ev (fun _ w => Held env i ev c w) (waitFinalization c.offset) w₂ :=
    meets_await rfl fun w₃ x w₄ hlater hans => by
      have h₄ := h₂.later (hlater.trans (.answers hans))
      cases x <;> trivial
  refine Prog.wp.bind hwait fun _ w₃ h₃ => ?_
  refine Prog.wp.bind (meets_fetchResealOutput h₃) fun out w₄ hout => ?_
  obtain ⟨h₄, req, e, hreq, he, rfl⟩ := hout
  cases hpub : env.mxePublicKey with
  | error e =>
      simp only [Setup.node, hpub]
      trivial
  | ok mxePub =>
      simp only [Setup.node, hpub]
      exact ⟨c, h₄, req, e, mxePub, hreq, he, hpub, rfl⟩

theorem meets_payment {o : Op} {payment : EvmPayment} (ho : o.payment = some payment)
    (h : Held env i ev c w) (hreads : w.Reads env c evmDest)
    (hpays : payment = paymentOf env.node ev.mint ev.amountAfterFee evmDest) :
    Meets env i ev (fun _ _ => True) (await o) w := by
  refine Prog.wp_call.mpr fun w₁ hlater x w₂ hans => ⟨fun _ t ht => ?_, by cases x <;> trivial⟩
  have hall := hlater.trans (.answers hans)
  obtain rfl : t = ⟨i, payment⟩ := by
    rcases World.answers_cases hans with rfl | ⟨payment', hpay, rfl⟩ | ⟨_, _, _, _, hnone, _⟩
    · simp at ht
    · obtain rfl : payment = payment' := Option.some.inj (ho.symm.trans hpay)
      simpa [World.pays] using ht.symm
    · rw [ho] at hnone
      cases hnone
  exact ⟨c, hall.claims h.mem, h.caller, h.account, evmDest, hreads.later hall, hpays⟩

/-- What pays nothing keeps to everything. -/
theorem meets_unpaid {f : Promise α} (hf : f.Only (fun o : Op => o.payment = none)) :
    Meets env i ev (fun _ _ => True) f w := by
  refine Prog.wp.mono f (fun x _ _ => by cases x <;> trivial) (Prog.wp_of_only hf ?_)
  exact fun hnone hpays => absurd hnone hpays

theorem meets_transferResult {tx : Promise String} {reverted : String}
    (htx : Meets env i ev (fun _ _ => True) tx w) :
    Meets env i ev (fun _ _ => True) (transferResult tx reverted) w := by
  refine Prog.wp.tryCatch (Prog.wp.bind htx fun txHash w₁ _ => meets_unpaid ?_)
    fun _ _ _ => trivial
  refine Prog.Only.bind (only_await rfl) fun status => ?_
  split <;> trivial

/-- The payment is the one for the event, to the address of the claim. -/
theorem meets_pay (h : Held env i ev c w) (hreads : w.Reads env c evmDest) :
    Meets env i ev (fun _ _ => True) (pay env.node ev evmDest) w := by
  have hend : ∀ {failed : String} {res : EvmTransferResult} {w₁ : World},
      Meets env i ev (fun _ _ => True) (txHashOf failed res) w₁ := by
    intro failed res w₁
    unfold txHashOf
    split <;> trivial
  unfold pay
  cases hmapping : mappingOf env.node ev.mint with
  | none =>
      have hsend : Meets env i ev (fun _ _ => True)
          (sendTransaction evmDest ev.amountAfterFee) w :=
        meets_payment rfl h hreads (by simp only [paymentOf, hmapping])
      exact Prog.wp.bind (meets_transferResult hsend) fun res w₁ _ => hend
  | some mapping =>
      have hsend : Meets env i ev (fun _ _ => True) (transfer mapping.evmAddress evmDest
          (convert (mapping.decimals.evm - mapping.decimals.solana) ev.amountAfterFee)) w :=
        meets_payment rfl h hreads (by simp only [paymentOf, hmapping, convertSolToEvm])
      exact Prog.wp.bind (meets_transferResult hsend) fun res w₁ _ => hend

/-- **The handler pays under its own claim**, whatever others do while it
runs. -/
theorem meets_onSolBridgeInitiated (hs : w.Sound env) :
    (onSolBridgeInitiated env.node ev).wp ((service env).answers i) (World.Later env)
      (May env ev) (fun _ _ => True) w := by
  have hprocess : Meets env i ev (fun _ _ => True) (processRequest env.node ev) w := by
    unfold processRequest
    cases howner : env.publicKey ev.payer with
    | error e =>
        simp only [Setup.node, howner]
        trivial
    | ok requestOwner =>
        simp only [Setup.node, howner, Prog.lift_ok, Prog.ret_bind]
        refine Prog.wp.bind (meets_resolveEvmDestination hs howner) fun resolved w₁ hread => ?_
        obtain ⟨c, h₁, hreads⟩ := hread
        refine Prog.wp.bind (meets_pay h₁ hreads) fun txHash w₂ _ => meets_unpaid ?_
        exact (only_submitVerification _).bind fun _ => trivial
  have hhandler : Meets env i ev (fun _ _ => True) (onSolBridgeInitiated env.node ev) w :=
    Prog.wp.tryCatch hprocess fun e w₁ _ => trivial
  exact Prog.wp.mono _ (fun _ _ _ => trivial) hhandler

end Code

/-! ## Runs -/

/-- The event is one of the program, as its log has it. -/
def Announced (env : Setup) (s : State) (ev : SolBridgeRequest) : Prop :=
  ∃ requestId sender token amountAfterFee fee ts,
    .emit (.BridgeInitiated requestId sender token amountAfterFee fee ts) ∈ s.log ∧
    env.publicKey ev.payer = .ok sender ∧ ev.requestId = requestId.toNat ∧
    env.publicKey ev.mint = .ok token ∧ ev.amountAfterFee = amountAfterFee.toNat

/-- Only the program's events come in, each any number of times. -/
def Emitted (env : Setup) (p : Calls) (ev : SolBridgeRequest) : Prop :=
  Announced env p.state.sol ev

theorem Announced.onward {s s' : State} (h : Announced env s ev) (hl : s.Onward s') :
    Announced env s' ev := by
  obtain ⟨requestId, sender, token, amount, fee, ts, he, hrest⟩ := h
  exact ⟨requestId, sender, token, amount, fee, ts, hl.log.subset he, hrest⟩

/-- What is announced is stored, with the mint and the amount of the event. -/
theorem Announced.stored {s : State} (h : Announced env s ev)
    (hreach : Solana.Reachable env.rt s) : ∃ r req, env.account ev = some r ∧
      s.requests.lookup r = some req ∧ env.publicKey ev.mint = .ok req.tokenMint ∧
      ev.amountAfterFee = req.amountLocked.toNat := by
  obtain ⟨requestId, sender, token, amount, fee, ts, he, hpayer, hid, hmint, hamount⟩ := h
  obtain ⟨req, hreq, rfl, rfl⟩ := hreach.announced _ _ _ _ _ _ he
  refine ⟨.request sender requestId, req, ?_, hreq, hmint, hamount⟩
  have hlt := requestId.toNat_lt
  simp only [Setup.account, hpayer]
  rw [if_pos (by omega), hid, Int.toNat_natCast, UInt64.ofNat_toNat]

variable {p : Calls} {admits : Calls → SolBridgeRequest → Prop}

theorem Run.announced (hrun : Run (service env) (Emitted env) (.idle w₀) p) :
    ∀ c ∈ p.calls, Announced env p.state.sol c.request := by
  induction hrun with
  | refl => simp [Pool.idle]
  | tail _ hstep ih =>
      cases hstep with
      | start q hq =>
          intro c hc
          rcases List.mem_append.mp hc with hold | hnew
          · exact ih c hold
          · obtain rfl := List.mem_singleton.mp hnew
            exact hq
      | resume i hat hans =>
          intro c hc
          have honward := (World.Later.answers hans).onward
          rcases List.mem_or_eq_of_mem_set hc with hold | rfl
          · exact (ih c hold).onward honward
          · exact (ih _ (List.mem_of_getElem? hat)).onward honward
      | outside hmove => exact fun c hc => (ih c hc).onward (World.Later.outside hmove).onward

/-- Every payment is its call's, and backed. -/
theorem Run.backed (h₀ : w₀.Initial env) (hrun : Run (service env) admits (.idle w₀) p) :
    ∀ t ∈ p.state.payments, ∃ c, p.calls[t.caller]? = some c ∧
      p.state.Backs env c.request t := by
  refine Run.recorded World.payments Sent.caller (fun ev t w => w.Backs env ev t) h₀.payments
    ?_ ?_ hrun
  · intro p i ev o k x w' hrun hat hans t ht
    have hlater := World.Later.answers hans
    have hold : t ∈ p.state.payments → ∃ t₀ ∈ p.state.payments, t₀.caller = t.caller ∧
        ∀ q, p.state.Backs env q t₀ → w'.Backs env q t :=
      fun hmem => ⟨t, hmem, rfl, fun _ h => h.later hlater⟩
    rcases World.answers_cases hans with
      rfl | ⟨payment, hpay, rfl⟩ | ⟨_, _, _, _, _, sol, _, _, rfl⟩
    · exact .inr (hold ht)
    · rcases List.mem_append.mp ht with hmem | hnew
      · exact .inr (hold hmem)
      · obtain rfl := List.mem_singleton.mp hnew
        have hkeeps := Run.keeps service_relies
          (fun p q hrun _ => meets_onSolBridgeInitiated (Run.sound h₀ hrun)) hrun
        have hmay := hkeeps.step service_relies hat hans
        exact .inl ⟨rfl, hmay (by simp [hpay]) _ rfl⟩
    · exact .inr (hold ht)
  · rintro p w' hrun ⟨sol, hmove, rfl⟩ t ht
    exact ⟨t, ht, rfl, fun _ h => h.later (.outside ⟨sol, hmove, rfl⟩)⟩

/-- The payments of the calls for a request. -/
def paidFor (env : Setup) (p : Calls) (r : Pubkey) : Nat :=
  p.state.payments.countP fun t =>
    decide ((p.calls[t.caller]?).bind (fun c => env.account c.request) = some r)

/-- Each has a claim of its own. -/
theorem paidFor_le (h₀ : w₀.Initial env) (hrun : Run (service env) admits (.idle w₀) p)
    (r : Pubkey) : paidFor env p r ≤ p.state.claims.countP (·.request == r) := by
  have hstart : ∀ j, w₀.paidBy j = 0 := fun j => by simp [World.paidBy, h₀.payments]
  have honce : ∀ j, p.state.payments.countP (Sent.caller · == j) ≤ 1 :=
    Run.count_le service_counts (fun _ => handler_pays_once) hstart hrun
  have hhas : ∀ t ∈ p.state.payments,
      decide ((p.calls[t.caller]?).bind (fun c => env.account c.request) = some r) = true →
      ∃ claim ∈ p.state.claims, (claim.request == r) = true ∧
        Claimed.caller claim = Sent.caller t := by
    intro t ht hr
    obtain ⟨c, hget, claim, hclaim, hcaller, haccount, _⟩ := Run.backed h₀ hrun t ht
    have hrequest : env.account c.request = some r := by simpa [hget] using hr
    rw [hrequest] at haccount
    obtain rfl := Option.some.inj haccount
    exact ⟨claim, hclaim, by simp, hcaller⟩
  exact countP_le_of_callers honce hhas

/-- The payment of what a request holds, to the address that the node reads in
the output of its claim. -/
def PaysDeposit (env : Setup) (c : Claimed) (req : Solana.BridgeRequest) (payment : EvmPayment) :
    Prop :=
  ∃ mint e mxePub, env.publicKey mint = .ok req.tokenMint ∧
    (resealed req c.offset c.solverX25519).execute env.mxe = some e ∧
    env.mxePublicKey = .ok mxePub ∧
    payment = paymentOf env.node mint req.amountLocked.toNat (evmDestination
      ((plains env.mxe.scheme env.solverPriv mxePub (readOutput e)).map UInt64.toNat))

/-- **The node pays under its own claim**, in every run on the program's
events, however often and in whatever order they are delivered: the call that
sends a payment has claimed the request, and pays what its account holds. For
no request are there more payments than the node has put up bonds. -/
theorem paid_under_claim (h₀ : w₀.Initial env)
    (hrun : Run (service env) (Emitted env) (.idle w₀) p) :
    (∀ t ∈ p.state.payments, ∃ c ∈ p.state.claims, c.caller = t.caller ∧
      ∃ req, p.state.sol.requests.lookup c.request = some req ∧ PaysDeposit env c req t.payment) ∧
    ∀ r, paidFor env p r ≤ bondsOf p.state.sol env.wallet.key r := by
  have hs := Run.sound h₀ hrun
  refine ⟨fun t ht => ?_, fun r => Nat.le_trans (paidFor_le h₀ hrun r) (hs.bonded r)⟩
  obtain ⟨call, hget, c, hc, hcaller, haccount, evmDest, hreads, hpayment⟩ :=
    Run.backed h₀ hrun t ht
  have hannounced := Run.announced hrun call (List.mem_of_getElem? hget)
  obtain ⟨r, req, hr, hreq, hmint, hamount⟩ := hannounced.stored hs.reachable
  rw [haccount] at hr
  obtain rfl := Option.some.inj hr
  obtain ⟨req', e, mxePub, hreq', he, hpub, rfl⟩ := hreads
  obtain rfl : req = req' := Option.some.inj (hreq.symm.trans hreq')
  exact ⟨c, hc, hcaller, req, hreq, call.request.mint, e, mxePub, hmint, he, hpub,
    hamount ▸ hpayment⟩

/-! ## Addresses that are none -/

def EvmPayment.dest : EvmPayment → String
  | .native dest _ => dest
  | .erc20 _ dest _ => dest

/-- ethers sends nothing to what it cannot resolve. -/
def Refuses (accepts : String → Bool) (w : World) (o : Op) (x : Except JsError o.Answer)
    (w' : World) : Prop :=
  ∀ payment, o.payment = some payment → accepts payment.dest = false →
    (∃ e, x = .error e) ∧ w' = w

/-- The service on an ethers that resolves these destinations. -/
def resolving (env : Setup) (accepts : String → Bool) :
    Service api JsError Unit SolBridgeRequest World where
  handler := onSolBridgeInitiated env.node
  answers := fun i w o x w' => w.answers env i o x w' ∧ Refuses accepts w o x w'
  outside := World.Outside env

/-- It pays nothing, and tells the relayer nothing. -/
def Idle (w : World) (o : Op) (_ : Except JsError o.Answer) (w' : World) : Prop :=
  w'.payments = w.payments ∧ ∀ path request, o ≠ .post path request

abbrev Idles {α : Type} (env : Setup) (accepts : String → Bool) (i : Nat)
    (ok : α → World → Prop) (f : Promise α) (w : World) : Prop :=
  f.wp ((resolving env accepts).answers i) (fun _ _ => True) Idle
    (Prog.ends ok fun _ _ => True) w

section Idle

variable {accepts : String → Bool} {α : Type} {evmDest : String}

theorem World.answers_payments {o : Op} {x : Except JsError o.Answer}
    (h : w.answers env i o x w') (ho : o.payment = none) : w'.payments = w.payments := by
  rcases World.answers_cases h with rfl | ⟨payment, hpay, _⟩ | ⟨_, _, _, _, _, sol, _, _, rfl⟩
  · rfl
  · rw [ho] at hpay
    cases hpay
  · rfl

theorem idles_apart {f : Promise α} (hf : f.Only Op.Apart) :
    Idles env accepts i (fun _ _ => True) f w := by
  induction f generalizing w with
  | ret a => trivial
  | fail e => trivial
  | await o k ih =>
      intro w₁ _ x w₂ hans
      refine ⟨⟨World.answers_payments hans.1 hf.1.payment_eq, ?_⟩, ih x (hf.2 x)⟩
      rintro path request rfl
      exact hf.1

/-- What is read is 16 digits, whatever was encrypted. -/
theorem idles_resolveEvmDestination {requestOwner : Pubkey} :
    Idles env accepts i (fun resolved _ => ∃ words, resolved.1 = evmDestination words)
      (resolveEvmDestination env.node ev.requestId requestOwner) w := by
  have hclaim : ∀ {offset : UInt64} {solverX25519 : Bytes32},
      (claimRequest ev.requestId requestOwner offset solverX25519).Only Op.Apart := by
    intro offset solverX25519
    unfold claimRequest
    split
    · exact only_await trivial
    · trivial
  refine Prog.wp.bind (idles_apart (only_await trivial)) fun offset w₁ _ => ?_
  refine Prog.wp.bind (idles_apart hclaim) fun claimSig w₂ _ => ?_
  refine Prog.wp.bind (idles_apart (only_await trivial)) fun _ w₃ _ => ?_
  refine Prog.wp.bind (idles_apart (only_await trivial)) fun out w₄ _ => ?_
  refine Prog.wp.bind (idles_apart (only_lift _)) fun mxePub w₅ _ => ?_
  exact ⟨_, rfl⟩

theorem idles_payment {o : Op} {payment : EvmPayment} (ho : o.payment = some payment)
    (hrefused : accepts payment.dest = false) :
    Idles env accepts i (fun _ _ => False) (await o) w := by
  refine Prog.wp_call.mpr fun w₁ _ x w₂ hans => ?_
  obtain ⟨⟨e, rfl⟩, rfl⟩ := hans.2 payment ho hrefused
  refine ⟨⟨rfl, ?_⟩, trivial⟩
  rintro path request rfl
  cases ho

theorem idles_transferResult {tx : Promise String} {reverted : String}
    (htx : Idles env accepts i (fun _ _ => False) tx w) :
    Idles env accepts i (fun res _ => res.success = false) (transferResult tx reverted) w :=
  Prog.wp.tryCatch (Prog.wp.bind htx fun _ _ hfalse => hfalse.elim) fun _ _ _ => rfl

theorem idles_pay (hrefused : accepts evmDest = false) :
    Idles env accepts i (fun _ _ => False) (pay env.node ev evmDest) w := by
  have hend : ∀ {failed : String} {res : EvmTransferResult} {w₁ : World}, res.success = false →
      Idles env accepts i (fun _ _ => False) (txHashOf failed res) w₁ := by
    intro failed res w₁ hfailed
    simp only [txHashOf, hfailed]
    trivial
  unfold pay
  cases mappingOf env.node ev.mint with
  | none =>
      have hsend : Idles env accepts i (fun _ _ => False)
          (sendTransaction evmDest ev.amountAfterFee) w := idles_payment rfl hrefused
      exact Prog.wp.bind (idles_transferResult hsend) fun res w₁ hfailed => hend hfailed
  | some mapping =>
      have hsend : Idles env accepts i (fun _ _ => False) (transfer mapping.evmAddress evmDest
          (convert (mapping.decimals.evm - mapping.decimals.solana) ev.amountAfterFee)) w :=
        idles_payment rfl hrefused
      exact Prog.wp.bind (idles_transferResult hsend) fun res w₁ hfailed => hend hfailed

theorem idles_onSolBridgeInitiated (hnames : ∀ digits : List Char, digits.length = 16 →
      accepts (String.ofList ('0' :: 'x' :: digits)) = false) :
    (onSolBridgeInitiated env.node ev).wp ((resolving env accepts).answers i) (fun _ _ => True)
      Idle (fun _ _ => True) w := by
  have hprocess : Idles env accepts i (fun _ _ => False) (processRequest env.node ev) w := by
    refine Prog.wp.bind (idles_apart (only_lift _)) fun requestOwner w₁ _ => ?_
    refine Prog.wp.bind idles_resolveEvmDestination fun resolved w₂ hread => ?_
    obtain ⟨words, hdest⟩ := hread
    refine Prog.wp.bind (idles_pay ?_) fun txHash w₃ hfalse => hfalse.elim
    rw [hdest, evmDestination_eq]
    exact hnames (Digits.numeral 16 16 words.w0) (Digits.length_numeral 16 16 words.w0)
  have hends : Idles env accepts i (fun _ _ => True) (processRequest env.node ev) w :=
    Prog.wp.mono _ (fun x _ _ => by cases x <;> trivial) hprocess
  have hhandler : Idles env accepts i (fun _ _ => True) (onSolBridgeInitiated env.node ev) w :=
    Prog.wp.tryCatch hends fun e w₁ _ => trivial
  exact Prog.wp.mono _ (fun _ _ _ => trivial) hhandler

end Idle

theorem resolving_relies {accepts : String → Bool} :
    Relies (resolving env accepts) fun _ _ _ => True where
  refl _ _ := trivial
  trans _ _ := trivial
  others _ _ := trivial
  outside _ := trivial

/-- **As it is, the node never pays.** The destination it reads is no address
and no name, so no payment is sent in any run, and no call comes to tell the
relayer of one; all it does is to claim. -/
theorem never_pays {accepts : String → Bool} (hnames : ∀ digits : List Char,
      digits.length = 16 → accepts (String.ofList ('0' :: 'x' :: digits)) = false)
    (h₀ : w₀.Initial env) (hrun : Run (resolving env accepts) admits (.idle w₀) p) :
    p.state.payments = [] ∧
      ∀ c ∈ p.calls, ∀ path request k, c.code ≠ .await (.post path request) k := by
  have hkeeps : ∀ {p}, Run (resolving env accepts) admits (.idle w₀) p →
      Keeps (resolving env accepts) (fun _ _ _ => True) (fun _ => Idle) p := fun hrun =>
    Run.keeps resolving_relies (fun _ _ _ _ => idles_onSolBridgeInitiated hnames) hrun
  refine ⟨?_, ?_⟩
  · induction hrun with
    | refl => exact h₀.payments
    | tail hrun hstep ih =>
        cases hstep with
        | start => exact ih
        | resume i hat hans =>
            have hidle := (hkeeps hrun).step resolving_relies hat hans
            exact hidle.1.trans ih
        | outside hmove =>
            obtain ⟨sol, _, rfl⟩ := hmove
            exact ih
  · intro c hc path request k hpost
    obtain ⟨i, hget⟩ := List.mem_iff_getElem?.mp hc
    have hat : p.calls[i]? = some ⟨c.request, .await (.post path request) k⟩ := by
      rw [hget, ← hpost]
    -- the relayer may always be unreachable
    have hans : (resolving env accepts).answers i p.state (.post path request)
        (.error ⟨.Error, ""⟩) p.state := ⟨rfl, fun payment hpay => by cases hpay⟩
    exact ((hkeeps hrun).step resolving_relies hat hans).2 path request rfl

/-! ## The world in which everything works -/

/-- No answer. -/
def unavailable {α : Type} : Except JsError α := .error ⟨.Error, "timeout"⟩

/-- The program and Arcium answer at once, and the relayer does not. -/
def World.answer (env : Setup) (accepts : String → Bool) (i : Nat) (w : World) :
    (o : Op) → Except JsError o.Answer × World
  | .pickComputationOffset => (.ok (UInt64.ofNat w.sol.queue.length), w)
  | .claimBridge requestId requestOwner offset solverX25519 =>
      if offset ∈ w.sol.queue.map Solana.Computation.offset then (unavailable, w)
      else
        match Solana.exec env.rt (env.claim requestId requestOwner offset solverX25519) w.sol with
        | .error _ => (unavailable, w)
        | .ok sol =>
            (.ok "claimed",
              ⟨sol, w.claims ++ [⟨i, .request requestOwner requestId, offset, solverX25519⟩],
                w.payments⟩)
  | .waitFinalization _ => (.ok "finalized", w)
  | .fetchResealOutput offset =>
      match w.sol.queue.find? (·.offset == offset) with
      | none => (unavailable, w)
      | some c =>
          match c.execute env.mxe with
          | none => (unavailable, w)
          | some e => (.ok (readOutput e), w)
  | .sendTransaction dest value =>
      if accepts dest then (.ok "0xe1", w.pays i (.native dest value)) else (unavailable, w)
  | .transfer token dest amount =>
      if accepts dest then (.ok "0xe1", w.pays i (.erc20 token dest amount)) else (unavailable, w)
  | .wait _ => (.ok (some 1), w)
  | .post _ _ => (unavailable, w)

theorem World.answer_settled {accepts : String → Bool} (o : Op) :
    (resolving env accepts).settled i w o (w.answer env accepts i o).1
      (w.answer env accepts i o).2 := by
  have hnow : ∀ {x w'}, w.answers env i o x w' → Refuses accepts w o x w' →
      (resolving env accepts).settled i w o x w' := fun h hr => ⟨w, .refl, h, hr⟩
  have hunpaid : ∀ {x w'}, o.payment = none → w.answers env i o x w' →
      (resolving env accepts).settled i w o x w' := fun ho h =>
    hnow h fun payment hpay => by
      rw [ho] at hpay
      cases hpay
  cases o with
  | claimBridge requestId requestOwner offset solverX25519 =>
      simp only [answer]
      split
      · exact hunpaid rfl rfl
      · next hfree =>
        split
        · exact hunpaid rfl rfl
        · next sol hexec =>
          refine hunpaid rfl ⟨sol, ?_, hexec, rfl⟩
          rintro _ ⟨⟩
          exact hfree
  | fetchResealOutput offset =>
      simp only [answer]
      split
      · exact hunpaid rfl rfl
      · next c hc =>
        split
        · exact hunpaid rfl rfl
        · next e he =>
          have hoffset : c.offset = offset := by simpa using List.find?_some hc
          exact hunpaid rfl ⟨⟨c, List.mem_of_find?_eq_some hc, hoffset, e, he, rfl⟩, rfl⟩
  | sendTransaction dest value =>
      simp only [answer]
      split
      · next haccepts =>
        refine hnow rfl fun payment hpay hrefused => ?_
        cases hpay
        rw [show EvmPayment.dest (.native dest value) = dest from rfl, haccepts] at hrefused
        cases hrefused
      · exact hnow (.inl rfl) fun _ _ _ => ⟨⟨_, rfl⟩, rfl⟩
  | transfer token dest amount =>
      simp only [answer]
      split
      · next haccepts =>
        refine hnow rfl fun payment hpay hrefused => ?_
        cases hpay
        rw [show EvmPayment.dest (.erc20 token dest amount) = dest from rfl, haccepts] at hrefused
        cases hrefused
      · exact hnow (.inl rfl) fun _ _ _ => ⟨⟨_, rfl⟩, rfl⟩
  | pickComputationOffset | waitFinalization | wait | post => exact hunpaid rfl rfl

namespace Sample

/-- The solver of the sample program runs the node. -/
def paying : Setup where
  table := fun chainId => if chainId = 11155111 then
    some [⟨"0x1c7d4b196cb0c7b01d743fbc6116a902379c7238", "mint", ⟨6, 6⟩⟩] else none
  chainId := 11155111
  mxe := Solana.Sample.mxe
  solverPriv := (5 : UInt64)
  mxePublicKey := .ok Solana.Sample.mxe.publicKey
  relayerApi := true
  publicKey := fun s =>
    if s = "user" then .ok Solana.Sample.user.key
    else if s = "mint" then .ok Solana.Sample.mint else .error ⟨.Error, "Invalid public key input"⟩
  rt := Solana.Sample.runtime
  wallet := Solana.Sample.solver

/-- The deposit of the user. -/
def initiated : SolBridgeRequest := ⟨7, "user", "mint", 990⟩

def deposited : Option State :=
  Solana.runMoves Solana.Sample.runtime (fun _ _ => true)
    [(0, Solana.Sample.config), (0, Solana.Sample.deposit (.key 21))] Solana.Sample.initial

def idle (sol : State) : Calls := .idle ⟨sol, [], []⟩

def serve (accepts : String → Bool) (p : Calls) : Calls :=
  p.serve (resolving paying accepts) (fun i w => w.answer paying accepts i) initiated

/-- The event is delivered twice. -/
def twice (accepts : String → Bool) (sol : State) : Calls :=
  serve accepts (serve accepts (idle sol))

/-- Only addresses are taken. -/
def isAddress (dest : String) : Bool := dest.length == 42

def announcement : Solana.Entry :=
  .emit (.BridgeInitiated 7 Solana.Sample.user.key Solana.Sample.mint 990 10 100)

theorem initial_of_deposited {sol : State} (h : deposited = some sol)
    (hdiffer : sol.OffsetsDiffer) : World.Initial paying ⟨sol, [], []⟩ :=
  ⟨Solana.Sample.reachable_of_moves h, hdiffer, rfl, rfl⟩

theorem announced_of_mem {sol : State} (h : announcement ∈ sol.log) :
    Announced paying sol initiated :=
  ⟨7, _, _, 990, 10, 100, h, rfl, rfl, rfl, rfl⟩

theorem run_serve (accepts : String → Bool) {p : Calls}
    (h : Announced paying p.state.sol initiated) :
    Run (service paying) (Emitted paying) p (serve accepts p) := by
  have hanswer : ∀ i w o, (service paying).settled i w o (w.answer paying accepts i o).1
      (w.answer paying accepts i o).2 := by
    intro i w o
    have hsettled : (resolving paying accepts).settled i w o (w.answer paying accepts i o).1
        (w.answer paying accepts i o).2 := World.answer_settled o
    obtain ⟨w₁, hout, hans, _⟩ := hsettled
    exact ⟨w₁, hout, hans⟩
  have hserve : Run (service paying) (Emitted paying) p
      (p.serve (service paying) (fun i w => w.answer paying accepts i) initiated) :=
    Run.serve hanswer h
  exact hserve

end Sample

/-- A second delivery finds the request claimed. -/
theorem paid_under_claim_twice : ∃ w p, w.Initial Sample.paying ∧
    Run (service Sample.paying) (Emitted Sample.paying) (.idle w) p ∧
    ((∀ t ∈ p.state.payments, ∃ c ∈ p.state.claims, c.caller = t.caller ∧
      ∃ req, p.state.sol.requests.lookup c.request = some req ∧
        PaysDeposit Sample.paying c req t.payment) ∧
    ∀ r, paidFor Sample.paying p r ≤ bondsOf p.state.sol Sample.paying.wallet.key r) ∧
    p.calls.length = 2 ∧ p.state.payments.length = 1 := by
  have hfacts : Sample.deposited.map (fun sol =>
      (decide ((sol.queue.map Solana.Computation.offset).Nodup),
        decide (Sample.announcement ∈ sol.log),
        (Sample.twice (fun _ => true) sol).state.payments.length)) =
      some (true, true, 1) := by
    decide +kernel
  obtain ⟨sol, hsol, hfacts⟩ := Option.map_eq_some_iff.mp hfacts
  simp only [Prod.mk.injEq, decide_eq_true_eq] at hfacts
  obtain ⟨hdiffer, hmem, hpaid⟩ := hfacts
  have hinit := Sample.initial_of_deposited hsol hdiffer
  have hfirst := Sample.run_serve (fun _ => true) (p := Sample.idle sol)
    (Sample.announced_of_mem hmem)
  have hstill := Run.announced hfirst _ (List.mem_singleton.mpr rfl)
  have hrun := hfirst.trans (Sample.run_serve (fun _ => true) hstill)
  exact ⟨_, _, hinit, hrun, paid_under_claim hinit hrun, rfl, hpaid⟩

/-- The claim stays, and nothing is paid. -/
theorem never_pays_claimed : ∃ w p, w.Initial Sample.paying ∧
    Run (resolving Sample.paying Sample.isAddress) (fun _ _ => True) (.idle w) p ∧
    (p.state.payments = [] ∧
      ∀ c ∈ p.calls, ∀ path request k, c.code ≠ .await (.post path request) k) ∧
    p.state.claims.length = 1 := by
  have hfacts : Sample.deposited.map (fun sol =>
      (decide ((sol.queue.map Solana.Computation.offset).Nodup),
        (Sample.serve Sample.isAddress (Sample.idle sol)).state.claims.length)) =
      some (true, 1) := by
    decide +kernel
  obtain ⟨sol, hsol, hfacts⟩ := Option.map_eq_some_iff.mp hfacts
  simp only [Prod.mk.injEq, decide_eq_true_eq] at hfacts
  obtain ⟨hdiffer, hclaimed⟩ := hfacts
  have hinit := Sample.initial_of_deposited hsol hdiffer
  have hrun : Run (resolving Sample.paying Sample.isAddress) (fun _ _ => True)
      (Sample.idle sol) (Sample.serve Sample.isAddress (Sample.idle sol)) :=
    Run.serve (fun _ _ o => World.answer_settled o) trivial
  refine ⟨_, _, hinit, hrun, never_pays (fun digits hlength => ?_) hinit hrun, hclaimed⟩
  simp only [Sample.isAddress, String.length_ofList, List.length_cons, hlength]
  rfl

end LunarysBridge.Node.SolToEvm
