/-
LunarysBridge.Node.SolToEvm — the node's service for deposits on Solana.

`onSolBridgeInitiated` claims the request, decrypts the destination, pays on
EVM and tells the relayer. What it awaits is an `Op`, and so is drawing a
random offset. The status map and log lines are left out.

Which asset it pays depends on the token table: a mint that is not in the
token table is taken for SOL, and its units are paid as wei.
-/
import LunarysBridge.Lib.Async
import LunarysBridge.Node.Destination
import LunarysBridge.Node.Tokens

namespace LunarysBridge.Node

open Async
open Relayer (JsError)
open Solana (Bytes32 Pubkey Scheme)

namespace SolToEvm

/-! ## What the service works on -/

structure SolBridgeRequest where
  requestId : Int
  /-- Base58, the owner of the request. -/
  payer : String
  mint : String
  amountAfterFee : Int
  deriving DecidableEq

structure VerificationRequestSolToEvm where
  requestId : String
  solClaimSignature : String
  evmTransferTxHash : String
  evmDestination : String
  amount : String
  token : String
  evidenceURL : Option String
  deriving DecidableEq

/-- The answer of the relayer. -/
structure RelayerResponse where
  status : Nat
  verified : Bool
  success : Bool
  message : Option String
  deriving DecidableEq

structure VerificationResponse where
  success : Bool
  message : String
  verified : Option Bool
  deriving DecidableEq

/-- Configuration, keys and libraries. -/
structure Env where
  table : Table
  /-- `FHEVM_CHAIN_ID` -/
  chainId : Nat
  scheme : Scheme
  solverPriv : scheme.PrivateKey
  /-- `getMxePublicKey` -/
  mxePublicKey : Except JsError Bytes32
  /-- `RELAYER_API_URL` is set. -/
  relayerApi : Bool
  /-- `new PublicKey(s)` -/
  publicKey : String → Except JsError Pubkey

/-! ## Operations -/

inductive Op where
  | pickComputationOffset
  /-- The transaction of `claimRequest`. -/
  | claimBridge (requestId : UInt64) (requestOwner : Pubkey) (offset : UInt64)
      (solverX25519 : Bytes32)
  | waitFinalization (offset : UInt64)
  | fetchResealOutput (offset : UInt64)
  | sendTransaction (dest : String) (value : Int)
  | transfer (token dest : String) (amount : Int)
  /-- `tx.wait()` -/
  | wait (txHash : String)
  | post (path : String) (request : VerificationRequestSolToEvm)

def Op.Answer : Op → Type
  | .pickComputationOffset => UInt64
  | .claimBridge _ _ _ _ => String
  | .waitFinalization _ => String
  | .fetchResealOutput _ => ResealOutput
  | .sendTransaction _ _ => String
  | .transfer _ _ _ => String
  -- the status of the receipt, if there is one
  | .wait _ => Option Nat
  | .post _ _ => RelayerResponse

abbrev api : Interface := ⟨Op, Op.Answer⟩

abbrev Promise (α : Type) := Prog api JsError α

def await (o : Op) : Promise o.Answer := @Prog.call api JsError o

def pickComputationOffset : Promise UInt64 := await .pickComputationOffset

def claimBridge (requestId : UInt64) (requestOwner : Pubkey) (offset : UInt64)
    (solverX25519 : Bytes32) : Promise String :=
  await (.claimBridge requestId requestOwner offset solverX25519)

def waitFinalization (offset : UInt64) : Promise String := await (.waitFinalization offset)

def fetchResealOutput (offset : UInt64) : Promise ResealOutput :=
  await (.fetchResealOutput offset)

def sendTransaction (dest : String) (value : Int) : Promise String :=
  await (.sendTransaction dest value)

def transfer (token dest : String) (amount : Int) : Promise String :=
  await (.transfer token dest amount)

def wait (txHash : String) : Promise (Option Nat) := await (.wait txHash)

def post (path : String) (request : VerificationRequestSolToEvm) : Promise RelayerResponse :=
  await (.post path request)

def error {α : Type} (message : String) : Promise α := throw ⟨.Error, message⟩

/-! ## Claim and destination -/

/-- `claimRequest` of the program service; the id goes into 8 bytes. -/
def claimRequest (requestId : Int) (requestOwner : Pubkey) (offset : UInt64)
    (solverX25519 : Bytes32) : Promise String :=
  if 0 ≤ requestId ∧ requestId < 2 ^ 64 then
    claimBridge (UInt64.ofNat requestId.toNat) requestOwner offset solverX25519
  else throw ⟨.Error, "ERR_OUT_OF_RANGE"⟩

variable (env : Env)

/-- `resolveEvmDestination`: the destination, and the signature of the claim. -/
def resolveEvmDestination (requestId : Int) (requestOwner : Pubkey) :
    Promise (String × String) := do
  let offset ← pickComputationOffset
  let solverPub := env.scheme.publicKey env.solverPriv
  let claimSig ← claimRequest requestId requestOwner offset solverPub
  let _ ← waitFinalization offset
  let out ← fetchResealOutput offset
  let mxePub ← env.mxePublicKey
  let plains := plains env.scheme env.solverPriv mxePub out
  return (evmDestination (plains.map UInt64.toNat), claimSig)

/-! ## Payment -/

structure EvmTransferResult where
  txHash : String
  success : Bool
  error : Option String
  deriving DecidableEq

/-- What `transferNative` and `transferErc20` make of a transaction. -/
def transferResult (tx : Promise String) (reverted : String) : Promise EvmTransferResult :=
  tryCatch (do
    let txHash ← tx
    let status ← wait txHash
    if status ≠ some 1 then error reverted
    else return ⟨txHash, true, none⟩) fun e => return ⟨"0x", false, some e.message⟩

def transferNative (dest : String) (amountWei : Int) : Promise EvmTransferResult :=
  transferResult (sendTransaction dest amountWei) "Native transfer reverted"

def transferErc20 (token dest : String) (amount : Int) : Promise EvmTransferResult :=
  transferResult (transfer token dest amount) "ERC20 transfer reverted"

/-- `if (!res.success) throw new Error(res.error || failed)` -/
def txHashOf (failed : String) (res : EvmTransferResult) : Promise String :=
  if res.success then return res.txHash
  else error (if Relayer.falsy res.error then failed else res.error.getD "")

/-! ## The relayer -/

/-- `submitVerificationSolToEvm` -/
def submitVerificationSolToEvm (request : VerificationRequestSolToEvm) :
    Promise VerificationResponse :=
  if env.relayerApi then
    tryCatch (do
      let res ← post "/api/verify-bridge/sol-to-evm" request
      let success := res.verified || res.success || res.status = 201
      let message := res.message.getD
        (if success then "Verified by relayer" else "Unexpected response")
      return ⟨success, message, some success⟩)
      fun e => return ⟨false, e.message, none⟩
  else return ⟨true, "Skipped (no external relayer configured)", none⟩

/-! ## The handler -/

/-- The entry of the mint, if it has one. -/
def mappingOf (mint : String) : Option TokenMapping :=
  (env.table.getAll env.chainId).find? (·.solanaAddress == mint)

/-- The payment: native if the mint has no mapping. -/
def pay (ev : SolBridgeRequest) (evmDest : String) : Promise String :=
  match mappingOf env ev.mint with
  | none => do
      let res ← transferNative evmDest ev.amountAfterFee
      txHashOf "Native transfer failed" res
  | some mapping => do
      let diff := mapping.decimals.evm - mapping.decimals.solana
      let converted := convert diff ev.amountAfterFee
      let res ← transferErc20 mapping.evmAddress evmDest converted
      txHashOf "ERC20 transfer failed" res

/-- What the relayer is told. -/
def verificationOf (ev : SolBridgeRequest) (claimSig evmDest txHash : String) :
    VerificationRequestSolToEvm where
  requestId := toString ev.requestId
  solClaimSignature := claimSig
  evmTransferTxHash := txHash
  evmDestination := evmDest
  amount := toString ev.amountAfterFee
  token := ((mappingOf env ev.mint).map (·.evmAddress)).getD nativeEvmAddress
  evidenceURL := none

/-- The body of the handler's `try`. -/
def processRequest (ev : SolBridgeRequest) : Promise Unit := do
  let requestOwner ← env.publicKey ev.payer
  let (evmDest, claimSig) ← resolveEvmDestination env ev.requestId requestOwner
  let txHash ← pay env ev evmDest
  let _ ← submitVerificationSolToEvm env (verificationOf env ev claimSig evmDest txHash)
  return

def onSolBridgeInitiated (ev : SolBridgeRequest) : Promise Unit :=
  tryCatch (processRequest env ev) fun _ => return

/-! ## What the parts await -/

/-- An operation that neither pays nor posts. -/
def Op.Apart : Op → Prop
  | .sendTransaction _ _ | .transfer _ _ _ | .post _ _ => False
  | _ => True

section Parts

variable {env} {A : Op → Prop}

theorem only_await {o : Op} (ho : A o) : (await o).Only A := Prog.only_call ho

theorem only_lift {α : Type} (x : Except JsError α) : (liftM x : Promise α).Only A :=
  Prog.only_ofExcept x

theorem only_resolveEvmDestination {requestId : Int} {requestOwner : Pubkey} :
    (resolveEvmDestination env requestId requestOwner).Only Op.Apart := by
  have hclaim : ∀ {offset : UInt64} {solverX25519 : Bytes32},
      (claimRequest requestId requestOwner offset solverX25519).Only Op.Apart := by
    intro offset solverX25519
    unfold claimRequest
    split
    · exact only_await trivial
    · trivial
  exact (only_await trivial).bind fun offset => hclaim.bind fun claimSig =>
    (only_await trivial).bind fun _ => (only_await trivial).bind fun out =>
    (only_lift _).bind fun mxePub => trivial

end Parts

/-! ## What it pays -/

inductive EvmPayment where
  | native (dest : String) (amountWei : Int)
  | erc20 (token dest : String) (amount : Int)
  deriving DecidableEq

/-- The payment an operation sends. -/
def Op.payment : Op → Option EvmPayment
  | .sendTransaction dest value => some (.native dest value)
  | .transfer token dest amount => some (.erc20 token dest amount)
  | _ => none

/-- Any operation may answer anything, or throw. -/
def anything (_ : Unit) (o : Op) (_ : Except JsError o.Answer) (_ : Unit) : Prop := True

/-- The handler may come to send this payment, whatever it is answered. -/
def Sends (ev : SolBridgeRequest) (p : EvmPayment) : Prop :=
  ∃ o : Op, o.payment = some p ∧ (onSolBridgeInitiated env ev).Reaches anything () o ()

/-- The one payment for an amount of a mint to this address. -/
def paymentOf (mint : String) (amount : Int) (evmDest : String) : EvmPayment :=
  match mappingOf env mint with
  | none => .native evmDest amount
  | some mapping => .erc20 mapping.evmAddress evmDest (convertSolToEvm amount mapping)

/-- Nothing is in the way of a payment but what other services answer. -/
structure Processable (ev : SolBridgeRequest) : Prop where
  payer : ∃ owner, env.publicKey ev.payer = .ok owner
  requestId : 0 ≤ ev.requestId ∧ ev.requestId < 2 ^ 64
  mxe : ∃ mxePub, env.mxePublicKey = .ok mxePub

/-- An address the node may read from some output. -/
def Readable (evmDest : String) : Prop :=
  ∃ mxePub out, env.mxePublicKey = .ok mxePub ∧
    evmDest = evmDestination ((plains env.scheme env.solverPriv mxePub out).map UInt64.toNat)

section Sends

variable {env} {ev : SolBridgeRequest} {o : Op} {s s' : Unit}

/-- The operation pays. -/
def Op.Pays (o : Op) : Prop := o.payment.isSome = true

theorem Op.Apart.payment_eq (h : o.Apart) : o.payment = none := by
  cases o <;> first | rfl | exact h.elim

/-- What awaits no payment pays nothing. -/
theorem unpaid_of_only {α : Type} {f : Promise α} (hf : f.Only (fun o : Op => o.payment = none)) :
    f.AtMost Op.Pays 0 :=
  hf.avoids fun _ hnone hpays => by simp [Op.Pays, hnone] at hpays

/-- Whatever an operation awaits may come. -/
theorem ends_await {x : Except JsError o.Answer} : (await o).Ends anything s x s' ↔ True := by
  rw [await, Prog.ends_call]
  exact Iff.rfl

theorem ends_lift {α : Type} {x r : Except JsError α} :
    (liftM x : Promise α).Ends anything s r s' ↔ r = x := by
  refine Prog.ends_ofExcept.trans ?_
  simp

theorem reaches_lift {α : Type} {x : Except JsError α} :
    (liftM x : Promise α).Reaches anything s o s' ↔ False :=
  Prog.reaches_ofExcept

@[simp] theorem ends_pickComputationOffset {x : Except JsError UInt64} :
    pickComputationOffset.Ends anything s x s' ↔ True := ends_await

@[simp] theorem ends_waitFinalization {offset : UInt64} {x : Except JsError String} :
    (waitFinalization offset).Ends anything s x s' ↔ True := ends_await

@[simp] theorem ends_fetchResealOutput {offset : UInt64} {x : Except JsError ResealOutput} :
    (fetchResealOutput offset).Ends anything s x s' ↔ True := ends_await

theorem ends_claimRequest {requestId : Int} {owner : Pubkey} {offset : UInt64}
    {solverX25519 : Bytes32} {claimSig : String} :
    (claimRequest requestId owner offset solverX25519).Ends anything s (.ok claimSig) s' ↔
      0 ≤ requestId ∧ requestId < 2 ^ 64 := by
  unfold claimRequest
  split
  · next h => exact ends_await.trans (iff_of_true trivial h)
  · next h => exact iff_of_false (by simp) h

theorem ends_resolveEvmDestination {requestId : Int} {owner : Pubkey} {evmDest claimSig : String} :
    (resolveEvmDestination env requestId owner).Ends anything s (.ok (evmDest, claimSig)) s' ↔
      (0 ≤ requestId ∧ requestId < 2 ^ 64) ∧ Readable env evmDest := by
  simp only [resolveEvmDestination, Prog.ends_bind_ok, ends_claimRequest,
    ends_pickComputationOffset, ends_waitFinalization, ends_fetchResealOutput]
  constructor
  · intro hends
    obtain ⟨offset, _, -, sig, _, hid, _, _, -, out, _, -, mxePub, _, hpub, hret⟩ := hends
    obtain ⟨heq, -⟩ := Prog.ends_ret.mp hret
    cases heq
    exact ⟨hid, mxePub, out, (ends_lift.mp hpub).symm, rfl⟩
  · intro hspec
    obtain ⟨hid, mxePub, out, hpub, rfl⟩ := hspec
    exact ⟨0, (), trivial, claimSig, (), hid, "", (), trivial, out, (), trivial, mxePub, (),
      ends_lift.mpr hpub.symm, Prog.ends_ret.mpr ⟨rfl, rfl⟩⟩

/-- What a payment comes to is its transaction; the rest pays nothing. -/
theorem reaches_transferResult {tx : Promise String} {reverted : String} (hpays : o.Pays) :
    (transferResult tx reverted).Reaches anything s o s' ↔ tx.Reaches anything s o s' := by
  have hrest : ∀ txHash, Prog.AtMost Op.Pays (do
      let status ← wait txHash
      if status ≠ some 1 then error reverted
      else return ⟨txHash, true, none⟩ : Promise EvmTransferResult) 0 := by
    intro txHash
    refine unpaid_of_only (Prog.Only.bind (only_await rfl) fun status => ?_)
    split <;> trivial
  rw [transferResult, Prog.reaches_tryCatch, Prog.reaches_bind]
  constructor
  · intro hreach
    rcases hreach with (htx | ⟨txHash, _, -, hwait⟩) | ⟨e, _, -, hret⟩
    · exact htx
    · exact absurd hwait ((hrest txHash).not_reaches _ hpays)
    · exact hret.elim
  · exact fun htx => .inl (.inl htx)

theorem unpaid_txHashOf {failed : String} {res : EvmTransferResult} :
    (txHashOf failed res).AtMost Op.Pays 0 := by
  unfold txHashOf
  split <;> trivial

/-- A payment by one transaction. -/
theorem reaches_payment {o₀ : Op} {p p₀ : EvmPayment} {tx : Promise String}
    {reverted failed : String} (hp₀ : o₀.payment = some p₀)
    (htx : ∀ o, tx.Reaches anything s o s' ↔ o₀ = o) :
    (∃ o : Op, o.payment = some p ∧
      (transferResult tx reverted >>= txHashOf failed).Reaches anything s o s') ↔ p = p₀ := by
  constructor
  · intro hreach
    obtain ⟨o, hp, hreach⟩ := hreach
    have hpays : o.Pays := by simp [Op.Pays, hp]
    rcases (Prog.reaches_bind _).mp hreach with hsent | ⟨res, _, -, hrest⟩
    · rw [reaches_transferResult hpays, htx] at hsent
      rw [← hsent, hp₀] at hp
      exact (Option.some.inj hp).symm
    · exact absurd hrest (unpaid_txHashOf.not_reaches _ hpays)
  · intro hp
    have hpays : o₀.Pays := by simp [Op.Pays, hp₀]
    refine ⟨o₀, by rw [hp₀, hp], (Prog.reaches_bind _).mpr (.inl ?_)⟩
    exact (reaches_transferResult hpays).mpr ((htx o₀).mpr rfl)

/-- `pay` sends the one payment for the event. -/
theorem reaches_pay {evmDest : String} {p : EvmPayment} :
    (∃ o : Op, o.payment = some p ∧ (pay env ev evmDest).Reaches anything s o s') ↔
      p = paymentOf env ev.mint ev.amountAfterFee evmDest := by
  have hcall : ∀ o₀ o : Op, (await o₀).Reaches anything s o s' ↔ o₀ = o := fun o₀ o =>
    Prog.reaches_call.trans (and_iff_left rfl)
  unfold pay paymentOf
  cases mappingOf env ev.mint with
  | none => exact reaches_payment rfl (hcall (.sendTransaction evmDest ev.amountAfterFee))
  | some mapping => exact reaches_payment rfl (hcall (.transfer mapping.evmAddress evmDest _))

theorem only_submitVerification (request : VerificationRequestSolToEvm) :
    (submitVerificationSolToEvm env request).Only (fun o : Op => o.payment = none) := by
  unfold submitVerificationSolToEvm
  split
  · exact Prog.Only.tryCatch (Prog.Only.bind (only_await rfl) fun _ => trivial) fun _ => trivial
  · trivial

/-- The way to a payment: the payer is a key, the request is claimed and its
destination read. -/
theorem reaches_processRequest (hpays : o.Pays) :
    (processRequest env ev).Reaches anything s o s' ↔ Processable env ev ∧
      ∃ evmDest s₁, Readable env evmDest ∧ (pay env ev evmDest).Reaches anything s₁ o s' := by
  have hresolved : ∀ {owner : Pubkey},
      (resolveEvmDestination env ev.requestId owner).AtMost Op.Pays 0 :=
    unpaid_of_only (only_resolveEvmDestination.mono fun _ h => h.payment_eq)
  rw [processRequest, Prog.reaches_bind]
  constructor
  · intro hreach
    rcases hreach with hlift | ⟨owner, _, howner, hreach⟩
    · exact (reaches_lift.mp hlift).elim
    rw [hresolved.reaches_bind hpays] at hreach
    obtain ⟨⟨evmDest, claimSig⟩, s₁, hresolve, hreach⟩ := hreach
    obtain ⟨hid, mxePub, out, hpub, hdest⟩ := ends_resolveEvmDestination.mp hresolve
    refine ⟨⟨⟨owner, (ends_lift.mp howner).symm⟩, hid, mxePub, hpub⟩, evmDest, s₁,
      ⟨mxePub, out, hpub, hdest⟩, ?_⟩
    rcases (Prog.reaches_bind _).mp hreach with hpay | ⟨txHash, _, -, hrest⟩
    · exact hpay
    · have hquiet : (do
          let _ ← submitVerificationSolToEvm env (verificationOf env ev claimSig evmDest txHash)
          return : Promise Unit).AtMost Op.Pays 0 :=
        unpaid_of_only ((only_submitVerification _).bind fun _ => trivial)
      exact absurd hrest (hquiet.not_reaches _ hpays)
  · intro hspec
    obtain ⟨⟨⟨owner, howner⟩, hid, _⟩, evmDest, s₁, hread, hpay⟩ := hspec
    refine .inr ⟨owner, s, ends_lift.mpr howner.symm, ?_⟩
    rw [hresolved.reaches_bind hpays]
    exact ⟨(evmDest, ""), s₁, ends_resolveEvmDestination.mpr ⟨hid, hread⟩,
      (Prog.reaches_bind _).mpr (.inl hpay)⟩

/-- **What the handler may send**: if the event can be processed, the payment
for its mint and its amount, to any address it may read. -/
theorem sends_iff {p : EvmPayment} :
    Sends env ev p ↔ Processable env ev ∧
      ∃ evmDest, Readable env evmDest ∧ p = paymentOf env ev.mint ev.amountAfterFee evmDest := by
  constructor
  · intro hsends
    obtain ⟨o, hp, hreach⟩ := hsends
    have hpays : o.Pays := by simp [Op.Pays, hp]
    rcases (Prog.reaches_tryCatch _).mp hreach with hreach | ⟨e, _, -, hret⟩
    · obtain ⟨hproc, evmDest, s₁, hread, hpay⟩ := (reaches_processRequest hpays).mp hreach
      exact ⟨hproc, evmDest, hread, reaches_pay.mp ⟨o, hp, hpay⟩⟩
    · exact hret.elim
  · intro hspec
    obtain ⟨hproc, evmDest, hread, hp⟩ := hspec
    obtain ⟨o, hsome, hpay⟩ := reaches_pay.mpr hp
    have hpays : o.Pays := by simp [Op.Pays, hsome]
    exact ⟨o, hsome, (Prog.reaches_tryCatch _).mpr
      (.inl ((reaches_processRequest hpays).mpr ⟨hproc, evmDest, (), hread, hpay⟩))⟩

theorem mappingOf_isSome {mint : String} :
    (mappingOf env mint).isSome = true ↔
      ∃ mapping ∈ env.table.getAll env.chainId, mapping.solanaAddress = mint := by
  simp [mappingOf]

end Sends

/-! ## Only what is mapped -/

/-- The payment is of an asset the table gives for the mint of the event, and
the amount is in its units. -/
def PaysMapped (ev : SolBridgeRequest) (p : EvmPayment) : Prop :=
  ∃ mapping ∈ env.table.getAll env.chainId, mapping.solanaAddress = ev.mint ∧
    ∃ evmDest, p = .erc20 mapping.evmAddress evmDest (convertSolToEvm ev.amountAfterFee mapping)

/-- **Asset safety.** All payments for an event are of the mapped asset and
amount exactly if its mint is in the table, or the event cannot be processed
at all. -/
theorem pays_mapped_iff (ev : SolBridgeRequest) :
    (∀ p, Sends env ev p → PaysMapped env ev p) ↔
      (Processable env ev →
        ∃ mapping ∈ env.table.getAll env.chainId, mapping.solanaAddress = ev.mint) := by
  constructor
  · intro hall hproc
    obtain ⟨mxePub, hpub⟩ := hproc.mxe
    have hread : Readable env _ := ⟨mxePub, ⟨0, 0, 0, 0, 0⟩, hpub, rfl⟩
    obtain ⟨mapping, hmem, hmint, -⟩ := hall _ (sends_iff.mpr ⟨hproc, _, hread, rfl⟩)
    exact ⟨mapping, hmem, hmint⟩
  · intro hmapped p hsends
    obtain ⟨hproc, evmDest, -, rfl⟩ := sends_iff.mp hsends
    obtain ⟨mapping, hfind⟩ := Option.isSome_iff_exists.mp (mappingOf_isSome.mpr (hmapped hproc))
    refine ⟨mapping, List.mem_of_find?_eq_some hfind, ?_, evmDest, ?_⟩
    · simpa using List.find?_some hfind
    · rw [paymentOf, hfind]

namespace Sample

/-- USDC on both chains, with 6 decimals. -/
def usdc : TokenMapping where
  evmAddress := "0x1c7d4b196cb0c7b01d743fbc6116a902379c7238"
  solanaAddress := "4zMMC9srt5Ri5X14GAgXhaHii3GnPAEERYPJgZJDncDU"
  decimals := ⟨6, 6⟩

/-- The one owner in the samples, in base58: its last byte is 1. -/
def owner : String := "11111111111111111111111111111112"

def node : Env where
  table := fun chainId => if chainId = 11155111 then some [usdc] else none
  chainId := 11155111
  scheme := Solana.Sample.scheme
  solverPriv := (5 : UInt64)
  mxePublicKey := .ok (Solana.Sample.bytes32 11)
  relayerApi := true
  publicKey := fun s =>
    if s = owner then .ok (.key 1) else .error ⟨.Error, "Invalid public key input"⟩

/-- One SOL, wrapped. -/
def wsol : SolBridgeRequest where
  requestId := 7
  payer := owner
  mint := "So11111111111111111111111111111111111111112"
  amountAfterFee := 1000000000

theorem publicKey_owner : node.publicKey owner = .ok (.key 1) := by
  simp [node]

theorem wsol_processable : Processable node wsol :=
  ⟨⟨_, publicKey_owner⟩, by decide, _, rfl⟩

end Sample

/-- One SOL is paid as a billion wei. -/
theorem unmapped_paid_native :
    (¬ ∀ env ev p, Sends env ev p → PaysMapped env ev p) ∧
    ∃ evmDest, Sends Sample.node Sample.wsol (.native evmDest 1000000000) := by
  have hread : Readable Sample.node _ := ⟨Solana.Sample.bytes32 11, ⟨0, 0, 0, 0, 0⟩, rfl, rfl⟩
  have hsends := sends_iff.mpr ⟨Sample.wsol_processable, _, hread, rfl⟩
  refine ⟨fun hall => ?_, _, hsends⟩
  obtain ⟨mapping, _, _, evmDest, hp⟩ := hall _ _ _ hsends
  cases hp

end SolToEvm

end LunarysBridge.Node
