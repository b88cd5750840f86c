/-
LunarysBridge.Node.EvmToSol — the node's service for requests on EVM.

`handleBridgeInitiated` claims the request unless somebody has, decrypts its
destination, pays on Solana and tells the relayer. What it awaits is an
`Op`; `World.answers` says what an operation may answer and do among the
moves of the chain, where rivals claim too. `service` runs any number of
calls in this world, interleaved at their awaits. The status map and log
lines are left out.
-/
import LunarysBridge.Lib.Async
import LunarysBridge.Lib.Rounding
import LunarysBridge.Relayer.World
import LunarysBridge.Node.SolToEvm

namespace LunarysBridge.Node.EvmToSol

open Async
open Digits (padStart)
open Relayer (JsError falsy uint256)
open SolToEvm (RelayerResponse)
open Evm (Address Handle Claim)

/-! ## What the service works on -/

/-- The fields the handler reads of an event. -/
structure BridgeRequest where
  requestId : Int
  token : String
  amount : Int
  deriving DecidableEq

structure VerificationRequest where
  requestId : String
  ethClaimTxHash : String
  solanaTransferSignature : String
  solanaDestination : String
  amount : String
  token : String
  evidenceURL : Option String
  deriving DecidableEq

structure VerificationResponse where
  success : Bool
  message : String
  deriving DecidableEq

/-- A transaction that was sent, and its hash. -/
structure TransactionResponse where
  index : Nat
  hash : String

/-- Configuration, keys and libraries, and the contract on its chain. -/
structure Setup where
  table : Table
  /-- `FHEVM_CHAIN_ID` -/
  chainId : Nat
  /-- `TEST_SOLANA_DESTINATION` -/
  testSolDest : Option String
  /-- `RELAYER_API_URL` is set. -/
  relayerApi : Bool
  /-- `new PublicKey(s).toBase58()` -/
  publicKey : String → Except JsError String
  /-- The associated token account of a mint and an owner. -/
  ata : String → String → String
  /-- `bs58.encode` -/
  bs58 : List UInt8 → String
  /-- The node's wallet on Solana. -/
  solWallet : String
  ch : Evm.Chain
  /-- The node's wallet on EVM. -/
  wallet : Address
  /-- `BOND_AMOUNT`, in wei. -/
  bond : Nat
  /-- What is encrypted under a handle. -/
  plaintext : Handle → Nat
  wallet_ne_zero : wallet ≠ 0
  wallet_ne_contract : wallet ≠ ch.self

/-! ## Operations -/

inductive Op where
  /-- The claim of a request; `Date.now()` follows. -/
  | requestClaim (requestId : Int)
  | claimBridge (requestId : Int)
  | wait (tx : Nat)
  /-- What `initialize` left; it fails where there is no instance. -/
  | fhevmInstance
  | bridgeRequests (requestId : Int)
  | ensureDecryptionSignature
  /-- The value under the handle, zero where the result has none. -/
  | userDecrypt (handle : Handle)
  | sendAndConfirmTransaction (dest : String) (lamports : Int)
  | getOrCreateAssociatedTokenAccount (mint owner : String)
  | transfer (source destination : String) (amount : Int)
  | post (path : String) (request : VerificationRequest)

def Op.Answer : Op → Type
  | .requestClaim _ => Claim × Nat
  | .claimBridge _ => TransactionResponse
  -- the status of the receipt, if there is one
  | .wait _ => Option Nat
  | .fhevmInstance => Unit
  | .bridgeRequests _ => Evm.BridgeRequest
  | .ensureDecryptionSignature => Unit
  | .userDecrypt _ => Nat
  | .sendAndConfirmTransaction _ _ => String
  | .getOrCreateAssociatedTokenAccount _ _ => String
  | .transfer _ _ _ => String
  | .post _ _ => RelayerResponse

abbrev api : Interface := ⟨Op, Op.Answer⟩

abbrev Promise (α : Type) := Prog api JsError α

def await (o : Op) : Promise o.Answer := @Prog.call api JsError o

def requestClaim (requestId : Int) : Promise (Claim × Nat) := await (.requestClaim requestId)

def claimBridge (requestId : Int) : Promise TransactionResponse := await (.claimBridge requestId)

def wait (tx : Nat) : Promise (Option Nat) := await (.wait tx)

def fhevmInstance : Promise Unit := await .fhevmInstance

def bridgeRequests (requestId : Int) : Promise Evm.BridgeRequest :=
  await (.bridgeRequests requestId)

def ensureDecryptionSignature : Promise Unit := await .ensureDecryptionSignature

def userDecrypt (handle : Handle) : Promise Nat := await (.userDecrypt handle)

def sendAndConfirmTransaction (dest : String) (lamports : Int) : Promise String :=
  await (.sendAndConfirmTransaction dest lamports)

def getOrCreateAssociatedTokenAccount (mint owner : String) : Promise String :=
  await (.getOrCreateAssociatedTokenAccount mint owner)

def transfer (source destination : String) (amount : Int) : Promise String :=
  await (.transfer source destination amount)

def post (path : String) (request : VerificationRequest) : Promise RelayerResponse :=
  await (.post path request)

def error {α : Type} (message : String) : Promise α := throw ⟨.Error, message⟩

/-! ## EthereumMonitorService -/

def isRequestClaimed (requestId : Int) : Promise Bool := do
  let (claim, now) ← requestClaim requestId
  if claim.solver ≠ 0 then return decide (now / 1000 < claim.deadline)
  else return false

def claimBridgeRequest (requestId : Int) : Promise String := do
  let tx ← claimBridge requestId
  let status ← wait tx.index
  if status ≠ some 1 then error ("Claim failed #" ++ toString requestId)
  else return tx.hash

/-! ## FheDecryptorService -/

section

variable (env : Setup)

/-- The 32 bytes of the first 64 hexadecimal digits. -/
def bigIntToBytes32 (value : Nat) : List UInt8 :=
  let hex := padStart 64 '0' (Nat.toDigits 16 value)
  hexBytes (hex.take 64)

def uint256ToSolanaAddress (value : Nat) : String := env.bs58 (bigIntToBytes32 value)

def decryptSolanaAddress (requestId : Int) : Promise String := do
  fhevmInstance
  let bridgeRequest ← bridgeRequests requestId
  ensureDecryptionSignature
  let decryptedValue ← userDecrypt bridgeRequest.encryptedSolanaDestination
  if decryptedValue = 0 then error "Decryption failed: No result for handle"
  else return uint256ToSolanaAddress env decryptedValue

/-! ## SolanaTransferService -/

/-- `Number(x)` of a big integer, where it is not infinite. -/
def number (x : Int) : Int := x.sign * Rounding.round 53 x.natAbs

def transferSOL (destinationAddress : String) (lamports : Int) : Promise String := do
  let dest ← env.publicKey destinationAddress
  sendAndConfirmTransaction dest (number lamports)

def transferSPLToken (mintAddress destinationAddress : String) (amount : Int) :
    Promise String := do
  let mint ← env.publicKey mintAddress
  let dest ← env.publicKey destinationAddress
  let srcAta ← getOrCreateAssociatedTokenAccount mint env.solWallet
  let dstAta ← getOrCreateAssociatedTokenAccount mint dest
  transfer srcAta dstAta (number amount)

/-! ## RelayerApiService -/

def submitVerification (request : VerificationRequest) : Promise VerificationResponse :=
  if env.relayerApi then
    tryCatch (do
      let res ← post "/api/verify-bridge/evm-to-sol" request
      let success := res.verified || res.success || res.status = 201
      return ⟨success, res.message.getD
        (if success then "Verified by relayer" else "Unexpected response")⟩)
      fun e => return ⟨false, e.message⟩
  else return ⟨true, "Skipped (no external relayer configured)"⟩

/-! ## BridgeProcessorService -/

/-- Section 1: the claim, unless there is one. -/
def claim (requestId : Int) : Promise String := do
  if ← isRequestClaimed requestId then return "(already-claimed)"
  else claimBridgeRequest requestId

/-- Section 2: the destination, or the one for tests. -/
def destination (requestId : Int) : Promise String :=
  tryCatch (decryptSolanaAddress env requestId) fun e =>
    if falsy env.testSolDest then
      error ("FHE decryption failed and no TEST_SOLANA_DESTINATION configured: " ++ e.message)
    else return env.testSolDest.getD ""

/-- Section 3: the transfer. -/
def pay (req : BridgeRequest) (solDest : String) : Promise String :=
  if isNativeToken req.token then transferSOL env solDest req.amount
  else
    match env.table.getTokenMapping env.chainId req.token with
    | none => error ("No token mapping for " ++ req.token ++ " on chainId=" ++
        toString env.chainId)
    | some mapping => do
        let diff := mapping.decimals.solana - mapping.decimals.evm
        let converted := convert diff req.amount
        transferSPLToken env mapping.solanaAddress solDest converted

/-- Section 4: what the relayer is told. -/
def verificationOf (req : BridgeRequest) (claimTxHash solDest signature : String) :
    VerificationRequest where
  requestId := toString req.requestId
  ethClaimTxHash := claimTxHash
  solanaTransferSignature := signature
  solanaDestination := solDest
  amount := toString req.amount
  token := req.token
  evidenceURL := none

/-- The body of the handler's `try`. -/
def processRequest (req : BridgeRequest) : Promise Unit := do
  let claimTxHash ← claim req.requestId
  let solDest ← destination env req.requestId
  let signature ← pay env req solDest
  let _ ← submitVerification env (verificationOf req claimTxHash solDest signature)
  return

def handleBridgeInitiated (req : BridgeRequest) : Promise Unit :=
  tryCatch (processRequest env req) fun _ => return

end

/-! ## What the parts await -/

/-- An operation that neither pays nor posts. -/
def Op.Apart : Op → Prop
  | .sendAndConfirmTransaction _ _ | .transfer _ _ _ | .post _ _ => False
  | _ => True

section Parts

variable {env : Setup} {A : Op → Prop}

theorem only_await {o : Op} (ho : A o) : (await o).Only A := Prog.only_call ho

theorem only_lift {α : Type} (x : Except JsError α) : (liftM x : Promise α).Only A :=
  Prog.only_ofExcept x

theorem only_claim {requestId : Int} : (claim requestId).Only Op.Apart := by
  have hclaimed : (isRequestClaimed requestId).Only Op.Apart := by
    refine (only_await trivial).bind fun answer => ?_
    obtain ⟨cl, now⟩ := answer
    dsimp only
    split <;> trivial
  refine hclaimed.bind fun claimed => ?_
  split
  · trivial
  · refine (only_await trivial).bind fun tx => (only_await trivial).bind fun status => ?_
    split <;> trivial

theorem only_destination {requestId : Int} : (destination env requestId).Only Op.Apart := by
  refine Prog.Only.tryCatch ?_ fun e => ?_
  · refine (only_await trivial).bind fun _ => (only_await trivial).bind fun br =>
      (only_await trivial).bind fun _ => (only_await trivial).bind fun value => ?_
    split <;> trivial
  · split <;> trivial

end Parts

/-! ## The world -/

/-- A claim of the node's wallet, on its way to the contract. -/
structure ClaimTx where
  requestId : Nat
  mined : Bool
  deriving DecidableEq

inductive Payment where
  | sol (dest : String) (lamports : Int)
  | spl (source destination : String) (amount : Int)
  deriving DecidableEq

/-- A transfer on Solana, with the call that sent it. -/
structure Transfer where
  caller : Nat
  payment : Payment
  deriving DecidableEq

structure World where
  evm : Evm.State
  /-- The requests whose solver the wallet is, or has been. -/
  registered : Nat → Bool
  /-- The service's clock, in milliseconds. -/
  clock : Nat
  claims : List ClaimTx
  /-- Transfers that were sent; each may have failed for its call. -/
  transfers : List Transfer

def Setup.claimTx (env : Setup) (requestId : Nat) : Evm.Tx env.ch.self :=
  ⟨env.wallet, env.bond, .claimBridge requestId, env.wallet_ne_zero, env.wallet_ne_contract⟩

namespace World

variable (env : Setup) (w : World)

/-- The chain moves on. -/
def setEvm (evm : Evm.State) : World :=
  { w with
    evm := evm
    registered := fun r => w.registered r || (evm.requestClaim r).solver == env.wallet }

def broadcast (requestId : Nat) : World := { w with claims := w.claims ++ [⟨requestId, false⟩] }

def pays (i : Nat) (payment : Payment) : World :=
  { w with transfers := w.transfers ++ [⟨i, payment⟩] }

/-- An operation of the `i`-th call succeeds with this answer. -/
def succeeds (i : Nat) : (o : Op) → o.Answer → World → Prop
  | .requestClaim requestId, answer, w' => ∃ r, uint256 requestId = some r ∧
      answer.1 = w.evm.requestClaim r ∧ w.clock ≤ answer.2 ∧ w' = w
  | .claimBridge requestId, tx, w' => ∃ r, uint256 requestId = some r ∧
      tx.index = w.claims.length ∧ w' = w.broadcast r
  | .wait tx, status, w' =>
      (status = some 1 → ∃ t, w.claims[tx]? = some t ∧ t.mined = true) ∧ w' = w
  | .fhevmInstance, _, w' => w' = w
  | .bridgeRequests requestId, br, w' =>
      ∃ r, uint256 requestId = some r ∧ br = w.evm.bridgeRequests r ∧ w' = w
  | .ensureDecryptionSignature, _, w' => w' = w
  | .userDecrypt handle, value, w' => (value = (0 : Nat) ∨
      .allowed handle env.wallet ∈ w.evm.log ∧ value = env.plaintext handle) ∧ w' = w
  | .sendAndConfirmTransaction dest lamports, _, w' => w' = w.pays i (.sol dest lamports)
  | .getOrCreateAssociatedTokenAccount mint owner, account, w' =>
      account = env.ata mint owner ∧ w' = w
  | .transfer source destination amount, _, w' => w' = w.pays i (.spl source destination amount)
  | .post _ _, _, w' => w' = w

/-- An operation fails; a transaction may have been sent all the same. -/
def fails (i : Nat) : Op → World → Prop
  | .claimBridge requestId, w' =>
      w' = w ∨ ∃ r, uint256 requestId = some r ∧ w' = w.broadcast r
  | .sendAndConfirmTransaction dest lamports, w' =>
      w' = w ∨ w' = w.pays i (.sol dest lamports)
  | .transfer source destination amount, w' =>
      w' = w ∨ w' = w.pays i (.spl source destination amount)
  | _, w' => w' = w

def answers (i : Nat) (o : Op) : Except JsError o.Answer → World → Prop
  | .ok a, w' => w.succeeds env i o a w'
  | .error _, w' => w.fails i o w'

/-- What happens around the service: the chain goes on, with whatever rivals
do there; a claim of the node is mined; time passes. -/
inductive Outside : World → World → Prop where
  | chain {w : World} {evm : Evm.State} (step : Evm.Step env.ch w.evm evm) :
      Outside w (w.setEvm env evm)
  | mined {w : World} {evm : Evm.State} (n : Nat) {t : ClaimTx} (sent : w.claims[n]? = some t)
      (pending : t.mined = false)
      (commits : Reentrancy.Commits (Evm.contract env.ch) (env.claimTx t.requestId) w.evm evm) :
      Outside w { w.setEvm env evm with claims := w.claims.set n { t with mined := true } }
  | clock {w : World} (clock : Nat) (later : w.clock ≤ clock) :
      Outside w { w with clock := clock }

/-- The world when the node starts. -/
structure Initial : Prop where
  reachable : Evm.Reachable env.ch w.evm
  registered : w.registered = fun r => (w.evm.requestClaim r).solver == env.wallet
  claims : w.claims = []
  transfers : w.transfers = []

end World

abbrev Calls := Pool api JsError Unit BridgeRequest World

/-- The service: an event starts a call. -/
def service (env : Setup) : Service api JsError Unit BridgeRequest World where
  handler := handleBridgeInitiated env
  answers := fun i w => w.answers env i
  outside := World.Outside env

end LunarysBridge.Node.EvmToSol
