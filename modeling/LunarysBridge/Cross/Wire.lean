/-
LunarysBridge.Cross.Wire — what a node posts, as the relayer reads it.

Node and relayer were written with their own types for the two messages. A
submission agrees if it goes to the path of the handler, passes the checks
the handler makes on its fields, and is read with the values the node took
from the event. Between EVM and Solana the two types are the same, and a
submission agrees if the relayer maps its token (`submission_agrees_iff`).
Between Solana and EVM they share three names, and no submission agrees. The
token header that `ApiTokenGuard` asks for is not part of the body.
-/
import LunarysBridge.Node.Submissions
import LunarysBridge.Relayer.Body

namespace LunarysBridge

open Node
open Relayer (Body EvmToSolVerificationDto badRequest bigInt toLowerCase)

/-! ## Bodies of the node's requests -/

/-- `JSON.stringify` leaves out what is `undefined`. -/
def optional (name : String) (value : Option String) : Body := (value.map (name, ·)).toList

def Node.EvmToSol.VerificationRequest.body (request : EvmToSol.VerificationRequest) : Body :=
  [("requestId", request.requestId),
   ("ethClaimTxHash", request.ethClaimTxHash),
   ("solanaTransferSignature", request.solanaTransferSignature),
   ("solanaDestination", request.solanaDestination),
   ("amount", request.amount),
   ("token", request.token)] ++ optional "evidenceURL" request.evidenceURL

def Node.SolToEvm.VerificationRequestSolToEvm.body
    (request : SolToEvm.VerificationRequestSolToEvm) : Body :=
  [("requestId", request.requestId),
   ("solClaimSignature", request.solClaimSignature),
   ("evmTransferTxHash", request.evmTransferTxHash),
   ("evmDestination", request.evmDestination),
   ("amount", request.amount),
   ("token", request.token)] ++ optional "evidenceURL" request.evidenceURL

/-! ## Submissions -/

/-- A node and a relayer; both read keys with the same library. -/
structure Deployment where
  evmToSol : EvmToSol.Setup
  solToEvm : SolToEvm.Env
  relayer : Relayer.Setup
  publicKey_eq : evmToSol.publicKey = relayer.lib.publicKey
  publicKey_empty : ∀ key, relayer.lib.publicKey "" ≠ .ok key

/-- An event, and what is posted for it. -/
inductive Submission where
  | evmToSol (req : EvmToSol.BridgeRequest) (path : String)
      (request : EvmToSol.VerificationRequest)
  | solToEvm (ev : SolToEvm.SolBridgeRequest) (path : String)
      (request : SolToEvm.VerificationRequestSolToEvm)

namespace Submission

variable (d : Deployment)

/-- The node may post it. -/
def Posted : Submission → Prop
  | .evmToSol req path request => EvmToSol.Posts d.evmToSol req path request
  | .solToEvm ev path request => SolToEvm.Posts d.solToEvm ev path request

/-- The relayer accepts it, and reads the values of the event. -/
def Agrees : Submission → Prop
  | .evmToSol req path request =>
      path = Relayer.evmToSolPath ∧
      Relayer.checkEvmToSol d.relayer.lib d.relayer.cfg request.body = .ok () ∧
      ∃ dto, Relayer.readEvmToSol request.body = some dto ∧
        bigInt dto.requestId = .ok req.requestId ∧
        dto.ethClaimTxHash = request.ethClaimTxHash ∧
        dto.solanaTransferSignature = request.solanaTransferSignature ∧
        dto.solanaDestination = request.solanaDestination ∧
        bigInt dto.amount = .ok req.amount ∧ dto.token = req.token ∧
        dto.evidenceURL = request.evidenceURL
  | .solToEvm ev path request =>
      path = Relayer.solToEvmPath ∧
      Relayer.checkSolToEvm d.relayer.lib request.body = .ok () ∧
      ∃ dto, Relayer.readSolToEvm request.body = some dto ∧
        bigInt dto.requestId = .ok ev.requestId ∧
        dto.solanaDepositSignature = request.solClaimSignature ∧
        dto.evmRecipient = request.evmDestination ∧ dto.evmToken = request.token ∧
        bigInt dto.amount = .ok ev.amountAfterFee

/-- It is from EVM to Solana, of an amount of the token the relayer maps. -/
def Mapped : Submission → Prop
  | .evmToSol req _ _ => 0 < req.amount ∧
      toLowerCase req.token = toLowerCase d.relayer.cfg.tokenUsdc ∧ d.relayer.cfg.tokenSol ≠ ""
  | .solToEvm _ _ _ => False

end Submission

variable {d : Deployment}

/-! ## From EVM to Solana -/

/-- The relayer reads the request of the node, field by field. -/
theorem readEvmToSol_body {request : EvmToSol.VerificationRequest} :
    Relayer.readEvmToSol request.body = some
      { requestId := request.requestId
        ethClaimTxHash := request.ethClaimTxHash
        solanaTransferSignature := request.solanaTransferSignature
        solanaDestination := request.solanaDestination
        amount := request.amount
        token := request.token
        evidenceURL := request.evidenceURL } := by
  obtain ⟨_, _, _, _, _, _, evidenceURL⟩ := request
  cases evidenceURL <;> rfl

theorem findTokenInfo_eq_own {cfg : Relayer.Config} {token : String} :
    Relayer.findTokenInfo cfg token = some (.own (Relayer.tokenEntry cfg)) ↔
      toLowerCase token = toLowerCase cfg.tokenUsdc := by
  simp only [Relayer.findTokenInfo]
  split
  · next h => simp [h]
  · next h =>
    split <;> simp [h]

/-- The relayer's checks of a request that the node posts. -/
theorem checkEvmToSol_posted {req : EvmToSol.BridgeRequest} {path : String}
    {request : EvmToSol.VerificationRequest} (h : EvmToSol.Posts d.evmToSol req path request) :
    Relayer.checkEvmToSol d.relayer.lib d.relayer.cfg request.body = .ok () ↔
      (Submission.evmToSol req path request).Mapped d := by
  obtain ⟨-, rfl, claimTxHash, solDest, signature, -, ⟨⟨key, hkey⟩, -⟩, hsigned, rfl⟩ :=
    EvmToSol.posts_iff.mp h
  rw [d.publicKey_eq] at hkey
  have hdest : solDest ≠ "" := by
    rintro rfl
    exact d.publicKey_empty key hkey
  rw [Relayer.checkEvmToSol_ok readEvmToSol_body]
  constructor
  · intro hresolves
    obtain ⟨⟨_, _, -, -, ⟨amount, hamount, hpos, -⟩, hmapped, hmint, rfl⟩, -⟩ := hresolves
    rw [EvmToSol.verificationOf, Relayer.bigInt_toString] at hamount
    cases hamount
    exact ⟨hpos, findTokenInfo_eq_own.mp hmapped, hmint⟩
  · intro hspec
    obtain ⟨hpos, htoken, hmint⟩ := hspec
    exact ⟨⟨_, _, hsigned, hdest, ⟨req.amount, Relayer.bigInt_toString _, hpos, rfl⟩,
      findTokenInfo_eq_own.mpr htoken, hmint, rfl⟩, key, hkey⟩

/-! ## From Solana to EVM -/

/-- There is no recipient in the request of the node. -/
theorem checkSolToEvm_body {lib : Relayer.Libs} {request : SolToEvm.VerificationRequestSolToEvm} :
    Relayer.checkSolToEvm lib request.body = .error (badRequest "Invalid EVM recipient") := by
  obtain ⟨_, _, _, _, _, _, evidenceURL⟩ := request
  cases evidenceURL <;> rfl

/-! ## Agreement -/

/-- **What is posted agrees if it is mapped, and not otherwise.** -/
theorem submission_agrees_iff {sub : Submission} (h : sub.Posted d) :
    sub.Agrees d ↔ sub.Mapped d := by
  cases sub with
  | evmToSol req path request =>
      have hcheck := checkEvmToSol_posted h
      constructor
      · intro hagrees
        exact hcheck.mp hagrees.2.1
      · intro hmapped
        obtain ⟨-, hpath, _, _, _, -, -, -, rfl⟩ := EvmToSol.posts_iff.mp h
        exact ⟨hpath, hcheck.mpr hmapped, _, readEvmToSol_body, Relayer.bigInt_toString _, rfl,
          rfl, rfl, Relayer.bigInt_toString _, rfl, rfl⟩
  | solToEvm ev path request =>
      refine iff_of_false (fun hagrees => ?_) id
      obtain ⟨-, hcheck, -⟩ := hagrees
      rw [checkSolToEvm_body] at hcheck
      cases hcheck

/-! ## One deployment -/

namespace Wire.Sample

/-- Keys are read as they are, but not the empty string. -/
def publicKey (s : String) : Except Relayer.JsError String :=
  if s = "" then .error ⟨.Error, "Invalid public key input"⟩ else .ok s

def relayer : Relayer.Setup :=
  { Relayer.Sample.setup with lib := { Relayer.Sample.lib with publicKey := publicKey } }

def usdc : TokenMapping := ⟨Relayer.Sample.token, Relayer.Sample.mint, ⟨6, 6⟩⟩

theorem wallet_ne_zero : (5 : Evm.Address) ≠ 0 := Evm.Sample.solver_ne.1

theorem wallet_ne_contract : (5 : Evm.Address) ≠ Evm.Sample.chain.self := Evm.Sample.solver_ne.2

def node : EvmToSol.Setup where
  table := fun chainId => if chainId = 31337 then some [usdc] else none
  chainId := 31337
  testSolDest := some Relayer.Sample.owner
  relayerApi := true
  publicKey := publicKey
  ata := fun mint owner => mint ++ "/" ++ owner
  bs58 := fun bytes => String.ofList (bytes.map fun b => Nat.digitChar (b.toNat % 16))
  solWallet := Relayer.Sample.vault
  ch := Evm.Sample.chain
  wallet := 5
  bond := 2 * 10 ^ 16
  plaintext := fun handle => handle.toNat
  wallet_ne_zero := wallet_ne_zero
  wallet_ne_contract := wallet_ne_contract

def deployment : Deployment where
  evmToSol := node
  solToEvm := SolToEvm.Sample.node
  relayer := relayer
  publicKey_eq := rfl
  publicKey_empty := fun _ h => nomatch h

/-- One unit of the token. -/
def initiated : EvmToSol.BridgeRequest := ⟨1, Relayer.Sample.token, 1⟩

def request : EvmToSol.VerificationRequest :=
  EvmToSol.verificationOf initiated "(already-claimed)" Relayer.Sample.owner
    Relayer.Sample.signature

theorem payable : EvmToSol.Payable node initiated Relayer.Sample.owner :=
  ⟨⟨_, rfl⟩, .inr ⟨usdc, _, by decide +kernel, rfl⟩⟩

theorem posted : (Submission.evmToSol initiated Relayer.evmToSolPath request).Posted deployment :=
  EvmToSol.posts_iff.mpr ⟨rfl, rfl, _, _, _, .inr ⟨by decide, rfl⟩, payable, by decide, rfl⟩

end Wire.Sample

theorem submission_agrees_usdc :
    (Submission.evmToSol Wire.Sample.initiated Relayer.evmToSolPath Wire.Sample.request).Agrees
      Wire.Sample.deployment :=
  (submission_agrees_iff Wire.Sample.posted).mpr ⟨by decide, rfl, by decide⟩

/-- A deposit of one SOL is posted, and refused for want of a recipient. -/
theorem deposit_refused : ∃ request, (Submission.solToEvm SolToEvm.Sample.wsol
    Relayer.solToEvmPath request).Posted Wire.Sample.deployment ∧
    ¬ (Submission.solToEvm SolToEvm.Sample.wsol Relayer.solToEvmPath request).Agrees
      Wire.Sample.deployment := by
  have hread : SolToEvm.Readable SolToEvm.Sample.node _ :=
    ⟨Solana.Sample.bytes32 11, ⟨0, 0, 0, 0, 0⟩, rfl, rfl⟩
  refine ⟨SolToEvm.verificationOf SolToEvm.Sample.node SolToEvm.Sample.wsol "" _ "",
    SolToEvm.posts_iff.mpr ⟨rfl, rfl, SolToEvm.Sample.wsol_processable, _, _, _, hread, rfl⟩, ?_⟩
  intro hagrees
  have hcheck := hagrees.2.1
  rw [checkSolToEvm_body] at hcheck
  cases hcheck

end LunarysBridge
