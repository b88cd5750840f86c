/-
LunarysBridge.Relayer.Service — the relayer service: the two record
repositories, `SolService`, `EthService`, and the two handlers of
`VerificationService`.

Everything a handler awaits (the database, the two RPC nodes, a timer) is
an `Op`, and so is reading the clock; a handler is a `Promise`, a tree of
such operations. Log lines are left out.
-/
import LunarysBridge.Lib.Async
import LunarysBridge.Relayer.Data

namespace LunarysBridge.Relayer

open Async
open Evm (Address Bytes32)

/-- The accounts of `verify_and_settle`, before they are parsed. -/
structure SettleAccounts where
  payer : String
  escrowOwner : String
  escrowToken : String
  mint : String
  mxeAccount : Option String
  feePool : Option String
  clock : Option String

/-! ## Operations -/

inductive Op where
  | findOne (repo : Repo) (requestId : String)
  /-- `save` of a record that was just created. -/
  | insert (repo : Repo) (requestId : String) (row : Record repo)
  /-- `save` of a record that was found. -/
  | update (repo : Repo) (requestId : String) (row : Record repo)
  | getParsedTransaction (signature : String)
  | sleep (ms : Nat)
  /-- Keypair file, IDL and program client. -/
  | getAnchorCtx
  | rpcVerifyAndSettle (requestId : Nat) (evmTxHash evidence : List UInt8)
      (accounts : List String)
  | confirmTransaction (signature : String)
  | getBridgeRequest (requestId : Int)
  | requestClaim (requestId : Int)
  | getContractBalance (token : String)
  | send (call : ContractCall)
  /-- `tx.wait()` of a transaction that was sent. -/
  | wait (tx : Nat)
  | waitForTransaction (txHash : Option String) (confirmations : Nat)
  /-- `Date.now()` -/
  | dateNow

def Op.Answer : Op → Type
  | .findOne repo _ => Option (Record repo)
  | .insert _ _ _ => Unit
  | .update _ _ _ => Unit
  | .getParsedTransaction _ => Option ParsedTransaction
  | .sleep _ => Unit
  | .getAnchorCtx => Unit
  | .rpcVerifyAndSettle _ _ _ _ => String
  | .confirmTransaction _ => Option String
  | .getBridgeRequest _ => Evm.BridgeRequest
  | .requestClaim _ => Evm.Claim
  | .getContractBalance _ => Nat
  | .send _ => Nat
  | .wait _ => Option TransactionReceipt
  | .waitForTransaction _ _ => Option TransactionReceipt
  | .dateNow => Nat

abbrev api : Interface := ⟨Op, Op.Answer⟩

abbrev Promise (α : Type) := Prog api JsError α

def await (o : Op) : Promise o.Answer := @Prog.call api JsError o

section Await

variable (repo : Repo) (signature : String)

def findOne (requestId : String) : Promise (Option (Record repo)) :=
  await (.findOne repo requestId)

def insert (requestId : String) (row : Record repo) : Promise Unit :=
  await (.insert repo requestId row)

def update (requestId : String) (row : Record repo) : Promise Unit :=
  await (.update repo requestId row)

def getParsedTransaction : Promise (Option ParsedTransaction) :=
  await (.getParsedTransaction signature)

def sleep (ms : Nat) : Promise Unit := await (.sleep ms)

def getAnchorCtx : Promise Unit := await .getAnchorCtx

def rpcVerifyAndSettle (requestId : Nat) (evmTxHash evidence : List UInt8)
    (accounts : List String) : Promise String :=
  await (.rpcVerifyAndSettle requestId evmTxHash evidence accounts)

def confirmTransaction : Promise (Option String) := await (.confirmTransaction signature)

def send (call : ContractCall) : Promise Nat := await (.send call)

def wait (tx : Nat) : Promise (Option TransactionReceipt) := await (.wait tx)

def waitForTransaction (txHash : Option String) (confirmations : Nat) :
    Promise (Option TransactionReceipt) :=
  await (.waitForTransaction txHash confirmations)

def dateNow : Promise Nat := await .dateNow

end Await

/-! ## Repositories -/

/-- `Object.assign(existing, data)` and `save`: a field that `data` does not
have, or has as `undefined`, keeps what the row has. -/
def EvmToSolColumns.assign (row data : EvmToSolColumns) : EvmToSolColumns :=
  { data with
    ethClaimTxHash := data.ethClaimTxHash <|> row.ethClaimTxHash
    tokenSolMint := data.tokenSolMint <|> row.tokenSolMint
    amountSol := data.amountSol <|> row.amountSol
    destTxHash := data.destTxHash <|> row.destTxHash
    evidenceHash := data.evidenceHash <|> row.evidenceHash
    evidenceURL := data.evidenceURL <|> row.evidenceURL }

def SolToEvmColumns.assign (row data : SolToEvmColumns) : SolToEvmColumns :=
  { data with
    solanaMint := data.solanaMint <|> row.solanaMint
    amountEvm := data.amountEvm <|> row.amountEvm }

def Repo.assign : (repo : Repo) → repo.Columns → repo.Columns → repo.Columns
  | .evmToSol => EvmToSolColumns.assign
  | .solToEvm => SolToEvmColumns.assign

def Repo.recordName : Repo → String
  | .evmToSol => "EvmToSolRecord"
  | .solToEvm => "SolToEvmRecord"

section Repositories

variable (repo : Repo) (requestId : String)

/-- `upsertReceived` of both repositories. -/
def upsertReceived (data : repo.Columns) : Promise Unit := do
  match ← findOne repo requestId with
  | some existing =>
      update repo requestId { existing with
        status := .RECEIVED
        columns := repo.assign existing.columns data }
  | none =>
      insert repo requestId
        { status := .RECEIVED
          columns := data
          settlementTxHash := none
          lastError := none }

/-- `markVerified` of both repositories. -/
def markVerified (patch : repo.Columns → repo.Columns) : Promise Unit := do
  match ← findOne repo requestId with
  | none => throw ⟨.Error, repo.recordName ++ " not found"⟩
  | some row =>
      update repo requestId { row with status := .VERIFIED, columns := patch row.columns }

/-- `markSettled` of both repositories. -/
def markSettled (settlementTxHash : Option String) (patch : repo.Columns → repo.Columns) :
    Promise Unit := do
  match ← findOne repo requestId with
  | none => throw ⟨.Error, repo.recordName ++ " not found"⟩
  | some row =>
      update repo requestId { row with
        status := .SETTLED
        columns := patch row.columns
        settlementTxHash :=
          if falsy settlementTxHash then row.settlementTxHash else settlementTxHash }

/-- `markFailed` of both repositories, with the message of the error. -/
def markFailed (message : String) : Promise Unit := do
  match ← findOne repo requestId with
  | none => return
  | some row =>
      update repo requestId { row with status := .FAILED, lastError := some message }

/-- The record is marked as failed and the request refused. -/
def reject {α : Type} (message : String) : Promise α := do
  markFailed repo requestId message
  throw (badRequest message)

def rejectIf (cond : Prop) [Decidable cond] (message : String) : Promise Unit :=
  if cond then reject repo requestId message else return

end Repositories

variable (lib : Libs) (cfg : Config)

/-! ## SolService -/

/-- What one try of `getTxWithRetry` decides; `none` is another try. -/
def tryTx : Option ParsedTransaction → Option (Except JsError ParsedTransaction)
  | none => none
  | some tx =>
      match tx.meta? with
      | none => none
      | some info =>
          match info.err with
          | some err => some (.error (badRequest ("Solana tx failed: " ++ err)))
          | none => some (.ok tx)

/-- `getTxWithRetry` after `i` tries, with `tries` left. -/
def getTxWithRetry (sig : String) : (tries i : Nat) → Option ParsedTransaction →
    Promise ParsedTransaction
  | 0, _, none => throw (badRequest "Solana tx not found")
  | 0, _, some tx =>
      if tx.meta?.isNone then throw (badRequest "Solana tx meta not available yet")
      else return tx
  | tries + 1, i, _ => do
      let last ← getParsedTransaction sig
      match tryTx last with
      | some result => result
      | none =>
          sleep (400 * (i + 1))
          getTxWithRetry sig tries (i + 1) last

structure VerifyTransferParams where
  signature : String
  recipient : String
  amount : Int
  mint : Option String

structure VerifyDepositParams where
  signature : String
  vault : String
  amount : Int
  mint : Option String
  programId : Option String

def verifyTransfer (p : VerifyTransferParams) : Promise ParsedTransaction := do
  let owner ← lib.publicKey p.recipient
  let tx ← getTxWithRetry p.signature 6 0 none
  if falsy p.mint then
    match tx.accountKeys.findIdx? (· == owner) with
    | none => throw (badRequest "Recipient not in message keys")
    | some idx =>
        if tx.lamportDelta idx < p.amount then
          throw (badRequest ("SOL delta " ++ toString (tx.lamportDelta idx) ++
            " < expected " ++ toString p.amount))
        else return tx
  else
    let mint ← lib.publicKey (p.mint.getD "")
    let _ata ← lib.getAssociatedTokenAddress mint owner false
    if tx.tokenDelta owner mint < p.amount then
      throw (badRequest ("SPL delta " ++ toString (tx.tokenDelta owner mint) ++
        " < expected " ++ toString p.amount))
    else return tx

def checkProgram (programId : Option String) (tx : ParsedTransaction) : Except JsError Unit :=
  if falsy programId ∨ programId.getD "" ∈ tx.accountKeys then .ok ()
  else .error (badRequest "Bridge program not invoked in this tx")

def verifyDeposit (p : VerifyDepositParams) : Promise ParsedTransaction := do
  let tx ← getTxWithRetry p.signature 6 0 none
  checkProgram p.programId tx
  let vault ← lib.publicKey p.vault
  if falsy p.mint then
    match tx.accountKeys.findIdx? (· == vault) with
    | none => throw (badRequest "Vault not in message keys")
    | some idx =>
        if tx.lamportDelta idx < p.amount then
          throw (badRequest ("Vault SOL delta " ++ toString (tx.lamportDelta idx) ++
            " < expected " ++ toString p.amount))
        else return tx
  else
    let mint ← lib.publicKey (p.mint.getD "")
    if tx.tokenDelta vault mint < p.amount then
      throw (badRequest ("Vault SPL delta " ++ toString (tx.tokenDelta vault mint) ++
        " < expected " ++ toString p.amount))
    else return tx

/-- A byte of `parseInt(_, 16)` on two characters; not a number is 0. -/
def parseByte (a b : Char) : UInt8 :=
  match hexDigit a, hexDigit b with
  | some x, some y => .ofNat (16 * x + y)
  | some x, none => .ofNat x
  | none, some y =>
      if isSpace a ∨ a = '+' then .ofNat y else if a = '-' then 0 - .ofNat y else 0
  | none, none => 0

def parseBytes : List Char → List UInt8
  | a :: b :: rest => parseByte a b :: parseBytes rest
  | _ => []

def hex32ToBytes (hex : Option String) : Except JsError (List UInt8) :=
  match hex with
  | none => .error
      ⟨.TypeError, "Cannot read properties of undefined (reading 'startsWith')"⟩
  | some hex =>
      let h := match hex.toList with
        | '0' :: 'x' :: cs => cs
        | cs => cs
      if h.length ≠ 64 then
        .error (badRequest ("expected 32-byte hex, got len=" ++ toString h.length))
      else .ok (parseBytes h)

def toBNu128 (x : String) : Except JsError Nat :=
  match bigInt x with
  | .error e => .error e
  | .ok b =>
      if b < 0 ∨ 2 ^ 128 - 1 < b then .error (badRequest "requestId out of u128 range")
      else .ok b.toNat

/-- `new PublicKey(_)` of a value that may be missing. -/
def publicKeyOf (value : Option String) : Except JsError String :=
  match value with
  | none => .error ⟨.TypeError, "Cannot read properties of undefined (reading '_bn')"⟩
  | some s => lib.publicKey s

/-- `rpc()` and the confirmation of what it sent. -/
def submitVerifyAndSettle (requestId : Nat) (evmTxHash : List UInt8)
    (accounts : List String) : Promise String := do
  let sig ← rpcVerifyAndSettle requestId evmTxHash (List.replicate 32 0) accounts
  match ← confirmTransaction sig with
  | some err => throw (badRequest ("verify_and_settle failed: " ++ err))
  | none => return sig

/-- `verifyAndSettleOnSolana`; no caller gives it an `evidenceHash`. -/
def verifyAndSettleOnSolana (requestId : String) (evmTransferTxHash : Option String)
    (accounts : SettleAccounts) : Promise String := do
  getAnchorCtx
  let requestIdBn ← toBNu128 requestId
  let evmTxHash ← hex32ToBytes evmTransferTxHash
  let payer ← lib.publicKey accounts.payer
  let escrowOwner ← lib.publicKey accounts.escrowOwner
  let escrowToken ← lib.publicKey accounts.escrowToken
  let mint ← lib.publicKey accounts.mint
  let mxeAccount ← publicKeyOf lib accounts.mxeAccount
  let feePool ← publicKeyOf lib accounts.feePool
  let clock ← publicKeyOf lib accounts.clock
  tryCatch
    (submitVerifyAndSettle requestIdBn evmTxHash
      [payer, escrowOwner, escrowToken, mint, mxeAccount, feePool, clock])
    fun e => throw (badRequest e.message)

/-! ## EthService -/

/-- `send` and `wait`. -/
def transact (call : ContractCall) : Promise (Option TransactionReceipt) := do
  let tx ← send call
  wait tx

def verifyAndSettle (requestId : Int) (destTxHash evidenceHash : Bytes32)
    (evidenceURL : Option String) : Promise (Option TransactionReceipt) :=
  if falsy evidenceURL then transact (.verifyAndSettle requestId destTxHash evidenceHash)
  else transact
    (.verifyAndSettleURL requestId destTxHash evidenceHash (evidenceURL.getD ""))

def deliverTokens (recipient token : String) (amount : Int) :
    Promise (Option TransactionReceipt) :=
  transact (.deliverTokens recipient token amount)

/-- A read of the contract that gives `fallback` when it fails. -/
def readOr {α : Type} (read : Op) (view : read.Answer → α) (fallback : α) : Promise α :=
  tryCatch (view <$> await read) fun _ => pure fallback

def getBridgeRequest (requestId : Int) : Promise (Option Evm.BridgeRequest) :=
  readOr (.getBridgeRequest requestId) some none

def getClaim (requestId : Int) : Promise (Option Evm.Claim) :=
  readOr (.requestClaim requestId) some none

def getContractTokenBalance (token : String) : Promise Nat :=
  readOr (.getContractBalance token) id (0 : Nat)

def zeroEthSentinel : String := "0xeeeeeeeeeeeeeeeeeeeeeeeeeeeeeeeeeeeeeeee"

/-- `id('Transfer(address,address,uint256)')` -/
def erc20TransferTopic : String :=
  "0xddf252ad1be2c89b69c2b068fc378daa952ba7f163c4a11628f55a4df523b3ef"

/-- A log of the token for a transfer. -/
def EventLog.isTransfer (token : String) (l : EventLog) : Bool :=
  toLowerCase l.address == toLowerCase token && l.topic0 == some erc20TransferTopic

/-- The transfer is this one. -/
def EventLog.pays (recipient : String) (amount : Int) (l : EventLog) : Bool :=
  match l.decoded with
  | some (payee, value) => toLowerCase payee == toLowerCase recipient && value == amount
  | none => false

/-- The receipt of `verifyEvmDelivery`; `what` begins the message of a
transaction that reverted. -/
def successfulReceipt (txHash : Option String) (minConf : Nat) (what : String) :
    Promise TransactionReceipt := do
  match ← waitForTransaction txHash minConf with
  | none => throw ⟨.Error, "No receipt for tx " ++ txHash.getD "undefined"⟩
  | some rcpt =>
      if rcpt.status ≠ some 1 then
        throw ⟨.Error, what ++ " reverted (status=" ++
          ((rcpt.status.map toString).getD "null") ++ ")"⟩
      else return rcpt

def verifyEvmDelivery (txHash : Option String) (token recipient : String) (amount : Int) :
    Promise Unit := do
  if toLowerCase token = zeroEthSentinel then
    let _ ← successfulReceipt txHash cfg.minConfirmations "Native transfer"
  else
    let rcpt ← successfulReceipt txHash cfg.minConfirmations "Tx"
    let logs := rcpt.logs.filter (·.isTransfer token)
    if logs = [] then
      throw ⟨.Error, "No ERC20 Transfer logs for token " ++ token ++ " in tx " ++
        txHash.getD "undefined"⟩
    else if logs.any (·.pays recipient amount) = false then
      throw ⟨.Error, "ERC20 Transfer(to=" ++ recipient ++ ", amt=" ++ toString amount ++
        ") not found in tx " ++ txHash.getD "undefined"⟩
    else return

/-! ## VerificationService -/

/-- What a handler answers. -/
inductive Reply where
  | verified (ethTx : Option String)
  | delivered (ethTx : Option String)
  deriving DecidableEq

/-! ### EVM → SOL -/

section EvmToSol

variable (dto : EvmToSolVerificationDto)

/-- Sections 2 and 3 of `handleEvmToSol`: the amount in SPL units, and the
mint. -/
def resolveAmount : Promise (Int × String) := do
  rejectIf .evmToSol dto.requestId (dto.solanaTransferSignature = "")
    "Missing Solana signature"
  rejectIf .evmToSol dto.requestId (dto.solanaDestination = "")
    "Missing Solana destination"
  let evmAmt ← tryCatch (liftM (bigInt dto.amount) : Promise Int) fun _ =>
    reject .evmToSol dto.requestId "Invalid amount format"
  rejectIf .evmToSol dto.requestId (evmAmt ≤ 0) "Amount must be greater than 0"
  match findTokenInfo cfg dto.token with
  | none =>
      reject .evmToSol dto.requestId
        "Unknown ERC20→SPL mapping. Configure TOKEN_USDC / TOKEN_SOL (and decimals) in env."
  | some entry =>
      let mapping ← entry.read "mint"
      rejectIf .evmToSol dto.requestId (mapping.sol.mint = "")
        "Missing SPL mint in token mapping"
      return (adjustToSolDecimals evmAmt mapping, mapping.sol.mint)

/-- Section 4: the Solana leg. -/
def checkSolanaLeg (solAmount : Int) (mint : String) : Promise Unit :=
  tryCatch
    (do
      let _ ← verifyTransfer lib
        { signature := dto.solanaTransferSignature
          recipient := dto.solanaDestination
          amount := solAmount
          mint := some mint })
    fun e => reject .evmToSol dto.requestId
      ("[EVM->SOL] Solana transfer verification failed: " ++ e.message)

/-- Section 6: the request and the claim on the EVM side. -/
def precheckRequest (requestId : Int) : Promise Unit := do
  let br ← getBridgeRequest requestId
  rejectIf .evmToSol dto.requestId (∀ r ∈ br, r.sender = 0) "Bridge request not found on EVM"
  rejectIf .evmToSol dto.requestId (∃ r ∈ br, r.finalized) "Request is already finalized"
  let cl ← getClaim requestId
  rejectIf .evmToSol dto.requestId (∀ c ∈ cl, c.solver = 0) "No active claim for this request"
  let now ← dateNow
  rejectIf .evmToSol dto.requestId (∃ c ∈ cl, c.deadline < now / 1000)
    "Claim already expired"

/-- Section 8: the settlement. -/
def settleRequest (requestId : Int) (destTxHash evidenceHash : Bytes32) : Promise Reply :=
  tryCatch
    (do
      let receipt ← verifyAndSettle requestId destTxHash evidenceHash dto.evidenceURL
      markSettled .evmToSol dto.requestId (receipt.bind (·.transactionHash)) id
      return .verified (receipt.bind (·.transactionHash)))
    fun e => do
      markFailed .evmToSol dto.requestId e.message
      throw e

def handleEvmToSol : Promise Reply := do
  upsertReceived .evmToSol dto.requestId
    { tokenEvm := dto.token
      amountEvm := dto.amount
      ethClaimTxHash := some dto.ethClaimTxHash
      solanaSignature := dto.solanaTransferSignature
      solanaRecipient := dto.solanaDestination
      tokenSolMint := none
      amountSol := none
      destTxHash := none
      evidenceHash := none
      evidenceURL := dto.evidenceURL }
  let (solAmount, mint) ← resolveAmount cfg dto
  checkSolanaLeg lib dto solAmount mint
  let requestId ← bigInt dto.requestId
  let destTxHash := lib.keccak256 dto.solanaTransferSignature
  let evidenceHash :=
    lib.keccak256 (dto.token ++ "|" ++ dto.amount ++ "|" ++ dto.solanaDestination)
  precheckRequest dto requestId
  markVerified .evmToSol dto.requestId fun row =>
    { row with
      destTxHash := some destTxHash
      evidenceHash := some evidenceHash
      tokenSolMint := some mint
      amountSol := some (toString solAmount) }
  settleRequest dto requestId destTxHash evidenceHash

end EvmToSol

/-! ### SOL → EVM -/

section SolToEvm

variable (dto : SolToEvmVerificationDto)

/-- The mapping that is used for a token of the table, or of no table. -/
def mappingFor : TableEntry :=
  (findTokenInfo cfg dto.evmToken).getD
    (.own { name := "Unknown", evm := ⟨dto.evmToken, 18⟩, sol := ⟨dto.solanaMint.getD "", 9⟩ })

/-- What `handleSolToEvm` asks of `verifyDeposit`. -/
def depositParams (amount : Int) : VerifyDepositParams where
  signature := dto.solanaDepositSignature
  vault := dto.solanaVault
  amount := amount
  mint := dto.solanaMint
  programId := none

/-- Sections 1 to 3 of `handleSolToEvm`: the deposit on Solana, and the
amount in EVM units. -/
def checkDeposit : Promise (TokenInfo × Int) := do
  rejectIf .solToEvm dto.requestId (lib.isAddress dto.evmRecipient = false)
    "Invalid EVM recipient"
  rejectIf .solToEvm dto.requestId (lib.isAddress dto.evmToken = false)
    "Invalid EVM token address"
  let amount ← bigInt dto.amount
  let _ ← verifyDeposit lib (depositParams dto amount)
  markVerified .solToEvm dto.requestId id
  let mapping ← (mappingFor cfg dto).read "decimals"
  let evmAmount ← adjustToEvmDecimals amount mapping
  return (mapping, evmAmount)

/-- Section 4: the balance of the bridge. -/
def precheckBalance (evmAmount : Int) : Promise Unit := do
  let contractBal ← getContractTokenBalance dto.evmToken
  rejectIf .solToEvm dto.requestId ((contractBal : Int) < evmAmount)
    ("Insufficient bridge balance on EVM (" ++ toString contractBal ++ " < " ++
      toString evmAmount ++ ")")
  rejectIf .solToEvm dto.requestId (evmAmount ≤ 0) "Amount must be greater than 0"

/-- The escrow account of section 6. -/
def escrowAccount (mintB58 : String) : Except JsError String :=
  if mintB58 = "" then .ok dto.solanaVault
  else do
    let mint ← lib.publicKey mintB58
    let vault ← lib.publicKey dto.solanaVault
    lib.getAssociatedTokenAddress mint vault true

/-- Section 6: the request is closed on the Solana side. -/
def closeOnSolana (mapping : TokenInfo) (evmTransferTxHash : Option String) :
    Promise Unit := do
  let mintB58 := dto.solanaMint.getD mapping.sol.mint
  let escrowTokenB58 ← escrowAccount lib dto mintB58
  let _ ← verifyAndSettleOnSolana lib dto.requestId evmTransferTxHash
    { payer := if falsy cfg.relayerPubkey then dto.solanaVault else cfg.relayerPubkey.getD ""
      escrowOwner := dto.solanaVault
      escrowToken := escrowTokenB58
      mint := if mintB58 = "" then systemProgramId else mintB58
      mxeAccount := cfg.mxePda
      feePool := cfg.feePool
      clock := cfg.clock }

/-- Sections 5.a to 7: what follows the delivery. -/
def confirmDelivery (mapping : TokenInfo) (evmAmount : Int)
    (receipt : Option TransactionReceipt) : Promise Reply := do
  let txHash := receipt.bind (·.transactionHash)
  tryCatch (verifyEvmDelivery cfg txHash dto.evmToken dto.evmRecipient evmAmount)
    fun e => reject .solToEvm dto.requestId
      ("[SOL->EVM] EVM delivery verification failed: " ++ e.message)
  tryCatch (closeOnSolana lib cfg dto mapping txHash)
    fun e => reject .solToEvm dto.requestId
      ("[SOL->EVM] verify_and_settle on Solana failed: " ++ e.message)
  markSettled .solToEvm dto.requestId txHash fun row =>
    { row with amountEvm := some (toString evmAmount) }
  return .delivered txHash

def handleSolToEvm : Promise Reply := do
  upsertReceived .solToEvm dto.requestId
    { solanaDepositSignature := dto.solanaDepositSignature
      solanaVault := dto.solanaVault
      solanaMint := some (dto.solanaMint.getD "")
      amountSol := dto.amount
      evmRecipient := dto.evmRecipient
      evmToken := dto.evmToken
      amountEvm := none }
  let (mapping, evmAmount) ← checkDeposit lib cfg dto
  precheckBalance dto evmAmount
  tryCatch
    (do
      let receipt ← deliverTokens dto.evmRecipient dto.evmToken evmAmount
      confirmDelivery lib cfg dto mapping evmAmount receipt)
    fun e => do
      markFailed .solToEvm dto.requestId e.message
      throw e

end SolToEvm

/-! ### The controller -/

/-- A `POST` of one of the two routes. -/
inductive Request where
  | evmToSol (dto : EvmToSolVerificationDto)
  | solToEvm (dto : SolToEvmVerificationDto)
  deriving DecidableEq

def handle : Request → Promise Reply
  | .evmToSol dto => handleEvmToSol lib cfg dto
  | .solToEvm dto => handleSolToEvm lib cfg dto

end LunarysBridge.Relayer
