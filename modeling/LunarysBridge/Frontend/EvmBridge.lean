/-
LunarysBridge.Frontend.EvmBridge — a deposit on EVM, from the form to the
chain.

`bridge` of `useEvmBridge` checks the form, asks the wallet for what is
missing and hands over to `evmToSolBridge`, which encrypts the destination,
approves the amount where the allowance is too small, and deposits. A call
has captured what its component last rendered (`Render`), and goes on with it
whatever the wallet says afterwards: the account the destination is encrypted
for and the signer that deposits come from two places, and need not be the
same.

What is awaited is an `Op`. The wallet is on the chain of the contract, and
what it has sent may be mined there at any later moment, or never.
-/
import LunarysBridge.Fhevm.Hook
import LunarysBridge.Frontend.Destination
import LunarysBridge.Evm.Initiated
import LunarysBridge.Lib.Async
import LunarysBridge.Relayer.World

namespace LunarysBridge.Frontend.EvmBridge

open Async
open Evm (Address Bytes32 Handle)
open Fhevm (FhevmGoState)
open Relayer (JsError uint256)

/-! ## What the form works on -/

/-- The fields that are read of a token of the configuration. -/
structure EvmTokenConfig where
  address : Address
  decimals : Nat
  deriving DecidableEq

/-- Configuration and libraries, and the contract on its chain. -/
structure Setup where
  ch : Evm.Chain
  bs58 : Bs58
  /-- `TOKENS_BY_CHAIN[chainId]?.[symbol]` -/
  tokens : Nat → String → Option EvmTokenConfig
  /-- `ethers.parseUnits` -/
  parseUnits : String → Nat → Except JsError Int
  /-- What `parseFloat` reads is finite and positive. -/
  positive : String → Bool
  /-- What is encrypted under a handle. -/
  plaintext : Handle → Nat

/-- `DEFAULT_CHAIN_ID`, on which the contract is. -/
def defaultChainId : Nat := 11155111

/-- What a call has captured of the form and of the wallet. -/
structure Render where
  amount : String
  selectedToken : String
  solanaDestination : String
  account : Option Address
  appkitConnected : Bool
  signer : Option Address
  chainId : Option Nat
  /-- There is an FHE instance. -/
  fhevm : Bool
  fheStatus : FhevmGoState
  /-- `window.ethereum`, and whether it has `request`. -/
  ethereum : Option Bool

def Render.isConnected (r : Render) : Bool := r.account.isSome && r.appkitConnected

def Render.isCorrectNetwork (r : Render) : Bool :=
  r.chainId.isNone || r.chainId == some defaultChainId

structure EncryptionResult where
  handle : Bytes32
  proof : List UInt8
  plaintextAsHex : String
  deriving DecidableEq

/-- The handles and the proof of an encrypted input. -/
structure Encrypted where
  handles : List Bytes32
  inputProof : List UInt8
  deriving DecidableEq

/-- Transactions are numbered in the order in which they are sent. -/
abbrev TxHash := Nat

structure BridgeResult where
  approvalTxHash : Option TxHash
  bridgeTxHash : TxHash
  deriving DecidableEq

/-! ## Operations -/

inductive Op where
  /-- `eth_requestAccounts` -/
  | requestAccounts
  /-- `wallet_switchEthereumChain` -/
  | switchChain
  | setTimeout (ms : Nat)
  /-- `createEncryptedInput`, `add256` and `encrypt`. -/
  | encrypt (userAddress : Address) (value : Int)
  | allowance (token owner spender : Address)
  | approve (signer token spender : Address) (amount : Int)
  | initiateBridge (signer token : Address) (amount : Int) (handle : Bytes32)
      (proof : List UInt8)
  /-- `tx.wait()` -/
  | wait (tx : TxHash)

def Op.Answer : Op → Type
  | .requestAccounts => Unit
  | .switchChain => Unit
  | .setTimeout _ => Unit
  | .encrypt _ _ => Encrypted
  | .allowance _ _ _ => Nat
  | .approve _ _ _ _ => TxHash
  | .initiateBridge _ _ _ _ _ => TxHash
  -- the hash of the receipt, if there is one
  | .wait _ => Option TxHash

abbrev api : Interface := ⟨Op, Op.Answer⟩

abbrev Promise (α : Type) := Prog api JsError α

def await (o : Op) : Promise o.Answer := @Prog.call api JsError o

def requestAccounts : Promise Unit := await .requestAccounts

def switchChain : Promise Unit := await .switchChain

def setTimeout (ms : Nat) : Promise Unit := await (.setTimeout ms)

def encrypt (userAddress : Address) (value : Int) : Promise Encrypted :=
  await (.encrypt userAddress value)

def allowance (token owner spender : Address) : Promise Nat :=
  await (.allowance token owner spender)

def approve (signer token spender : Address) (amount : Int) : Promise TxHash :=
  await (.approve signer token spender amount)

def initiateBridge (signer token : Address) (amount : Int) (handle : Bytes32)
    (proof : List UInt8) : Promise TxHash :=
  await (.initiateBridge signer token amount handle proof)

def wait (tx : TxHash) : Promise (Option TxHash) := await (.wait tx)

def error {α : Type} (message : String) : Promise α := throw ⟨.Error, message⟩

/-! ## The wallet -/

variable (env : Setup) (r : Render)

def ensureEvmWallet : Promise Bool :=
  match r.ethereum with
  | none => return false
  | some false => return true
  | some true => tryCatch (do requestAccounts; return true) fun _ => return false

def ensureSepoliaNetwork : Promise Bool :=
  match r.ethereum with
  | some true => tryCatch (do switchChain; return true) fun _ => return false
  | _ => return false

/-! ## Encryption -/

/-- `encryptSolanaDestination` of the provider. -/
def encryptSolanaDestination (destination : String) : Promise EncryptionResult :=
  match r.account with
  | none => error "Wallet must be connected before encrypting"
  | some account =>
      if r.fhevm = false ∨ r.fheStatus ≠ .ready then error "FHEVM instance is not ready yet"
      else do
        let encoded ← decodeSolanaAddressToBigInt env.bs58 destination
        let encrypted ← encrypt account encoded.value
        match encrypted.handles.head? with
        | none => error "Encryption did not return any handles"
        | some firstHandle => return ⟨firstHandle, encrypted.inputProof, encoded.hex⟩

/-! ## The deposit -/

/-- The runner of a contract: without one, nothing can be called. -/
def contractRunner (signer : Option Address) : Promise Address :=
  match signer with
  | none => error "contract runner does not support calling"
  | some signer => return signer

/-- An address among the arguments of a call. -/
def addressable (account : Option Address) : Promise Address :=
  match account with
  | none => error "unsupported addressable value"
  | some account => return account

def sanitized (amountStr : String) : String :=
  if amountStr ≠ "" ∧ trimmed amountStr ≠ "" then amountStr else "0"

/-- Section 2 of `evmToSolBridge`. -/
def parseAmount (amountStr : String) (tokenDecimals : Nat) : Promise Int := do
  let parsed ← env.parseUnits (sanitized amountStr) tokenDecimals
  if parsed ≤ 0 then error "Amount must be greater than zero"
  else return parsed

/-- Section 3: the approval, if one is needed. -/
def approveIfNeeded (signer tokenAddress ownerAddress newRelayerAddress : Address)
    (parsed : Int) : Promise (Option TxHash) := do
  let currentAllowance ← allowance tokenAddress ownerAddress newRelayerAddress
  if currentAllowance < parsed then
    let approveTx ← approve signer tokenAddress newRelayerAddress parsed
    let receipt ← wait approveTx
    return some (receipt.getD approveTx)
  else return none

def evmToSolBridge (signer ownerAddress : Option Address) (newRelayerAddress : Address)
    (token : EvmTokenConfig) (amountStr destinationSolBase58 : String)
    (encryptSolanaDestination : String → Promise EncryptionResult) : Promise BridgeResult := do
  let encrypted ← encryptSolanaDestination destinationSolBase58
  let parsed ← parseAmount env amountStr token.decimals
  let signer ← contractRunner signer
  let owner ← addressable ownerAddress
  let approvalTxHash ← approveIfNeeded signer token.address owner newRelayerAddress parsed
  let tx ← initiateBridge signer token.address parsed encrypted.handle encrypted.proof
  let receipt ← wait tx
  return ⟨approvalTxHash, receipt.getD tx⟩

/-! ## The form -/

def getTokenConfig (chainId : Nat) (symbol : String) : Option EvmTokenConfig :=
  if chainId = 0 then none else env.tokens chainId symbol

def Render.tokenConfig : Option EvmTokenConfig :=
  getTokenConfig env (r.chainId.getD defaultChainId) r.selectedToken

/-- The wallet is asked for its accounts, if it is not connected. -/
def connected : Promise Unit :=
  if r.isConnected = false ∨ r.signer = none then do
    let ok ← ensureEvmWallet r
    if ok then return else error "No EVM wallet"
  else return

/-- The wallet is asked for the chain, if it is on another one. -/
def onNetwork : Promise Unit :=
  if r.isCorrectNetwork = false then do
    let ok ← ensureSepoliaNetwork r
    if ok then setTimeout 600 else error "Wrong network"
  else return

def bridge : Promise BridgeResult :=
  if isValidSolanaAddress r.solanaDestination = false then error "Invalid Solana address"
  else
    match r.tokenConfig env with
    | none => error "Missing token config"
    | some token =>
        if env.positive r.amount = false then error "Invalid amount"
        else if r.fheStatus ≠ .ready then error "FHE not ready"
        else do
          connected r
          onNetwork r
          evmToSolBridge env r.signer r.account env.ch.self token r.amount r.solanaDestination
            (encryptSolanaDestination env r)

/-! ## The world -/

inductive Payload where
  | approve (token spender : Address) (amount : Nat)
  | initiateBridge (token : Address) (amount : Nat) (handle : Bytes32) (proof : List UInt8)
  deriving DecidableEq

/-- The call of the contract, if it is one. -/
def Payload.fn : Payload → Option Evm.Fn
  | .approve _ _ _ => none
  | .initiateBridge token amount handle proof => some (.initiateBridge token amount handle proof)

inductive TxStatus where
  | pending
  /-- With the request its receipt announces. -/
  | mined (requestId : Option Nat)
  /-- Reverted, replaced, or never mined. -/
  | dropped
  deriving DecidableEq

/-- A transaction of a wallet, with the call that sent it. -/
structure Sent where
  caller : Nat
  sender : Address
  payload : Payload
  status : TxStatus
  deriving DecidableEq

structure World where
  evm : Evm.State
  sent : List Sent

/-- An input is of this account and this value: with it, the contract accepts
the proof of nobody else, and gets the value. -/
def Setup.Encrypts (account : Address) (value : Int) (handle : Bytes32) (proof : List UInt8) :
    Prop :=
  ∀ user h, env.ch.fromExternal user handle proof = some h →
    user = account ∧ (env.plaintext h : Int) = value

namespace World

variable (w : World)

def broadcast (caller : Nat) (sender : Address) (payload : Payload) : World :=
  { w with sent := w.sent ++ [⟨caller, sender, payload, .pending⟩] }

def setStatus (n : Nat) (t : Sent) (status : TxStatus) : World :=
  { w with sent := w.sent.set n { t with status := status } }

end World

/-- The transaction an operation sends, if its amount encodes. -/
def Op.transaction : Op → Option (Address × Payload)
  | .approve signer token spender amount => do
      return (signer, .approve token spender (← uint256 amount))
  | .initiateBridge signer token amount handle proof => do
      return (signer, .initiateBridge token (← uint256 amount) handle proof)
  | _ => none

namespace World

variable (w : World)

/-- An operation of the `i`-th call succeeds with this answer. -/
def succeeds (i : Nat) : (o : Op) → o.Answer → World → Prop
  | .requestAccounts, _, w' => w' = w
  | .switchChain, _, w' => w' = w
  | .setTimeout _, _, w' => w' = w
  | .encrypt userAddress value, encrypted, w' =>
      (∀ handle ∈ encrypted.handles.head?,
        env.Encrypts userAddress value handle encrypted.inputProof) ∧ w' = w
  | .allowance _ _ _, _, w' => w' = w
  | .approve signer token spender amount, tx, w' =>
      ∃ n, uint256 amount = some n ∧ tx = w.sent.length ∧
        w' = w.broadcast i signer (.approve token spender n)
  | .initiateBridge signer token amount handle proof, tx, w' =>
      ∃ n, uint256 amount = some n ∧ tx = w.sent.length ∧
        w' = w.broadcast i signer (.initiateBridge token n handle proof)
  | .wait tx, receipt, w' =>
      (∃ t announced, w.sent[tx]? = some t ∧ t.status = .mined announced) ∧
        (receipt = none ∨ receipt = some tx) ∧ w' = w

/-- An operation fails; a transaction may have been sent all the same. -/
def fails (i : Nat) (o : Op) (w' : World) : Prop :=
  w' = w ∨ ∃ sender payload, o.transaction = some (sender, payload) ∧
    w' = w.broadcast i sender payload

def answers (i : Nat) (o : Op) : Except JsError o.Answer → World → Prop
  | .ok a, w' => w.succeeds env i o a w'
  | .error _, w' => w.fails i o w'

/-- What happens around the calls. -/
inductive Outside : World → World → Prop where
  | chain {w : World} {evm : Evm.State} (step : Evm.Step env.ch w.evm evm) :
      Outside w { w with evm := evm }
  | mined {w : World} {evm : Evm.State} (n : Nat) {t : Sent} (tx : Evm.Tx env.ch.self)
      (sent : w.sent[n]? = some t) (pending : t.status = .pending)
      (sender : tx.sender = t.sender) (fn : t.payload.fn = some tx.fn)
      (commits : Reentrancy.Commits (Evm.contract env.ch) tx w.evm evm) :
      Outside w ({ w with evm := evm }.setStatus n t (.mined (Evm.announcedLast evm.log)))
  | approved {w : World} (n : Nat) {t : Sent} (sent : w.sent[n]? = some t)
      (pending : t.status = .pending) (fn : t.payload.fn = none) :
      Outside w (w.setStatus n t (.mined none))
  | dropped {w : World} (n : Nat) {t : Sent} (sent : w.sent[n]? = some t)
      (pending : t.status = .pending) : Outside w (w.setStatus n t .dropped)

/-- Before the first call. -/
structure Initial (w : World) : Prop where
  reachable : Evm.Reachable env.ch w.evm
  sent : w.sent = []

/-- The request a transaction has made. -/
def requestOf (tx : TxHash) : Option Nat :=
  match w.sent[tx]? with
  | some ⟨_, _, _, .mined announced⟩ => announced
  | _ => none

end World

/-- Any number of calls of the form, each with what it has captured. -/
def service : Service api JsError BridgeResult Render World where
  handler := bridge env
  answers := fun i w => w.answers env i
  outside := World.Outside env

abbrev Calls := Pool api JsError BridgeResult Render World

end LunarysBridge.Frontend.EvmBridge
