/-
LunarysBridge.Fhevm.Creation — `createFhevmInstance`, and what its calls
share in one page.

A call resolves the chain, asks a Hardhat node for its metadata, or gets the
relayer SDK: it loads the script, initialises the SDK, looks up the public
key of the network in the database of the browser, creates the instance and
stores its key. The calls of a page share `window.relayerSDK`, the script
element, the promise of the database and its stores (`Page`).

Each access to what is shared is one operation, and others may come in before
it. (In the page they come in at an `await` only, so that its runs are among
these.) The script ends its loading at any moment, and any signal may be
aborted. There is a `window`; log lines are left out.
-/
import LunarysBridge.Lib.Rely
import LunarysBridge.Fhevm.Hook

namespace LunarysBridge.Fhevm.Create

open Async

/-! ## Data -/

inductive Failure where
  | FhevmAbortError
  | FhevmReactError (code message : String)
  | Error (message : String)
  /-- Thrown by a library, or by `onStatusChange`. -/
  | other (message : String)
  deriving DecidableEq

inductive FhevmRelayerStatus where
  | sdkLoading | sdkLoaded | sdkInitializing | sdkInitialized | creating
  deriving DecidableEq

structure StoredPublicKey where
  publicKeyId : String
  publicKey : List UInt8
  deriving DecidableEq

structure StoredPublicParams where
  publicParamsId : String
  publicParams : List UInt8
  deriving DecidableEq

/-- What the assertions on a stored value find; `null` is also no value. -/
inductive Shape (α : Type) where
  | null
  | valid (value : α)
  | malformed (message : String)
  deriving DecidableEq

/-- The fields of a metadata answer, where they are strings. -/
structure Metadata where
  ACLAddress : Option String
  InputVerifierAddress : Option String
  KMSVerifierAddress : Option String
  deriving DecidableEq

structure RelayerMetadata where
  ACLAddress : String
  InputVerifierAddress : String
  KMSVerifierAddress : String
  deriving DecidableEq

/-- A field that should be a string; else there is what `${…}` shows of it. -/
inductive Field where
  | string (value : String)
  | shown (text : String)
  deriving DecidableEq

structure SepoliaConfig where
  aclContractAddress : Field
  /-- The other fields. -/
  others : List (String × String)
  deriving DecidableEq

structure FhevmInstanceConfig where
  sepoliaConfig : SepoliaConfig
  network : Provider
  publicKey : Option StoredPublicKey
  publicParams : Option StoredPublicParams
  deriving DecidableEq

/-- The parameters of a call that it reads. -/
structure Parameters where
  provider : Provider
  mockChains : Option MockChains
  signal : Nat
  deriving DecidableEq

def SDK_CDN_URL : String := "https://cdn.zama.ai/relayer-sdk-js/0.2.0/relayer-sdk-js.umd.cjs"

/-! ## Operations -/

inductive Op where
  /-- The chain id of the provider; `none` is not a number. -/
  | chainId (provider : Provider)
  /-- `web3_clientVersion`; `none` is no string. -/
  | clientVersion (rpcUrl : String)
  /-- `fhevm_relayer_metadata`; `none` is no object. -/
  | relayerMetadata (rpcUrl : String)
  /-- The import of the mock library, and its `fhevmMockCreateInstance`. -/
  | mockCreateInstance (rpcUrl : String) (chainId : Nat) (metadata : RelayerMetadata)
  /-- `signal.aborted` -/
  | aborted (signal : Nat)
  /-- `onStatusChange` -/
  | notify (status : FhevmRelayerStatus)
  | isFhevmWindowType
  | isFhevmInitialized
  /-- `RelayerSDKLoader.load` up to its return; answers whether the promise
  waits for a script that was added. -/
  | load
  /-- `onload` or `onerror` of the script -/
  | scriptEvent
  | initSDK
  /-- `window.relayerSDK.__initialized__ = result` -/
  | setInitialized (result : Bool)
  /-- `relayerSDK.SepoliaConfig` -/
  | sepoliaConfig
  /-- `_getDB` -/
  | getDB
  | getPublicKey (acl : String)
  | getPublicParams (acl : String)
  | createInstance (config : FhevmInstanceConfig)
  | putPublicKey (acl : String) (value : StoredPublicKey)
  | putPublicParams (acl : String) (value : StoredPublicParams)

variable {ι : Type}

def Op.Answer (ι : Type) : Op → Type
  | .chainId _ => Option Nat
  | .clientVersion _ => Option String
  | .relayerMetadata _ => Option Metadata
  | .mockCreateInstance _ _ _ => ι
  | .aborted _ => Bool
  | .notify _ => Unit
  | .isFhevmWindowType => Bool
  | .isFhevmInitialized => Bool
  | .load => Bool
  | .scriptEvent => Unit
  | .initSDK => Bool
  | .setInitialized _ => Unit
  | .sepoliaConfig => SepoliaConfig
  | .getDB => Unit
  | .getPublicKey _ => Shape StoredPublicKey
  | .getPublicParams _ => Shape StoredPublicParams
  | .createInstance _ => ι
  | .putPublicKey _ _ => Unit
  | .putPublicParams _ _ => Unit

abbrev api (ι : Type) : Interface := ⟨Op, Op.Answer ι⟩

abbrev Promise (ι α : Type) := Prog (api ι) Failure α

def await (o : Op) : Promise ι (o.Answer ι) := @Prog.call (api ι) Failure o

/-! ## Chains and Hardhat nodes -/

def getWeb3Client (rpcUrl : String) : Promise ι (Option String) :=
  tryCatch (await (.clientVersion rpcUrl)) fun _ =>
    throw (.FhevmReactError "WEB3_CLIENTVERSION_ERROR" ("The URL " ++ rpcUrl ++
      " is not a Web3 node or is not reachable. Please check the endpoint."))

/-- The checks of the three addresses. -/
def Metadata.check (m : Metadata) : Option RelayerMetadata :=
  match m.ACLAddress, m.InputVerifierAddress, m.KMSVerifierAddress with
  | some acl, some inputVerifier, some kmsVerifier =>
      if acl.startsWith "0x" && inputVerifier.startsWith "0x" && kmsVerifier.startsWith "0x" then
        some ⟨acl, inputVerifier, kmsVerifier⟩
      else none
  | _, _, _ => none

/-- `version.toLowerCase().includes("hardhat")`, of a string. -/
def isHardhat (version : Option String) : Bool :=
  match version with
  | some v => v.toLower.toList.tails.any fun rest => "hardhat".toList.isPrefixOf rest
  | none => false

/-- `getFHEVMRelayerMetadata` and what its caller makes of it. -/
def tryFetchFHEVMHardhatNodeRelayerMetadata (rpcUrl : String) :
    Promise ι (Option RelayerMetadata) := do
  let version : Option String ← getWeb3Client rpcUrl
  if isHardhat version then
    tryCatch
      (do
        let metadata : Option Metadata ← await (.relayerMetadata rpcUrl)
        pure (metadata.bind Metadata.check))
      fun _ => pure none
  else pure none

/-- The chains that are mocked: the one of a local node, and those given. -/
def mockRpcUrl (mockChains : Option MockChains) (chainId : Nat) : Option String :=
  match (mockChains.getD []).lookup chainId with
  | some url => some url
  | none => if chainId = 31337 then some "http://localhost:8545" else none

/-- `resolve`: the URL of the node and the chain id, if the chain is mocked. -/
def resolve (q : Parameters) : Promise ι (Option (String × Nat)) := do
  let chainId : Option Nat ← await (.chainId q.provider)
  match chainId with
  | none => pure none
  | some chainId =>
      match mockRpcUrl q.mockChains chainId with
      | none => pure none
      | some mockUrl =>
          match q.provider with
          | .url rpcUrl => pure (some (if rpcUrl = "" then mockUrl else rpcUrl, chainId))
          | .eip1193 _ => pure (some (mockUrl, chainId))

/-! ## The SDK -/

def throwIfAborted (q : Parameters) : Promise ι Unit := do
  let aborted : Bool ← await (.aborted q.signal)
  if aborted then throw .FhevmAbortError else pure ()

/-- `load` of `RelayerSDKLoader` -/
def fhevmLoadSDK : Promise ι Unit := do
  let waits : Bool ← await .load
  if waits then await .scriptEvent else pure ()

def fhevmInitSDK : Promise ι Unit := do
  let available : Bool ← await .isFhevmWindowType
  if available then
    let result : Bool ← await .initSDK
    await (.setInitialized result)
    if result then pure () else throw (.Error "window.relayerSDK.initSDK failed.")
  else throw (.Error "window.relayerSDK is not available")

/-- The SDK is loaded if it is not there. -/
def ensureLoaded (q : Parameters) : Promise ι Unit := do
  let loaded : Bool ← await .isFhevmWindowType
  if loaded then pure ()
  else
    await (.notify .sdkLoading)
    fhevmLoadSDK
    throwIfAborted q
    await (.notify .sdkLoaded)

/-- It is initialised if it is not. -/
def ensureInitialized (q : Parameters) : Promise ι Unit := do
  let initialized : Bool ← await .isFhevmInitialized
  if initialized then pure ()
  else
    await (.notify .sdkInitializing)
    fhevmInitSDK
    throwIfAborted q
    await (.notify .sdkInitialized)

/-! ## The stored keys -/

/-- A value that is read, unless reading it or an assertion on it fails. -/
def readStored {α : Type} (read : Promise ι (Shape α)) : Promise ι (Option α) :=
  tryCatch
    (do
      match ← read with
      | .null => pure none
      | .valid value => pure (some value)
      | .malformed message => throw (.Error message))
    fun _ => pure none

def publicKeyStorageGet (acl : String) :
    Promise ι (Option StoredPublicKey × Option StoredPublicParams) := do
  await .getDB
  let storedPublicKey ← readStored (await (.getPublicKey acl))
  let storedPublicParams ← readStored (await (.getPublicParams acl))
  -- a key with an empty id is none
  pure (storedPublicKey.filter fun k => k.publicKeyId ≠ "", storedPublicParams)

/-- `assertFhevmStoredPublicKey` and `assertFhevmStoredPublicParams` -/
def assertStored {α : Type} (value : Shape α) : Promise ι (Option α) :=
  match value with
  | .null => pure none
  | .valid value => pure (some value)
  | .malformed message => throw (.Error message)

def ifSome {α : Type} (value : Option α) (put : α → Promise ι Unit) : Promise ι Unit :=
  match value with
  | some v => put v
  | none => pure ()

def publicKeyStorageSet (acl : String) (publicKey : Shape StoredPublicKey)
    (publicParams : Shape StoredPublicParams) : Promise ι Unit := do
  let key ← assertStored publicKey
  let params ← assertStored publicParams
  await .getDB
  ifSome key fun value => await (.putPublicKey acl value)
  ifSome params fun value => await (.putPublicParams acl value)

/-! ## The function -/

/-- The libraries: `isAddress` of ethers, and the methods of an instance. -/
structure Library (ι : Type) where
  isAddress : String → Bool
  getPublicKey : ι → Shape StoredPublicKey
  /-- `getPublicParams(2048)` -/
  getPublicParams : ι → Shape StoredPublicParams

variable (lib : Library ι)

/-- `checkIsAddress`, and what is thrown if it fails. -/
def checkedAddress (config : SepoliaConfig) : Promise ι String :=
  match config.aclContractAddress with
  | .string acl =>
      if lib.isAddress acl then pure acl else throw (.Error ("Invalid address: " ++ acl))
  | .shown text => throw (.Error ("Invalid address: " ++ text))

/-- From the SDK on. -/
def createWithSDK (q : Parameters) : Promise ι ι := do
  ensureLoaded q
  ensureInitialized q
  let sepoliaConfig : SepoliaConfig ← await .sepoliaConfig
  let aclAddress ← checkedAddress lib sepoliaConfig
  let pub ← publicKeyStorageGet aclAddress
  throwIfAborted q
  await (.notify .creating)
  let fhevmInstance : ι ← await (.createInstance
    { sepoliaConfig := sepoliaConfig
      network := q.provider
      publicKey := pub.1
      publicParams := pub.2 })
  -- the key is saved even if aborted
  publicKeyStorageSet aclAddress (lib.getPublicKey fhevmInstance)
    (lib.getPublicParams fhevmInstance)
  throwIfAborted q
  pure fhevmInstance

/-- The metadata of the node of a mocked chain. -/
def mockMetadata (mock : Option (String × Nat)) :
    Promise ι (Option (String × Nat × RelayerMetadata)) :=
  match mock with
  | none => pure none
  | some (rpcUrl, chainId) => do
      let metadata ← tryFetchFHEVMHardhatNodeRelayerMetadata rpcUrl
      pure (metadata.map fun m => (rpcUrl, chainId, m))

def createFhevmInstance (q : Parameters) : Promise ι ι := do
  let mock ← resolve q
  let hardhat ← mockMetadata mock
  match hardhat with
  | some (rpcUrl, chainId, metadata) =>
      await (.notify .creating)
      let mockInstance : ι ← await (.mockCreateInstance rpcUrl chainId metadata)
      throwIfAborted q
      pure mockInstance
  | none =>
      throwIfAborted q
      createWithSDK lib q

/-! ## The page -/

/-- `window.relayerSDK` -/
inductive Global where
  | absent
  | invalid
  | valid (initialized : Bool) (config : SepoliaConfig)
  deriving DecidableEq

/-- `isFhevmWindowType(window)` -/
def Global.isValid : Global → Bool
  | .valid _ _ => true
  | _ => false

/-- `isFhevmInitialized()` -/
def Global.isInitialized : Global → Bool
  | .valid initialized _ => initialized
  | _ => false

/-- `__initialized__ = result` -/
def Global.setInitialized (result : Bool) : Global → Global
  | .valid _ config => .valid result config
  | g => g

/-- The element `script[src="…"]`. -/
inductive Script where
  | none
  | loading
  | loaded
  | failed
  deriving DecidableEq

/-- `__dbPromise` -/
inductive Database where
  | unopened
  | opened
  | failed (message : String)
  deriving DecidableEq

/-- An instance that was made by the SDK, for which call and from what. -/
structure Made (ι : Type) where
  caller : Nat
  config : FhevmInstanceConfig
  fhevmInstance : ι
  deriving DecidableEq

/-- An instance that was made by the mock library. -/
structure Mocked (ι : Type) where
  caller : Nat
  rpcUrl : String
  chainId : Nat
  metadata : RelayerMetadata
  fhevmInstance : ι

structure Page (ι : Type) where
  relayerSDK : Global
  script : Script
  db : Database
  publicKeyStore : String → Shape StoredPublicKey
  paramsStore : String → Shape StoredPublicParams
  signals : Signals
  /-- The calls that have added a script; bookkeeping, as are the lists below. -/
  added : List Nat
  /-- The calls `load` has rejected at once. -/
  rejected : List Nat
  made : List (Made ι)
  mocked : List (Mocked ι)

namespace Page

/-- `load` of the `i`-th call, up to its return. -/
def load (i : Nat) (s : Page ι) : Except Failure Bool × Page ι :=
  match s.relayerSDK with
  | .valid _ _ => (.ok false, s)
  | .invalid =>
      (.error (.Error "RelayerSDKLoader: Unable to load FHEVM Relayer SDK"),
        { s with rejected := s.rejected ++ [i] })
  | .absent =>
      if s.script = .none then
        (.ok true, { s with script := .loading, added := s.added ++ [i] })
      else
        (.error (.Error
            "RelayerSDKLoader: window object does not contain a valid relayerSDK object."),
          { s with rejected := s.rejected ++ [i] })

/-- An operation of the `i`-th call succeeds with this answer. -/
def succeeds (i : Nat) (s : Page ι) : (o : Op) → o.Answer ι → Page ι → Prop
  | .mockCreateInstance rpcUrl chainId metadata, a, s' =>
      s' = { s with mocked := s.mocked ++ [⟨i, rpcUrl, chainId, metadata, a⟩] }
  | .aborted signal, a, s' => a = s.signals.aborted signal ∧ s' = s
  | .isFhevmWindowType, a, s' => a = s.relayerSDK.isValid ∧ s' = s
  | .isFhevmInitialized, a, s' => a = s.relayerSDK.isInitialized ∧ s' = s
  | .load, a, s' => s.load i = (.ok a, s')
  | .scriptEvent, _, s' => s.script = .loaded ∧ s.relayerSDK.isValid = true ∧ s' = s
  | .setInitialized result, _, s' =>
      s' = { s with relayerSDK := s.relayerSDK.setInitialized result }
  | .sepoliaConfig, a, s' => (∃ initialized, s.relayerSDK = .valid initialized a) ∧ s' = s
  | .getDB, _, s' =>
      (∀ message, s.db ≠ .failed message) ∧ s' = { s with db := .opened }
  | .getPublicKey acl, a, s' => a = s.publicKeyStore acl ∧ s' = s
  | .getPublicParams acl, a, s' => a = s.paramsStore acl ∧ s' = s
  | .createInstance config, a, s' => s' = { s with made := s.made ++ [⟨i, config, a⟩] }
  | .putPublicKey acl value, _, s' =>
      s' = { s with publicKeyStore := Function.update s.publicKeyStore acl (.valid value) }
  | .putPublicParams acl value, _, s' =>
      s' = { s with paramsStore := Function.update s.paramsStore acl (.valid value) }
  | _, _, s' => s' = s

/-- An operation fails, most of them with an exception of a library. -/
def fails (i : Nat) (s : Page ι) : Op → Failure → Page ι → Prop
  | .aborted _, _, _ | .isFhevmWindowType, _, _ | .isFhevmInitialized, _, _ => False
  | .load, e, s' => s.load i = (.error e, s')
  | .scriptEvent, e, s' =>
      (s.script = .failed ∧
          e = .Error ("RelayerSDKLoader: Failed to load Relayer SDK from " ++ SDK_CDN_URL) ∨
        s.script = .loaded ∧ s.relayerSDK.isValid = false ∧
          e = .Error ("RelayerSDKLoader: Relayer SDK script has been successfully loaded from " ++
            SDK_CDN_URL ++ ", however, the window.relayerSDK object is invalid.")) ∧ s' = s
  | .setInitialized _, e, s' =>
      s.relayerSDK.isValid = false ∧ (∃ message, e = .other message) ∧ s' = s
  | .sepoliaConfig, e, s' =>
      s.relayerSDK.isValid = false ∧ (∃ message, e = .other message) ∧ s' = s
  | .getDB, e, s' => ∃ message, e = .other message ∧ s' = { s with db := .failed message } ∧
      (s.db = .unopened ∨ s.db = .failed message)
  | _, e, s' => (∃ message, e = .other message) ∧ s' = s

def answers (i : Nat) (s : Page ι) (o : Op) : Except Failure (o.Answer ι) → Page ι → Prop
  | .ok a, s' => s.succeeds i o a s'
  | .error e, s' => s.fails i o e s'

/-- What happens around the calls. -/
inductive Outside : Page ι → Page ι → Prop where
  | abort (s : Page ι) (signal : Nat) : Outside s { s with signals := s.signals.abort signal }
  | scriptLoaded (s : Page ι) (loading : s.script = .loading) (relayerSDK : Global) :
      Outside s { s with script := .loaded, relayerSDK := relayerSDK }
  | scriptFailed (s : Page ι) (loading : s.script = .loading) :
      Outside s { s with script := .failed }

/-- A page in which nothing has been created yet, with what the browser has
stored. -/
structure Initial (s : Page ι) : Prop where
  relayerSDK : s.relayerSDK = .absent
  script : s.script = .none
  db : s.db = .unopened
  added : s.added = []
  rejected : s.rejected = []
  made : s.made = []
  mocked : s.mocked = []

end Page

abbrev Calls (ι : Type) := Pool (api ι) Failure ι Parameters (Page ι)

/-- The calls of one page. -/
def service : Service (api ι) Failure ι Parameters (Page ι) where
  handler := createFhevmInstance lib
  answers := Page.answers
  outside := Page.Outside

end LunarysBridge.Fhevm.Create
