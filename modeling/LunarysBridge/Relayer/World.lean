/-
LunarysBridge.Relayer.World — the relayer service in its world: the record
tables, the clock, Solana's ledger, the `NewRelayer` contract on its chain,
and the transactions the relayer's wallet has sent there.

`World.answers` says what an operation of a handler may answer and do;
every operation may also fail. A transaction that was sent waits in the
mempool: it is mined, or dropped, by a move of the chain and not by the
handler, which may have ended long before. `service` puts the handlers
into this world, and a run of it interleaves any number of calls at their
awaits.
-/
import LunarysBridge.Relayer.Service
import LunarysBridge.Evm.NewRelayer

namespace LunarysBridge.Relayer

open Async
open Evm (Address)

/-- A deployed service: its libraries, its environment, the contract it
talks to and the wallet it talks with. The sign PDA of the bridge program
owns the program's escrow accounts. -/
structure Setup where
  lib : Libs
  cfg : Config
  ch : Evm.Chain
  wallet : Address
  signPda : String
  wallet_ne_zero : wallet ≠ 0
  wallet_ne_contract : wallet ≠ ch.self
  program_ne : cfg.programId ≠ tokenProgramId ∧ cfg.programId ≠ systemProgramId

inductive TxStatus where
  | pending
  | mined
  /-- Reverted, replaced, or never mined. -/
  | dropped
  deriving DecidableEq

/-- A transaction of the relayer's wallet, with the call of the service
that sent it. -/
structure Sent where
  caller : Nat
  fn : Evm.Fn
  status : TxStatus
  deriving DecidableEq

structure World where
  evm : Evm.State
  /-- Confirmed transactions by signature. -/
  ledger : String → Option ParsedTransaction
  /-- The service's clock, in milliseconds. -/
  clock : Nat
  tables : Tables
  sent : List Sent

/-- A `uint256` argument. -/
def uint256 (n : Int) : Option Nat :=
  if 0 ≤ n ∧ n < 2 ^ 256 then some n.toNat else none

/-- The contract function a call encodes to; `none` when its arguments do
not encode. -/
def ContractCall.encode (lib : Libs) : ContractCall → Option Evm.Fn
  | .verifyAndSettle requestId destTxHash evidenceHash => do
      return .verifyAndSettle (← uint256 requestId) destTxHash evidenceHash
  | .verifyAndSettleURL requestId destTxHash evidenceHash evidenceURL => do
      return .verifyAndSettleURL (← uint256 requestId) destTxHash evidenceHash evidenceURL
  | .deliverTokens recipient token amount => do
      return .deliverTokens (← lib.resolveAddress recipient) (← lib.resolveAddress token)
        (← uint256 amount)

def Setup.tx (env : Setup) (fn : Evm.Fn) : Evm.Tx env.ch.self :=
  ⟨env.wallet, 0, fn, env.wallet_ne_zero, env.wallet_ne_contract⟩

namespace World

variable (env : Setup) (w : World)

def save (repo : Repo) (requestId : String) (row : Record repo) : World :=
  { w with
    tables := Function.update w.tables repo
      (Function.update (w.tables repo) requestId (some row)) }

def broadcast (caller : Nat) (fn : Evm.Fn) : World :=
  { w with sent := w.sent ++ [⟨caller, fn, .pending⟩] }

def setStatus (n : Nat) (t : Sent) (status : TxStatus) : World :=
  { w with sent := w.sent.set n { t with status := status } }

/-! ## Operations -/

/-- An operation of the `i`-th call succeeds with this answer. -/
def succeeds (i : Nat) : (o : Op) → o.Answer → World → Prop
  | .findOne repo requestId, row, w' => row = w.tables repo requestId ∧ w' = w
  | .insert repo requestId row, _, w' =>
      w.tables repo requestId = none ∧ w' = w.save repo requestId row
  | .update repo requestId row, _, w' => w' = w.save repo requestId row
  | .getParsedTransaction signature, answer, w' =>
      -- the node may not have seen it yet, or not have its metadata yet
      (answer = none ∨ ∃ tx, w.ledger signature = some tx ∧
        (answer = some tx ∨ answer = some { tx with meta? := none })) ∧ w' = w
  | .sleep _, _, w' => w' = w
  | .getAnchorCtx, _, w' => w' = w
  | .rpcVerifyAndSettle _ _ _ _, _, w' => w' = w
  | .confirmTransaction _, _, w' => w' = w
  | .getBridgeRequest requestId, br, w' =>
      ∃ r, uint256 requestId = some r ∧ br = w.evm.bridgeRequests r ∧ w' = w
  | .requestClaim requestId, cl, w' =>
      ∃ r, uint256 requestId = some r ∧ cl = w.evm.requestClaim r ∧ w' = w
  | .getContractBalance token, balance, w' =>
      ∃ a, env.lib.resolveAddress token = some a ∧ balance = w.evm.bal a env.ch.self ∧ w' = w
  | .send call, tx, w' =>
      ∃ fn, call.encode env.lib = some fn ∧ tx = w.sent.length ∧ w' = w.broadcast i fn
  | .wait tx, receipt, w' =>
      (∃ t, w.sent[tx]? = some t ∧ t.status = .mined) ∧ receipt.isSome ∧ w' = w
  | .waitForTransaction _ _, _, w' => w' = w
  | .dateNow, now, w' => now = w.clock ∧ w' = w

/-- An operation fails; a transaction may have been sent all the same. -/
def fails (i : Nat) : Op → World → Prop
  | .send call, w' => w' = w ∨ ∃ fn, call.encode env.lib = some fn ∧ w' = w.broadcast i fn
  | _, w' => w' = w

def answers (i : Nat) (o : Op) : Except JsError o.Answer → World → Prop
  | .ok a, w' => w.succeeds env i o a w'
  | .error _, w' => w.fails env i o w'

/-- What happens around the service. -/
inductive Outside : World → World → Prop where
  | chain {w : World} {evm : Evm.State} (step : Evm.Step env.ch w.evm evm) :
      Outside w { w with evm := evm }
  | mined {w : World} {evm : Evm.State} (n : Nat) {t : Sent} (sent : w.sent[n]? = some t)
      (pending : t.status = .pending)
      (commits : Reentrancy.Commits (Evm.contract env.ch) (env.tx t.fn) w.evm evm) :
      Outside w ({ w with evm := evm }.setStatus n t .mined)
  | dropped {w : World} (n : Nat) {t : Sent} (sent : w.sent[n]? = some t)
      (pending : t.status = .pending) : Outside w (w.setStatus n t .dropped)
  | ledger {w : World} (signature : String) (tx : ParsedTransaction)
      (fresh : w.ledger signature = none) :
      Outside w { w with ledger := Function.update w.ledger signature (some tx) }
  | clock {w : World} (clock : Nat) (later : w.clock ≤ clock) :
      Outside w { w with clock := clock }

variable {env w} {w' : World} {i : Nat}

/-- What an operation does to the world, whatever it answers. -/
theorem answers_cases {o : Op} {x : Except JsError o.Answer} (h : w.answers env i o x w') :
    w' = w ∨ (∃ repo requestId row, w' = w.save repo requestId row) ∨
      ∃ call fn, o = .send call ∧ call.encode env.lib = some fn ∧ w' = w.broadcast i fn := by
  cases x with
  | error e =>
      cases o with
      | send call =>
          rcases h with rfl | ⟨fn, hfn, rfl⟩
          · exact .inl rfl
          · exact .inr (.inr ⟨call, fn, rfl, hfn, rfl⟩)
      | _ => exact .inl h
  | ok a =>
      cases o with
      | insert repo requestId row => exact .inr (.inl ⟨repo, requestId, row, h.2⟩)
      | update repo requestId row => exact .inr (.inl ⟨repo, requestId, row, h⟩)
      | send call =>
          obtain ⟨fn, hfn, -, rfl⟩ := h
          exact .inr (.inr ⟨call, fn, rfl, hfn, rfl⟩)
      | findOne | getParsedTransaction | dateNow => exact .inl h.2
      | getBridgeRequest | requestClaim | getContractBalance =>
          obtain ⟨_, _, _, hw⟩ := h
          exact .inl hw
      | wait => exact .inl h.2.2
      | sleep | getAnchorCtx | rpcVerifyAndSettle | confirmTransaction
        | waitForTransaction => exact .inl h

end World

/-! ## The service -/

variable (env : Setup)

def service : Service api JsError Reply Request World where
  handler := handle env.lib env.cfg
  answers := fun i w => w.answers env i
  outside := World.Outside env

abbrev Calls := Pool api JsError Reply Request World

def Op.IsSend (o : Op) : Prop := ∃ call, o = .send call

/-- The transactions of a call that were not dropped. -/
def World.sentBy (w : World) (i : Nat) : Nat :=
  w.sent.countP fun t => t.caller == i && t.status != .dropped

variable {env} {w w' : World} {i j n : Nat} {t : Sent}

theorem World.sentBy_broadcast (fn : Evm.Fn) :
    (w.broadcast i fn).sentBy j = w.sentBy j + if j = i then 1 else 0 := by
  by_cases hj : j = i
  · subst hj
    simp [sentBy, broadcast]
  · simp [sentBy, broadcast, hj, Ne.symm hj]

/-- A pending transaction that is mined or dropped counts no more than it
did. -/
theorem World.sentBy_setStatus (h : w.sent[n]? = some t) (hp : t.status = .pending)
    (status : TxStatus) : (w.setStatus n t status).sentBy j ≤ w.sentBy j := by
  obtain ⟨hlt, rfl⟩ := List.getElem?_eq_some_iff.mp h
  simp only [sentBy, setStatus]
  rw [List.countP_set hlt]
  have hpos : (w.sent[n].caller == j && w.sent[n].status != .dropped) = true →
      0 < w.sent.countP fun t => t.caller == j && t.status != .dropped :=
    fun hc => List.countP_pos_iff.mpr ⟨_, List.getElem_mem hlt, hc⟩
  by_cases hj : w.sent[n].caller = j
  · have := hpos (by simp [hj, hp])
    simp [hj, hp]
    split <;> omega
  · simp [hj]

/-- Sending is counted by `sentBy`. -/
theorem sentBy_counts : Counts (service env) Op.IsSend World.sentBy where
  answers := by
    intro i w w' o x h j
    rcases World.answers_cases h with rfl | ⟨repo, requestId, row, rfl⟩ | ⟨call, fn, rfl, -, rfl⟩
    · exact .inl (Nat.le_refl _)
    · exact .inl (Nat.le_refl _)
    · rw [World.sentBy_broadcast]
      by_cases hj : j = i
      · exact .inr ⟨hj, ⟨call, rfl⟩, by simp [hj]⟩
      · exact .inl (by simp [hj])
  outside := by
    intro w w' h j
    cases h with
    | mined n hsent hp => exact World.sentBy_setStatus hsent hp .mined
    | dropped n hsent hp => exact World.sentBy_setStatus hsent hp .dropped
    | chain | ledger | clock => exact Nat.le_refl _

/-! ## The world in which everything works -/

/-- A pending transaction is mined, if the contract accepts it. -/
def World.mine (env : Setup) (w : World) (n : Nat) : Option World :=
  match w.sent[n]? with
  | some t =>
      if t.status = .pending then
        match Reentrancy.accepting (Evm.contract env.ch) (env.tx t.fn)
            (Evm.entry env.ch (env.tx t.fn) w.evm) with
        | some evm => some ({ w with evm := evm }.setStatus n t .mined)
        | none => none
      else none
  | none => none

/-- The receipt of a transaction that was mined. -/
def minedReceipt : TransactionReceipt where
  status := some 1
  logs := []
  transactionHash := none

def unavailable {α : Type} : Except JsError α := .error ⟨.Error, "unavailable"⟩

/-- The database and both chains answer at once, and a transaction is mined
when it is waited for. Only Solana takes no transactions, and no transaction
is found by its hash: on ethers v6 there is no hash to wait for, so a wait for
confirmations never ends, and one for none of them fails as here. -/
def World.answer (env : Setup) (i : Nat) (w : World) : (o : Op) → Except JsError o.Answer × World
  | .findOne repo requestId => (.ok (w.tables repo requestId), w)
  | .insert repo requestId row =>
      if (w.tables repo requestId).isNone then (.ok (), w.save repo requestId row)
      else (unavailable, w)
  | .update repo requestId row => (.ok (), w.save repo requestId row)
  | .getParsedTransaction signature => (.ok (w.ledger signature), w)
  | .sleep _ => (.ok (), w)
  | .getAnchorCtx => (.ok (), w)
  | .rpcVerifyAndSettle _ _ _ _ => (unavailable, w)
  | .confirmTransaction _ => (unavailable, w)
  | .getBridgeRequest requestId =>
      match uint256 requestId with
      | some r => (.ok (w.evm.bridgeRequests r), w)
      | none => (unavailable, w)
  | .requestClaim requestId =>
      match uint256 requestId with
      | some r => (.ok (w.evm.requestClaim r), w)
      | none => (unavailable, w)
  | .getContractBalance token =>
      match env.lib.resolveAddress token with
      | some a => (.ok (w.evm.bal a env.ch.self), w)
      | none => (unavailable, w)
  | .send call =>
      match call.encode env.lib with
      | some fn => (.ok w.sent.length, w.broadcast i fn)
      | none => (unavailable, w)
  | .wait tx =>
      match w.mine env tx with
      | some w' => (.ok (some minedReceipt), w')
      | none => (unavailable, w)
  | .waitForTransaction _ _ => (unavailable, w)
  | .dateNow => (.ok w.clock, w)

theorem World.mine_outside (h : w.mine env n = some w') :
    Outside env w w' ∧ ∃ t, w'.sent[n]? = some t ∧ t.status = .mined := by
  unfold mine at h
  split at h
  · next t ht =>
    split at h
    · next hp =>
      split at h
      · next evm hevm =>
        obtain rfl := Option.some.inj h
        have hlt : n < w.sent.length := (List.getElem?_eq_some_iff.mp ht).1
        refine ⟨.mined n ht hp (Reentrancy.exec_of_accepting _ hevm),
          { t with status := .mined }, ?_, rfl⟩
        simp [setStatus, hlt]
      · cases h
    · cases h
  · cases h

theorem World.answer_settled (o : Op) :
    (service env).settled i w o (w.answer env i o).1 (w.answer env i o).2 := by
  have hnow : ∀ {x w'}, w.answers env i o x w' → (service env).settled i w o x w' :=
    fun h => ⟨w, .refl, h⟩
  cases o with
  | insert repo requestId row =>
      simp only [answer]
      split
      · next h => exact hnow ⟨by simpa using h, rfl⟩
      · exact hnow rfl
  | getParsedTransaction signature =>
      cases hledger : w.ledger signature with
      | none => exact hnow ⟨.inl hledger, rfl⟩
      | some tx => exact hnow ⟨.inr ⟨tx, hledger, .inl hledger⟩, rfl⟩
  | getBridgeRequest requestId =>
      simp only [answer]
      split
      · next r hr => exact hnow ⟨r, hr, rfl, rfl⟩
      · exact hnow rfl
  | requestClaim requestId =>
      simp only [answer]
      split
      · next r hr => exact hnow ⟨r, hr, rfl, rfl⟩
      · exact hnow rfl
  | getContractBalance token =>
      simp only [answer]
      split
      · next a ha => exact hnow ⟨a, ha, rfl, rfl⟩
      · exact hnow rfl
  | send call =>
      simp only [answer]
      split
      · next fn hfn => exact hnow ⟨fn, hfn, rfl, rfl⟩
      · exact hnow (.inl rfl)
  | wait tx =>
      simp only [answer]
      split
      · next w' hmine =>
        obtain ⟨hout, t, ht, hmined⟩ := mine_outside hmine
        exact ⟨w', .single hout, ⟨t, ht, hmined⟩, rfl, rfl⟩
      · exact hnow rfl
  | findOne | dateNow => exact hnow ⟨rfl, rfl⟩
  | update | sleep | getAnchorCtx | rpcVerifyAndSettle | confirmTransaction
    | waitForTransaction => exact hnow rfl

/-! ### One service -/

namespace Sample

def token : String := addressString 9

def mint : String := "4zMMC9srt5Ri5X14GAgXhaHii3GnPAEERYPJgZJDncDU"

def owner : String := "4zvwRjXUKGfvwnParsHAS3HuSVzV5cA4McphgmoCtajS"

def vault : String := "8qbHbw2BbbTHBW1sbeqakYXVKRQM8Ne7pLK7m6CVfeR"

def signature : String :=
  "2AXDGYSE4f2sz7tvMMzyHvUfcoJmxudvdhBcmiUSo6ijwfYmfZYsKRxboQMPh3R4kUhXRVdtSXFXMheka4Rc4P2"

/-- An address in lower case. -/
def resolveAddress (s : String) : Option Address :=
  match s.toList with
  | '0' :: 'x' :: cs =>
      if cs.length = 40 ∧ toLowerCase s = s then (digits 16 0 cs).map (BitVec.ofNat 160) else none
  | _ => none

/-- The libraries on the inputs used here. -/
def lib : Libs where
  isAddress := fun s => (resolveAddress s).isSome
  resolveAddress := resolveAddress
  keccak256 := fun s =>
    if s = signature then 0x5ff9c3565c488d05d0c5c533b48cebd8b177b58d0edb72105b9d58229832e369
    else 0xf23ae125610887366004467311ab76fc416be7d3ec75484f2fa9789da1b82c3b
  publicKey := fun s => .ok s
  getAssociatedTokenAddress := fun _ _ _ => .ok "DMBdU6ThDuanT73YGaqFxKZCQthp5LCXBiFj5VyN7WoL"

def cfg : Config where
  tokenUsdc := token
  tokenSol := mint
  evmDecimals := 6
  solDecimals := 6
  minConfirmations := 1
  programId := "8gk2T4FJYaPUWHDzm5aKccu8HJSpEXYu3rFAoeb7FDE7"
  relayerPubkey := none
  mxePda := none
  feePool := none
  clock := none

def setup : Setup where
  lib := lib
  cfg := cfg
  ch := Evm.Sample.chain
  wallet := 2
  signPda := "DoDLMHNvZYUbnbVcXr5TuqL3R5jJbGSBM5DtdD9xvUdE"
  wallet_ne_zero := by decide
  wallet_ne_contract := by decide
  program_ne := by decide

/-- Settle request `requestId` for one unit of the token. -/
def settle (requestId : String) : EvmToSolVerificationDto where
  requestId := requestId
  ethClaimTxHash := "0x"
  solanaTransferSignature := signature
  solanaDestination := owner
  amount := "1"
  token := token
  evidenceURL := none

/-- Deliver one token for one unit in the vault. -/
def deliver : SolToEvmVerificationDto where
  requestId := "1"
  solanaDepositSignature := signature
  solanaVault := vault
  amount := "1000000"
  evmRecipient := addressString 7
  evmToken := token
  solanaMint := some mint

end Sample

end LunarysBridge.Relayer
