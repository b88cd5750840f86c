/-
LunarysBridge.Solana.Program — the Anchor program (`programs/contracts`),
instruction by instruction.

Each instruction first checks the constraints of its accounts, in the order
of its struct, and then runs its handler. The caller chooses every account
that no constraint fixes; those choices are the fields of the structs
below. Whether the Arcium program accepts a queued computation is an input
as well (`arciumAccepts`).
-/
import LunarysBridge.Solana.Runtime

namespace LunarysBridge.Solana

/-! ## Accounts of the program -/

structure BridgeConfig where
  owner : Pubkey
  feeBps : UInt16
  minFee : UInt64
  maxFee : UInt64
  claimWindowSecs : Int
  minSolverBond : UInt64
  slashBps : UInt16
  deriving DecidableEq

structure BridgeRequest where
  requestId : UInt64
  payer : Pubkey
  tokenMint : Pubkey
  amountLocked : UInt64
  feeLocked : UInt64
  createdAt : Int
  claimed : Bool
  solver : Pubkey
  claimDeadline : Int
  bondLamports : UInt64
  finalized : Bool
  clientPubkey : Bytes32
  nonceLe : BitVec 128
  destCtW0 : Bytes32
  destCtW1 : Bytes32
  destCtW2 : Bytes32
  destCtW3 : Bytes32
  deriving DecidableEq

inductive Event where
  | BridgeInitiated (requestId : UInt64) (sender token : Pubkey)
      (amountAfterFee fee : UInt64) (ts : Int)
  | BridgePaidToSolver (requestId : UInt64) (solver tokenMint : Pubkey)
      (payout : UInt64)
  | BridgeClaimExpired (requestId : UInt64) (solver : Pubkey) (slashed : UInt64)
  | BridgeVerifiedUrl (requestId : UInt64) (relayer : Pubkey)
      (destTxHash evidenceHash : Bytes32) (evidenceUrl : String)
  | IncomingBridgeDelivered (recipient token : Pubkey) (amount : UInt64)
  | BridgeClaimed (requestId : UInt64) (solver : Pubkey) (bond : UInt64)
      (deadline : Int)
  deriving DecidableEq

/-! ## Queued computations -/

inductive Circuit where
  | planPayout
  | resealDestination
  deriving DecidableEq

inductive Argument where
  | ArcisPubkey (bytes : Bytes32)
  | PlaintextU128 (n : BitVec 128)
  | EncryptedU64 (ct : Bytes32)
  deriving DecidableEq

structure Computation where
  circuit : Circuit
  offset : UInt64
  args : List Argument
  deriving DecidableEq

/-! ## State -/

/-- What the chain keeps of the instructions that succeeded: the events,
and the value each request moved. -/
inductive Entry where
  | emit (e : Event)
  /-- The gross amount of a deposit. -/
  | locked (request mint : Pubkey) (amount : UInt64)
  /-- A bond was transferred into the vault. -/
  | bonded (request solver : Pubkey) (bond : UInt64)
  | slashed (request collector : Pubkey) (amount : UInt64)
  | refunded (request solver : Pubkey) (amount : UInt64)
  /-- A settlement moved tokens to the solver's token account. -/
  | paid (request mint solverToken : Pubkey) (payout : UInt64)
  deriving DecidableEq

structure State where
  config : Option BridgeConfig
  requests : Table Pubkey BridgeRequest
  tokens : Table Pubkey TokenAccount
  /-- Lamports of the accounts that are not token accounts. -/
  lamports : Pubkey → Nat
  /-- The program that owns a bond vault. -/
  vaultOwner : UInt64 → Owner
  /-- Is the account of the sign PDA created? -/
  signPdaReady : Bool
  /-- `Clock::get()?.unix_timestamp` -/
  now : Int
  queue : List Computation
  log : List Entry

/-- What the program relies on of the Solana runtime. `SystemAccount` and
the debit of lamports ask for the owner of an account. -/
structure Runtime where
  systemAccount : Owner → Bool
  mayDebit : Owner → Bool
  /-- The associated token account of a wallet and a mint. Another program
  derives it, so it is no bond vault. -/
  ata : Pubkey → Pubkey → Pubkey
  ata_ne_bondVault : ∀ wallet mint requestId, ata wallet mint ≠ .bondVault requestId
  requestRent : Nat
  signerRent : Nat
  vaultRent : Nat
  configRent : Nat
  tokenRent : Nat

/-- The rules of the real runtime. -/
def Runtime.strict (rt : Runtime) : Runtime :=
  { rt with
    systemAccount := fun o => o = .system
    mayDebit := fun o => o = .bridge }

def State.note (s : State) (e : Entry) : State := { s with log := s.log ++ [e] }

def State.emit (s : State) (e : Event) : State := s.note (.emit e)

def State.setRequest (s : State) (addr : Pubkey) (req : BridgeRequest) : State :=
  { s with requests := s.requests.insert addr req }

/-! ## Lamports -/

/-- Lamports come in to an account. -/
def State.credit (s : State) (addr : Pubkey) (n : Nat) : State :=
  match s.tokens.lookup addr with
  | some a => { s with tokens := s.tokens.insert addr (a.fund n) }
  | none => { s with lamports := Function.update s.lamports addr (s.lamports addr + n) }

/-- Lamports go out of an account. -/
def State.debit (s : State) (addr : Pubkey) (n : Nat) : State :=
  { s with lamports := Function.update s.lamports addr (s.lamports addr - n) }

/-- `system_program::transfer`; the source must carry no data. -/
def systemTransfer (source dest : Pubkey) (n : Nat) (s : State) : Except Error State := do
  require ((s.tokens.lookup source).isNone = true) .OwnerMismatch
  require (n ≤ s.lamports source) .InsufficientFunds
  .ok ((s.debit source n).credit dest n)

/-- The payer makes up the rent of an account to be created. -/
def payRent (payer addr : Pubkey) (rent : Nat) (s : State) : Except Error State :=
  systemTransfer payer addr (rent - s.lamports addr) s

/-- `try_borrow_mut_lamports()? -= n` on a bond vault. -/
def debitVault (rt : Runtime) (requestId : UInt64) (n : Nat) (s : State) :
    Except Error State := do
  require (n ≤ s.lamports (.bondVault requestId)) .Overflow
  require (rt.mayDebit (s.vaultOwner requestId) = true) .ExternalAccountLamportSpend
  .ok (s.debit (.bondVault requestId) n)

/-! ## Token program -/

/-- `transfer_checked`, and `transfer` when no mint is given. -/
def tokenTransfer (source dest authority : Pubkey) (mint : Option Pubkey)
    (amount : UInt64) (s : State) : Except Error State := do
  let a ← okOr (s.tokens.lookup source) .AccountNotInitialized
  let b ← okOr (s.tokens.lookup dest) .AccountNotInitialized
  require (a.mint = b.mint) .MintMismatch
  require (∀ m, mint = some m → m = a.mint) .MintMismatch
  require (authority = a.owner) .OwnerMismatch
  if hle : amount ≤ a.amount then
    if source = dest then .ok s
    else if hlt : b.amount.toNat + amount.toNat < 2 ^ 64 then
      .ok { s with
        tokens := (s.tokens.insert source (a.debit amount hle)).insert dest
          (b.credit amount hlt) }
    else .error .Overflow
  else .error .InsufficientFunds

/-- `sync_native`: the amount becomes what the lamports back. -/
def syncNative (addr : Pubkey) (s : State) : Except Error State := do
  let a ← okOr (s.tokens.lookup addr) .AccountNotInitialized
  require (a.mint = nativeMint) .NonNativeNotSupported
  let n ← okOr (tryFromU64 (a.lamports - a.reserve)) .Overflow
  require (a.amount ≤ n) .InsufficientFunds
  if h : n.toNat + a.reserve ≤ a.lamports then
    .ok { s with
      tokens := s.tokens.insert addr { a with amount := n, backed := fun _ => h } }
  else .error .Overflow

/-- `close_account`: all lamports of a native account go to `destination`. -/
def closeAccount (addr destination authority : Pubkey) (s : State) :
    Except Error State := do
  let a ← okOr (s.tokens.lookup addr) .AccountNotInitialized
  require (addr ≠ destination) .OwnerMismatch
  require (a.mint = nativeMint ∨ a.amount = 0) .NonNativeNotSupported
  require (authority = a.owner) .OwnerMismatch
  .ok (({ s with tokens := s.tokens.erase addr } : State).credit destination a.lamports)

/-! ## Shared account constraints -/

/-- `init` of the request account. -/
def initRequest (rt : Runtime) (payer : Signer) (requestId : UInt64) (s : State) :
    Except Error State := do
  require ((s.requests.lookup (.request payer.key requestId)).isNone = true)
    .AccountAlreadyInUse
  payRent payer.key (.request payer.key requestId) rt.requestRent s

/-- `init_if_needed` of the sign PDA. -/
def initSignPda (rt : Runtime) (payer : Signer) (s : State) : Except Error State :=
  if s.signPdaReady then .ok s
  else do
    let s ← payRent payer.key .signPda rt.signerRent s
    .ok { s with signPdaReady := true }

/-- `init_if_needed` of a bond vault. Without an `owner` constraint the
account is created for this program. -/
def initBondVault (rt : Runtime) (payer : Signer) (requestId : UInt64) (s : State) :
    Except Error State :=
  if s.vaultOwner requestId = .system then do
    let s ← payRent payer.key (.bondVault requestId) rt.vaultRent s
    .ok { s with vaultOwner := Function.update s.vaultOwner requestId .bridge }
  else .ok s

/-- `queue_computation` -/
def queueComputation (arciumAccepts : Bool) (c : Computation) (s : State) :
    Except Error State := do
  require (arciumAccepts = true) .QueueRejected
  .ok { s with queue := s.queue ++ [c] }

/-! ## Deposits -/

/-- The material of the client that a deposit stores. -/
structure DepositArgs where
  computationOffset : UInt64
  requestId : UInt64
  clientPubkey : Bytes32
  /-- The 16 bytes, read little-endian. -/
  nonce : BitVec 128
  destinationCt0 : Bytes32
  destinationCt1 : Bytes32
  destinationCt2 : Bytes32
  destinationCt3 : Bytes32
  /-- Gross, in units of the mint or in lamports. -/
  amount : UInt64
  deriving DecidableEq

def DepositArgs.queued (args : DepositArgs) : Computation where
  circuit := .planPayout
  offset := args.computationOffset
  args :=
    [.ArcisPubkey args.clientPubkey, .PlaintextU128 args.nonce,
      .EncryptedU64 args.destinationCt0, .EncryptedU64 args.destinationCt1,
      .EncryptedU64 args.destinationCt2, .EncryptedU64 args.destinationCt3]

/-- The fee of both deposit handlers, in `u128`. -/
def depositFee (cfg : BridgeConfig) (amount : UInt64) : Nat :=
  let fee := amount.toNat * cfg.feeBps.toNat / 10000
  let fee := if fee < cfg.minFee.toNat then cfg.minFee.toNat else fee
  let fee := if fee > cfg.maxFee.toNat then cfg.maxFee.toNat else fee
  -- `fee as u64` drops the high bits
  if fee % 2 ^ 64 ≥ amount.toNat then amount.toNat / 2 else fee

/-- `u64::try_from(fee).unwrap_or(u64::MAX)` -/
def feeU64 (cfg : BridgeConfig) (amount : UInt64) : UInt64 :=
  (tryFromU64 (depositFee cfg amount)).getD (UInt64.ofNat (2 ^ 64 - 1))

/-- `amount.saturating_sub(fee_u64)` -/
def amountNet (cfg : BridgeConfig) (amount : UInt64) : UInt64 :=
  if feeU64 cfg amount ≤ amount then amount - feeU64 cfg amount else 0

/-- The record both handlers write, up to the id and the mint. -/
def DepositArgs.stored (args : DepositArgs) (requestId : UInt64) (payer mint : Pubkey)
    (cfg : BridgeConfig) (now : Int) : BridgeRequest where
  requestId := requestId
  payer := payer
  tokenMint := mint
  amountLocked := amountNet cfg args.amount
  feeLocked := feeU64 cfg args.amount
  createdAt := now
  claimed := false
  solver := .default
  claimDeadline := 0
  bondLamports := 0
  finalized := false
  clientPubkey := args.clientPubkey
  nonceLe := args.nonce
  destCtW0 := args.destinationCt0
  destCtW1 := args.destinationCt1
  destCtW2 := args.destinationCt2
  destCtW3 := args.destinationCt3

structure DepositAndQueue where
  payer : Signer
  userToken : Pubkey
  mint : Pubkey
  escrowToken : Pubkey
  arciumAccepts : Bool

/-- `deposit::handler` never writes `request_id`: it stays zero. -/
def initiateBridge (rt : Runtime) (acc : DepositAndQueue) (args : DepositArgs)
    (s : State) : Except Error State := do
  let userToken ← okOr (s.tokens.lookup acc.userToken) .AccountNotInitialized
  require (userToken.mint = acc.mint) (.code .InvalidMint)
  require (userToken.owner = acc.payer.key) (.code .InvalidOwner)
  let escrowToken ← okOr (s.tokens.lookup acc.escrowToken) .AccountNotInitialized
  require (escrowToken.mint = acc.mint) (.code .InvalidMint)
  let cfg ← okOr s.config .AccountNotInitialized
  let s ← initRequest rt acc.payer args.requestId s
  let s ← initSignPda rt acc.payer s
  let s ← tokenTransfer acc.userToken acc.escrowToken acc.payer.key (some acc.mint)
    args.amount s
  let s := s.note (.locked (.request acc.payer.key args.requestId) acc.mint args.amount)
  let s := s.setRequest (.request acc.payer.key args.requestId)
    (args.stored 0 acc.payer.key acc.mint cfg s.now)
  let s := s.emit (.BridgeInitiated args.requestId acc.payer.key acc.mint
    (amountNet cfg args.amount) (feeU64 cfg args.amount) s.now)
  queueComputation acc.arciumAccepts args.queued s

structure DepositSolAndQueue where
  payer : Signer
  escrowWsol : Pubkey
  arciumAccepts : Bool

def initiateBridgeSol (rt : Runtime) (acc : DepositSolAndQueue) (args : DepositArgs)
    (s : State) : Except Error State := do
  let cfg ← okOr s.config .AccountNotInitialized
  let s ← initRequest rt acc.payer args.requestId s
  let escrowWsol ← okOr (s.tokens.lookup acc.escrowWsol) .AccountNotInitialized
  require (escrowWsol.mint = nativeMint) (.code .InvalidMint)
  require (escrowWsol.owner = .signPda) (.code .InvalidOwner)
  let s ← initSignPda rt acc.payer s
  let s ← systemTransfer acc.payer.key acc.escrowWsol args.amount.toNat s
  let s ← syncNative acc.escrowWsol s
  let s := s.note (.locked (.request acc.payer.key args.requestId) nativeMint args.amount)
  let s := s.setRequest (.request acc.payer.key args.requestId)
    (args.stored args.requestId acc.payer.key nativeMint cfg s.now)
  let s := s.emit (.BridgeInitiated args.requestId acc.payer.key nativeMint
    (amountNet cfg args.amount) (feeU64 cfg args.amount) s.now)
  queueComputation acc.arciumAccepts args.queued s

/-! ## Claims -/

structure ClaimRequest where
  solver : Signer
  requestOwner : Pubkey
  arciumAccepts : Bool

/-- The computation `claim_bridge` queues: the stored words, for the key of
the solver. -/
def resealed (req : BridgeRequest) (computationOffsetReseal : UInt64)
    (solverX25519 : Bytes32) : Computation where
  circuit := .resealDestination
  offset := computationOffsetReseal
  args :=
    [.ArcisPubkey solverX25519, .PlaintextU128 req.nonceLe,
      .EncryptedU64 req.destCtW0, .EncryptedU64 req.destCtW1,
      .EncryptedU64 req.destCtW2, .EncryptedU64 req.destCtW3]

def claimBridge (rt : Runtime) (acc : ClaimRequest)
    (computationOffsetReseal requestId : UInt64) (solverX25519 : Bytes32) (s : State) :
    Except Error State := do
  let cfg ← okOr s.config .AccountNotInitialized
  let req ← okOr (s.requests.lookup (.request acc.requestOwner requestId))
    .AccountNotInitialized
  let s ← initBondVault rt acc.solver requestId s
  let s ← initSignPda rt acc.solver s
  require (req.finalized = false) (.code .AlreadyFinalized)
  require (req.claimed = true → s.now > req.claimDeadline) (.code .ActiveClaim)
  require (0 < cfg.minSolverBond) (.code .BondTooLow)
  let s ← systemTransfer acc.solver.key (.bondVault requestId)
    cfg.minSolverBond.toNat s
  let s := s.note (.bonded (.request acc.requestOwner requestId) acc.solver.key
    cfg.minSolverBond)
  let claimDeadline ← okOr (checkedAddI64 s.now cfg.claimWindowSecs) (.code .MathOverflow)
  let s := s.setRequest (.request acc.requestOwner requestId)
    { req with
      claimed := true
      solver := acc.solver.key
      claimDeadline := claimDeadline
      bondLamports := cfg.minSolverBond }
  let s := s.emit (.BridgeClaimed requestId acc.solver.key cfg.minSolverBond
    claimDeadline)
  queueComputation acc.arciumAccepts
    (resealed req computationOffsetReseal solverX25519) s

structure ReleaseExpiredClaim where
  caller : Signer
  requestOwner : Pubkey
  prevSolver : Pubkey
  slashCollector : Pubkey

/-- The share of a bond that is slashed, in `u128`. -/
def slashOf (bond : UInt64) (slashBps : UInt16) : Nat :=
  bond.toNat * slashBps.toNat / 10000

def releaseExpiredClaim (rt : Runtime) (acc : ReleaseExpiredClaim)
    (requestId : UInt64) (s : State) : Except Error State := do
  let cfg ← okOr s.config .AccountNotInitialized
  let req ← okOr (s.requests.lookup (.request acc.requestOwner requestId))
    .AccountNotInitialized
  require (rt.systemAccount (s.vaultOwner requestId) = true) .AccountNotSystemOwned
  require (acc.slashCollector = cfg.owner) .ConstraintAddress
  require (req.claimed = true) (.code .NoClaim)
  require (s.now > req.claimDeadline) (.code .ActiveClaim)
  require (acc.prevSolver = req.solver) (.code .InvalidOwner)
  require (0 < req.bondLamports) (.code .BondTooLow)
  require (slashOf req.bondLamports cfg.slashBps ≤ req.bondLamports.toNat)
    (.code .MathOverflow)
  let slash ← okOr (tryFromU64 (slashOf req.bondLamports cfg.slashBps))
    (.code .MathOverflow)
  let refund ← okOr (tryFromU64
    (req.bondLamports.toNat - slashOf req.bondLamports cfg.slashBps)) (.code .MathOverflow)
  require (req.bondLamports.toNat ≤ s.lamports (.bondVault requestId))
    (.code .MathOverflow)
  let s ← debitVault rt requestId req.bondLamports.toNat s
  let s := s.credit acc.slashCollector slash.toNat
  let s := s.note (.slashed (.request acc.requestOwner requestId) acc.slashCollector slash)
  let s := s.credit acc.prevSolver refund.toNat
  let s := s.note (.refunded (.request acc.requestOwner requestId) acc.prevSolver refund)
  let s := s.setRequest (.request acc.requestOwner requestId)
    { req with
      claimed := false
      solver := .default
      claimDeadline := 0
      bondLamports := 0 }
  .ok (s.emit (.BridgeClaimExpired requestId acc.prevSolver slash))

structure VerifyAndSettleSpl where
  relayer : Signer
  requestOwner : Pubkey
  mint : Pubkey
  escrowToken : Pubkey
  solverToken : Pubkey
  solverWallet : Pubkey

/-- The bond goes back from the vault to the solver's wallet. -/
def returnBond (rt : Runtime) (requestId : UInt64) (solverWallet : Pubkey)
    (bond : UInt64) (s : State) : Except Error State :=
  if 0 < bond then do
    let s ← debitVault rt requestId bond.toNat s
    .ok (s.credit solverWallet bond.toNat)
  else .ok s

/-- Nothing ties `mint` to `request_pda.token_mint`. -/
def verifyAndSettleSpl (rt : Runtime) (acc : VerifyAndSettleSpl) (requestId : UInt64)
    (destTxHash evidenceHash : Bytes32) (evidenceUrl : String) (s : State) :
    Except Error State := do
  let cfg ← okOr s.config .AccountNotInitialized
  require (acc.relayer.key = cfg.owner) .ConstraintAddress
  let req ← okOr (s.requests.lookup (.request acc.requestOwner requestId))
    .AccountNotInitialized
  let escrowToken ← okOr (s.tokens.lookup acc.escrowToken) .AccountNotInitialized
  require (escrowToken.mint = acc.mint) (.code .InvalidMint)
  require (escrowToken.owner = .signPda) (.code .InvalidOwner)
  let solverToken ← okOr (s.tokens.lookup acc.solverToken) .AccountNotInitialized
  require (solverToken.mint = acc.mint) (.code .InvalidMint)
  require (solverToken.owner = req.solver) (.code .InvalidOwner)
  require (s.signPdaReady = true) .AccountNotInitialized
  require (rt.systemAccount (s.vaultOwner requestId) = true) .AccountNotSystemOwned
  require (req.finalized = false) (.code .RequestAlreadyFinalized)
  require (req.claimed = true) (.code .NoClaim)
  require (s.now ≤ req.claimDeadline) (.code .ClaimExpired)
  require (acc.solverWallet = req.solver) (.code .InvalidOwner)
  let payout ← okOr (checkedAdd req.amountLocked req.feeLocked) (.code .MathOverflow)
  let s ← tokenTransfer acc.escrowToken acc.solverToken .signPda (some acc.mint) payout s
  let s := s.note (.paid (.request acc.requestOwner requestId) acc.mint acc.solverToken
    payout)
  let s ← returnBond rt requestId acc.solverWallet req.bondLamports s
  let s := s.note (.refunded (.request acc.requestOwner requestId) acc.solverWallet
    req.bondLamports)
  let s := s.setRequest (.request acc.requestOwner requestId)
    { req with
      finalized := true
      claimed := false
      solver := .default
      claimDeadline := 0
      bondLamports := 0 }
  let s := s.emit (.BridgeVerifiedUrl requestId acc.relayer.key destTxHash evidenceHash
    evidenceUrl)
  .ok (s.emit (.BridgePaidToSolver requestId acc.solverWallet acc.mint payout))

/-! ## Deliveries -/

structure ReleaseSpl where
  relayer : Signer
  mint : Pubkey
  escrowToken : Pubkey
  recipient : Pubkey

/-- `init_if_needed` of the recipient's associated token account. -/
def initAta (rt : Runtime) (payer : Signer) (wallet mint : Pubkey) (s : State) :
    Except Error State :=
  match s.tokens.lookup (rt.ata wallet mint) with
  | some a => do
      require (a.mint = mint ∧ a.owner = wallet) .ConstraintAddress
      .ok s
  | none => do
      let s ← payRent payer.key (rt.ata wallet mint) rt.tokenRent s
      .ok { s with
        tokens := s.tokens.insert (rt.ata wallet mint)
          { mint := mint
            owner := wallet
            amount := 0
            lamports := rt.tokenRent
            reserve := rt.tokenRent
            backed := fun _ => Nat.le_of_eq (Nat.zero_add _) } }

/-- `deliver_tokens` -/
def deliverTokens (rt : Runtime) (acc : ReleaseSpl) (amount : UInt64) (s : State) :
    Except Error State := do
  let cfg ← okOr s.config .AccountNotInitialized
  require (acc.relayer.key = cfg.owner) .ConstraintAddress
  let escrowToken ← okOr (s.tokens.lookup acc.escrowToken) .AccountNotInitialized
  require (escrowToken.mint = acc.mint) (.code .InvalidMint)
  require (escrowToken.owner = .signPda) (.code .InvalidOwner)
  let s ← initAta rt acc.relayer acc.recipient acc.mint s
  require (s.signPdaReady = true) .AccountNotInitialized
  require (amount ≤ escrowToken.amount) (.code .InsufficientEscrowBalance)
  let s ← tokenTransfer acc.escrowToken (rt.ata acc.recipient acc.mint) .signPda
    (some acc.mint) amount s
  .ok (s.emit (.IncomingBridgeDelivered acc.recipient acc.mint amount))

structure ReleaseSol where
  relayer : Signer
  escrowWsol : Pubkey
  recipientWsol : Pubkey
  recipient : Pubkey
  escrowRefundDestination : Pubkey

/-- The escrow is closed when its amount is zero. -/
def closeIfEmpty (escrowWsol destination : Pubkey) (amount : UInt64) (s : State) :
    Except Error State :=
  if amount = 0 then closeAccount escrowWsol destination .signPda s else .ok s

/-- `deliver_tokens_sol`; both checks of the escrow's amount read the
account as it was when the instruction began. -/
def deliverTokensSol (acc : ReleaseSol) (amount : UInt64) (s : State) :
    Except Error State := do
  let cfg ← okOr s.config .AccountNotInitialized
  require (acc.relayer.key = cfg.owner) .ConstraintAddress
  let escrowWsol ← okOr (s.tokens.lookup acc.escrowWsol) .AccountNotInitialized
  require (escrowWsol.mint = nativeMint) (.code .InvalidMint)
  require (escrowWsol.owner = .signPda) (.code .InvalidOwner)
  let recipientWsol ← okOr (s.tokens.lookup acc.recipientWsol) .AccountNotInitialized
  require (recipientWsol.mint = nativeMint) (.code .InvalidMint)
  require (recipientWsol.owner = acc.recipient) (.code .InvalidOwner)
  require (s.signPdaReady = true) .AccountNotInitialized
  require (amount ≤ escrowWsol.amount) (.code .InsufficientEscrowBalance)
  let s ← tokenTransfer acc.escrowWsol acc.recipientWsol .signPda none amount s
  let s ← closeIfEmpty acc.escrowWsol acc.escrowRefundDestination escrowWsol.amount s
  .ok (s.emit (.IncomingBridgeDelivered acc.recipient nativeMint amount))

/-! ## Config -/

structure ConfigArgs where
  feeBps : UInt16
  minFee : UInt64
  maxFee : UInt64
  claimWindowSecs : Int
  minSolverBond : UInt64
  slashBps : UInt16

def initConfig (rt : Runtime) (payer : Signer) (args : ConfigArgs) (s : State) :
    Except Error State := do
  require (s.config.isNone = true) .AccountAlreadyInUse
  require (rt.configRent ≤ s.lamports payer.key) .InsufficientFunds
  .ok { s.debit payer.key rt.configRent with
    config := some
      { owner := payer.key
        feeBps := args.feeBps
        minFee := args.minFee
        maxFee := args.maxFee
        claimWindowSecs := args.claimWindowSecs
        minSolverBond := args.minSolverBond
        slashBps := args.slashBps } }

/-- What `set_config` changes; `none` leaves a parameter as it is. -/
structure ConfigChange where
  feeBps : Option UInt16
  minFee : Option UInt64
  maxFee : Option UInt64
  claimWindowSecs : Option Int
  minSolverBond : Option UInt64
  slashBps : Option UInt16

def setConfig (authority : Signer) (c : ConfigChange) (s : State) :
    Except Error State := do
  let cfg ← okOr s.config .AccountNotInitialized
  require (cfg.owner = authority.key) (.code .OnlyOwner)
  .ok { s with
    config := some
      { cfg with
        feeBps := c.feeBps.getD cfg.feeBps
        minFee := c.minFee.getD cfg.minFee
        maxFee := c.maxFee.getD cfg.maxFee
        claimWindowSecs := c.claimWindowSecs.getD cfg.claimWindowSecs
        minSolverBond := c.minSolverBond.getD cfg.minSolverBond
        slashBps := c.slashBps.getD cfg.slashBps } }

/-! ## Runs -/

inductive Instruction where
  | initiateBridge (acc : DepositAndQueue) (args : DepositArgs)
  | initiateBridgeSol (acc : DepositSolAndQueue) (args : DepositArgs)
  | claimBridge (acc : ClaimRequest) (computationOffsetReseal requestId : UInt64)
      (solverX25519 : Bytes32)
  | releaseExpiredClaim (acc : ReleaseExpiredClaim) (requestId : UInt64)
  | verifyAndSettleSpl (acc : VerifyAndSettleSpl) (requestId : UInt64)
      (destTxHash evidenceHash : Bytes32) (evidenceUrl : String)
  | deliverTokens (acc : ReleaseSpl) (amount : UInt64)
  | deliverTokensSol (acc : ReleaseSol) (amount : UInt64)
  | initConfig (payer : Signer) (args : ConfigArgs)
  | setConfig (authority : Signer) (c : ConfigChange)

def exec (rt : Runtime) : Instruction → State → Except Error State
  | .initiateBridge acc args => initiateBridge rt acc args
  | .initiateBridgeSol acc args => initiateBridgeSol rt acc args
  | .claimBridge acc offset requestId solverX25519 =>
      claimBridge rt acc offset requestId solverX25519
  | .releaseExpiredClaim acc requestId => releaseExpiredClaim rt acc requestId
  | .verifyAndSettleSpl acc requestId destTxHash evidenceHash evidenceUrl =>
      verifyAndSettleSpl rt acc requestId destTxHash evidenceHash evidenceUrl
  | .deliverTokens acc amount => deliverTokens rt acc amount
  | .deliverTokensSol acc amount => deliverTokensSol acc amount
  | .initConfig payer args => initConfig rt payer args
  | .setConfig authority c => setConfig authority c

/-- What others do on the chain: they create token accounts, mint, move
their own tokens and lamports, and give to anybody. What belongs to the
program's addresses only grows, nobody else can create an account there,
and time passes. -/
structure Outside (s s' : State) : Prop where
  config : s'.config = s.config
  requests : s'.requests = s.requests
  vaultOwner : s'.vaultOwner = s.vaultOwner
  signPdaReady : s'.signPdaReady = s.signPdaReady
  queue : s'.queue = s.queue
  log : s'.log = s.log
  later : s.now ≤ s'.now
  tokens : ∀ addr a, s.tokens.lookup addr = some a → a.owner = .signPda →
    ∃ a', s'.tokens.lookup addr = some a' ∧ a'.mint = a.mint ∧ a'.owner = .signPda ∧
      a.amount ≤ a'.amount
  vaults : ∀ requestId, s.lamports (.bondVault requestId) ≤
    s'.lamports (.bondVault requestId)
  plain : ∀ requestId, s.tokens.lookup (.bondVault requestId) = none →
    s'.tokens.lookup (.bondVault requestId) = none

/-- A run from one state to the other whose instructions all meet `ok`. -/
inductive Run (rt : Runtime) (ok : Instruction → State → Prop) : State → State → Prop where
  | nil (s : State) : Run rt ok s s
  | exec {s s₁ s₂ : State} (run : Run rt ok s s₁) (i : Instruction) (meets : ok i s₁)
      (succeeds : exec rt i s₁ = .ok s₂) : Run rt ok s s₂
  | outside {s s₁ s₂ : State} (run : Run rt ok s s₁) (move : Outside s₁ s₂) :
      Run rt ok s s₂

/-- A run that meets a condition meets a weaker one. -/
theorem Run.mono {rt : Runtime} {ok ok' : Instruction → State → Prop} {s s' : State}
    (h : ∀ i s, ok i s → ok' i s) (hrun : Run rt ok s s') : Run rt ok' s s' := by
  induction hrun with
  | nil => exact .nil _
  | exec _ i meets succeeds ih => exact ih.exec i (h _ _ meets) succeeds
  | outside _ move ih => exact ih.outside move

/-- Before the program was first called. -/
structure Initial (s : State) : Prop where
  config : s.config = none
  requests : s.requests = ∅
  vaultOwner : ∀ requestId, s.vaultOwner requestId = .system
  signPdaReady : s.signPdaReady = false
  queue : s.queue = []
  log : s.log = []
  plain : ∀ requestId, s.tokens.lookup (.bondVault requestId) = none

/-! ## Runs on given inputs -/

def State.wait (s : State) (seconds : Nat) : State := { s with now := s.now + seconds }

theorem Outside.wait (s : State) (seconds : Nat) : Outside s (s.wait seconds) where
  config := rfl
  requests := rfl
  vaultOwner := rfl
  signPdaReady := rfl
  queue := rfl
  log := rfl
  later := by
    show s.now ≤ s.now + seconds
    omega
  tokens := fun _ a h ho => ⟨a, h, rfl, ho, UInt64.le_refl _⟩
  vaults := fun _ => Nat.le_refl _
  plain := fun _ h => h

/-- The instructions one after the other, each after a wait; `none` when one
fails or does not meet `ok`. -/
def runMoves (rt : Runtime) (ok : Instruction → State → Bool) :
    List (Nat × Instruction) → State → Option State
  | [], s => some s
  | (seconds, i) :: rest, s =>
      if ok i (s.wait seconds) then
        match exec rt i (s.wait seconds) with
        | .ok s' => runMoves rt ok rest s'
        | .error _ => none
      else none

theorem run_of_moves {rt : Runtime} {ok : Instruction → State → Bool} {s' : State}
    {moves : List (Nat × Instruction)} : ∀ {s₀ s : State},
    Run rt (fun i s => ok i s = true) s₀ s → runMoves rt ok moves s = some s' →
    Run rt (fun i s => ok i s = true) s₀ s' := by
  induction moves with
  | nil =>
      intro s₀ s hrun h
      cases h
      exact hrun
  | cons move rest ih =>
      intro s₀ s hrun h
      obtain ⟨seconds, i⟩ := move
      simp only [runMoves] at h
      split at h
      · next hok =>
        split at h
        · next s₁ hexec => exact ih ((hrun.outside (.wait s seconds)).exec i hok hexec) h
        · cases h
      · cases h

namespace Sample

/-- A runtime that permits every debit, with small rents. -/
def runtime : Runtime where
  systemAccount := fun _ => true
  mayDebit := fun _ => true
  ata := fun _ _ => .key 30
  ata_ne_bondVault := by simp
  requestRent := 1000
  signerRent := 1000
  vaultRent := 1000
  configRent := 1000
  tokenRent := 1000

def owner : Signer := ⟨1, by decide⟩

def user : Signer := ⟨2, by decide⟩

def solver : Signer := ⟨3, by decide⟩

def rival : Signer := ⟨4, by decide⟩

/-- A mint of no meaning. -/
def mint : Pubkey := .key 10

def tokenAccount (holder : Pubkey) (amount : UInt64) : TokenAccount where
  mint := mint
  owner := holder
  amount := amount
  lamports := 1000
  reserve := 0
  backed := fun h => absurd h (by decide)

/-- The user has tokens at 20, the bridge an escrow at 21, the solver an
account at 22. -/
def initial : State where
  config := none
  requests := ∅
  tokens := ((AList.insert (.key 20) (tokenAccount user.key 5000) ∅).insert (.key 21)
    (tokenAccount .signPda 0)).insert (.key 22) (tokenAccount solver.key 0)
  lamports := fun
    | .key _ => 10 ^ 9
    | _ => 0
  vaultOwner := fun _ => .system
  signPdaReady := false
  now := 100
  queue := []
  log := []

theorem initial_initial : Initial initial :=
  ⟨rfl, rfl, fun _ => rfl, rfl, rfl, rfl, fun _ => rfl⟩

def config : Instruction :=
  .initConfig owner
    { feeBps := 30
      minFee := 10
      maxFee := 100
      claimWindowSecs := 600
      minSolverBond := 5000
      slashBps := 5000 }

/-- A deposit of 1000 into the escrow account `escrow`. -/
def deposit (escrow : Pubkey) : Instruction :=
  .initiateBridge
    { payer := user
      userToken := .key 20
      mint := mint
      escrowToken := escrow
      arciumAccepts := true }
    { computationOffset := 0
      requestId := 7
      clientPubkey := 0
      nonce := 0
      destinationCt0 := 0
      destinationCt1 := 0
      destinationCt2 := 0
      destinationCt3 := 0
      amount := 1000 }

def claim (w : Signer) : Instruction :=
  .claimBridge { solver := w, requestOwner := user.key, arciumAccepts := true } 0 7 0

def release : Instruction :=
  .releaseExpiredClaim
    { caller := rival
      requestOwner := user.key
      prevSolver := solver.key
      slashCollector := owner.key } 7

def settle : Instruction :=
  .verifyAndSettleSpl
    { relayer := owner
      requestOwner := user.key
      mint := mint
      escrowToken := .key 21
      solverToken := .key 22
      solverWallet := solver.key } 7 0 0 ""

end Sample

end LunarysBridge.Solana
