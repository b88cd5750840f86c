/-
LunarysBridge.Relayer.Data — what the relayer service works on: strings
and big integers of JavaScript, the two DTOs, the two record tables, the
token table, and what the two chains' libraries hand over.

A `bigint` is an `Int`. The values of a DTO are the strings its type
declares; an optional one is `none` when it is missing. Functions of
`ethers`, `@solana/web3.js` and `@solana/spl-token` are fields of `Libs`,
environment variables fields of `Config`.
-/
import Mathlib.Algebra.Group.Int.Defs
import LunarysBridge.Evm.Chain

namespace LunarysBridge.Relayer

open Evm (Address Bytes32)

/-! ## JavaScript -/

inductive ErrorName where
  | Error
  | TypeError
  | SyntaxError
  | BadRequestException
  deriving DecidableEq

/-- What is thrown. -/
structure JsError where
  name : ErrorName
  message : String
  deriving DecidableEq

def badRequest (message : String) : JsError := ⟨.BadRequestException, message⟩

/-- White space and line ends of JavaScript. -/
def isSpace (c : Char) : Bool :=
  c.toNat ∈ [0x9, 0xA, 0xB, 0xC, 0xD, 0x20, 0xA0, 0x1680, 0x2028, 0x2029, 0x202F,
    0x205F, 0x3000, 0xFEFF] || (0x2000 ≤ c.toNat && c.toNat ≤ 0x200A)

def trim (cs : List Char) : List Char :=
  ((cs.dropWhile isSpace).reverse.dropWhile isSpace).reverse

theorem trim_eq_self {cs : List Char} (h : ∀ c ∈ cs, isSpace c = false) :
    trim cs = cs := by
  have hdrop : ∀ ds : List Char, (∀ c ∈ ds, isSpace c = false) →
      ds.dropWhile isSpace = ds := by
    intro ds hds
    cases ds with
    | nil => rfl
    | cons c ds => simp [hds c]
  rw [trim, hdrop cs h, hdrop cs.reverse (by simpa using h), List.reverse_reverse]

/-- The value of a hexadecimal digit. -/
def hexDigit (c : Char) : Option Nat :=
  if '0' ≤ c ∧ c ≤ '9' then some (c.toNat - '0'.toNat)
  else if 'a' ≤ c ∧ c ≤ 'f' then some (c.toNat - 'a'.toNat + 10)
  else if 'A' ≤ c ∧ c ≤ 'F' then some (c.toNat - 'A'.toNat + 10)
  else none

/-- Digits of a base, read after `acc`. -/
def digits (base : Nat) : Nat → List Char → Option Nat
  | acc, [] => some acc
  | acc, c :: cs =>
      match hexDigit c with
      | some d => if d < base then digits base (acc * base + d) cs else none
      | none => none

/-- At least one digit of a base. -/
def unsigned (base : Nat) (cs : List Char) : Option Int :=
  if cs = [] then none else (digits base 0 cs).map Int.ofNat

/-- The literal of a big integer, its white space removed. Nothing at all
is zero, and only a decimal may have a sign. -/
def integerLiteral : List Char → Option Int
  | [] => some 0
  | '0' :: 'x' :: cs | '0' :: 'X' :: cs => unsigned 16 cs
  | '0' :: 'o' :: cs | '0' :: 'O' :: cs => unsigned 8 cs
  | '0' :: 'b' :: cs | '0' :: 'B' :: cs => unsigned 2 cs
  | '+' :: cs => unsigned 10 cs
  | '-' :: cs => (unsigned 10 cs).map Neg.neg
  | cs => unsigned 10 cs

/-- `BigInt(s)` -/
def bigInt (s : String) : Except JsError Int :=
  match integerLiteral (trim s.toList) with
  | some n => .ok n
  | none => .error ⟨.SyntaxError, "Cannot convert " ++ s ++ " to a BigInt"⟩

/-! ### Decimal digits -/

theorem isDigit_bounds {c : Char} (h : c.isDigit = true) : 48 ≤ c.toNat ∧ c.toNat ≤ 57 := by
  simp only [Char.isDigit, Bool.and_eq_true, decide_eq_true_eq] at h
  exact h

theorem isSpace_of_isDigit {c : Char} (h : c.isDigit = true) : isSpace c = false := by
  have hspace : ∀ k ∈ List.range' 48 10, (k ∈ [0x9, 0xA, 0xB, 0xC, 0xD, 0x20, 0xA0, 0x1680,
      0x2028, 0x2029, 0x202F, 0x205F, 0x3000, 0xFEFF] || (0x2000 ≤ k && k ≤ 0x200A)) = false := by
    decide
  have hbounds := isDigit_bounds h
  refine hspace _ ?_
  rw [List.mem_range'_1]
  omega

theorem hexDigit_of_isDigit {c : Char} (h : c.isDigit = true) :
    hexDigit c = some (c.toNat - '0'.toNat) := by
  have hbounds : '0' ≤ c ∧ c ≤ '9' := isDigit_bounds h
  rw [hexDigit, if_pos hbounds]

theorem digits_of_isDigit {cs : List Char} (h : ∀ c ∈ cs, c.isDigit = true) (acc : Nat) :
    digits 10 acc cs = some (Nat.ofDigitChars 10 cs acc) := by
  induction cs generalizing acc with
  | nil => simp [digits]
  | cons c cs ih =>
      have hbounds := isDigit_bounds (h c (List.mem_cons_self ..))
      have hlt : c.toNat - '0'.toNat < 10 := by
        show c.toNat - 48 < 10
        omega
      rw [digits, hexDigit_of_isDigit (h c (List.mem_cons_self ..))]
      dsimp only
      rw [if_pos hlt, ih fun d hd => h d (List.mem_cons_of_mem _ hd), Nat.ofDigitChars_cons,
        Nat.mul_comm 10 acc]

theorem unsigned_of_isDigit {cs : List Char} (hne : cs ≠ []) (h : ∀ c ∈ cs, c.isDigit = true) :
    unsigned 10 cs = some (Nat.ofDigitChars 10 cs 0 : Int) := by
  rw [unsigned, if_neg hne, digits_of_isDigit h]
  rfl

/-- A decimal without a sign. -/
theorem integerLiteral_of_isDigit {cs : List Char} (hne : cs ≠ [])
    (h : ∀ c ∈ cs, c.isDigit = true) :
    integerLiteral cs = some (Nat.ofDigitChars 10 cs 0 : Int) := by
  have hunsigned := unsigned_of_isDigit hne h
  unfold integerLiteral
  split
  · exact absurd rfl hne
  all_goals first | exact hunsigned | skip
  · exact absurd (h 'x' (by simp)) (by decide)
  · exact absurd (h 'X' (by simp)) (by decide)
  · exact absurd (h 'o' (by simp)) (by decide)
  · exact absurd (h 'O' (by simp)) (by decide)
  · exact absurd (h 'b' (by simp)) (by decide)
  · exact absurd (h 'B' (by simp)) (by decide)
  · exact absurd (h '+' (by simp)) (by decide)
  · exact absurd (h '-' (by simp)) (by decide)

/-- `BigInt` of a string of digits. -/
theorem bigInt_of_isDigit {s : String} (hne : s.toList ≠ [])
    (h : ∀ c ∈ s.toList, c.isDigit = true) :
    bigInt s = .ok (Nat.ofDigitChars 10 s.toList 0 : Int) := by
  rw [bigInt, trim_eq_self fun c hc => isSpace_of_isDigit (h c hc), integerLiteral_of_isDigit hne h]

theorem isDigit_toDigits {n : Nat} : ∀ c ∈ Nat.toDigits 10 n, c.isDigit = true :=
  fun _ => Nat.isDigit_of_mem_toDigits (by decide) (by decide)

theorem toList_natCast (n : Nat) : (toString (n : Int)).toList = Nat.toDigits 10 n := by
  show (Nat.repr n).toList = _
  simp [Nat.repr_eq_ofList_toDigits]

/-! ### Strings -/

/-- `s.toLowerCase()`, as far as its result is ASCII. The Kelvin sign is
the one character beyond ASCII that becomes a letter of it. -/
def toLowerCase (s : String) : String :=
  String.ofList (s.toList.map fun c => if c.toNat = 0x212A then 'k' else c.toLower)

/-- A string that is missing or empty. -/
def falsy (s : Option String) : Bool := s.getD "" == ""

/-! ## Libraries and environment -/

structure Libs where
  /-- `ethers.isAddress` -/
  isAddress : String → Bool
  /-- The address a contract call of `ethers` encodes for a string. -/
  resolveAddress : String → Option Address
  /-- `ethers.keccak256(ethers.toUtf8Bytes(s))` -/
  keccak256 : String → Bytes32
  /-- `new PublicKey(s).toBase58()` -/
  publicKey : String → Except JsError String
  /-- `getAssociatedTokenAddress(mint, owner, allowOwnerOffCurve)` -/
  getAssociatedTokenAddress : String → String → Bool → Except JsError String

structure Config where
  /-- `TOKEN_USDC` -/
  tokenUsdc : String
  /-- `TOKEN_SOL` -/
  tokenSol : String
  /-- `TOKEN_USDC_EVM_DECIMALS` -/
  evmDecimals : Int
  /-- `TOKEN_USDC_SOL_DECIMALS` -/
  solDecimals : Int
  /-- `ETH_MIN_CONFIRMATIONS` -/
  minConfirmations : Nat
  /-- `SOLANA_PROGRAM_ID`: the bridge program. -/
  programId : String
  /-- `SOLANA_RELAYER_PUBKEY` -/
  relayerPubkey : Option String
  /-- `SOLANA_MXE_PDA` -/
  mxePda : Option String
  /-- `SOLANA_FEE_POOL` -/
  feePool : Option String
  /-- `SOLANA_CLOCK` -/
  clock : Option String

/-- `TOKEN_PROGRAM_ID.toBase58()` -/
def tokenProgramId : String := "TokenkegQfeZyiNwAJbNbGKPFXCWuBvf9Ss623VQ5DA"

/-- `SystemProgram.programId.toBase58()` -/
def systemProgramId : String := "11111111111111111111111111111111"

/-! ## Token mapping -/

structure EvmToken where
  address : String
  decimals : Int
  deriving DecidableEq

structure SolToken where
  mint : String
  decimals : Int
  deriving DecidableEq

structure TokenInfo where
  name : String
  evm : EvmToken
  sol : SolToken
  deriving DecidableEq

/-- What a property of `BY_EVM_ADDRESS` holds: its own entry, or what every
object inherits under the names `constructor` and `__proto__`. -/
inductive TableEntry where
  | own (info : TokenInfo)
  | inherited
  deriving DecidableEq

/-- The only entry of `BY_EVM_ADDRESS`. -/
def tokenEntry (cfg : Config) : TokenInfo where
  name := "USDC"
  evm := ⟨toLowerCase cfg.tokenUsdc, cfg.evmDecimals⟩
  sol := ⟨cfg.tokenSol, cfg.solDecimals⟩

def findTokenInfo (cfg : Config) (evmAddress : String) : Option TableEntry :=
  let key := toLowerCase evmAddress
  if key = toLowerCase cfg.tokenUsdc then some (.own (tokenEntry cfg))
  else if key = "constructor" ∨ key = "__proto__" then some .inherited
  else none

/-- The entry, where `property` of its `sol` or `evm` is read: an inherited
one has neither. -/
def TableEntry.read (property : String) : TableEntry → Except JsError TokenInfo
  | .own info => .ok info
  | .inherited => .error
      ⟨.TypeError, "Cannot read properties of undefined (reading '" ++ property ++ "')"⟩

def pow10 (d : Int) : Int := 10 ^ d.natAbs

/-- EVM units to SPL units; the division of big integers truncates. -/
def adjustToSolDecimals (amountEvm : Int) (info : TokenInfo) : Int :=
  let diff := info.sol.decimals - info.evm.decimals
  if 0 ≤ diff then amountEvm * pow10 diff else amountEvm.tdiv (pow10 (-diff))

def adjustToEvmDecimals (amountSol : Int) (info : TokenInfo) : Except JsError Int :=
  if amountSol < 0 then .error ⟨.Error, "amountSol must be non-negative"⟩
  else
    let diff := info.evm.decimals - info.sol.decimals
    .ok (if 0 ≤ diff then amountSol * pow10 diff else amountSol.tdiv (pow10 (-diff)))

/-- The table has one entry. -/
theorem findTokenInfo_own {cfg : Config} {evmAddress : String} {info : TokenInfo}
    (h : findTokenInfo cfg evmAddress = some (.own info)) : info = tokenEntry cfg := by
  simp only [findTokenInfo] at h
  split at h
  · simpa using h.symm
  · split at h <;> cases h

/-! ## DTOs -/

structure EvmToSolVerificationDto where
  requestId : String
  ethClaimTxHash : String
  solanaTransferSignature : String
  solanaDestination : String
  amount : String
  token : String
  evidenceURL : Option String
  deriving DecidableEq

structure SolToEvmVerificationDto where
  requestId : String
  solanaDepositSignature : String
  solanaVault : String
  amount : String
  evmRecipient : String
  evmToken : String
  solanaMint : Option String
  deriving DecidableEq

/-! ## Records -/

inductive BridgeStatus where
  | RECEIVED
  | VERIFIED
  | SETTLED
  | FAILED
  deriving DecidableEq

/-- The columns of `EvmToSolRecord` that `SolToEvmRecord` does not have. -/
structure EvmToSolColumns where
  tokenEvm : String
  amountEvm : String
  ethClaimTxHash : Option String
  solanaSignature : String
  solanaRecipient : String
  tokenSolMint : Option String
  amountSol : Option String
  destTxHash : Option Bytes32
  evidenceHash : Option Bytes32
  evidenceURL : Option String
  deriving DecidableEq

/-- The columns of `SolToEvmRecord` that `EvmToSolRecord` does not have. -/
structure SolToEvmColumns where
  solanaDepositSignature : String
  solanaVault : String
  solanaMint : Option String
  amountSol : String
  evmRecipient : String
  evmToken : String
  amountEvm : Option String
  deriving DecidableEq

/-- The two tables. -/
inductive Repo where
  | evmToSol
  | solToEvm
  deriving DecidableEq

def Repo.Columns : Repo → Type
  | .evmToSol => EvmToSolColumns
  | .solToEvm => SolToEvmColumns

/-- A row, without the `requestId`: that is its key in the table. -/
structure Record (repo : Repo) where
  status : BridgeStatus
  columns : repo.Columns
  settlementTxHash : Option String
  lastError : Option String

/-- The rows of the two tables by `requestId`. -/
abbrev Tables := (repo : Repo) → String → Option (Record repo)

/-! ## Solana transactions -/

structure TokenBalance where
  owner : Option String
  mint : String
  /-- `uiTokenAmount.amount`, as a number. -/
  amount : Nat
  deriving DecidableEq

/-- The balances are of different token accounts, and the supply of a mint
is a `u64`. -/
def Supplied (balances : List TokenBalance) : Prop :=
  ∀ mint, ((balances.filter (·.mint == mint)).map (·.amount)).sum < 2 ^ 64

structure Meta where
  /-- `meta.err` as JSON. -/
  err : Option String
  preBalances : List Nat
  postBalances : List Nat
  preTokenBalances : List TokenBalance
  postTokenBalances : List TokenBalance
  /-- Lamports are a `u64`. -/
  post_u64 : ∀ n ∈ postBalances, n < 2 ^ 64
  post_supplied : Supplied postTokenBalances

structure ParsedTransaction where
  accountKeys : List String
  /-- The programs its instructions invoke, inner ones included. -/
  programs : List String
  meta? : Option Meta
  programs_mem : ∀ p ∈ programs, p ∈ accountKeys

/-- The balances of an owner in a mint, over all token accounts. -/
def sumOwnerMint (balances : List TokenBalance) (owner mint : String) : Nat :=
  ((balances.filter fun b => b.owner == some owner && b.mint == mint).map (·.amount)).sum

def ParsedTransaction.preTokenBalances (tx : ParsedTransaction) : List TokenBalance :=
  (tx.meta?.map (·.preTokenBalances)).getD []

def ParsedTransaction.postTokenBalances (tx : ParsedTransaction) : List TokenBalance :=
  (tx.meta?.map (·.postTokenBalances)).getD []

/-- What the transaction adds to the balances of an owner in a mint. -/
def ParsedTransaction.tokenDelta (tx : ParsedTransaction) (owner mint : String) : Int :=
  (sumOwnerMint tx.postTokenBalances owner mint : Int) -
    sumOwnerMint tx.preTokenBalances owner mint

/-- The lamports of the account with this index. -/
def lamports (balances : Option (List Nat)) (idx : Nat) : Nat :=
  (balances.getD [])[idx]?.getD 0

/-- What the transaction adds to the lamports of an account. -/
def ParsedTransaction.lamportDelta (tx : ParsedTransaction) (idx : Nat) : Int :=
  (lamports (tx.meta?.map (·.postBalances)) idx : Int) -
    lamports (tx.meta?.map (·.preBalances)) idx

/-! ## EVM transactions -/

/-- A transaction the relayer's wallet sends to the contract. -/
inductive ContractCall where
  | verifyAndSettle (requestId : Int) (destTxHash evidenceHash : Bytes32)
  | verifyAndSettleURL (requestId : Int) (destTxHash evidenceHash : Bytes32)
      (evidenceURL : String)
  | deliverTokens (recipient token : String) (amount : Int)
  deriving DecidableEq

structure EventLog where
  address : String
  topic0 : Option String
  /-- `to` and `value` that `decodeEventLog` reads for a `Transfer`; `none`
  when it throws. -/
  decoded : Option (String × Int)
  deriving DecidableEq

structure TransactionReceipt where
  status : Option Nat
  logs : List EventLog
  /-- The property the service reads; a receipt of `ethers` v6 has none of
  this name. -/
  transactionHash : Option String
  deriving DecidableEq

/-- An address as `ethers` writes it, in lower case. -/
def addressString (a : Address) : String :=
  String.ofList ('0' :: 'x' :: (List.range 40).map fun i =>
    Nat.digitChar (a.toNat / 16 ^ (39 - i) % 16))

end LunarysBridge.Relayer
