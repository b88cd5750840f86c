/-
LunarysBridge.Solana.Runtime — what the bridge program runs on: addresses,
accounts, and the System and Token programs it calls.

Addresses of the program's own accounts are derived from seeds; they are
constructors of `Pubkey`, so two of them are equal when their seeds are,
and nobody can sign for them. An instruction is a function to `Except`:
one that fails leaves no trace.

`u64` and `u16` are `UInt64` and `UInt16`. A timestamp (`i64`) is an `Int`;
its checked addition fails out of the range of `i64`.
-/
import LunarysBridge.Lib.Table

namespace LunarysBridge.Solana

abbrev Bytes32 := BitVec 256

inductive Pubkey where
  /-- An address that is not derived by the program. -/
  | key (bytes : Bytes32)
  /-- Seeds `b"request"`, the owner and the id. -/
  | request (owner : Pubkey) (requestId : UInt64)
  /-- Seeds `BOND_VAULT_SEED` and the id. -/
  | bondVault (requestId : UInt64)
  /-- Seed `SIGN_PDA_SEED`: the authority of the escrow accounts. -/
  | signPda
  deriving DecidableEq

/-- `Pubkey::default()` -/
def Pubkey.default : Pubkey := .key 0

/-- The mint of wrapped SOL. -/
def nativeMint : Pubkey :=
  .key 0x069b8857feab8184fb687f634618c035dac439dc1aeb3b5598a0f00000000001

/-- Somebody who signs a transaction. There is no key for the default
address, and none for the program's own. -/
structure Signer where
  bytes : Bytes32
  nonzero : bytes ≠ 0
  deriving DecidableEq

def Signer.key (w : Signer) : Pubkey := .key w.bytes

theorem Signer.key_ne_signPda (w : Signer) : w.key ≠ .signPda := by
  simp [Signer.key]

/-- The program that owns an account. -/
inductive Owner where
  | system
  | bridge
  | other
  deriving DecidableEq

/-! ## Errors -/

inductive ErrorCode where
  | ClusterNotSet
  | InvalidMint
  | InvalidOwner
  | OnlyOwner
  | RequestAlreadyFinalized
  | ActiveClaimNotExpired
  | ZeroBondNotAllowed
  | BondTooLow
  | ActiveClaim
  | NoClaim
  | ClaimExpired
  | MathOverflow
  | AlreadyFinalized
  | ClaimWindowOutOfRange
  | InsufficientEscrowBalance
  | AbortedComputation
  deriving DecidableEq

inductive Error where
  /-- An error of the program itself. -/
  | code (e : ErrorCode)
  /-- An account is missing or of another type. -/
  | AccountNotInitialized
  /-- `init` of an account that exists. -/
  | AccountAlreadyInUse
  /-- An account is not at the address its constraint names. -/
  | ConstraintAddress
  | AccountNotSystemOwned
  /-- The System or the Token program refuses a transfer. -/
  | InsufficientFunds
  | OwnerMismatch
  | MintMismatch
  | Overflow
  | NonNativeNotSupported
  /-- The runtime refuses to take lamports from an account. -/
  | ExternalAccountLamportSpend
  /-- The Arcium program refuses the computation. -/
  | QueueRejected
  deriving DecidableEq

/-- `require!(cond, error)` -/
def require (cond : Prop) [Decidable cond] (e : Error) : Except Error Unit :=
  if cond then .ok () else .error e

theorem require_ok {cond : Prop} [Decidable cond] {e : Error} {u : Unit}
    (h : require cond e = .ok u) : cond := by
  unfold require at h
  split at h
  · assumption
  · cases h

/-- `option.ok_or(error)?` -/
def okOr {α : Type} (o : Option α) (e : Error) : Except Error α :=
  match o with
  | some a => .ok a
  | none => .error e

theorem okOr_ok {α : Type} {o : Option α} {e : Error} {a : α}
    (h : okOr o e = .ok a) : o = some a := by
  cases o with
  | some b => cases h; rfl
  | none => cases h

/-- A computation that succeeds has succeeded in each of its parts. -/
theorem bind_ok {ε α β : Type} {x : Except ε α} {f : α → Except ε β} {b : β}
    (h : x >>= f = .ok b) : ∃ a, x = .ok a ∧ f a = .ok b := by
  cases x with
  | error e => cases h
  | ok a => exact ⟨a, rfl, h⟩

theorem ok_of_toOption {ε α : Type} {x : Except ε α} {a : α} (h : x.toOption = some a) :
    x = .ok a := by
  cases x with
  | error e => cases h
  | ok b => cases h; rfl

theorem bind_require {α : Type} {cond : Prop} [Decidable cond] {e : Error}
    {f : Unit → Except Error α} (h : cond) : (require cond e >>= f) = f () := by
  rw [require, if_pos h]
  rfl

theorem bind_okOr {α β : Type} {e : Error} (a : α) (f : α → Except Error β) :
    (okOr (some a) e >>= f) = f a :=
  rfl

/-! ## Checked arithmetic -/

/-- `a.checked_add(b)` on `u64`. -/
def checkedAdd (a b : UInt64) : Option UInt64 :=
  if a.toNat + b.toNat < 2 ^ 64 then some (a + b) else none

theorem checkedAdd_some {a b c : UInt64} (h : checkedAdd a b = some c) :
    c.toNat = a.toNat + b.toNat := by
  simp only [checkedAdd, Option.ite_none_right_eq_some, Option.some.injEq] at h
  obtain ⟨hlt, rfl⟩ := h
  rw [UInt64.toNat_add, Nat.mod_eq_of_lt hlt]

/-- `u64::try_from(n)` -/
def tryFromU64 (n : Nat) : Option UInt64 :=
  if n < 2 ^ 64 then some (UInt64.ofNat n) else none

theorem tryFromU64_some {n : Nat} {c : UInt64} (h : tryFromU64 n = some c) :
    c.toNat = n := by
  simp only [tryFromU64, Option.ite_none_right_eq_some, Option.some.injEq] at h
  obtain ⟨hlt, rfl⟩ := h
  rw [UInt64.toNat_ofNat', Nat.mod_eq_of_lt hlt]

/-- `a.checked_add(b)` on `i64`. -/
def checkedAddI64 (a b : Int) : Option Int :=
  if -2 ^ 63 ≤ a + b ∧ a + b < 2 ^ 63 then some (a + b) else none

/-! ## Token accounts -/

/-- An account of the Token program. Wrapped SOL is backed: an account of
the native mint has the lamports for its amount, next to its reserve. -/
structure TokenAccount where
  mint : Pubkey
  owner : Pubkey
  amount : UInt64
  lamports : Nat
  /-- `is_native`: the rent-exempt reserve, for the native mint. -/
  reserve : Nat
  backed : mint = nativeMint → amount.toNat + reserve ≤ lamports

/-- Take tokens out; wrapped SOL takes its lamports along. -/
def TokenAccount.debit (a : TokenAccount) (n : UInt64) (h : n ≤ a.amount) :
    TokenAccount where
  mint := a.mint
  owner := a.owner
  amount := a.amount - n
  lamports := if a.mint = nativeMint then a.lamports - n.toNat else a.lamports
  reserve := a.reserve
  backed := by
    intro hm
    have hb := a.backed hm
    have hle := UInt64.le_iff_toNat_le.mp h
    rw [if_pos hm, UInt64.toNat_sub_of_le _ _ h]
    omega

/-- Put tokens in. -/
def TokenAccount.credit (a : TokenAccount) (n : UInt64)
    (h : a.amount.toNat + n.toNat < 2 ^ 64) : TokenAccount where
  mint := a.mint
  owner := a.owner
  amount := a.amount + n
  lamports := if a.mint = nativeMint then a.lamports + n.toNat else a.lamports
  reserve := a.reserve
  backed := by
    intro hm
    have hb := a.backed hm
    rw [if_pos hm, UInt64.toNat_add, Nat.mod_eq_of_lt h]
    omega

/-- Lamports come in from outside the Token program. -/
def TokenAccount.fund (a : TokenAccount) (n : Nat) : TokenAccount where
  mint := a.mint
  owner := a.owner
  amount := a.amount
  lamports := a.lamports + n
  reserve := a.reserve
  backed := fun hm => Nat.le_trans (a.backed hm) (Nat.le_add_right _ _)

end LunarysBridge.Solana
