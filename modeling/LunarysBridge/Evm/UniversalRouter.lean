/-
LunarysBridge.Evm.UniversalRouter — the `UniversalRouter` contract, which
passes swaps and liquidity on to pools that anybody registers.

The tokens are plain ERC-20 tokens (`Lib/Erc20.lean`), without hooks: a call
of a token does what it says and hands control to nobody. A pool is any
contract: while it has control it moves tokens as its allowances let it,
and so does everybody else. What it answers to the router's questions comes
with the call (`Tx`). The log has every move of a token.
-/
import LunarysBridge.Evm.Chain
import LunarysBridge.Lib.Erc20

namespace LunarysBridge.Evm.UniversalRouter

inductive PoolType where
  | V5_PUBLIC
  deriving DecidableEq

structure PoolInfo where
  poolAddress : Address
  poolType : PoolType
  token0 : Address
  token1 : Address
  active : Bool
  deriving DecidableEq

/-- An entry of the mapping that was never written. -/
def PoolInfo.empty : PoolInfo := ⟨0, .V5_PUBLIC, 0, 0, false⟩

/-- The external functions of the contract that write, with their arguments. -/
inductive Fn where
  | registerPoolV5 (poolAddress : Address)
  | deactivatePool (token0 token1 : Address)
  | swapV5Private (token0 token1 : Address) (encryptedAmountIn encryptedMinOut : Bytes32)
      (zeroForOne : Bool) (amountProof minOutProof : List UInt8) (deadline : Nat)
  | swapV5Public (token0 token1 : Address) (amountIn amountOutMin : Nat) (zeroForOne : Bool)
      (deadline : Nat)
  | addLiquidityV5 (token0 token1 : Address) (tickLower tickUpper : Int)
      (amount0 amount1 deadline : Nat)
  deriving DecidableEq

/-- The functions of `IPrivacyPoolV5` that the contract calls on a pool. -/
inductive PoolCall where
  | initiatePrivateSwap (encryptedAmountIn encryptedMinOut : Bytes32) (zeroForOne : Bool)
      (recipient : Address) (amountProof minOutProof : List UInt8) (deadline : Nat)
  | swapExactTokensForTokens (amountIn amountOutMin : Nat) (zeroForOne : Bool)
      (recipient : Address) (deadline : Nat)
  | addLiquidity (tickLower tickUpper : Int) (amount0 amount1 : Nat) (recipient : Address)
      (deadline : Nat)
  deriving DecidableEq

structure ExtCall where
  pool : Address
  call : PoolCall
  deriving DecidableEq

inductive Event where
  | PoolRegistered (pool : Address) (poolType : PoolType) (token0 token1 : Address)
  | PoolDeactivated (pool : Address)
  | SwapExecuted (user pool : Address) (zeroForOne : Bool)
  | LiquidityAdded (user pool : Address) (tokenId : Nat)
  deriving DecidableEq

/-- What the chain keeps of a transaction that was not reverted. -/
inductive LogEntry where
  | emit (e : Event)
  | moved (m : Erc20.Move Address)
  /-- An external call of a pool. -/
  | called (x : ExtCall)
  /-- The number a function of the contract returns. -/
  | returned (value : Nat)
  deriving DecidableEq

/-- Why a call reverts. `InvalidPath` and `InsufficientOutput` are declared
like the others. -/
inductive Revert where
  | PoolNotFound
  | PoolInactive
  | InvalidPoolType
  | InvalidPath
  | Expired
  | InsufficientOutput
  | ZeroAmount
  | ReentrancyGuardReentrantCall
  /-- A token reverts, or `SafeERC20` does for it. -/
  | TokenFailed (token : Address)
  /-- A pool reverts, or the address is no pool. -/
  | PoolFailed (pool : Address)
  /-- ETH sent to a function that is not payable. -/
  | NonPayable
  deriving DecidableEq

structure State where
  pools : Bytes32 → PoolInfo
  poolKeys : List Bytes32
  /-- The status of the reentrancy guard. -/
  entered : Bool
  ledger : Erc20.Ledger Address
  /-- `block.timestamp` -/
  now : Nat
  log : List LogEntry

/-- What is outside this contract: its address, and the hash function. -/
structure Chain where
  self : Address
  keccak256 : BitVec 320 → Bytes32

/-- A call of the contract at `contract`, with what a pool answers to it:
`token0()` and `token1()` if it has them, and the number its last function
returns. Nobody can sign for the zero address, and the contract has no code
that calls itself. -/
structure Tx (contract : Address) where
  sender : Address
  value : Nat
  fn : Fn
  tokens : Option (Address × Address)
  answer : Nat
  sender_ne_zero : sender ≠ 0
  sender_ne_contract : sender ≠ contract

def State.note (s : State) (e : LogEntry) : State := { s with log := s.log ++ [e] }

def State.emit (s : State) (e : Event) : State := s.note (.emit e)

def State.setPool (s : State) (key : Bytes32) (p : PoolInfo) : State :=
  { s with pools := Function.update s.pools key p }

/-- A move on the ledger, if the token makes it. -/
def State.moveTokens (s : State) (m : Erc20.Move Address) : Option State :=
  (m.apply s.ledger).map fun l => { s with ledger := l, log := s.log ++ [.moved m] }

abbrev Code := Reentrancy.Code State ExtCall Revert

variable (ch : Chain) (t : Tx ch.self)

def nonReentrant (body : State → Code) (s : State) : Code :=
  if s.entered then .revert .ReentrancyGuardReentrantCall
  else body { s with entered := true }

/-- The end of a `nonReentrant` body: the guard is given back. -/
def leave (s : State) : Code := .done { s with entered := false }

/-! ## Pool registry -/

/-- `_getPoolKey`, the hash of the packed addresses. -/
def getPoolKey (token0 token1 : Address) : Bytes32 := ch.keccak256 (token0 ++ token1)

/-- `_getPool` -/
def getPool (token0 token1 : Address) (s : State) : Except Revert PoolInfo :=
  let pool := s.pools (getPoolKey ch token0 token1)
  if pool.poolAddress = 0 then .error .PoolNotFound
  else if pool.active = false then .error .PoolInactive
  else .ok pool

/-- The answers of `token0()` and `token1()`, which the router itself does
not have; the zero address has no code. -/
def poolTokens (poolAddress : Address) : Option (Address × Address) :=
  if poolAddress = ch.self ∨ poolAddress = 0 then none else t.tokens

def registerPoolV5 (poolAddress : Address) (s : State) : Code :=
  match poolTokens ch t poolAddress with
  | none => .revert (.PoolFailed poolAddress)
  | some (token0, token1) =>
      let key := getPoolKey ch token0 token1
      let s := s.setPool key
        { poolAddress := poolAddress
          poolType := .V5_PUBLIC
          token0 := token0
          token1 := token1
          active := true }
      let s := { s with poolKeys := s.poolKeys ++ [key] }
      .done (s.emit (.PoolRegistered poolAddress .V5_PUBLIC token0 token1))

def deactivatePool (token0 token1 : Address) (s : State) : Code :=
  let key := getPoolKey ch token0 token1
  if (s.pools key).poolAddress = 0 then .revert .PoolNotFound
  else
    let s := s.setPool key { s.pools key with active := false }
    .done (s.emit (.PoolDeactivated (s.pools key).poolAddress))

/-! ## V5 pool operations -/

/-- A call of a token. -/
def callToken (token : Address) (m : Erc20.Move Address) (rest : State → Code) (s : State) :
    Code :=
  match s.moveTokens m with
  | none => .revert (.TokenFailed token)
  | some s => rest s

/-- `safeTransferFrom(msg.sender, address(this), amount)`, and the pool may
spend it: `approve(pool, amount)`. -/
def takeIn (token pool : Address) (amount : Nat) (rest : State → Code) : State → Code :=
  callToken token (.transferFrom token ch.self t.sender ch.self amount) <|
    callToken token (.approve token ch.self pool amount) rest

/-- A call of the pool; the event of the function follows. -/
def callPool (pool : Address) (call : PoolCall) (event : Event) (s : State) : Code :=
  .call ⟨pool, call⟩ s fun ok s =>
    if ok then leave ((s.emit event).note (.returned t.answer))
    else .revert (.PoolFailed pool)

/-- The pool of the two tokens, if it is of the type the function is for. -/
def withPool (token0 token1 : Address) (body : Address → State → Code) (s : State) : Code :=
  match getPool ch token0 token1 s with
  | .error e => .revert e
  | .ok pool =>
      if pool.poolType ≠ .V5_PUBLIC then .revert .InvalidPoolType
      else body pool.poolAddress s

def swapV5Private (token0 token1 : Address) (encryptedAmountIn encryptedMinOut : Bytes32)
    (zeroForOne : Bool) (amountProof minOutProof : List UInt8) (deadline : Nat) :
    State → Code :=
  nonReentrant fun s =>
    if s.now > deadline then .revert .Expired
    else
      withPool ch token0 token1 (fun pool =>
        callPool ch t pool
          (.initiatePrivateSwap encryptedAmountIn encryptedMinOut zeroForOne t.sender
            amountProof minOutProof deadline)
          (.SwapExecuted t.sender pool zeroForOne)) s

def swapV5Public (token0 token1 : Address) (amountIn amountOutMin : Nat) (zeroForOne : Bool)
    (deadline : Nat) : State → Code :=
  nonReentrant fun s =>
    if s.now > deadline then .revert .Expired
    else if amountIn = 0 then .revert .ZeroAmount
    else
      withPool ch token0 token1 (fun pool =>
        takeIn ch t (if zeroForOne then token0 else token1) pool amountIn <|
          callPool ch t pool
            (.swapExactTokensForTokens amountIn amountOutMin zeroForOne t.sender deadline)
            (.SwapExecuted t.sender pool zeroForOne)) s

/-- `addLiquidityV5` for one of the two tokens. -/
def takeInSome (token pool : Address) (amount : Nat) (rest : State → Code) (s : State) : Code :=
  if amount > 0 then takeIn ch t token pool amount rest s else rest s

def addLiquidityV5 (token0 token1 : Address) (tickLower tickUpper : Int)
    (amount0 amount1 deadline : Nat) : State → Code :=
  nonReentrant fun s =>
    if s.now > deadline then .revert .Expired
    else if amount0 = 0 ∧ amount1 = 0 then .revert .ZeroAmount
    else
      withPool ch token0 token1 (fun pool =>
        takeInSome ch t token0 pool amount0 <| takeInSome ch t token1 pool amount1 <|
          callPool ch t pool
            (.addLiquidity tickLower tickUpper amount0 amount1 t.sender deadline)
            (.LiquidityAdded t.sender pool t.answer)) s

/-! ## Entry points -/

/-- No function is payable. -/
def nonPayable (body : State → Code) (s : State) : Code :=
  if t.value ≠ 0 then .revert .NonPayable else body s

def run : State → Code :=
  match t.fn with
  | .registerPoolV5 poolAddress => registerPoolV5 ch t poolAddress
  | .deactivatePool token0 token1 => deactivatePool ch token0 token1
  | .swapV5Private token0 token1 amountIn minOut zeroForOne amountProof minOutProof deadline =>
      swapV5Private ch t token0 token1 amountIn minOut zeroForOne amountProof minOutProof deadline
  | .swapV5Public token0 token1 amountIn amountOutMin zeroForOne deadline =>
      swapV5Public ch t token0 token1 amountIn amountOutMin zeroForOne deadline
  | .addLiquidityV5 token0 token1 tickLower tickUpper amount0 amount1 deadline =>
      addLiquidityV5 ch t token0 token1 tickLower tickUpper amount0 amount1 deadline

def entry : State → Code := nonPayable ch t (run ch t)

/-- The call reaches the pool; the router has no such function. -/
def deliver (x : ExtCall) (s : State) : Option State :=
  if x.pool = ch.self then none else some (s.note (.called x))

/-- What others can do on the chain without calling the contract: move
tokens, as the tokens let them. -/
inductive Outside : State → State → Prop where
  | moved {s s' : State} (m : Erc20.Move Address) (other : m.actor ≠ some ch.self)
      (h : s.moveTokens m = some s') : Outside s s'

/-- The contract among pools that may do anything. -/
def contract : Reentrancy.Contract (Tx ch.self) State ExtCall Revert where
  entry := entry ch
  deliver := fun _ => deliver ch
  outside := Outside ch

/-! ## Deployment and runs -/

/-- The contract when it is deployed: no pool is registered, nobody can spend
its tokens. -/
def deploy (ledger : Erc20.Ledger Address) (now : Nat) : State where
  pools := fun _ => PoolInfo.empty
  poolKeys := []
  entered := false
  ledger := ledger
  now := now
  log := []

/-- The states between transactions of a deployed contract. -/
inductive Reachable : State → Prop where
  | deployed (ledger : Erc20.Ledger Address) (now : Nat)
      (no_tokens : ∀ token, ledger.balanceOf token ch.self = 0)
      (no_allowances : ∀ token spender, ledger.allowance token ch.self spender = 0) :
      Reachable (deploy ledger now)
  | tx {s s' : State} (before : Reachable s) (t : Tx ch.self)
      (commits : Reentrancy.Commits (contract ch) t s s') : Reachable s'
  | outside {s s' : State} (before : Reachable s) (move : Outside ch s s') : Reachable s'
  | tick {s : State} (before : Reachable s) (time : Nat) (later : s.now ≤ time) :
      Reachable { s with now := time }

end LunarysBridge.Evm.UniversalRouter
