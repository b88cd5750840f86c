/-
LunarysBridge.Evm.Residue — what a pool leaves behind in the router.

The router gives nothing back: what it has taken from its caller and the
pool does not draw stays with it, and so does the pool's allowance. The call
leaves balances and allowances as they were exactly if the pool, with
whoever else moved tokens meanwhile, has drawn as much as was taken in and
spent what it was granted.
-/
import LunarysBridge.Evm.Routing

namespace LunarysBridge.Evm.UniversalRouter

variable {ch : Chain} {t : Tx ch.self} {s s' : State} {token token0 token1 pool : Address}
  {moves : List (Erc20.Move Address)}

/-- The router has what it had of a token, and the pool may spend what it
could. -/
structure Keeps (router pool token : Address) (before after : Erc20.Ledger Address) : Prop where
  balance : after.balanceOf token router = before.balanceOf token router
  allowance : after.allowance token router pool = before.allowance token router pool

/-- The moves draw what was taken in, besides what they give, and leave of
the pool's grant what it could spend before. -/
structure Settles (router pool token : Address) (deposits : List (Address × Nat))
    (before : Erc20.Ledger Address) (moves : List (Erc20.Move Address)) : Prop where
  drawn : Erc20.debited token router moves =
    taken token deposits + Erc20.credited token router moves
  spent : Erc20.remaining (granted token deposits (before.allowance token router pool))
    (Erc20.spent token router pool moves) = before.allowance token router pool

theorem Routed.keeps_iff (h : Routed ch t pool moves s s') (token : Address) :
    Keeps ch.self pool token s.ledger s'.ledger ↔
      Settles ch.self pool token t.fn.deposits s.ledger moves := by
  have hbalance := h.router token
  have hallowance := h.allowance token
  constructor
  · rintro ⟨hbal, hallow⟩
    exact ⟨by omega, hallowance.symm.trans hallow⟩
  · rintro ⟨hdrawn, hspent⟩
    exact ⟨by omega, hallowance.trans hspent⟩

/-- With a pool that does nothing all of it stays. -/
theorem Routed.idle (h : Routed ch t pool [] s s') (token : Address) :
    s'.ledger.balanceOf token ch.self =
        s.ledger.balanceOf token ch.self + taken token t.fn.deposits ∧
      s'.ledger.allowance token ch.self pool =
        granted token t.fn.deposits (s.ledger.allowance token ch.self pool) := by
  constructor
  · have hbalance := h.router token
    simp only [Erc20.debited, Erc20.credited, Tally.total_nil] at hbalance
    exact hbalance
  · have hallowance := h.allowance token
    simp only [Erc20.spent, Tally.total_nil, Erc20.remaining_zero] at hallowance
    exact hallowance

/-- **What stays in the router.** A call that is passed on to a pool leaves
the router's balances of both tokens and the pool's allowances as they were
exactly if the moves others made meanwhile draw what it took in and spend what
it granted. Whenever the call can return, it can also return with all of it
left in the router, the pool's grant included. -/
theorem keeps_nothing_iff (ch : Chain) (s s' : State) (t : Tx ch.self) (token0 token1 : Address)
    (hroutes : t.fn.routes = some (token0, token1))
    (hc : Reentrancy.Commits (contract ch) t s s') :
    (∃ moves, s'.foreign ch.self = s.foreign ch.self ++ moves ∧
      ((∀ token, token = token0 ∨ token = token1 →
          Keeps ch.self (s.poolOf ch token0 token1) token s.ledger s'.ledger) ↔
        ∀ token, token = token0 ∨ token = token1 →
          Settles ch.self (s.poolOf ch token0 token1) token t.fn.deposits s.ledger moves)) ∧
    ∃ s'', Reentrancy.Commits (contract ch) t s s'' ∧ ∀ token,
      s''.ledger.balanceOf token ch.self =
          s.ledger.balanceOf token ch.self + taken token t.fn.deposits ∧
        s''.ledger.allowance token ch.self (s.poolOf ch token0 token1) =
          granted token t.fn.deposits
            (s.ledger.allowance token ch.self (s.poolOf ch token0 token1)) := by
  constructor
  · obtain ⟨moves, hrouted⟩ := routed hroutes hc
    exact ⟨moves, hrouted.log, forall₂_congr fun token _ => hrouted.keeps_iff token⟩
  · obtain ⟨s'', hc'', hidle⟩ := routed_idle hroutes hc
    exact ⟨s'', hc'', hidle.idle⟩

namespace Sample

/-- The user adds 100 tokens of 8 and 100 of 9. -/
def liquidity : Fn := .addLiquidityV5 8 9 (-60) 60 100 100 2000

/-- A pool that needs all of both. -/
def wholly : List (Erc20.Move Address) := [.transferFrom 8 7 1 7 100, .transferFrom 9 7 1 7 100]

/-- A pool whose price needs half as much of 9. -/
def partly : List (Erc20.Move Address) := [.transferFrom 8 7 1 7 100, .transferFrom 9 7 1 7 50]

theorem settled_isSome : (playing wholly liquidity registered).isSome = true := rfl

def settled : State := (playing wholly liquidity registered).get settled_isSome

theorem settled_commits :
    Reentrancy.Commits (contract chain) (call liquidity) registered settled :=
  playing_commits (by decide) (Option.some_get settled_isSome).symm

theorem unsettled_isSome : (playing partly liquidity registered).isSome = true := by
  decide +kernel

def unsettled : State := (playing partly liquidity registered).get unsettled_isSome

theorem unsettled_commits :
    Reentrancy.Commits (contract chain) (call liquidity) registered unsettled :=
  playing_commits (by decide) (Option.some_get unsettled_isSome).symm

end Sample

theorem keeps_nothing_iff_settled :
    Keeps 1 7 8 Sample.registered.ledger Sample.settled.ledger ∧
      Keeps 1 7 9 Sample.registered.ledger Sample.settled.ledger := by
  have hpool : Sample.registered.poolOf Sample.chain 8 9 = 7 := by decide +kernel
  obtain ⟨moves, hlog, hiff⟩ := (keeps_nothing_iff Sample.chain Sample.registered Sample.settled
    (Sample.call Sample.liquidity) 8 9 rfl Sample.settled_commits).1
  obtain rfl : moves = Sample.wholly :=
    Sample.moves_of_log (by decide +kernel) (by decide +kernel) hlog
  rw [hpool] at hiff
  have hkeeps := hiff.mpr ?_
  · exact ⟨hkeeps 8 (.inl rfl), hkeeps 9 (.inr rfl)⟩
  · rintro token (rfl | rfl)
    · exact ⟨by decide +kernel, by decide +kernel⟩
    · exact ⟨by decide +kernel, by decide +kernel⟩

/-- A registered pool needs half of one of the amounts, or takes nothing of
what is swapped: the rest stays in the router. -/
theorem rest_stays :
    (¬ ∀ (ch : Chain) (s s' : State) (t : Tx ch.self) token0 token1 tickLower tickUpper amount0
        amount1 deadline, Reachable ch s →
      t.fn = .addLiquidityV5 token0 token1 tickLower tickUpper amount0 amount1 deadline →
      Reentrancy.Commits (contract ch) t s s' → ∀ token, token = token0 ∨ token = token1 →
        Keeps ch.self (s.poolOf ch token0 token1) token s.ledger s'.ledger) ∧
    ¬ ∀ (ch : Chain) (s s' : State) (t : Tx ch.self) token0 token1 amountIn amountOutMin
        zeroForOne deadline, Reachable ch s →
      t.fn = .swapV5Public token0 token1 amountIn amountOutMin zeroForOne deadline →
      Reentrancy.Commits (contract ch) t s s' → ∀ token, token = token0 ∨ token = token1 →
        Keeps ch.self (s.poolOf ch token0 token1) token s.ledger s'.ledger := by
  constructor
  · intro hall
    have hkeeps := hall Sample.chain Sample.registered Sample.unsettled
      (Sample.call Sample.liquidity) 8 9 (-60) 60 100 100 2000 Sample.registered_reachable rfl
      Sample.unsettled_commits 9 (.inr rfl)
    have hbalance := hkeeps.balance
    revert hbalance
    decide +kernel
  · intro hall
    have hkeeps := hall Sample.chain Sample.registered Sample.unpaid
      (Sample.call Sample.swap) 8 9 100 90 true 2000 Sample.registered_reachable rfl
      Sample.unpaid_commits 8 (.inl rfl)
    have hbalance := hkeeps.balance
    revert hbalance
    decide +kernel

end LunarysBridge.Evm.UniversalRouter
