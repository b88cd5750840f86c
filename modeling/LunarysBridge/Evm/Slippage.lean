/-
LunarysBridge.Evm.Slippage — the minimum a swap asks for, and who sees to
it.

`swapV5Public` hands `amountOutMin` to the pool and looks at nothing
afterwards: the error declared for a short output is never raised. So the
caller of a swap that returns got the minimum exactly if the pool, with
whoever else moved tokens meanwhile, has paid it.
-/
import LunarysBridge.Evm.Routing

namespace LunarysBridge.Evm.UniversalRouter

variable {ch : Chain} {t : Tx ch.self} {s s' : State} {token0 token1 : Address}
  {amountIn amountOutMin deadline : Nat} {zeroForOne : Bool} {moves : List (Erc20.Move Address)}

/-- The direction of a swap. -/
def inputToken (token0 token1 : Address) (zeroForOne : Bool) : Address :=
  if zeroForOne then token0 else token1

def outputToken (token0 token1 : Address) (zeroForOne : Bool) : Address :=
  if zeroForOne then token1 else token0

/-- The caller has got the minimum, and has paid no more than the amount. -/
structure Guaranteed (caller input output : Address) (amountIn amountOutMin : Nat)
    (before after : Erc20.Ledger Address) : Prop where
  output : before.balanceOf output caller + amountOutMin ≤ after.balanceOf output caller
  input : before.balanceOf input caller ≤ after.balanceOf input caller + amountIn

/-- The moves pay the caller the minimum, on top of what they take back, and
take no input. Where both tokens are one, they pay the amount back as well. -/
structure Delivers (caller input output : Address) (amountIn amountOutMin : Nat)
    (moves : List (Erc20.Move Address)) : Prop where
  output : amountOutMin + (if input = output then amountIn else 0) +
    Erc20.debited output caller moves ≤ Erc20.credited output caller moves
  input : Erc20.debited input caller moves ≤ Erc20.credited input caller moves

theorem deposits_swapV5Public
    (hfn : t.fn = .swapV5Public token0 token1 amountIn amountOutMin zeroForOne deadline)
    (token : Address) :
    taken token t.fn.deposits =
      if inputToken token0 token1 zeroForOne = token then amountIn else 0 := by
  rw [hfn]
  simp only [Fn.deposits, taken, Tally.total_cons, Tally.total_nil, Nat.add_zero]
  rfl

theorem Routed.guaranteed_iff {pool : Address} (h : Routed ch t pool moves s s')
    (hfn : t.fn = .swapV5Public token0 token1 amountIn amountOutMin zeroForOne deadline) :
    Guaranteed t.sender (inputToken token0 token1 zeroForOne)
        (outputToken token0 token1 zeroForOne) amountIn amountOutMin s.ledger s'.ledger ↔
      Delivers t.sender (inputToken token0 token1 zeroForOne)
        (outputToken token0 token1 zeroForOne) amountIn amountOutMin moves := by
  have hin := h.caller (inputToken token0 token1 zeroForOne)
  have hout := h.caller (outputToken token0 token1 zeroForOne)
  rw [deposits_swapV5Public hfn, if_pos rfl] at hin
  rw [deposits_swapV5Public hfn] at hout
  constructor
  · rintro ⟨houtput, hinput⟩
    exact ⟨by omega, by omega⟩
  · rintro ⟨houtput, hinput⟩
    exact ⟨by omega, by omega⟩

/-! ## The declared error -/

/-- Every way the code may revert is another one. -/
abbrev Otherwise (ch : Chain) (t : Tx ch.self) : Code → Prop :=
  Reentrancy.FailsOnly (contract ch) t (fun s => s.entered = true)
    (fun s s' => ∃ moves, Undisturbed ch moves s s') (fun e => e ≠ .InsufficientOutput)

theorem otherwise_check {cond : Prop} [Decidable cond] {e : Revert} {p : Code}
    (he : e ≠ .InsufficientOutput) (h : ¬ cond → Otherwise ch t p) :
    Otherwise ch t (if cond then .revert e else p) := by
  split
  · exact he
  · next hcond => exact h hcond

theorem otherwise_callPool {pool : Address} {call : PoolCall} {event : Event}
    (hl : s.entered = true) : Otherwise ch t (callPool ch t pool call event s) := by
  refine ⟨fun s₁ sent => ⟨?_, fun s₂ _ => trivial⟩, Revert.noConfusion⟩
  obtain ⟨_, heq⟩ := Option.ite_none_left_eq_some.mp sent
  cases heq
  exact hl

theorem otherwise_callToken {token : Address} {m : Erc20.Move Address} {rest : State → Code}
    (hl : s.entered = true)
    (hrest : ∀ s : State, s.entered = true → Otherwise ch t (rest s)) :
    Otherwise ch t (callToken token m rest s) := by
  unfold callToken
  cases hmove : s.moveTokens m with
  | none => exact Revert.noConfusion
  | some s₁ =>
      obtain ⟨l, _, rfl⟩ := Option.map_eq_some_iff.mp hmove
      exact hrest _ hl

theorem otherwise_takeIn {token pool : Address} {amount : Nat} {rest : State → Code}
    (hl : s.entered = true)
    (hrest : ∀ s : State, s.entered = true → Otherwise ch t (rest s)) :
    Otherwise ch t (takeIn ch t token pool amount rest s) :=
  otherwise_callToken hl fun _ hl₁ => otherwise_callToken hl₁ hrest

theorem otherwise_takeInSome {token pool : Address} {amount : Nat} {rest : State → Code}
    (hl : s.entered = true)
    (hrest : ∀ s : State, s.entered = true → Otherwise ch t (rest s)) :
    Otherwise ch t (takeInSome ch t token pool amount rest s) := by
  unfold takeInSome
  split
  · exact otherwise_takeIn hl hrest
  · exact hrest s hl

theorem otherwise_withPool {body : Address → State → Code} (hl : s.entered = true)
    (hbody : ∀ pool, ∀ s : State, s.entered = true → Otherwise ch t (body pool s)) :
    Otherwise ch t (withPool ch token0 token1 body s) := by
  unfold withPool getPool
  split
  · next e he =>
    simp only at he
    split at he
    · cases he
      exact Revert.noConfusion
    · split at he
      · cases he
        exact Revert.noConfusion
      · cases he
  · exact otherwise_check Revert.noConfusion fun _ => hbody _ _ hl

theorem otherwise_entry (t : Tx ch.self) (s : State) : Otherwise ch t (entry ch t s) := by
  refine otherwise_check Revert.noConfusion fun _ => ?_
  unfold run
  cases t.fn with
  | registerPoolV5 poolAddress =>
      show Otherwise ch t (registerPoolV5 ch t poolAddress s)
      unfold registerPoolV5
      split
      · exact Revert.noConfusion
      · exact trivial
  | deactivatePool token0 token1 => exact otherwise_check Revert.noConfusion fun _ => trivial
  | swapV5Private token0 token1 amountIn minOut zeroForOne amountProof minOutProof deadline =>
      refine otherwise_check Revert.noConfusion fun _ => ?_
      refine otherwise_check Revert.noConfusion fun _ => ?_
      exact otherwise_withPool rfl fun _ _ hl => otherwise_callPool hl
  | swapV5Public token0 token1 amountIn amountOutMin zeroForOne deadline =>
      refine otherwise_check Revert.noConfusion fun _ => ?_
      refine otherwise_check Revert.noConfusion fun _ => ?_
      refine otherwise_check Revert.noConfusion fun _ => ?_
      exact otherwise_withPool rfl fun _ _ hl =>
        otherwise_takeIn hl fun _ hl₁ => otherwise_callPool hl₁
  | addLiquidityV5 token0 token1 tickLower tickUpper amount0 amount1 deadline =>
      refine otherwise_check Revert.noConfusion fun _ => ?_
      refine otherwise_check Revert.noConfusion fun _ => ?_
      refine otherwise_check Revert.noConfusion fun _ => ?_
      exact otherwise_withPool rfl fun _ _ hl => otherwise_takeInSome hl fun _ hl₁ =>
        otherwise_takeInSome hl₁ fun _ hl₂ => otherwise_callPool hl₂

theorem never_insufficientOutput {e : Revert}
    (h : Reentrancy.Fails (contract ch) t (entry ch t s) e) : e ≠ .InsufficientOutput := by
  have hreason : ∀ reason : Revert → Prop,
      Reentrancy.FailsOnly (contract ch) t (fun s => s.entered = true)
        (fun s s' => ∃ moves, Undisturbed ch moves s s') reason (entry ch t s) → reason e :=
    fun _ honly => (guarded ch).fails _ h honly
  exact hreason (fun e => e ≠ .InsufficientOutput) (otherwise_entry t s)

/-! ## The guarantee -/

/-- **The minimum of a swap.** After a swap that returns the caller has got
the minimum, for no more than the amount, exactly if the moves others made
meanwhile have paid it. The pool that pays nothing is let through as well, so
no swap that can return at all guarantees a positive minimum; and the error
declared for it is never raised. -/
theorem slippage_guaranteed_iff (ch : Chain) :
    (∀ (s s' : State) (t : Tx ch.self) token0 token1 amountIn amountOutMin zeroForOne deadline,
      t.fn = .swapV5Public token0 token1 amountIn amountOutMin zeroForOne deadline →
      Reentrancy.Commits (contract ch) t s s' →
        (∃ moves, s'.foreign ch.self = s.foreign ch.self ++ moves ∧
          (Guaranteed t.sender (inputToken token0 token1 zeroForOne)
              (outputToken token0 token1 zeroForOne) amountIn amountOutMin s.ledger s'.ledger ↔
            Delivers t.sender (inputToken token0 token1 zeroForOne)
              (outputToken token0 token1 zeroForOne) amountIn amountOutMin moves)) ∧
        (0 < amountOutMin → ∃ s'', Reentrancy.Commits (contract ch) t s s'' ∧
          ¬ Guaranteed t.sender (inputToken token0 token1 zeroForOne)
            (outputToken token0 token1 zeroForOne) amountIn amountOutMin s.ledger s''.ledger)) ∧
    ∀ (s : State) (t : Tx ch.self) e, Reentrancy.Fails (contract ch) t (entry ch t s) e →
      e ≠ .InsufficientOutput := by
  refine ⟨fun s s' t token0 token1 amountIn amountOutMin zeroForOne deadline hfn hc => ⟨?_, ?_⟩,
    fun s t e hfails => never_insufficientOutput hfails⟩
  · have hroutes : t.fn.routes = some (token0, token1) := by rw [hfn]; rfl
    obtain ⟨moves, hrouted⟩ := routed hroutes hc
    exact ⟨moves, hrouted.log, hrouted.guaranteed_iff hfn⟩
  · intro hpositive
    have hroutes : t.fn.routes = some (token0, token1) := by rw [hfn]; rfl
    obtain ⟨s'', hc'', hidle⟩ := routed_idle hroutes hc
    refine ⟨s'', hc'', fun hguaranteed => ?_⟩
    have hpaid := ((hidle.guaranteed_iff hfn).mp hguaranteed).output
    simp only [Erc20.debited, Erc20.credited, Tally.total_nil] at hpaid
    omega

namespace Sample

/-- A pool that takes the tokens and pays what is asked. -/
def paying : List (Erc20.Move Address) :=
  [.transferFrom 8 7 1 7 100, .transfer 9 7 4 90]

theorem paid_isSome : (playing paying swap registered).isSome = true := rfl

/-- The pool has paid. -/
def paid : State := (playing paying swap registered).get paid_isSome

theorem paid_commits : Reentrancy.Commits (contract chain) (call swap) registered paid :=
  playing_commits (by decide) (Option.some_get paid_isSome).symm

end Sample

theorem slippage_guaranteed_iff_paid :
    Guaranteed 4 8 9 100 90 Sample.registered.ledger Sample.paid.ledger := by
  have hslippage := slippage_guaranteed_iff Sample.chain
  obtain ⟨moves, hlog, hiff⟩ := (hslippage.1 Sample.registered Sample.paid (Sample.call Sample.swap)
    8 9 100 90 true 2000 rfl Sample.paid_commits).1
  obtain rfl : moves = Sample.paying :=
    Sample.moves_of_log (by decide +kernel) (by decide +kernel) hlog
  exact hiff.mpr ⟨by decide +kernel, by decide +kernel⟩

/-- A pool is registered that takes a swap and does nothing: the swap
returns, and the user has none of the output. -/
theorem unpaid_swap_returns :
    ¬ ∀ (ch : Chain) (s s' : State) (t : Tx ch.self) token0 token1 amountIn amountOutMin
        zeroForOne deadline, Reachable ch s →
      t.fn = .swapV5Public token0 token1 amountIn amountOutMin zeroForOne deadline →
      Reentrancy.Commits (contract ch) t s s' →
        Guaranteed t.sender (inputToken token0 token1 zeroForOne)
          (outputToken token0 token1 zeroForOne) amountIn amountOutMin s.ledger s'.ledger := by
  intro hall
  have hguaranteed := hall Sample.chain Sample.registered Sample.unpaid
    (Sample.call Sample.swap) 8 9 100 90 true 2000 Sample.registered_reachable rfl
    Sample.unpaid_commits
  have hpaid := hguaranteed.output
  revert hpaid
  decide +kernel

end LunarysBridge.Evm.UniversalRouter
