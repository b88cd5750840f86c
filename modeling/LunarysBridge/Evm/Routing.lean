/-
LunarysBridge.Evm.Routing — what a call that is passed on to a pool does to
the balances and allowances of the tokens.

The router takes its caller's tokens in and lets the pool spend them; then
the pool has control. So the ledger after the call is the ledger before it
moved by the router's own moves (`ownMoves`) and, after them, by the moves
of others (`Routed`). The two accounts of `Lib/Erc20.lean` say what that
makes of the caller's and of the router's balances, and of what the pool
may still spend.
-/
import LunarysBridge.Evm.UniversalRouter

namespace LunarysBridge.Evm.UniversalRouter

variable {ch : Chain} {t : Tx ch.self} {s s' s₁ s₂ : State}
  {token token0 token1 pool : Address} {amount : Nat}

/-! ## Moves of others -/

/-- The move, if somebody else asked for it. -/
def LogEntry.foreign (self : Address) : LogEntry → Option (Erc20.Move Address)
  | .moved m => if m.actor = some self then none else some m
  | _ => none

/-- The moves of others on the record. -/
def State.foreign (self : Address) (s : State) : List (Erc20.Move Address) :=
  s.log.filterMap (LogEntry.foreign self)

theorem foreign_note {e : LogEntry} {self : Address} (h : e.foreign self = none) :
    (s.note e).foreign self = s.foreign self := by
  simp [State.foreign, State.note, h]

/-- Others have made these moves, and the guard is as it was. -/
structure Undisturbed (ch : Chain) (moves : List (Erc20.Move Address)) (s s' : State) : Prop where
  others : ∀ m ∈ moves, m.actor ≠ some ch.self
  ledger : Erc20.run moves s.ledger = some s'.ledger
  log : s'.foreign ch.self = s.foreign ch.self ++ moves
  entered : s'.entered = s.entered

theorem Undisturbed.none (hledger : s'.ledger = s.ledger)
    (hlog : s'.foreign ch.self = s.foreign ch.self) (hentered : s'.entered = s.entered) :
    Undisturbed ch [] s s' :=
  ⟨fun _ h => absurd h List.not_mem_nil, by rw [hledger]; rfl, by rw [hlog, List.append_nil],
    hentered⟩

theorem Undisturbed.trans {ms₁ ms₂ : List (Erc20.Move Address)} (h₁ : Undisturbed ch ms₁ s s₁)
    (h₂ : Undisturbed ch ms₂ s₁ s₂) : Undisturbed ch (ms₁ ++ ms₂) s s₂ where
  others := List.forall_mem_append.mpr ⟨h₁.others, h₂.others⟩
  ledger := (Erc20.run_append h₁.ledger).trans h₂.ledger
  log := by rw [h₂.log, h₁.log, List.append_assoc]
  entered := h₂.entered.trans h₁.entered

theorem undisturbed_outside (h : Outside ch s s') : ∃ moves, Undisturbed ch moves s s' := by
  cases h with
  | moved m other h =>
      obtain ⟨l, happly, rfl⟩ := Option.map_eq_some_iff.mp h
      refine ⟨[m], fun m' hm => ?_, ?_, ?_, rfl⟩
      · rwa [List.mem_singleton.mp hm]
      · simp [Erc20.run, happly]
      · simp [State.foreign, LogEntry.foreign, other]

/-- The functions without the guard write the registry and nothing else. -/
theorem quiet_registerPoolV5 (poolAddress : Address) :
    Reentrancy.Quiet (fun s s' => ∃ moves, Undisturbed ch moves s s') s
      (registerPoolV5 ch t poolAddress s) := by
  unfold registerPoolV5
  split
  · exact Reentrancy.quiet_revert _
  · exact Reentrancy.quiet_done ⟨[], .none rfl (foreign_note rfl) rfl⟩

theorem quiet_deactivatePool (token0 token1 : Address) :
    Reentrancy.Quiet (fun s s' => ∃ moves, Undisturbed ch moves s s') s
      (deactivatePool ch token0 token1 s) :=
  Reentrancy.quiet_check fun _ =>
    Reentrancy.quiet_done ⟨[], .none rfl (foreign_note rfl) rfl⟩

theorem entry_locked (t : Tx ch.self) (s : State) (hl : s.entered = true) :
    Reentrancy.Quiet (fun s s' => ∃ moves, Undisturbed ch moves s s') s (entry ch t s) := by
  refine Reentrancy.quiet_check fun _ => ?_
  unfold run
  cases t.fn with
  | registerPoolV5 poolAddress => exact quiet_registerPoolV5 poolAddress
  | deactivatePool token0 token1 => exact quiet_deactivatePool token0 token1
  | swapV5Private token0 token1 amountIn minOut zeroForOne amountProof minOutProof deadline =>
      exact Reentrancy.quiet_check fun hentered => absurd hl hentered
  | swapV5Public token0 token1 amountIn amountOutMin zeroForOne deadline =>
      exact Reentrancy.quiet_check fun hentered => absurd hl hentered
  | addLiquidityV5 token0 token1 tickLower tickUpper amount0 amount1 deadline =>
      exact Reentrancy.quiet_check fun hentered => absurd hl hentered

/-- While a pool has control it moves tokens, and changes the registry. -/
theorem guarded (ch : Chain) :
    Reentrancy.Guarded (contract ch) (fun s => s.entered = true)
      (fun s s' => ∃ moves, Undisturbed ch moves s s') where
  refl _ := ⟨[], .none rfl rfl rfl⟩
  trans := by
    rintro s₁ s₂ s₃ ⟨ms₁, h₁⟩ ⟨ms₂, h₂⟩
    exact ⟨_, h₁.trans h₂⟩
  keeps := by
    rintro s s' ⟨_, h⟩ hl
    exact h.entered.trans hl
  outside := undisturbed_outside
  entry := entry_locked

/-! ## What the router takes in -/

/-- The tokens of a call that goes to a pool. -/
def Fn.routes : Fn → Option (Address × Address)
  | .swapV5Private token0 token1 _ _ _ _ _ _ => some (token0, token1)
  | .swapV5Public token0 token1 _ _ _ _ => some (token0, token1)
  | .addLiquidityV5 token0 token1 _ _ _ _ _ => some (token0, token1)
  | _ => none

/-- One deposit, if it is of some tokens. -/
def someOf (token : Address) (amount : Nat) : List (Address × Nat) :=
  if amount > 0 then [(token, amount)] else []

/-- The tokens a call takes from its caller. -/
def Fn.deposits : Fn → List (Address × Nat)
  | .swapV5Public token0 token1 amountIn _ zeroForOne _ =>
      [(if zeroForOne then token0 else token1, amountIn)]
  | .addLiquidityV5 token0 token1 _ _ amount0 amount1 _ =>
      someOf token0 amount0 ++ someOf token1 amount1
  | _ => []

/-- How much of a token they are. -/
def taken (token : Address) (deposits : List (Address × Nat)) : Nat :=
  Tally.total (fun d => if d.1 = token then d.2 else 0) deposits

/-- What the pool may spend of it then: the last approval counts. -/
def granted (token : Address) : List (Address × Nat) → Nat → Nat
  | [], before => before
  | d :: deposits, before => granted token deposits (if d.1 = token then d.2 else before)

/-- What the router asks the tokens for. -/
def ownMoves (self caller pool : Address) :
    List (Address × Nat) → List (Erc20.Move Address)
  | [] => []
  | d :: deposits =>
      .transferFrom d.1 self caller self d.2 :: .approve d.1 self pool d.2 ::
        ownMoves self caller pool deposits

/-- The pool has been given what it may spend, and is not called yet. -/
structure Handed (ch : Chain) (t : Tx ch.self) (pool : Address) (deposits : List (Address × Nat))
    (s s' : State) : Prop where
  ledger : Erc20.run (ownMoves ch.self t.sender pool deposits) s.ledger = some s'.ledger
  log : s'.foreign ch.self = s.foreign ch.self
  entered : s'.entered = s.entered

theorem Handed.none : Handed ch t pool [] s s := ⟨rfl, rfl, rfl⟩

theorem ownMoves_append (self caller pool : Address) (d₁ d₂ : List (Address × Nat)) :
    ownMoves self caller pool (d₁ ++ d₂) =
      ownMoves self caller pool d₁ ++ ownMoves self caller pool d₂ := by
  induction d₁ with
  | nil => rfl
  | cons d d₁ ih => simp [ownMoves, ih]

theorem Handed.trans {d₁ d₂ : List (Address × Nat)} (h₁ : Handed ch t pool d₁ s s₁)
    (h₂ : Handed ch t pool d₂ s₁ s₂) : Handed ch t pool (d₁ ++ d₂) s s₂ where
  ledger := by
    rw [ownMoves_append, Erc20.run_append h₁.ledger]
    exact h₂.ledger
  log := h₂.log.trans h₁.log
  entered := h₂.entered.trans h₁.entered

/-- A move of the router itself. -/
theorem callToken_exec {m : Erc20.Move Address} {rest : State → Code}
    (hown : m.actor = some ch.self)
    (h : Reentrancy.Exec (contract ch) t (callToken token m rest s) s') :
    ∃ s₁, callToken token m rest s = rest s₁ ∧ m.apply s.ledger = some s₁.ledger ∧
      s₁.foreign ch.self = s.foreign ch.self ∧ s₁.entered = s.entered := by
  unfold callToken at h ⊢
  cases hmove : s.moveTokens m with
  | none =>
      rw [hmove] at h
      cases h
  | some s₁ =>
      obtain ⟨l, happly, rfl⟩ := Option.map_eq_some_iff.mp hmove
      exact ⟨_, rfl, happly, foreign_note (by simp [LogEntry.foreign, hown]), rfl⟩

theorem takeIn_exec {rest : State → Code}
    (h : Reentrancy.Exec (contract ch) t (takeIn ch t token pool amount rest s) s') :
    ∃ s₁, takeIn ch t token pool amount rest s = rest s₁ ∧
      Handed ch t pool [(token, amount)] s s₁ := by
  unfold takeIn at h ⊢
  obtain ⟨s₁, heq₁, happly₁, hlog₁, hentered₁⟩ := callToken_exec rfl h
  rw [heq₁] at h ⊢
  obtain ⟨s₂, heq₂, happly₂, hlog₂, hentered₂⟩ := callToken_exec rfl h
  refine ⟨s₂, heq₂, ?_, hlog₂.trans hlog₁, hentered₂.trans hentered₁⟩
  simp [ownMoves, Erc20.run, happly₁, happly₂]

theorem takeInSome_exec {rest : State → Code}
    (h : Reentrancy.Exec (contract ch) t (takeInSome ch t token pool amount rest s) s') :
    ∃ s₁, takeInSome ch t token pool amount rest s = rest s₁ ∧
      Handed ch t pool (someOf token amount) s s₁ := by
  unfold takeInSome at h ⊢
  unfold someOf
  split at h
  · next hpos =>
    rw [if_pos hpos, if_pos hpos]
    exact takeIn_exec h
  · next hzero =>
    rw [if_neg hzero, if_neg hzero]
    exact ⟨s, rfl, .none⟩

/-! ## A call that goes through -/

/-- The registered pool of two tokens. -/
def State.poolOf (ch : Chain) (s : State) (token0 token1 : Address) : Address :=
  (s.pools (getPoolKey ch token0 token1)).poolAddress

theorem withPool_exec {body : Address → State → Code}
    (h : Reentrancy.Exec (contract ch) t (withPool ch token0 token1 body s) s') :
    withPool ch token0 token1 body s = body (s.poolOf ch token0 token1) s := by
  unfold withPool at h ⊢
  cases hpool : getPool ch token0 token1 s with
  | error e =>
      rw [hpool] at h
      cases h
  | ok pool =>
      rw [hpool] at h
      obtain ⟨htype, _⟩ := Reentrancy.exec_check h
      have heq : pool = s.pools (getPoolKey ch token0 token1) := by
        simp only [getPool] at hpool
        split at hpool
        · cases hpool
        · split at hpool
          · cases hpool
          · cases hpool
            rfl
      subst heq
      exact if_neg htype

/-- The code of a call that is passed on, from where it calls the pool. -/
theorem entry_routes (hroutes : t.fn.routes = some (token0, token1))
    (hc : Reentrancy.Commits (contract ch) t s s') :
    ∃ call event s₁, entry ch t s = callPool ch t (s.poolOf ch token0 token1) call event s₁ ∧
      Handed ch t (s.poolOf ch token0 token1) t.fn.deposits { s with entered := true } s₁ := by
  have h : Reentrancy.Exec (contract ch) t (nonPayable ch t (run ch t) s) s' := hc
  obtain ⟨hvalue, h⟩ := Reentrancy.exec_check h
  have hentry : entry ch t s = run ch t s := if_neg hvalue
  rw [hentry]
  unfold run at h ⊢
  cases hfn : t.fn with
  | registerPoolV5 poolAddress =>
      rw [hfn] at hroutes
      cases hroutes
  | deactivatePool token0 token1 =>
      rw [hfn] at hroutes
      cases hroutes
  | swapV5Private token0' token1' amountIn minOut zeroForOne amountProof minOutProof deadline =>
      rw [hfn] at hroutes h
      cases hroutes
      obtain ⟨hentered, h⟩ := Reentrancy.exec_check h
      obtain ⟨hdeadline, h⟩ := Reentrancy.exec_check h
      have hpool := withPool_exec h
      exact ⟨_, _, _, (if_neg hentered).trans ((if_neg hdeadline).trans hpool), .none⟩
  | swapV5Public token0' token1' amountIn amountOutMin zeroForOne deadline =>
      rw [hfn] at hroutes h
      cases hroutes
      obtain ⟨hentered, h⟩ := Reentrancy.exec_check h
      obtain ⟨hdeadline, h⟩ := Reentrancy.exec_check h
      obtain ⟨hamount, h⟩ := Reentrancy.exec_check h
      have hpool := withPool_exec h
      rw [hpool] at h
      obtain ⟨s₁, htake, hhanded⟩ := takeIn_exec h
      exact ⟨_, _, s₁, (if_neg hentered).trans ((if_neg hdeadline).trans
        ((if_neg hamount).trans (hpool.trans htake))), hhanded⟩
  | addLiquidityV5 token0' token1' tickLower tickUpper amount0 amount1 deadline =>
      rw [hfn] at hroutes h
      cases hroutes
      obtain ⟨hentered, h⟩ := Reentrancy.exec_check h
      obtain ⟨hdeadline, h⟩ := Reentrancy.exec_check h
      obtain ⟨hamounts, h⟩ := Reentrancy.exec_check h
      have hpool := withPool_exec h
      rw [hpool] at h
      obtain ⟨s₁, htake₀, hhanded₀⟩ := takeInSome_exec h
      rw [htake₀] at h
      obtain ⟨s₂, htake₁, hhanded₁⟩ := takeInSome_exec h
      exact ⟨_, _, s₂, (if_neg hentered).trans ((if_neg hdeadline).trans
        ((if_neg hamounts).trans (hpool.trans (htake₀.trans htake₁)))), hhanded₀.trans hhanded₁⟩

/-- The ledger after the call: the router's own moves, then those of others. -/
structure Routed (ch : Chain) (t : Tx ch.self) (pool : Address)
    (moves : List (Erc20.Move Address)) (s s' : State) : Prop where
  others : ∀ m ∈ moves, m.actor ≠ some ch.self
  ledger : ∃ l, Erc20.run (ownMoves ch.self t.sender pool t.fn.deposits) s.ledger = some l ∧
    Erc20.run moves l = some s'.ledger
  log : s'.foreign ch.self = s.foreign ch.self ++ moves

/-- The call of the pool is put on the record, and nothing else. -/
theorem Handed.sent {deposits : List (Address × Nat)} {x : ExtCall}
    (h : Handed ch t pool deposits s s₁) (sent : deliver ch x s₁ = some s₂) :
    Handed ch t pool deposits s s₂ := by
  obtain ⟨_, heq⟩ := Option.ite_none_left_eq_some.mp sent
  cases heq
  exact ⟨h.ledger, (foreign_note rfl).trans h.log, h.entered⟩

theorem routed (hroutes : t.fn.routes = some (token0, token1))
    (hc : Reentrancy.Commits (contract ch) t s s') :
    ∃ moves, Routed ch t (s.poolOf ch token0 token1) moves s s' := by
  obtain ⟨call, event, s₁, hentry, hhanded⟩ := entry_routes hroutes hc
  have h : Reentrancy.Exec (contract ch) t (entry ch t s) s' := hc
  rw [hentry] at h
  obtain ⟨s₂, s₃, sent, during, hend⟩ := Reentrancy.exec_call rfl h
  have hcalled := hhanded.sent sent
  obtain ⟨moves, hu⟩ := (guarded ch).callee during hcalled.entered
  cases hend
  refine ⟨moves, hu.others, ⟨s₂.ledger, hcalled.ledger, hu.ledger⟩, ?_⟩
  have hlog : s₃.foreign ch.self = s.foreign ch.self ++ moves := by
    rw [hu.log, hcalled.log]
    rfl
  rw [← hlog]
  exact (foreign_note rfl).trans (foreign_note rfl)

/-- The pool may also do nothing. -/
theorem routed_idle (hroutes : t.fn.routes = some (token0, token1))
    (hc : Reentrancy.Commits (contract ch) t s s') :
    ∃ s'', Reentrancy.Commits (contract ch) t s s'' ∧
      Routed ch t (s.poolOf ch token0 token1) [] s s'' := by
  obtain ⟨call, event, s₁, hentry, hhanded⟩ := entry_routes hroutes hc
  have h : Reentrancy.Exec (contract ch) t (entry ch t s) s' := hc
  rw [hentry] at h
  obtain ⟨s₂, _, sent, _, _⟩ := Reentrancy.exec_call rfl h
  have hcalled := hhanded.sent sent
  refine ⟨{ (s₂.emit event).note (.returned t.answer) with entered := false }, ?_, ?_⟩
  · show Reentrancy.Exec (contract ch) t (entry ch t s) _
    rw [hentry]
    exact .returned sent .idle (by rw [if_pos rfl]; exact .done)
  · refine ⟨fun _ h => absurd h List.not_mem_nil, ⟨s₂.ledger, hcalled.ledger, rfl⟩, ?_⟩
    have hlog : s₂.foreign ch.self = s.foreign ch.self := hcalled.log
    rw [List.append_nil, ← hlog]
    exact (foreign_note rfl).trans (foreign_note rfl)

/-! ## What that makes of the balances -/

section Own

variable {self caller : Address} {l l' : Erc20.Ledger Address} (hcaller : caller ≠ self)
include hcaller

/-- The router takes from its caller and gives to nobody. -/
theorem ownMoves_balances (token pool : Address) (deposits : List (Address × Nat)) :
    Erc20.debited token caller (ownMoves self caller pool deposits) = taken token deposits ∧
    Erc20.credited token caller (ownMoves self caller pool deposits) = 0 ∧
    Erc20.debited token self (ownMoves self caller pool deposits) = 0 ∧
    Erc20.credited token self (ownMoves self caller pool deposits) = taken token deposits := by
  unfold Erc20.debited Erc20.credited taken
  induction deposits with
  | nil => exact ⟨rfl, rfl, rfl, rfl⟩
  | cons d deposits ih =>
      obtain ⟨hout, hin, hself, htaken⟩ := ih
      simp [ownMoves, Erc20.Move.debit, Erc20.Move.credit, hcaller, hcaller.symm, hout, hin,
        hself, htaken]

theorem ownMoves_allowance {deposits : List (Address × Nat)}
    (h : Erc20.run (ownMoves self caller pool deposits) l = some l') :
    l'.allowance token self pool = granted token deposits (l.allowance token self pool) := by
  induction deposits generalizing l with
  | nil =>
      cases h
      rfl
  | cons d deposits ih =>
      obtain ⟨l₁, hpull, h⟩ := Option.bind_eq_some_iff.mp h
      obtain ⟨l₂, hgrant, h⟩ := Option.bind_eq_some_iff.mp h
      have hbefore := Erc20.allowance_apply hpull token self pool
      have hafter := Erc20.allowance_apply hgrant token self pool
      simp only [Erc20.Move.approved, Erc20.Move.spent, hcaller, false_and, and_false, if_false,
        Option.getD_none, Erc20.remaining_zero, and_self, and_true] at hbefore hafter
      rw [ih h, hafter, hbefore, granted]
      congr 1
      split
      · rfl
      · rfl

end Own

variable {moves : List (Erc20.Move Address)}

/-- What a holder has after the call, by both accounts. -/
theorem Routed.balance (h : Routed ch t pool moves s s') (token holder : Address) :
    s'.ledger.balanceOf token holder +
        (Erc20.debited token holder (ownMoves ch.self t.sender pool t.fn.deposits) +
          Erc20.debited token holder moves) =
      s.ledger.balanceOf token holder +
        (Erc20.credited token holder (ownMoves ch.self t.sender pool t.fn.deposits) +
          Erc20.credited token holder moves) := by
  obtain ⟨l, hown, hmoves⟩ := h.ledger
  have hbefore := Erc20.run_balance hown token holder
  have hafter := Erc20.run_balance hmoves token holder
  omega

theorem Routed.caller (h : Routed ch t pool moves s s') (token : Address) :
    s'.ledger.balanceOf token t.sender +
        (taken token t.fn.deposits + Erc20.debited token t.sender moves) =
      s.ledger.balanceOf token t.sender + Erc20.credited token t.sender moves := by
  have hbal := h.balance token t.sender
  obtain ⟨hout, hin, _, _⟩ :=
    ownMoves_balances t.sender_ne_contract token pool t.fn.deposits
  omega

theorem Routed.router (h : Routed ch t pool moves s s') (token : Address) :
    s'.ledger.balanceOf token ch.self + Erc20.debited token ch.self moves =
      s.ledger.balanceOf token ch.self +
        (taken token t.fn.deposits + Erc20.credited token ch.self moves) := by
  have hbal := h.balance token ch.self
  obtain ⟨_, _, hself, htaken⟩ :=
    ownMoves_balances t.sender_ne_contract token pool t.fn.deposits
  omega

theorem Routed.allowance (h : Routed ch t pool moves s s') (token : Address) :
    s'.ledger.allowance token ch.self pool =
      Erc20.remaining (granted token t.fn.deposits (s.ledger.allowance token ch.self pool))
        (Erc20.spent token ch.self pool moves) := by
  obtain ⟨l, hown, hmoves⟩ := h.ledger
  rw [Erc20.run_allowance h.others hmoves, ownMoves_allowance t.sender_ne_contract hown]

/-! ## Pools that make given moves -/

/-- These moves, one after the other, as far as the tokens make them. -/
def State.play : List (Erc20.Move Address) → State → State
  | [], s => s
  | m :: ms, s => State.play ms ((s.moveTokens m).getD s)

theorem callee_play {ms : List (Erc20.Move Address)} (h : ∀ m ∈ ms, m.actor ≠ some ch.self) :
    ∀ s, Reentrancy.Callee (contract ch) s (State.play ms s) := by
  induction ms with
  | nil => exact fun _ => .idle
  | cons m ms ih =>
      intro s
      obtain ⟨hhead, htail⟩ := List.forall_mem_cons.mp h
      have hrest := ih htail ((s.moveTokens m).getD s)
      cases hmove : s.moveTokens m with
      | none =>
          rw [hmove] at hrest
          simpa [State.play, hmove] using hrest
      | some s₁ =>
          rw [hmove] at hrest
          have hcallee := Reentrancy.Callee.outside (Outside.moved m hhead hmove) hrest
          simpa [State.play, hmove] using hcallee

namespace Sample

def chain : Chain where
  self := 1
  keccak256 := fun packed => packed.setWidth 256

/-- The user 4 has tokens of 8 and of 9, and lets the router spend them; the
pool 7 has tokens of 9. -/
def ledger : Erc20.Ledger Address where
  balanceOf := fun token holder =>
    if holder = 4 ∨ (token = 9 ∧ holder = 7) then 1000 else 0
  allowance := fun _ owner spender => if owner = 4 ∧ spender = 1 then 1000 else 0

theorem no_tokens (token : Address) : ledger.balanceOf token chain.self = 0 := by
  refine if_neg ?_
  rintro (h | ⟨_, h⟩)
  · exact absurd h (by decide)
  · exact absurd h (by decide)

theorem user_ne : (4 : Address) ≠ 0 ∧ (4 : Address) ≠ 1 := by decide

def call (fn : Fn) : Tx chain.self := ⟨4, 0, fn, some (8, 9), 17, user_ne.1, user_ne.2⟩

/-- The call, with a pool that makes these moves. -/
def playing (ms : List (Erc20.Move Address)) (fn : Fn) (s : State) : Option State :=
  Reentrancy.answering (contract chain) (fun _ => State.play ms) (call fn)
    (entry chain (call fn) s)

theorem playing_commits {ms : List (Erc20.Move Address)} {fn : Fn} {s s' : State}
    (hothers : ∀ m ∈ ms, m.actor ≠ some chain.self) (h : playing ms fn s = some s') :
    Reentrancy.Commits (contract chain) (call fn) s s' :=
  Reentrancy.exec_of_answering (fun _ s => callee_play hothers s) _ h

/-- The moves of a call, where they are the first on the record. -/
theorem moves_of_log {ms moves : List (Erc20.Move Address)} {s s' : State}
    (hbefore : s.foreign 1 = []) (hafter : s'.foreign 1 = ms)
    (hlog : s'.foreign chain.self = s.foreign chain.self ++ moves) : moves = ms := by
  have hlog' : s'.foreign 1 = s.foreign 1 ++ moves := hlog
  rw [hbefore, hafter] at hlog'
  exact hlog'.symm

theorem registered_isSome :
    (playing [] (.registerPoolV5 7) (deploy ledger 1000)).isSome = true := rfl

/-- Somebody has registered the pool 7. -/
def registered : State :=
  (playing [] (.registerPoolV5 7) (deploy ledger 1000)).get registered_isSome

theorem registered_reachable : Reachable chain registered :=
  .tx (.deployed ledger 1000 no_tokens (fun _ _ => rfl)) _
    (playing_commits (fun _ h => absurd h List.not_mem_nil)
      (Option.some_get registered_isSome).symm)

/-- The user swaps 100 tokens of 8 and asks for 90 of 9. -/
def swap : Fn := .swapV5Public 8 9 100 90 true 2000

theorem unpaid_isSome : (playing [] swap registered).isSome = true := rfl

/-- The pool has done nothing. -/
def unpaid : State := (playing [] swap registered).get unpaid_isSome

theorem unpaid_commits : Reentrancy.Commits (contract chain) (call swap) registered unpaid :=
  playing_commits (fun _ h => absurd h List.not_mem_nil) (Option.some_get unpaid_isSome).symm

end Sample

end LunarysBridge.Evm.UniversalRouter
