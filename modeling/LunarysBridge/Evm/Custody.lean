/-
LunarysBridge.Evm.Custody — the router's registry and its tokens over whole
runs.

What a call leaves in the router stays there with the allowance that goes
with it, so the question of a whole run is who can take it later. The record
answers it (`OnRecord.drawn`): every move that takes something from the router is
made by an address that was registered as a pool before, within an allowance
the router gave it, or is the token's own. Calls may be nested, and pools may
do anything in between; the invariant is kept by every single step, so no step
has to wait for the end of a call.
-/
import LunarysBridge.Evm.Routing

namespace LunarysBridge.Evm.UniversalRouter

variable {ch : Chain} {t : Tx ch.self} {s s' s₁ s₂ : State}
  {token token0 token1 pool : Address} {amount : Nat}

/-! ## Views -/

/-- `getAllPools` -/
def getAllPools (s : State) : List PoolInfo := s.poolKeys.map s.pools

/-! ## The record -/

/-- The move of a token, if the entry is one. -/
def LogEntry.move : LogEntry → Option (Erc20.Move Address)
  | .moved m => some m
  | _ => none

/-- All moves on the record, in order. -/
def State.moves (s : State) : List (Erc20.Move Address) := s.log.filterMap LogEntry.move

/-- One for each registration. -/
def LogEntry.registers : LogEntry → Nat
  | .emit (.PoolRegistered _ _ _ _) => 1
  | _ => 0

/-- Somebody has registered this address as a pool. -/
def Registered (log : List LogEntry) (pool : Address) : Prop :=
  ∃ poolType token0 token1, LogEntry.emit (.PoolRegistered pool poolType token0 token1) ∈ log

/-- A move that takes tokens from the router is the token's own, or that of a
pool. -/
def Draws (self : Address) (log : List LogEntry) (m : Erc20.Move Address) : Prop :=
  (∃ token amount, m = .burn token self amount) ∨
    ∃ token spender recipient amount, m = .transferFrom token spender self recipient amount ∧
      spender ≠ self ∧ Registered log spender

theorem Registered.mono {log log' : List LogEntry} (h : Registered log pool)
    (hsub : log ⊆ log') : Registered log' pool := by
  obtain ⟨poolType, token0, token1, hmem⟩ := h
  exact ⟨poolType, token0, token1, hsub hmem⟩

/-! ## The invariant -/

structure OnRecord (ch : Chain) (ledger : Erc20.Ledger Address) (s : State) : Prop where
  /-- A key is the key of its pool. -/
  keyed : ∀ key ∈ s.poolKeys, getPoolKey ch (s.pools key).token0 (s.pools key).token1 = key
  unknown : ∀ key, key ∉ s.poolKeys → s.pools key = .empty
  announced : ∀ key ∈ s.poolKeys, Registered s.log (s.pools key).poolAddress
  someone : ∀ key ∈ s.poolKeys, (s.pools key).poolAddress ≠ 0
  counted : s.poolKeys.length = Tally.total LogEntry.registers s.log
  /-- The ledger is what the moves on the record make of the first one. -/
  replay : Erc20.run s.moves ledger = some s.ledger
  allowed : ∀ token spender, 0 < s.ledger.allowance token ch.self spender →
    Registered s.log spender
  drawn : ∀ before m after, s.log = before ++ .moved m :: after →
    ∀ token, 0 < m.debit token ch.self → Draws ch.self before m

variable {ledger : Erc20.Ledger Address}

/-- An entry at the end splits off, or is behind the split. -/
theorem split_concat {α : Type} {l before after : List α} {e a : α}
    (h : l ++ [e] = before ++ a :: after) :
    (after = [] ∧ before = l ∧ a = e) ∨ ∃ rest, after = rest ++ [e] ∧ l = before ++ a :: rest := by
  rcases List.eq_nil_or_concat after with rfl | ⟨rest, e', rfl⟩
  · obtain ⟨hl, he⟩ := List.append_inj' h rfl
    exact .inl ⟨rfl, hl.symm, (List.singleton_inj.mp he).symm⟩
  · rw [List.concat_eq_append, ← List.cons_append, ← List.append_assoc] at h
    obtain ⟨hl, he⟩ := List.append_inj' h rfl
    exact .inr ⟨rest, by rw [List.concat_eq_append, List.singleton_inj.mp he], hl⟩

/-- An entry that is no move and no registration. -/
theorem OnRecord.note {e : LogEntry} (hk : OnRecord ch ledger s) (hmove : e.move = none)
    (hregisters : e.registers = 0) : OnRecord ch ledger (s.note e) where
  keyed := hk.keyed
  unknown := hk.unknown
  announced := fun key hkey => (hk.announced key hkey).mono (List.subset_append_left _ _)
  someone := hk.someone
  counted := by
    show s.poolKeys.length = Tally.total LogEntry.registers (s.log ++ [e])
    rw [Tally.total_append, Tally.total_cons, hregisters]
    exact hk.counted
  replay := by
    have hmoves : (s.note e).moves = s.moves := by simp [State.moves, State.note, hmove]
    rw [hmoves]
    exact hk.replay
  allowed := fun token spender h => (hk.allowed token spender h).mono (List.subset_append_left _ _)
  drawn := by
    intro before m after hsplit
    rcases split_concat hsplit with ⟨_, _, heq⟩ | ⟨rest, _, hlog⟩
    · rw [← heq] at hmove
      cases hmove
    · exact hk.drawn before m rest hlog

/-- The pool of a key is deactivated. -/
theorem OnRecord.deactivated (hk : OnRecord ch ledger s) {key : Bytes32} (hkey : key ∈ s.poolKeys) :
    OnRecord ch ledger (s.setPool key { s.pools key with active := false }) := by
  have hsame : ∀ key', (Function.update s.pools key { s.pools key with active := false } key') =
      { s.pools key' with active := (s.pools key').active && decide (key' ≠ key) } := by
    intro key'
    by_cases heq : key' = key
    · subst heq
      simp
    · simp [heq]
  refine ⟨fun key' hmem => ?_, fun key' hnot => ?_, fun key' hmem => ?_, fun key' hmem => ?_,
    hk.counted, hk.replay, hk.allowed, hk.drawn⟩
  · show getPoolKey ch (Function.update s.pools key _ key').token0
      (Function.update s.pools key _ key').token1 = key'
    rw [hsame]
    exact hk.keyed key' hmem
  · show Function.update s.pools key _ key' = _
    have hne : key' ≠ key := fun heq => hnot (heq ▸ hkey)
    rw [Function.update_of_ne hne]
    exact hk.unknown key' hnot
  · show Registered s.log (Function.update s.pools key _ key').poolAddress
    rw [hsame]
    exact hk.announced key' hmem
  · show (Function.update s.pools key _ key').poolAddress ≠ 0
    rw [hsame]
    exact hk.someone key' hmem

/-- A pool is registered, and announced. -/
theorem OnRecord.registered (hk : OnRecord ch ledger s) (info : PoolInfo)
    (hpool : info.poolAddress = pool) (hsome : pool ≠ 0) :
    OnRecord ch ledger
      ((({ s.setPool (getPoolKey ch info.token0 info.token1) info with
          poolKeys := s.poolKeys ++ [getPoolKey ch info.token0 info.token1] } : State)).emit
        (.PoolRegistered pool .V5_PUBLIC info.token0 info.token1)) := by
  have hmono : ∀ {x}, Registered s.log x → Registered (s.log ++
      [.emit (.PoolRegistered pool .V5_PUBLIC info.token0 info.token1)]) x :=
    fun h => h.mono (List.subset_append_left _ _)
  refine ⟨fun key hmem => ?_, fun key hnot => ?_, fun key hmem => ?_, fun key hmem => ?_, ?_, ?_,
    fun token spender h => hmono (hk.allowed token spender h), ?_⟩
  · show getPoolKey ch (Function.update s.pools _ info key).token0
      (Function.update s.pools _ info key).token1 = key
    by_cases heq : key = getPoolKey ch info.token0 info.token1
    · subst heq
      rw [Function.update_self]
    · rw [Function.update_of_ne heq]
      exact hk.keyed key ((List.mem_append.mp hmem).resolve_right
        fun h => heq (List.mem_singleton.mp h))
  · have hnot' : key ∉ s.poolKeys ++ [getPoolKey ch info.token0 info.token1] := hnot
    rw [List.mem_append, List.mem_singleton, not_or] at hnot'
    show Function.update s.pools _ info key = _
    rw [Function.update_of_ne hnot'.2]
    exact hk.unknown key hnot'.1
  · show Registered _ (Function.update s.pools _ info key).poolAddress
    by_cases heq : key = getPoolKey ch info.token0 info.token1
    · subst heq
      rw [Function.update_self, hpool]
      exact ⟨_, _, _, List.mem_append_right _ (List.mem_singleton_self _)⟩
    · rw [Function.update_of_ne heq]
      exact hmono (hk.announced key ((List.mem_append.mp hmem).resolve_right
        fun h => heq (List.mem_singleton.mp h)))
  · show (Function.update s.pools _ info key).poolAddress ≠ 0
    by_cases heq : key = getPoolKey ch info.token0 info.token1
    · subst heq
      rw [Function.update_self, hpool]
      exact hsome
    · rw [Function.update_of_ne heq]
      exact hk.someone key ((List.mem_append.mp hmem).resolve_right
        fun h => heq (List.mem_singleton.mp h))
  · show (s.poolKeys ++ [_]).length = Tally.total LogEntry.registers (s.log ++ [_])
    rw [List.length_append, Tally.total_append, hk.counted]
    rfl
  · have hmoves : State.moves ((({ s.setPool (getPoolKey ch info.token0 info.token1) info with
        poolKeys := s.poolKeys ++ [getPoolKey ch info.token0 info.token1] } : State)).emit
          (.PoolRegistered pool .V5_PUBLIC info.token0 info.token1)) = s.moves := by
      simp [State.moves, State.emit, State.note, State.setPool, LogEntry.move]
    rw [hmoves]
    exact hk.replay
  · intro before m after hsplit
    rcases split_concat hsplit with ⟨_, _, heq⟩ | ⟨rest, _, hlog⟩
    · cases heq
    · exact hk.drawn before m rest hlog

/-- A move: what the router allows afterwards it had allowed, or allows to a
pool. -/
theorem OnRecord.moved {m : Erc20.Move Address} (hk : OnRecord ch ledger s)
    (hmove : s.moveTokens m = some s')
    (hallowed : ∀ token spender value, m.approved token ch.self spender = some value →
      Registered s.log spender)
    (hdraws : ∀ token, 0 < m.debit token ch.self → Draws ch.self s.log m) :
    OnRecord ch ledger s' := by
  obtain ⟨l, happly, rfl⟩ := Option.map_eq_some_iff.mp hmove
  refine ⟨hk.keyed, hk.unknown,
    fun key hkey => (hk.announced key hkey).mono (List.subset_append_left _ _), hk.someone,
    ?_, ?_, ?_, ?_⟩
  · show s.poolKeys.length = Tally.total LogEntry.registers (s.log ++ [.moved m])
    rw [Tally.total_append, hk.counted]
    rfl
  · have hmoves : State.moves { s with ledger := l, log := s.log ++ [.moved m] } =
        s.moves ++ [m] := by
      simp [State.moves, LogEntry.move]
    rw [hmoves, Erc20.run_append hk.replay]
    simp [Erc20.run, happly]
  · intro token spender hpos
    have hpos' : 0 < l.allowance token ch.self spender := hpos
    refine Registered.mono ?_ (List.subset_append_left _ _)
    rw [Erc20.allowance_apply happly] at hpos'
    cases happroved : m.approved token ch.self spender with
    | some value => exact hallowed token spender value happroved
    | none =>
        rw [happroved, Option.getD_none, Erc20.remaining] at hpos'
        refine hk.allowed token spender ?_
        split at hpos'
        · omega
        · exact hpos'
  · intro before m' after hsplit
    rcases split_concat hsplit with ⟨_, rfl, heq⟩ | ⟨rest, _, hlog⟩
    · cases heq
      exact hdraws
    · exact hk.drawn before m' rest hlog

/-- Tokens are spent within an allowance. -/
theorem allowance_pos {l l' : Erc20.Ledger Address} {owner spender : Address}
    (h : l.spend token owner spender amount = some l') (hpos : 0 < amount) :
    0 < l.allowance token owner spender := by
  unfold Erc20.Ledger.spend at h
  split at h
  · split at h
    · omega
    · cases h
  · next hunlimited =>
    unfold Erc20.unlimited at hunlimited
    omega

/-- What is taken from the router by somebody else. -/
theorem OnRecord.draws {m : Erc20.Move Address} (hk : OnRecord ch ledger s)
    (other : m.actor ≠ some ch.self) {l : Erc20.Ledger Address} (happly : m.apply s.ledger = some l)
    (hpos : 0 < m.debit token ch.self) : Draws ch.self s.log m := by
  cases m with
  | transfer t sender recipient amount =>
      have hsender : t = token ∧ sender = ch.self := by
        by_contra hne
        rw [Erc20.Move.debit, if_neg hne] at hpos
        exact absurd hpos (Nat.lt_irrefl _)
      exact absurd (congrArg some hsender.2) other
  | transferFrom t spender sender recipient amount =>
      have hsender : t = token ∧ sender = ch.self := by
        by_contra hne
        rw [Erc20.Move.debit, if_neg hne] at hpos
        exact absurd hpos (Nat.lt_irrefl _)
      rw [Erc20.Move.debit, if_pos hsender] at hpos
      obtain ⟨rfl, rfl⟩ := hsender
      obtain ⟨l₁, hspend, -⟩ := Option.bind_eq_some_iff.mp happly
      exact .inr ⟨t, spender, recipient, amount, rfl, fun heq => other (congrArg some heq),
        hk.allowed t spender (allowance_pos hspend hpos)⟩
  | burn t holder amount =>
      have hholder : t = token ∧ holder = ch.self := by
        by_contra hne
        rw [Erc20.Move.debit, if_neg hne] at hpos
        exact absurd hpos (Nat.lt_irrefl _)
      obtain ⟨rfl, rfl⟩ := hholder
      exact .inl ⟨t, amount, rfl⟩
  | approve t owner spender amount => exact absurd hpos (Nat.lt_irrefl _)
  | mint t recipient amount => exact absurd hpos (Nat.lt_irrefl _)

theorem OnRecord.outside (hk : OnRecord ch ledger s) (h : Outside ch s s') :
    OnRecord ch ledger s' := by
  cases h with
  | moved m other hmove =>
      obtain ⟨l, happly, -⟩ := Option.map_eq_some_iff.mp hmove
      refine hk.moved hmove (fun token spender value h => ?_) fun token hpos =>
        hk.draws other happly hpos
      rw [Erc20.approved_of_other other] at h
      cases h

/-! ## Every step of a call keeps it -/

/-- What a callee leaves of the invariant, and of the guard. -/
def Keeping (ch : Chain) (ledger : Erc20.Ledger Address) (s s' : State) : Prop :=
  (s.entered = true → s'.entered = true) ∧ (OnRecord ch ledger s → OnRecord ch ledger s')

theorem quiet_keeping_register (poolAddress : Address) :
    Reentrancy.Quiet (Keeping ch ledger) s (registerPoolV5 ch t poolAddress s) := by
  unfold registerPoolV5
  split
  · exact Reentrancy.quiet_revert _
  · next token0 token1 htokens =>
    have hsome : poolAddress ≠ 0 := fun hzero =>
      (Option.ite_none_left_eq_some.mp htokens).1 (.inr hzero)
    exact Reentrancy.quiet_done ⟨id, fun hk =>
      hk.registered ⟨poolAddress, .V5_PUBLIC, token0, token1, true⟩ rfl hsome⟩

theorem quiet_keeping_deactivate (token0 token1 : Address) :
    Reentrancy.Quiet (Keeping ch ledger) s (deactivatePool ch token0 token1 s) := by
  refine Reentrancy.quiet_check fun hfound => Reentrancy.quiet_done ⟨id, fun hk => ?_⟩
  have hkey : getPoolKey ch token0 token1 ∈ s.poolKeys := by
    by_contra hnot
    exact hfound (by rw [hk.unknown _ hnot]; rfl)
  exact (hk.deactivated hkey).note rfl rfl

theorem guarded_keeping (ch : Chain) (ledger : Erc20.Ledger Address) :
    Reentrancy.Guarded (contract ch) (fun s => s.entered = true) (Keeping ch ledger) where
  refl _ := ⟨id, id⟩
  trans h₁ h₂ := ⟨fun hl => h₂.1 (h₁.1 hl), fun hk => h₂.2 (h₁.2 hk)⟩
  keeps h hl := h.1 hl
  outside h := by
    refine ⟨fun hl => ?_, fun hk => hk.outside h⟩
    obtain ⟨moves, hu⟩ := undisturbed_outside h
    exact hu.entered.trans hl
  entry t s hl := by
    refine Reentrancy.quiet_check fun _ => ?_
    unfold run
    cases t.fn with
    | registerPoolV5 poolAddress => exact quiet_keeping_register poolAddress
    | deactivatePool token0 token1 => exact quiet_keeping_deactivate token0 token1
    | swapV5Private token0 token1 amountIn minOut zeroForOne amountProof minOutProof deadline =>
        exact Reentrancy.quiet_check fun hentered => absurd hl hentered
    | swapV5Public token0 token1 amountIn amountOutMin zeroForOne deadline =>
        exact Reentrancy.quiet_check fun hentered => absurd hl hentered
    | addLiquidityV5 token0 token1 tickLower tickUpper amount0 amount1 deadline =>
        exact Reentrancy.quiet_check fun hentered => absurd hl hentered

/-- The code keeps the record, and calls out under the guard only. -/
def KeepsRecord (ch : Chain) (ledger : Erc20.Ledger Address) (t : Tx ch.self) (p : Code) : Prop :=
  Reentrancy.Sat (contract ch) t (fun s => s.entered = true) (Keeping ch ledger)
    (fun _ _ => True) (OnRecord ch ledger) p

theorem keepsRecord_ends {p : Code} {s' : State}
    (h : Reentrancy.Exec (contract ch) t p s') (hp : KeepsRecord ch ledger t p) :
    OnRecord ch ledger s' :=
  (guarded_keeping ch ledger).exec p h hp

theorem keepsRecord_check {cond : Prop} [Decidable cond] {e : Revert} {p : Code}
    (h : ¬ cond → KeepsRecord ch ledger t p) :
    KeepsRecord ch ledger t (if cond then .revert e else p) := by
  split
  · trivial
  · next hcond => exact h hcond

theorem OnRecord.entered (hk : OnRecord ch ledger s) (entered : Bool) :
    OnRecord ch ledger { s with entered := entered } :=
  ⟨hk.keyed, hk.unknown, hk.announced, hk.someone, hk.counted, hk.replay, hk.allowed, hk.drawn⟩

theorem keepsRecord_callPool {call : PoolCall} {event : Event} (hl : s.entered = true)
    (hk : OnRecord ch ledger s) (hevent : LogEntry.registers (.emit event) = 0) :
    KeepsRecord ch ledger t (callPool ch t pool call event s) := by
  refine ⟨trivial, fun s₁ hsent => ?_, trivial⟩
  obtain ⟨-, heq⟩ := Option.ite_none_left_eq_some.mp hsent
  cases heq
  refine ⟨hl, fun s₂ hkeeping => ?_⟩
  have hk₂ : OnRecord ch ledger s₂ := hkeeping.2 (hk.note rfl rfl)
  have hended : OnRecord ch ledger ((s₂.emit event).note (.returned t.answer)) :=
    (hk₂.note rfl hevent).note rfl rfl
  exact hended.entered false

theorem moveTokens_rest {m : Erc20.Move Address} (h : s.moveTokens m = some s') :
    s'.entered = s.entered ∧ s.log ⊆ s'.log := by
  obtain ⟨l, -, rfl⟩ := Option.map_eq_some_iff.mp h
  exact ⟨rfl, List.subset_append_left _ _⟩

/-- The router's own two moves: it takes from its caller, and allows to the
pool. -/
theorem keepsRecord_takeIn {rest : State → Code} (hl : s.entered = true)
    (hk : OnRecord ch ledger s) (hpool : Registered s.log pool)
    (hrest : ∀ s', s'.entered = true → OnRecord ch ledger s' → s.log ⊆ s'.log →
      KeepsRecord ch ledger t (rest s')) :
    KeepsRecord ch ledger t (takeIn ch t token pool amount rest s) := by
  unfold takeIn callToken
  cases hpull : s.moveTokens (.transferFrom token ch.self t.sender ch.self amount) with
  | none => trivial
  | some s₁ =>
      obtain ⟨hentered₁, hlog₁⟩ := moveTokens_rest hpull
      have hk₁ : OnRecord ch ledger s₁ := by
        refine hk.moved hpull (fun _ _ _ h => by cases h) fun token' hpos => ?_
        rw [Erc20.Move.debit, if_neg fun h => t.sender_ne_contract h.2] at hpos
        exact absurd hpos (Nat.lt_irrefl _)
      dsimp only
      cases hgrant : s₁.moveTokens (.approve token ch.self pool amount) with
      | none => trivial
      | some s₂ =>
          obtain ⟨hentered₂, hlog₂⟩ := moveTokens_rest hgrant
          have hk₂ : OnRecord ch ledger s₂ := by
            refine hk₁.moved hgrant (fun token' spender value h => ?_)
              fun _ hpos => absurd hpos (Nat.lt_irrefl _)
            obtain ⟨⟨-, -, rfl⟩, -⟩ := Option.ite_none_right_eq_some.mp h
            exact hpool.mono hlog₁
          exact hrest s₂ (by rw [hentered₂, hentered₁, hl]) hk₂
            (List.Subset.trans hlog₁ hlog₂)

theorem keepsRecord_takeInSome {rest : State → Code} (hl : s.entered = true)
    (hk : OnRecord ch ledger s) (hpool : Registered s.log pool)
    (hrest : ∀ s', s'.entered = true → OnRecord ch ledger s' → s.log ⊆ s'.log →
      KeepsRecord ch ledger t (rest s')) :
    KeepsRecord ch ledger t (takeInSome ch t token pool amount rest s) := by
  unfold takeInSome
  split
  · exact keepsRecord_takeIn hl hk hpool hrest
  · exact hrest s hl hk (List.Subset.refl _)

/-- The pool of a call is registered. -/
theorem keepsRecord_withPool {body : Address → State → Code} (hk : OnRecord ch ledger s)
    (hbody : ∀ pool, Registered s.log pool → KeepsRecord ch ledger t (body pool s)) :
    KeepsRecord ch ledger t (withPool ch token0 token1 body s) := by
  unfold withPool
  cases hpool : getPool ch token0 token1 s with
  | error e => trivial
  | ok pool =>
      refine keepsRecord_check fun _ => hbody _ ?_
      simp only [getPool] at hpool
      split at hpool
      · cases hpool
      · next hfound =>
        split at hpool
        · cases hpool
        · cases hpool
          refine hk.announced _ ?_
          by_contra hnot
          exact hfound (by rw [hk.unknown _ hnot]; rfl)

/-- A call that goes through keeps the record. -/
theorem OnRecord.commits (hk : OnRecord ch ledger s)
    (hc : Reentrancy.Commits (contract ch) t s s') : OnRecord ch ledger s' := by
  have h : Reentrancy.Exec (contract ch) t (nonPayable ch t (run ch t) s) s' := hc
  obtain ⟨_, h⟩ := Reentrancy.exec_check h
  unfold run at h
  have hlocked : OnRecord ch ledger { s with entered := true } := hk.entered true
  cases hfn : t.fn with
  | registerPoolV5 poolAddress =>
      rw [hfn] at h
      exact ((quiet_keeping_register poolAddress).exec h).2 hk
  | deactivatePool token0 token1 =>
      rw [hfn] at h
      exact ((quiet_keeping_deactivate token0 token1).exec h).2 hk
  | swapV5Private token0 token1 amountIn minOut zeroForOne amountProof minOutProof deadline =>
      rw [hfn] at h
      refine keepsRecord_ends h ?_
      refine keepsRecord_check fun _ => keepsRecord_check fun _ => ?_
      exact keepsRecord_withPool hlocked fun pool hpool => keepsRecord_callPool rfl hlocked rfl
  | swapV5Public token0 token1 amountIn amountOutMin zeroForOne deadline =>
      rw [hfn] at h
      refine keepsRecord_ends h ?_
      refine keepsRecord_check fun _ => keepsRecord_check fun _ => keepsRecord_check fun _ => ?_
      exact keepsRecord_withPool hlocked fun pool hpool =>
        keepsRecord_takeIn rfl hlocked hpool fun s' hl hk' _ => keepsRecord_callPool hl hk' rfl
  | addLiquidityV5 token0 token1 tickLower tickUpper amount0 amount1 deadline =>
      rw [hfn] at h
      refine keepsRecord_ends h ?_
      refine keepsRecord_check fun _ => keepsRecord_check fun _ => keepsRecord_check fun _ => ?_
      exact keepsRecord_withPool hlocked fun pool hpool =>
        keepsRecord_takeInSome rfl hlocked hpool fun s₁ hl₁ hk₁ hlog₁ =>
          keepsRecord_takeInSome hl₁ hk₁ (hpool.mono hlog₁) fun s₂ hl₂ hk₂ _ =>
            keepsRecord_callPool hl₂ hk₂ rfl

/-! ## Runs -/

theorem onRecord_deploy {now : Nat}
    (no_allowances : ∀ token spender, ledger.allowance token ch.self spender = 0) :
    OnRecord ch ledger (deploy ledger now) where
  keyed := fun _ h => absurd h List.not_mem_nil
  unknown := fun _ _ => rfl
  announced := fun _ h => absurd h List.not_mem_nil
  someone := fun _ h => absurd h List.not_mem_nil
  counted := rfl
  replay := rfl
  allowed := by
    intro token spender hpos
    have hzero := no_allowances token spender
    have hpos' : 0 < ledger.allowance token ch.self spender := hpos
    omega
  drawn := by
    intro before m after hsplit
    exact absurd hsplit (by simp [deploy])

/-- Some ledger the contract had nothing on is replayed to the present one. -/
theorem Reachable.onRecord (h : Reachable ch s) :
    ∃ ledger : Erc20.Ledger Address, (∀ token, ledger.balanceOf token ch.self = 0) ∧
      OnRecord ch ledger s := by
  induction h with
  | deployed ledger now no_tokens no_allowances =>
      exact ⟨ledger, no_tokens, onRecord_deploy no_allowances⟩
  | tx before t commits ih =>
      obtain ⟨ledger, hnone, hk⟩ := ih
      exact ⟨ledger, hnone, hk.commits commits⟩
  | outside before move ih =>
      obtain ⟨ledger, hnone, hk⟩ := ih
      exact ⟨ledger, hnone, hk.outside move⟩
  | tick before time later ih =>
      obtain ⟨ledger, hnone, hk⟩ := ih
      exact ⟨ledger, hnone, hk.keyed, hk.unknown, hk.announced, hk.someone, hk.counted,
        hk.replay, hk.allowed, hk.drawn⟩

/-- **The registry.** In every state of every run `getAllPools` has one entry
for each registration that was announced. A pool that is listed stands under
the key of its own two tokens and was announced with its address, and `getPool`
answers with it, unless it was deactivated; what `getPool` answers with is
listed. -/
theorem registry_listed (ch : Chain) (s : State) (hreach : Reachable ch s) :
    (getAllPools s).length = Tally.total LogEntry.registers s.log ∧
    (∀ info ∈ getAllPools s, Registered s.log info.poolAddress ∧
      getPool ch info.token0 info.token1 s =
        if info.active = false then .error .PoolInactive else .ok info) ∧
    ∀ token0 token1 info, getPool ch token0 token1 s = .ok info →
      info ∈ getAllPools s ∧ info.active = true ∧
        getPoolKey ch info.token0 info.token1 = getPoolKey ch token0 token1 := by
  obtain ⟨ledger, -, hk⟩ := hreach.onRecord
  refine ⟨?_, fun info hinfo => ?_, fun token0 token1 info hget => ?_⟩
  · rw [getAllPools, List.length_map]
    exact hk.counted
  · obtain ⟨key, hkey, rfl⟩ := List.mem_map.mp hinfo
    refine ⟨hk.announced key hkey, ?_⟩
    unfold getPool
    rw [hk.keyed key hkey]
    exact if_neg (hk.someone key hkey)
  · simp only [getPool] at hget
    split at hget
    · cases hget
    · next hfound =>
      split at hget
      · cases hget
      · next hactive =>
        cases hget
        have hkey : getPoolKey ch token0 token1 ∈ s.poolKeys := by
          by_contra hnot
          exact hfound (by rw [hk.unknown _ hnot]; rfl)
        exact ⟨List.mem_map_of_mem hkey, (Bool.not_eq_false _).mp hactive, hk.keyed _ hkey⟩

theorem registry_listed_registered :
    ∃ info ∈ getAllPools Sample.registered, info.poolAddress = 7 ∧
      getPool Sample.chain 8 9 Sample.registered = .ok info := by
  obtain ⟨-, -, hlisted⟩ :=
    registry_listed Sample.chain Sample.registered Sample.registered_reachable
  have hget : getPool Sample.chain 8 9 Sample.registered = .ok ⟨7, .V5_PUBLIC, 8, 9, true⟩ := by
    decide +kernel
  exact ⟨_, (hlisted 8 9 _ hget).1, rfl, hget⟩

/-- **Who can take what was left in the router.** The tokens are plain ERC-20
tokens, the pools may re-enter the router. In every run the router has
of a token what was moved to it less what was moved from it, by the moves on
the record. A move that took something from it is one of an address that was
registered as a pool before, other than the router, or the token has burned
it; and whoever may spend tokens of the router was registered as a pool. -/
theorem only_pools_draw (ch : Chain) (s : State) (hreach : Reachable ch s) :
    (∀ token, s.ledger.balanceOf token ch.self + Erc20.debited token ch.self s.moves =
      Erc20.credited token ch.self s.moves) ∧
    (∀ before m after, s.log = before ++ .moved m :: after →
      ∀ token, 0 < m.debit token ch.self → Draws ch.self before m) ∧
    ∀ token spender, 0 < s.ledger.allowance token ch.self spender →
      Registered s.log spender := by
  obtain ⟨ledger, hnone, hk⟩ := hreach.onRecord
  refine ⟨fun token => ?_, hk.drawn, hk.allowed⟩
  have hbalance := Erc20.run_balance hk.replay token ch.self
  rw [hnone, Nat.zero_add] at hbalance
  exact hbalance

theorem only_pools_draw_unpaid :
    Sample.unpaid.ledger.balanceOf 8 1 = 100 ∧ Registered Sample.unpaid.log 7 := by
  obtain ⟨-, -, hallowed⟩ := only_pools_draw Sample.chain Sample.unpaid
    (.tx Sample.registered_reachable _ Sample.unpaid_commits)
  exact ⟨by decide +kernel, hallowed 8 7 (by decide +kernel)⟩

end LunarysBridge.Evm.UniversalRouter
