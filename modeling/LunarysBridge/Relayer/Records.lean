/-
LunarysBridge.Relayer.Records — what the record tables say of the chain.

A settlement is entered on its record with `receipt?.transactionHash`. The
receipts of ethers v6 have no such field: their hash is `receipt.hash`. So
no record ever gets a settlement hash, and a delivery is never closed on
Solana after its tokens are gone: the call waits for the missing hash, for
ever, or fails if no confirmations are asked for. A later call for the same
request resets the record in any case. `agrees_with_chain_iff` says when the
tables are right all the same; `Recorded` is what holds in every state.
-/
import LunarysBridge.Lib.Rely
import LunarysBridge.Relayer.Deliverer

namespace LunarysBridge.Relayer

open Async

variable {env : Setup} {w w' w'' w₀ : World} {p p' : Calls} {i n : Nat} {t : Sent} {α β : Type}

/-! ## The service on ethers v6 -/

/-- A receipt has no `transactionHash`. -/
def EthersV6 (o : Op) (x : Except JsError o.Answer) : Prop :=
  match o, x with
  | .wait _, .ok (some receipt) => receipt.transactionHash = none
  | .waitForTransaction _ _, .ok (some receipt) => receipt.transactionHash = none
  | _, _ => True

def ethersV6 (env : Setup) : Service api JsError Reply Request World where
  handler := handle env.lib env.cfg
  answers := fun i w o x w' => w.answers env i o x w' ∧ EthersV6 o x
  outside := World.Outside env

/-- The record that is read has no settlement hash. -/
def Unhashed (o : Op) (x : Except JsError o.Answer) : Prop :=
  match o, x with
  | .findOne _ _, .ok (some row) => row.settlementTxHash = none
  | _, _ => True

/-- The service, as long as no record has a settlement hash. -/
def unhashed (env : Setup) : Service api JsError Reply Request World where
  handler := handle env.lib env.cfg
  answers := fun i w o x w' => (ethersV6 env).answers i w o x w' ∧ Unhashed o x
  outside := World.Outside env

/-! ## What a call may write -/

/-- A settlement of this request was mined. -/
def World.Settled (w : World) (requestId : String) : Prop :=
  ∃ m r, bigInt requestId = .ok m ∧ uint256 m = some r ∧
    ∃ t ∈ w.sent, t.status = .mined ∧ t.fn.settles = some r

/-- No settlement hash; and SETTLED is a request whose settlement was mined,
on its way to Solana. -/
def World.Fits (w : World) (repo : Repo) (requestId : String) (row : Record repo) : Prop :=
  row.settlementTxHash = none ∧
    (row.status = .SETTLED → repo = .evmToSol ∧ w.Settled requestId)

/-- The records that a call writes fit. -/
def MayWrite (w : World) (o : Op) (_ : Except JsError o.Answer) (_ : World) : Prop :=
  match o with
  | .insert repo requestId row => w.Fits repo requestId row
  | .update repo requestId row => w.Fits repo requestId row
  | _ => True

/-- A transaction stays, and stays mined. -/
def World.Later (w w' : World) : Prop :=
  ∀ (n : Nat) (t : Sent), w.sent[n]? = some t →
    ∃ status, w'.sent[n]? = some { t with status := status } ∧
      (t.status = .mined → status = .mined)

theorem World.Later.refl (w : World) : w.Later w :=
  fun _ t h => ⟨t.status, h, fun hmined => hmined⟩

theorem World.Later.trans (h : w.Later w') (h' : w'.Later w'') : w.Later w'' := by
  intro n t hget
  obtain ⟨status, hget', hmined⟩ := h n t hget
  obtain ⟨status', hget'', hmined'⟩ := h' n _ hget'
  exact ⟨status', hget'', fun hm => hmined' (hmined hm)⟩

theorem World.Later.answers {o : Op} {x : Except JsError o.Answer}
    (h : w.answers env i o x w') : w.Later w' :=
  fun _ t hget => ⟨t.status, World.answers_sent h hget, fun hmined => hmined⟩

theorem World.Later.outside (h : World.Outside env w w') : w.Later w' := by
  intro n t hget
  obtain ⟨status, hget', hsame⟩ := h.sent_kept hget
  exact ⟨status, hget', fun hmined => (hsame (by simp [hmined])).trans hmined⟩

theorem World.Settled.later {requestId : String} (h : w.Settled requestId) (hl : w.Later w') :
    w'.Settled requestId := by
  obtain ⟨m, r, hm, hr, t, ht, hmined, hsettles⟩ := h
  obtain ⟨n, hget⟩ := List.mem_iff_getElem?.mp ht
  obtain ⟨status, hget', hstill⟩ := hl n t hget
  exact ⟨m, r, hm, hr, _, List.mem_of_getElem? hget', hstill hmined, hsettles⟩

theorem unhashed_relies : Relies (unhashed env) fun _ => World.Later where
  refl _ := .refl
  trans := .trans
  others _ h := .answers h.1.1
  outside := .outside

/-! ## The code of one call -/

abbrev Meets (env : Setup) (i : Nat) (ok : α → World → Prop) (err : JsError → World → Prop)
    (f : Promise α) (w : World) : Prop :=
  f.wp ((unhashed env).answers i) World.Later MayWrite (Prog.ends ok err) w

/-- Whatever the function writes fits, from any state on. -/
def Clean (env : Setup) (i : Nat) (f : Promise α) : Prop :=
  ∀ w, Meets env i (fun _ _ => True) (fun _ _ => True) f w

theorem meets_await {o : Op} {ok : o.Answer → World → Prop} {err : JsError → World → Prop}
    (hmay : ∀ w₁ x w₂, w.Later w₁ → MayWrite w₁ o x w₂)
    (h : ∀ w₁ x w₂, w.Later w₁ → w₁.answers env i o x w₂ → EthersV6 o x → Unhashed o x →
      Prog.ends ok err x w₂) : Meets env i ok err (await o) w :=
  Prog.wp_call.mpr fun w₁ hlater x w₂ hans =>
    ⟨hmay w₁ x w₂ hlater, h w₁ x w₂ hlater hans.1.1 hans.1.2 hans.2⟩

theorem ends_true {x : Except JsError α} :
    Prog.ends (fun _ _ => True) (fun _ _ => True) x w := by
  cases x <;> trivial

theorem Clean.bind {f : Promise α} {g : α → Promise β} (hf : Clean env i f)
    (hg : ∀ a, Clean env i (g a)) : Clean env i (f >>= g) :=
  fun w => Prog.wp.bind (hf w) fun a w' _ => hg a w'

theorem Clean.tryCatch {f : Promise α} {h : JsError → Promise α} (hf : Clean env i f)
    (hh : ∀ e, Clean env i (h e)) : Clean env i (MonadExcept.tryCatch f h) :=
  fun w => Prog.wp.tryCatch (hf w) fun e w' _ => hh e w'

theorem clean_ret {a : α} : Clean env i (.ret a) := fun _ => trivial

theorem clean_fail {e : JsError} : Clean env i (.fail e : Promise α) := fun _ => trivial

theorem clean_lift {x : Except JsError α} : Clean env i (liftM x : Promise α) := by
  cases x
  · exact clean_fail
  · exact clean_ret

theorem clean_await {o : Op} (h : ∀ w₁ x w₂, MayWrite w₁ o x w₂) : Clean env i (await o) :=
  fun _ => meets_await (fun w₁ x w₂ _ => h w₁ x w₂) fun _ _ _ _ _ _ _ => ends_true

theorem Watches.clean {f : Promise α} (hf : Watches f) : Clean env i f := by
  refine fun w => Prog.wp.mono _ (fun _ _ _ => ends_true) (Prog.wp_of_only hf ?_)
  intro w₁ o x w₂ ho
  cases o <;> first | exact ho.elim | trivial

section Repositories

variable {repo : Repo} {requestId message : String} {cond : Prop} [Decidable cond]

theorem meets_findOne : Meets env i
    (fun row w' => (∀ r, row = some r → r.settlementTxHash = none) ∧ w.Later w')
    (fun _ _ => True) (findOne repo requestId) w := by
  refine meets_await (fun _ _ _ _ => trivial) fun w₁ x w₂ hlater hans _ hread => ?_
  cases x with
  | error e => trivial
  | ok row =>
      refine ⟨?_, hlater.trans (.answers hans)⟩
      rintro r rfl
      exact hread

/-- A record without a hash that is not SETTLED may always be written. -/
theorem clean_update {row : Record repo} (hhash : row.settlementTxHash = none)
    (hstatus : row.status ≠ .SETTLED) : Clean env i (update repo requestId row) :=
  clean_await fun _ _ _ => ⟨hhash, fun h => absurd h hstatus⟩

theorem clean_insert {row : Record repo} (hhash : row.settlementTxHash = none)
    (hstatus : row.status ≠ .SETTLED) : Clean env i (insert repo requestId row) :=
  clean_await fun _ _ _ => ⟨hhash, fun h => absurd h hstatus⟩

theorem clean_upsertReceived {data : repo.Columns} :
    Clean env i (upsertReceived repo requestId data) := by
  refine fun w => Prog.wp.bind meets_findOne fun row w' hread => ?_
  cases row with
  | none => exact clean_insert rfl (fun h => by cases h) w'
  | some row =>
      refine clean_update ?_ (fun h => by cases h) w'
      exact hread.1 row rfl

theorem clean_markVerified {patch : repo.Columns → repo.Columns} :
    Clean env i (markVerified repo requestId patch) := by
  refine fun w => Prog.wp.bind meets_findOne fun row w' hread => ?_
  cases row with
  | none => trivial
  | some row =>
      refine clean_update ?_ (fun h => by cases h) w'
      exact hread.1 row rfl

theorem clean_markFailed : Clean env i (markFailed repo requestId message) := by
  refine fun w => Prog.wp.bind meets_findOne fun row w' hread => ?_
  cases row with
  | none => trivial
  | some row =>
      refine clean_update ?_ (fun h => by cases h) w'
      exact hread.1 row rfl

theorem clean_reject : Clean env i (reject repo requestId message : Promise α) :=
  clean_markFailed.bind fun _ => clean_fail

theorem clean_rejectIf : Clean env i (rejectIf repo requestId cond message) := by
  unfold rejectIf
  split
  · exact clean_reject
  · exact clean_ret

/-- A settlement that was mined, but whose hash is not known, is entered. -/
theorem meets_markSettled {patch : EvmToSolColumns → EvmToSolColumns}
    (hsettled : w.Settled requestId) :
    Meets env i (fun _ _ => True) (fun _ _ => True)
      (markSettled .evmToSol requestId none patch) w := by
  refine Prog.wp.bind meets_findOne fun row w' hread => ?_
  obtain ⟨hnone, hlater⟩ := hread
  cases row with
  | none => trivial
  | some row =>
      refine meets_await (fun w₁ x w₂ hlater₁ => ⟨?_, fun _ => ⟨rfl, ?_⟩⟩)
        fun _ _ _ _ _ _ _ => ends_true
      · exact hnone row rfl
      · exact hsettled.later (hlater.trans hlater₁)

end Repositories

/-! ### Solana and the contract -/

/-- A transaction is mined when its receipt comes, and the receipt has no
hash. -/
theorem meets_transact {call : ContractCall} :
    Meets env i (fun receipt w => receipt.bind (·.transactionHash) = none ∧
        ∃ fn, call.encode env.lib = some fn ∧ ∃ t ∈ w.sent, t.status = .mined ∧ t.fn = fn)
      (fun _ _ => True) (transact call) w := by
  have hsend : Meets env i (fun tx w => ∃ fn, call.encode env.lib = some fn ∧
      w.sent[tx]? = some ⟨i, fn, .pending⟩) (fun _ _ => True) (send call) w := by
    refine meets_await (fun _ _ _ _ => trivial) fun w₁ x w₂ _ hans _ _ => ?_
    cases x with
    | error e => trivial
    | ok tx =>
        obtain ⟨fn, hfn, rfl, rfl⟩ := hans
        exact ⟨fn, hfn, by simp [World.broadcast]⟩
  refine Prog.wp.bind hsend fun tx w₁ hsent => ?_
  obtain ⟨fn, hfn, hget⟩ := hsent
  refine meets_await (fun _ _ _ _ => trivial) fun w₂ x w₃ hlater hans hv6 _ => ?_
  cases x with
  | error e => trivial
  | ok receipt =>
      obtain ⟨⟨t, ht, hmined⟩, -, rfl⟩ := hans
      obtain ⟨status, hget', -⟩ := hlater tx _ hget
      obtain rfl := Option.some.inj (ht.symm.trans hget')
      refine ⟨?_, fn, hfn, _, List.mem_of_getElem? ht, hmined, rfl⟩
      cases receipt with
      | none => rfl
      | some receipt => exact hv6

/-! ### The handlers -/

section EvmToSol

variable {dto : EvmToSolVerificationDto}

theorem clean_resolveAmount {cfg : Config} : Clean env i (resolveAmount cfg dto) := by
  refine clean_rejectIf.bind fun _ => clean_rejectIf.bind fun _ =>
    (clean_lift.tryCatch fun _ => clean_reject).bind fun evmAmt => clean_rejectIf.bind fun _ => ?_
  split
  · exact clean_reject
  · exact clean_lift.bind fun mapping => clean_rejectIf.bind fun _ => clean_ret

theorem clean_checkSolanaLeg {lib : Libs} {solAmount : Int} {mint : String} :
    Clean env i (checkSolanaLeg lib dto solAmount mint) :=
  (watches_verifyTransfer.clean.bind fun _ => clean_ret).tryCatch fun _ => clean_reject

theorem clean_precheckRequest {requestId : Int} :
    Clean env i (precheckRequest dto requestId) :=
  watches_getBridgeRequest.clean.bind fun _ => clean_rejectIf.bind fun _ =>
    clean_rejectIf.bind fun _ => watches_getClaim.clean.bind fun _ =>
      clean_rejectIf.bind fun _ => Clean.bind (Watches.clean (only_await trivial)) fun _ =>
        clean_rejectIf

theorem meets_verifyAndSettle {requestId : Int} {destTxHash evidenceHash : Evm.Bytes32}
    {evidenceURL : Option String} (hid : bigInt dto.requestId = .ok requestId) :
    Meets env i (fun receipt w => receipt.bind (·.transactionHash) = none ∧
        w.Settled dto.requestId)
      (fun _ _ => True) (verifyAndSettle requestId destTxHash evidenceHash evidenceURL) w := by
  have hcall : ∀ call : ContractCall, (∀ fn, call.encode env.lib = some fn →
      ∃ r, uint256 requestId = some r ∧ fn.settles = some r) →
      Meets env i (fun receipt w => receipt.bind (·.transactionHash) = none ∧
        w.Settled dto.requestId) (fun _ _ => True) (transact call) w := by
    intro call hfn
    refine Prog.wp.mono _ (fun x w' hends => ?_) meets_transact
    cases x with
    | error e => trivial
    | ok receipt =>
        obtain ⟨hnone, fn, hencode, t, ht, hmined, rfl⟩ := hends
        obtain ⟨r, hr, hsettles⟩ := hfn _ hencode
        exact ⟨hnone, requestId, r, hid, hr, t, ht, hmined, hsettles⟩
  unfold verifyAndSettle
  split
  · refine hcall _ fun fn hencode => ?_
    obtain ⟨r, hr, hsome⟩ := Option.bind_eq_some_iff.mp hencode
    cases hsome
    exact ⟨r, hr, rfl⟩
  · refine hcall _ fun fn hencode => ?_
    obtain ⟨r, hr, hsome⟩ := Option.bind_eq_some_iff.mp hencode
    cases hsome
    exact ⟨r, hr, rfl⟩

theorem clean_settleRequest {requestId : Int} {destTxHash evidenceHash : Evm.Bytes32}
    (hid : bigInt dto.requestId = .ok requestId) :
    Clean env i (settleRequest dto requestId destTxHash evidenceHash) := by
  refine Clean.tryCatch (fun w => Prog.wp.bind (meets_verifyAndSettle hid)
    fun receipt w' hreceipt => ?_) fun _ => clean_markFailed.bind fun _ => clean_fail
  obtain ⟨hnone, hsettled⟩ := hreceipt
  rw [hnone]
  exact Prog.wp.bind (meets_markSettled hsettled) fun _ _ _ => trivial

theorem clean_handleEvmToSol {lib : Libs} {cfg : Config} :
    Clean env i (handleEvmToSol lib cfg dto) := by
  refine clean_upsertReceived.bind fun _ => clean_resolveAmount.bind fun resolved =>
    clean_checkSolanaLeg.bind fun _ => ?_
  cases hid : bigInt dto.requestId with
  | error e => exact clean_fail
  | ok requestId =>
      exact clean_precheckRequest.bind fun _ => clean_markVerified.bind fun _ =>
        clean_settleRequest hid

end EvmToSol

section SolToEvm

variable {dto : SolToEvmVerificationDto} {lib : Libs} {cfg : Config}

theorem clean_checkDeposit : Clean env i (checkDeposit lib cfg dto) :=
  clean_rejectIf.bind fun _ => clean_rejectIf.bind fun _ => clean_lift.bind fun _ =>
    watches_verifyDeposit.clean.bind fun _ => clean_markVerified.bind fun _ =>
      clean_lift.bind fun _ => clean_lift.bind fun _ => clean_ret

theorem clean_precheckBalance {evmAmount : Int} : Clean env i (precheckBalance dto evmAmount) :=
  watches_getContractTokenBalance.clean.bind fun _ => clean_rejectIf.bind fun _ => clean_rejectIf

/-- Without a transaction hash the request is not closed on Solana. -/
theorem meets_closeOnSolana {mapping : TokenInfo} :
    Meets env i (fun _ _ => False) (fun _ _ => True) (closeOnSolana lib cfg dto mapping none)
      w := by
  have hsettle : ∀ {requestId : String} {accounts : SettleAccounts} {w : World},
      Meets env i (fun _ _ => False) (fun _ _ => True)
        (verifyAndSettleOnSolana lib requestId none accounts) w := by
    intro requestId accounts w
    have hctx : Clean env i getAnchorCtx := Watches.clean (only_await trivial)
    refine Prog.wp.bind (hctx w) fun _ w₁ _ => ?_
    exact Prog.wp.bind (clean_lift w₁) fun requestIdBn _ _ => trivial
  refine Prog.wp.bind (clean_lift w) fun escrow w₁ _ => ?_
  exact Prog.wp.bind hsettle fun _ _ h => h.elim

/-- What follows a delivery ends with an error. -/
theorem clean_confirmDelivery {mapping : TokenInfo} {evmAmount : Int}
    {receipt : Option TransactionReceipt} (hnone : receipt.bind (·.transactionHash) = none) :
    Clean env i (confirmDelivery lib cfg dto mapping evmAmount receipt) := by
  have hclose : ∀ w, Meets env i (fun _ _ => False) (fun _ _ => True)
      (tryCatch (closeOnSolana lib cfg dto mapping none) fun e => reject .solToEvm dto.requestId
        ("[SOL->EVM] verify_and_settle on Solana failed: " ++ e.message)) w := by
    intro w
    refine Prog.wp.tryCatch meets_closeOnSolana fun e w₁ _ => ?_
    exact Prog.wp.bind (clean_markFailed w₁) fun _ _ _ => trivial
  unfold confirmDelivery
  dsimp only
  rw [hnone]
  refine (watches_verifyEvmDelivery.clean.tryCatch fun _ => clean_reject).bind fun _ w => ?_
  exact Prog.wp.bind (hclose w) fun _ _ h => h.elim

theorem clean_handleSolToEvm : Clean env i (handleSolToEvm lib cfg dto) := by
  refine clean_upsertReceived.bind fun _ => clean_checkDeposit.bind fun checked =>
    clean_precheckBalance.bind fun _ => ?_
  refine Clean.tryCatch (fun w => ?_) fun _ => clean_markFailed.bind fun _ => clean_fail
  exact Prog.wp.bind meets_transact fun receipt w' hsent => clean_confirmDelivery hsent.1 w'

end SolToEvm

/-- **A call writes what fits**, whatever others do while it runs. -/
theorem clean_handle (q : Request) : Clean env i (handle env.lib env.cfg q) := by
  cases q with
  | evmToSol dto => exact clean_handleEvmToSol
  | solToEvm dto => exact clean_handleSolToEvm

/-! ## Runs -/

/-- What holds of the tables in every state. -/
def World.Recorded (w : World) : Prop :=
  ∀ repo requestId row, w.tables repo requestId = some row → w.Fits repo requestId row

theorem World.Recorded.later (h : w.Recorded) (hl : w.Later w') (hsame : w'.tables = w.tables) :
    w'.Recorded := by
  intro repo requestId row hrow
  rw [hsame] at hrow
  obtain ⟨hhash, hsettled⟩ := h repo requestId row hrow
  refine ⟨hhash, fun hstatus => ?_⟩
  obtain ⟨hrepo, hmined⟩ := hsettled hstatus
  exact ⟨hrepo, hmined.later hl⟩

theorem World.Outside.tables (h : World.Outside env w w') : w'.tables = w.tables := by
  cases h <;> rfl

/-- An operation changes no table, or writes its row. -/
theorem World.answers_tables {o : Op} {x : Except JsError o.Answer}
    (h : w.answers env i o x w') :
    w'.tables = w.tables ∨ ∃ repo requestId row, w' = w.save repo requestId row ∧
      (o = .insert repo requestId row ∨ o = .update repo requestId row) := by
  cases x with
  | error e =>
      cases o with
      | send call =>
          rcases h with rfl | ⟨fn, -, rfl⟩
          · exact .inl rfl
          · exact .inl rfl
      | _ => exact .inl (congrArg World.tables h)
  | ok a =>
      cases o with
      | insert repo requestId row => exact .inr ⟨repo, requestId, row, h.2, .inl rfl⟩
      | update repo requestId row => exact .inr ⟨repo, requestId, row, h, .inr rfl⟩
      | send call =>
          obtain ⟨fn, -, -, rfl⟩ := h
          exact .inl rfl
      | findOne | getParsedTransaction | dateNow => exact .inl (congrArg World.tables h.2)
      | getBridgeRequest | requestClaim | getContractBalance =>
          obtain ⟨_, _, _, hw⟩ := h
          exact .inl (congrArg World.tables hw)
      | wait => exact .inl (congrArg World.tables h.2.2)
      | sleep | getAnchorCtx | rpcVerifyAndSettle | confirmTransaction
        | waitForTransaction => exact .inl (congrArg World.tables h)

theorem World.Recorded.save {repo : Repo} {requestId : String} {row : Record repo}
    (h : w.Recorded) (hfits : w.Fits repo requestId row) :
    (w.save repo requestId row).Recorded := by
  intro repo' requestId' row' hrow
  by_cases hrepo : repo' = repo
  · subst hrepo
    by_cases hid : requestId' = requestId
    · subst hid
      simp [World.save] at hrow
      subst hrow
      exact hfits
    · simp [World.save, hid] at hrow
      exact h _ _ _ hrow
  · simp [World.save, hrepo] at hrow
    exact h _ _ _ hrow

theorem World.Recorded.answers {o : Op} {x : Except JsError o.Answer} (h : w.Recorded)
    (hans : w.answers env i o x w') (hmay : MayWrite w o x w') : w'.Recorded := by
  rcases World.answers_tables hans with hsame | ⟨repo, requestId, row, rfl, rfl | rfl⟩
  · exact h.later (.answers hans) hsame
  · exact h.save hmay
  · exact h.save hmay

variable {admits : Calls → Request → Prop}

/-- **In every run** on ethers v6 that starts with empty tables, no record
has a settlement hash, and one that says SETTLED is right. -/
theorem Run.fits (h₀ : ∀ repo requestId, w₀.tables repo requestId = none)
    (hrun : Run (ethersV6 env) admits (.idle w₀) p) :
    Run (unhashed env) admits (.idle w₀) p ∧ p.state.Recorded := by
  induction hrun with
  | refl =>
      refine ⟨.refl, fun repo requestId row hrow => ?_⟩
      rw [Pool.idle, h₀] at hrow
      cases hrow
  | @tail p₁ p₂ _ hstep ih =>
      obtain ⟨hrun, hrec⟩ := ih
      cases hstep with
      | start q hq => exact ⟨hrun.tail (.start q hq), hrec⟩
      | @resume i q o k x s' hat hans =>
          have hread : Unhashed o x := by
            cases o with
            | findOne repo requestId =>
                cases x with
                | error e => trivial
                | ok row =>
                    cases row with
                    | none => trivial
                    | some row => exact (hrec repo requestId row hans.1.1.symm).1
            | _ => trivial
          have hkeeps := Run.keeps unhashed_relies
            (fun p q _ _ => Prog.wp.mono _ (fun _ _ _ => trivial) (clean_handle q p.state)) hrun
          have hans' : (unhashed env).answers i p₁.state o x s' := ⟨hans, hread⟩
          exact ⟨hrun.tail (.resume i hat hans'),
            hrec.answers hans.1 (hkeeps.step unhashed_relies hat hans')⟩
      | outside hmove =>
          exact ⟨hrun.tail (.outside hmove), hrec.later (.outside hmove) hmove.tables⟩

theorem Run.ofEthersV6 (hrun : Run (ethersV6 env) admits p p') :
    Run (service env) admits p p' := by
  refine Relation.ReflTransGen.mono (fun p p' hstep => ?_) _ _ hrun
  cases hstep with
  | start q hq => exact .start q hq
  | resume i hat hans => exact .resume i hat hans.1
  | outside hmove => exact .outside hmove

/-! ## Records and the chain -/

/-- The request was settled on its way to Solana, or its tokens were
delivered. -/
def SettledOnChain (p : Calls) : Repo → String → Prop
  | .evmToSol, requestId => ∃ m r, bigInt requestId = .ok m ∧ uint256 m = some r ∧
      (p.state.evm.bridgeRequests r).finalized = true
  | .solToEvm, requestId => ∃ n dto, Delivered p n dto ∧ dto.requestId = requestId

/-- The record that a call is for. -/
def Request.record : Request → Repo × String
  | .evmToSol dto => (.evmToSol, dto.requestId)
  | .solToEvm dto => (.solToEvm, dto.requestId)

/-- The records agree with the chain; `hash` gives the hash of a
transaction. -/
structure AgreesWithChain (env : Setup) (hash : Nat → String) (p : Calls) : Prop where
  status : ∀ repo requestId row, p.state.tables repo requestId = some row →
    (row.status = .SETTLED ↔ SettledOnChain p repo requestId)
  txHash : ∀ repo requestId row, p.state.tables repo requestId = some row →
    row.status = .SETTLED → ∃ n t c, p.state.sent[n]? = some t ∧ t.status = .mined ∧
      p.calls[t.caller]? = some c ∧ c.request.record = (repo, requestId) ∧
      row.settlementTxHash = some (hash n)
  stays : ∀ p', Run (ethersV6 env) (fun _ _ => True) p p' →
    ∀ repo requestId row, p.state.tables repo requestId = some row → row.status = .SETTLED →
      ∃ row', p'.state.tables repo requestId = some row' ∧ row'.status = .SETTLED ∧
        row'.settlementTxHash = row.settlementTxHash

/-- **A record says SETTLED only if the chain has settled its request.** -/
theorem Run.settledOnChain (h₀ : ∀ repo requestId, w₀.tables repo requestId = none)
    (hsent : w₀.sent = []) (hevm : Evm.Reachable env.ch w₀.evm)
    (hrun : Run (ethersV6 env) admits (.idle w₀) p) {repo : Repo} {requestId : String}
    {row : Record repo} (hrow : p.state.tables repo requestId = some row)
    (hstatus : row.status = .SETTLED) : SettledOnChain p repo requestId := by
  have hservice := Run.ofEthersV6 hrun
  obtain ⟨rfl, m, r, hm, hr, t, ht, hmined, hsettles⟩ :=
    ((Run.fits h₀ hrun).2 repo requestId row hrow).2 hstatus
  obtain ⟨account, hpaid⟩ := Run.settlements hsent hevm hservice t ht hmined r hsettles
  exact ⟨m, r, hm, hr, hpaid.finalized (Run.evm hevm hservice).valid⟩

/-- **The records agree with the chain** in those states of a run, with and
without running calls, in which the chain has settled no recorded request. -/
theorem agrees_with_chain_iff {hash : Nat → String} (hsent : w₀.sent = [])
    (h₀ : ∀ repo requestId, w₀.tables repo requestId = none)
    (hevm : Evm.Reachable env.ch w₀.evm)
    (hrun : Run (ethersV6 env) (fun _ _ => True) (.idle w₀) p) :
    AgreesWithChain env hash p ↔
      ∀ repo requestId row, p.state.tables repo requestId = some row →
        ¬ SettledOnChain p repo requestId := by
  constructor
  · intro hagrees repo requestId row hrow hsettled
    have hstatus := (hagrees.status repo requestId row hrow).mpr hsettled
    obtain ⟨n, t, c, -, -, -, -, hhash⟩ := hagrees.txHash repo requestId row hrow hstatus
    rw [((Run.fits h₀ hrun).2 repo requestId row hrow).1] at hhash
    cases hhash
  · intro hopen
    have hnone : ∀ repo requestId row, p.state.tables repo requestId = some row →
        row.status ≠ .SETTLED := fun repo requestId row hrow hstatus =>
      hopen repo requestId row hrow (Run.settledOnChain h₀ hsent hevm hrun hrow hstatus)
    refine ⟨fun repo requestId row hrow => ?_, fun repo requestId row hrow hstatus => ?_,
      fun p' _ repo requestId row hrow hstatus => ?_⟩
    · exact iff_of_false (hnone repo requestId row hrow) (hopen repo requestId row hrow)
    · exact absurd hstatus (hnone repo requestId row hrow)
    · exact absurd hstatus (hnone repo requestId row hrow)

/-! ### A request settled twice -/

namespace Sample

theorem answer_ethersV6 {o : Op} : EthersV6 o (w.answer setup i o).1 := by
  cases o with
  | wait tx =>
      simp only [World.answer]
      split
      · exact rfl
      · trivial
  | waitForTransaction => trivial
  | _ => trivial

theorem run_ethersV6 (qs : List Request) :
    Run (ethersV6 setup) (fun _ _ => True) (.idle w) (served qs w) := by
  have hanswer : ∀ i w o, (ethersV6 setup).settled i w o (w.answer setup i o).1
      (w.answer setup i o).2 := by
    intro i w o
    have hsettled : (service setup).settled i w o (w.answer setup i o).1
        (w.answer setup i o).2 := World.answer_settled o
    obtain ⟨w₁, hout, hans⟩ := hsettled
    exact ⟨w₁, hout, hans, answer_ethersV6⟩
  exact Run.serveAll hanswer qs _

/-- A request without a signature. -/
def unsigned : Request := .evmToSol { settle "1" with solanaTransferSignature := "" }

/-- The pool after two calls that settle the same request. -/
def settledTwice : Calls :=
  served [.evmToSol (settle "1"), .evmToSol (settle "1")] (world paid Evm.Sample.claimed)

theorem claimed_open (r : Nat) : (Evm.Sample.claimed.bridgeRequests r).finalized = false := by
  cases hfin : (Evm.Sample.claimed.bridgeRequests r).finalized with
  | false => rfl
  | true =>
      have hl := Evm.Sample.claimed_reachable.valid.lifecycle
      have hknown := (hl.known r).mp (hl.settled r hfin)
      have hnonce : Evm.Sample.claimed.bridgeNonce = 1 := by decide +kernel
      rw [Evm.book_nonce, hnonce] at hknown
      obtain rfl : r = 1 := by omega
      rw [Evm.Sample.claimed_byFive.isOpen] at hfin
      cases hfin

end Sample

/-- A request that is refused has its record, and nothing is settled. -/
theorem agrees_with_chain_refused : ∃ w p, w.sent = [] ∧
    Run (ethersV6 Sample.setup) (fun _ _ => True) (.idle w) p ∧ p.AtRest ∧
      (p.state.tables .evmToSol "1").map (·.status) = some .FAILED ∧
        ∀ hash, AgreesWithChain Sample.setup hash p := by
  refine ⟨Sample.world Sample.paid Evm.Sample.claimed, _, rfl,
    Sample.run_ethersV6 [Sample.unsigned], Sample.atRest_served _, rfl, fun hash => ?_⟩
  refine (agrees_with_chain_iff rfl (fun _ _ => rfl) Evm.Sample.claimed_reachable
    (Sample.run_ethersV6 _)).mpr fun repo requestId row _ hsettled => ?_
  cases repo with
  | evmToSol =>
      obtain ⟨m, r, -, -, hfin⟩ := hsettled
      exact absurd ((Sample.claimed_open r).symm.trans hfin) Bool.false_ne_true
  | solToEvm =>
      obtain ⟨n, dto, ⟨t, ht, -⟩, -⟩ := hsettled
      cases ht

/-- The second call for a settled request marks its record as failed. -/
theorem settled_record_failed : ¬ ∀ (env : Setup) (hash : Nat → String) (w₀ : World) (p : Calls),
    w₀.sent = [] → (∀ repo requestId, w₀.tables repo requestId = none) →
    Evm.Reachable env.ch w₀.evm → Run (ethersV6 env) (fun _ _ => True) (.idle w₀) p →
    p.AtRest → AgreesWithChain env hash p := by
  intro hall
  have hstatus :
      (Sample.settledTwice.state.tables .evmToSol "1").map (·.status) = some .FAILED ∧
        (Sample.settledTwice.state.evm.bridgeRequests 1).finalized = true := by decide +kernel
  obtain ⟨hstatus, hfin⟩ := hstatus
  obtain ⟨row, hrow, hfailed⟩ := Option.map_eq_some_iff.mp hstatus
  have hagrees := hall Sample.setup (fun _ => "0x")
    (Sample.world Sample.paid Evm.Sample.claimed) Sample.settledTwice rfl (fun _ _ => rfl)
    Evm.Sample.claimed_reachable (Sample.run_ethersV6 _) (Sample.atRest_served _)
  have hsettled := (hagrees.status .evmToSol "1" row hrow).mpr ⟨1, 1, by decide, rfl, hfin⟩
  rw [hfailed] at hsettled
  cases hsettled

end LunarysBridge.Relayer
