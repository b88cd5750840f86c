/-
LunarysBridge.Relayer.Effects — what the repositories and the two services
do: for each function, when it returns and in which world (`returns_*`),
and what it awaits: repositories only (`tables_*`), or what changes nothing
(`watches_*`). Either sends nothing.

An operation may fail at any time, so a function that returns says
something only about the run in which it does; that it can return is the
other half of the equivalence.
-/
import LunarysBridge.Relayer.World

namespace LunarysBridge.Relayer

open Async

variable (env : Setup) (i : Nat) {α β : Type}

/-- Run for the `i`-th call, the program may return `a` and leave `w'`. -/
def Returns (p : Promise α) (w : World) (a : α) (w' : World) : Prop :=
  p.Ends ((service env).answers i) w (.ok a) w'

/-- Run for the `i`-th call, the program may come to send `call`, in `w'`. -/
def Sends (p : Promise α) (w : World) (call : ContractCall) (w' : World) : Prop :=
  p.Reaches ((service env).answers i) w (.send call) w'

/-- The program sends nothing. -/
def Quiet (p : Promise α) : Prop := p.AtMost Op.IsSend 0

variable {env i} {w w' : World}

/-! ## Programs -/

@[simp] theorem returns_ret {a b : α} : Returns env i (.ret a) w b w' ↔ b = a ∧ w' = w := by
  simp [Returns]

@[simp] theorem returns_fail {e : JsError} {a : α} :
    Returns env i (.fail e) w a w' ↔ False := by
  simp [Returns]

@[simp] theorem returns_bind {p : Promise α} {f : α → Promise β} {b : β} :
    Returns env i (p >>= f) w b w' ↔
      ∃ a w₁, Returns env i p w a w₁ ∧ Returns env i (f a) w₁ b w' :=
  Prog.ends_bind_ok p

@[simp] theorem returns_lift {x : Except JsError α} {a : α} :
    Returns env i (liftM x) w a w' ↔ x = .ok a ∧ w' = w := by
  cases x <;> simp [eq_comm]

/-- A handler that never returns. -/
theorem returns_tryCatch {p : Promise α} {h : JsError → Promise α} {a : α}
    (hh : ∀ e w₁, ¬ Returns env i (h e) w₁ a w') :
    Returns env i (tryCatch p h) w a w' ↔ Returns env i p w a w' := by
  refine (Prog.ends_tryCatch_ok p).trans ⟨?_, .inl⟩
  intro hrun
  rcases hrun with hp | ⟨e, w₁, -, he⟩
  · exact hp
  · exact absurd he (hh e w₁)

theorem Quiet.bind {p : Promise α} {f : α → Promise β} (hp : Quiet p) (hf : ∀ a, Quiet (f a)) :
    Quiet (p >>= f) :=
  Prog.AtMost.bind hp hf

theorem Quiet.tryCatch {p : Promise α} {h : JsError → Promise α} (hp : Quiet p)
    (hh : ∀ e, Quiet (h e)) : Quiet (MonadExcept.tryCatch p h) :=
  Prog.AtMost.tryCatch hp hh

@[simp] theorem quiet_ret {a : α} : Quiet (.ret a) := trivial

@[simp] theorem quiet_fail {e : JsError} : Quiet (.fail e : Promise α) := trivial

@[simp] theorem quiet_lift {x : Except JsError α} : Quiet (liftM x : Promise α) := by
  cases x <;> trivial

theorem quiet_await {o : Op} (h : ∀ call, o ≠ .send call) : Quiet (await o) :=
  Prog.atMost_call_of_not fun ⟨call, ho⟩ => h call ho

def Op.OnTable : Op → Prop
  | .findOne _ _ | .insert _ _ _ | .update _ _ _ => True
  | _ => False

/-- The operation changes nothing. -/
def Op.Watches : Op → Prop
  | .insert _ _ _ | .update _ _ _ | .rpcVerifyAndSettle _ _ _ _ | .send _ => False
  | _ => True

/-- The operation settles a request on Solana. -/
def Op.OnSolana : Op → Prop
  | .getAnchorCtx | .rpcVerifyAndSettle _ _ _ _ | .confirmTransaction _ => True
  | _ => False

abbrev OnTables (p : Promise α) : Prop := p.Only Op.OnTable

abbrev Watches (p : Promise α) : Prop := p.Only Op.Watches

abbrev OnSolana (p : Promise α) : Prop := p.Only Op.OnSolana

theorem only_await {A : Op → Prop} {o : Op} (ho : A o) : (await o).Only A := Prog.only_call ho

theorem only_lift {A : Op → Prop} (x : Except JsError α) : (liftM x : Promise α).Only A :=
  Prog.only_ofExcept x

theorem quiet_of_only {A : Op → Prop} {p : Promise α} (hp : p.Only A)
    (hA : ∀ call, ¬ A (.send call)) : Quiet p := by
  refine Prog.Only.avoids hp fun o ho hsend => ?_
  obtain ⟨call, rfl⟩ := hsend
  exact hA call ho

theorem OnTables.quiet {p : Promise α} (hp : OnTables p) : Quiet p :=
  quiet_of_only hp fun _ => id

theorem Watches.quiet {p : Promise α} (hp : Watches p) : Quiet p :=
  quiet_of_only hp fun _ => id

theorem OnSolana.quiet {p : Promise α} (hp : OnSolana p) : Quiet p :=
  quiet_of_only hp fun _ => id

/-- What is sent is sent by what follows a quiet part. -/
theorem Quiet.sends_bind {p : Promise α} {f : α → Promise β} (hp : Quiet p)
    {call : ContractCall} :
    Sends env i (p >>= f) w call w' ↔
      ∃ a w₁, Returns env i p w a w₁ ∧ Sends env i (f a) w₁ call w' :=
  Prog.AtMost.reaches_bind hp ⟨call, rfl⟩

theorem sends_bind_quiet {p : Promise α} {f : α → Promise β} (hf : ∀ a, Quiet (f a))
    {call : ContractCall} : Sends env i (p >>= f) w call w' ↔ Sends env i p w call w' := by
  refine (Prog.reaches_bind p).trans (or_iff_left ?_)
  intro h
  obtain ⟨a, w₁, -, hs⟩ := h
  exact Prog.AtMost.not_reaches _ (hf a) ⟨call, rfl⟩ hs

theorem sends_tryCatch_quiet {p : Promise α} {h : JsError → Promise α} (hh : ∀ e, Quiet (h e))
    {call : ContractCall} :
    Sends env i (tryCatch p h) w call w' ↔ Sends env i p w call w' := by
  refine (Prog.reaches_tryCatch p).trans (or_iff_left ?_)
  intro hrun
  obtain ⟨e, w₁, -, hs⟩ := hrun
  exact Prog.AtMost.not_reaches _ (hh e) ⟨call, rfl⟩ hs

section AtMost

variable {P : Op → Prop} {n : Nat}

/-- A quiet program awaits nothing but what others await too. -/
theorem Quiet.none {p : Promise α} (hp : Quiet p) (hP : ∀ o, P o → o.IsSend) : p.AtMost P 0 :=
  Prog.AtMost.weaken p hP hp

theorem Quiet.atMost_bind {p : Promise α} {f : α → Promise β} (hp : Quiet p)
    (hP : ∀ o, P o → o.IsSend) (hf : ∀ a, (f a).AtMost P n) : (p >>= f).AtMost P n := by
  have h := Prog.AtMost.bind (hp.none hP) hf
  rwa [Nat.zero_add] at h

theorem atMost_bind_quiet {p : Promise α} {f : α → Promise β} (hp : p.AtMost P n)
    (hP : ∀ o, P o → o.IsSend) (hf : ∀ a, Quiet (f a)) : (p >>= f).AtMost P n :=
  Prog.AtMost.bind hp fun a => (hf a).none hP

theorem atMost_tryCatch_quiet {p : Promise α} {h : JsError → Promise α} (hp : p.AtMost P n)
    (hP : ∀ o, P o → o.IsSend) (hh : ∀ e, Quiet (h e)) : (tryCatch p h : Promise α).AtMost P n :=
  Prog.AtMost.tryCatch hp fun e => (hh e).none hP

end AtMost

/-! ## Repositories -/

section Repositories

variable {repo : Repo} {requestId message : String} {cond : Prop} [Decidable cond]

@[simp] theorem returns_findOne {row : Option (Record repo)} :
    Returns env i (findOne repo requestId) w row w' ↔
      row = w.tables repo requestId ∧ w' = w :=
  Prog.ends_call

@[simp] theorem returns_insert {row : Record repo} {u : Unit} :
    Returns env i (insert repo requestId row) w u w' ↔
      w.tables repo requestId = none ∧ w' = w.save repo requestId row :=
  Prog.ends_call

@[simp] theorem returns_update {row : Record repo} {u : Unit} :
    Returns env i (update repo requestId row) w u w' ↔ w' = w.save repo requestId row :=
  Prog.ends_call

theorem tables_upsertReceived {data : repo.Columns} :
    OnTables (upsertReceived repo requestId data) := by
  refine (only_await trivial).bind fun row => ?_
  cases row with
  | none => exact only_await trivial
  | some row => exact only_await trivial

theorem tables_markVerified {patch : repo.Columns → repo.Columns} :
    OnTables (markVerified repo requestId patch) := by
  refine (only_await trivial).bind fun row => ?_
  cases row with
  | none => trivial
  | some row => exact only_await trivial

theorem tables_markSettled {hash : Option String} {patch : repo.Columns → repo.Columns} :
    OnTables (markSettled repo requestId hash patch) := by
  refine (only_await trivial).bind fun row => ?_
  cases row with
  | none => trivial
  | some row => exact only_await trivial

theorem tables_markFailed : OnTables (markFailed repo requestId message) := by
  refine (only_await trivial).bind fun row => ?_
  cases row with
  | none => trivial
  | some row => exact only_await trivial

theorem tables_reject : OnTables (reject repo requestId message : Promise α) :=
  tables_markFailed.bind fun _ => trivial

theorem tables_rejectIf : OnTables (rejectIf repo requestId cond message) := by
  unfold rejectIf
  split
  · exact tables_reject
  · trivial

/-- Nothing is returned to a request that is refused. -/
@[simp] theorem returns_reject {a : α} :
    Returns env i (reject repo requestId message) w a w' ↔ False := by
  simp [reject]

@[simp] theorem returns_rejectIf {u : Unit} :
    Returns env i (rejectIf repo requestId cond message) w u w' ↔ ¬ cond ∧ w' = w := by
  unfold rejectIf
  split <;> simp [*]

/-- The row that `upsertReceived` writes. -/
def Record.received (data : repo.Columns) : Option (Record repo) → Record repo
  | some existing =>
      { existing with status := .RECEIVED, columns := repo.assign existing.columns data }
  | none =>
      { status := .RECEIVED, columns := data, settlementTxHash := none, lastError := none }

@[simp] theorem returns_upsertReceived {data : repo.Columns} {u : Unit} :
    Returns env i (upsertReceived repo requestId data) w u w' ↔
      w' = w.save repo requestId (.received data (w.tables repo requestId)) := by
  simp only [upsertReceived, returns_bind, returns_findOne]
  constructor
  · intro hrun
    obtain ⟨row, w₁, ⟨rfl, rfl⟩, hr⟩ := hrun
    cases hrow : w₁.tables repo requestId with
    | none =>
        simp only [hrow, returns_insert] at hr
        exact hr.2
    | some existing =>
        simp only [hrow, returns_update] at hr
        exact hr
  · rintro rfl
    refine ⟨w.tables repo requestId, w, ⟨rfl, rfl⟩, ?_⟩
    cases hrow : w.tables repo requestId with
    | none => exact returns_insert.mpr ⟨hrow, rfl⟩
    | some existing => exact returns_update.mpr rfl

@[simp] theorem returns_markVerified {patch : repo.Columns → repo.Columns} {u : Unit} :
    Returns env i (markVerified repo requestId patch) w u w' ↔
      ∃ row, w.tables repo requestId = some row ∧ w' = w.save repo requestId
        { row with status := .VERIFIED, columns := patch row.columns } := by
  simp only [markVerified, returns_bind, returns_findOne]
  constructor
  · intro hrun
    obtain ⟨row, w₁, ⟨rfl, rfl⟩, hr⟩ := hrun
    cases hrow : w₁.tables repo requestId with
    | none => simp [hrow] at hr
    | some row =>
        simp only [hrow, returns_update] at hr
        exact ⟨row, rfl, hr⟩
  · intro hspec
    obtain ⟨row, hrow, rfl⟩ := hspec
    exact ⟨some row, w, ⟨hrow.symm, rfl⟩, returns_update.mpr rfl⟩

section Save

variable {row : Record repo}

@[simp] theorem World.tables_save :
    (w.save repo requestId row).tables repo requestId = some row := by
  simp [save]

end Save

end Repositories

/-! ## Solana -/

/-- The transaction succeeded, and its metadata is there. -/
def ParsedTransaction.Succeeded (tx : ParsedTransaction) : Prop :=
  ∃ info, tx.meta? = some info ∧ info.err = none

theorem tryTx_ok {last : Option ParsedTransaction} {tx : ParsedTransaction} :
    tryTx last = some (.ok tx) ↔ last = some tx ∧ tx.Succeeded := by
  cases last with
  | none => simp [tryTx]
  | some tx' =>
      cases hmeta : tx'.meta? with
      | none =>
          simp only [tryTx, hmeta, reduceCtorEq, false_iff]
          intro hrun
          obtain ⟨h, info, hinfo, -⟩ := hrun
          cases h
          rw [hmeta] at hinfo
          cases hinfo
      | some info =>
          cases herr : info.err with
          | none =>
              simp only [tryTx, hmeta, herr, Option.some.injEq, Except.ok.injEq]
              constructor
              · rintro rfl
                exact ⟨rfl, info, hmeta, herr⟩
              · intro hrun
                obtain ⟨rfl, -⟩ := hrun
                rfl
          | some err =>
              simp only [tryTx, hmeta, herr, Option.some.injEq, reduceCtorEq, false_iff]
              intro hrun
              obtain ⟨rfl, info', hinfo, herr'⟩ := hrun
              rw [hmeta] at hinfo
              cases hinfo
              rw [herr] at herr'
              cases herr'

theorem tryTx_none {last : Option ParsedTransaction} :
    tryTx last = none ↔ ∀ tx, last = some tx → tx.meta? = none := by
  cases last with
  | none => simp [tryTx]
  | some tx =>
      cases hmeta : tx.meta? with
      | none => simp [tryTx, hmeta]
      | some info => cases herr : info.err <;> simp [tryTx, hmeta, herr]

@[simp] theorem returns_getParsedTransaction {signature : String}
    {last : Option ParsedTransaction} :
    Returns env i (getParsedTransaction signature) w last w' ↔
      (last = none ∨ ∃ tx, w.ledger signature = some tx ∧
        (last = some tx ∨ last = some { tx with meta? := none })) ∧ w' = w :=
  Prog.ends_call

@[simp] theorem returns_sleep {ms : Nat} {u : Unit} :
    Returns env i (sleep ms) w u w' ↔ w' = w :=
  Prog.ends_call

theorem watches_getTxWithRetry {sig : String} (tries : Nat) :
    ∀ j last, Watches (getTxWithRetry sig tries j last) := by
  induction tries with
  | zero =>
      intro j last
      cases last with
      | none => trivial
      | some tx =>
          simp only [getTxWithRetry]
          split <;> trivial
  | succ tries ih =>
      intro j last
      refine (only_await trivial).bind fun last => ?_
      split
      · exact only_lift _
      · exact (only_await trivial).bind fun _ => ih _ _

/-- A transaction is returned that is on the ledger, and that succeeded. -/
theorem returns_getTxWithRetry_sound {sig : String} {tx : ParsedTransaction} (tries : Nat) :
    ∀ j last, (∀ tx', last = some tx' → tx'.meta? = none) →
      Returns env i (getTxWithRetry sig tries j last) w tx w' →
      w.ledger sig = some tx ∧ tx.Succeeded ∧ w' = w := by
  induction tries with
  | zero =>
      intro j last hlast hr
      cases last with
      | none => simp [getTxWithRetry] at hr
      | some tx' => simp [getTxWithRetry, hlast tx' rfl] at hr
  | succ tries ih =>
      intro j last hlast hr
      simp only [getTxWithRetry, returns_bind, returns_getParsedTransaction] at hr
      obtain ⟨read, w₁, ⟨hread, rfl⟩, hr⟩ := hr
      cases htry : tryTx read with
      | some result =>
          simp only [htry, returns_lift] at hr
          obtain ⟨rfl, rfl⟩ := hr
          obtain ⟨rfl, hok⟩ := tryTx_ok.mp htry
          rcases hread with hnone | ⟨tx', hledger, hfull | hbare⟩
          · cases hnone
          · cases hfull
            exact ⟨hledger, hok, rfl⟩
          · cases hbare
            obtain ⟨info, hinfo, -⟩ := hok
            cases hinfo
      | none =>
          simp only [htry, returns_bind, returns_sleep] at hr
          obtain ⟨-, w₂, rfl, hr⟩ := hr
          exact ih _ _ (tryTx_none.mp htry) hr

theorem returns_getTxWithRetry {sig : String} {tx : ParsedTransaction} :
    Returns env i (getTxWithRetry sig 6 0 none) w tx w' ↔
      w.ledger sig = some tx ∧ tx.Succeeded ∧ w' = w := by
  refine ⟨returns_getTxWithRetry_sound 6 0 none (by simp), ?_⟩
  intro h
  obtain ⟨hledger, hok, rfl⟩ := h
  have htry : tryTx (some tx) = some (.ok tx) := tryTx_ok.mpr ⟨rfl, hok⟩
  simp only [getTxWithRetry, returns_bind, returns_getParsedTransaction]
  exact ⟨some tx, w', ⟨.inr ⟨tx, hledger, .inl rfl⟩, rfl⟩, by simp [htry]⟩

variable {lib : Libs} {cfg : Config}

theorem watches_verifyTransfer {p : VerifyTransferParams} : Watches (verifyTransfer lib p) := by
  refine (only_lift _).bind fun owner => (watches_getTxWithRetry 6 0 none).bind fun tx => ?_
  split
  · split
    · trivial
    · split <;> trivial
  · refine (only_lift _).bind fun mint => (only_lift _).bind fun ata => ?_
    split <;> trivial

theorem watches_verifyDeposit {p : VerifyDepositParams} : Watches (verifyDeposit lib p) := by
  refine (watches_getTxWithRetry 6 0 none).bind fun tx =>
    (only_lift _).bind fun _ => (only_lift _).bind fun vault => ?_
  split
  · split
    · trivial
    · split <;> trivial
  · refine (only_lift _).bind fun mint => ?_
    split <;> trivial

/-- A deposit that `verifyDeposit` accepts, its vault read as the key
`vault`. -/
def ParsedTransaction.Deposits (tx : ParsedTransaction) (lib : Libs) (p : VerifyDepositParams)
    (vault : String) : Prop :=
  if falsy p.mint then
    ∃ idx, tx.accountKeys.findIdx? (· == vault) = some idx ∧ p.amount ≤ tx.lamportDelta idx
  else ∃ key, lib.publicKey (p.mint.getD "") = .ok key ∧ p.amount ≤ tx.tokenDelta vault key

section Ends

variable {σ : Type} {T : σ → (o : Op) → Except JsError o.Answer → σ → Prop} {s s' : σ}

theorem ends_lift {x r : Except JsError α} :
    (liftM x : Promise α).Ends T s r s' ↔ r = x ∧ s' = s :=
  Prog.ends_ofExcept

/-- A check that throws, before the answer. -/
theorem ends_unless {c : Prop} [Decidable c] {e : JsError} {a b : α} :
    (if c then throw e else return a : Promise α).Ends T s (.ok b) s' ↔
      ¬ c ∧ b = a ∧ s' = s := by
  by_cases hc : c
  · simp [hc]
  · simp [hc]

/-- The SPL branch of `verifyTransfer`. -/
theorem ends_verifyTransfer {p : VerifyTransferParams} {tx : ParsedTransaction}
    {mint : String} (hp : p.mint = some mint) (hmint : mint ≠ "") :
    (verifyTransfer lib p).Ends T s (.ok tx) s' ↔
      ∃ owner key ata, lib.publicKey p.recipient = .ok owner ∧ lib.publicKey mint = .ok key ∧
        lib.getAssociatedTokenAddress key owner false = .ok ata ∧
        (getTxWithRetry p.signature 6 0 none).Ends T s (.ok tx) s' ∧
        p.amount ≤ tx.tokenDelta owner key := by
  have hspl : ¬ falsy (some mint) = true := by simp [falsy, hmint]
  simp only [verifyTransfer, Prog.ends_bind_ok, ends_lift, hp, if_neg hspl, ends_unless]
  constructor
  · intro hrun
    obtain ⟨owner, _, ⟨howner, rfl⟩, tx', s₁, hfound, key, _, ⟨hkey, rfl⟩, ata, _,
      ⟨hata, rfl⟩, hge, rfl, rfl⟩ := hrun
    exact ⟨owner, key, ata, howner.symm, hkey.symm, hata.symm, hfound, by omega⟩
  · intro hspec
    obtain ⟨owner, key, ata, howner, hkey, hata, hfound, hge⟩ := hspec
    exact ⟨owner, s, ⟨howner.symm, rfl⟩, tx, s', hfound, key, s', ⟨hkey.symm, rfl⟩, ata, s',
      ⟨hata.symm, rfl⟩, by omega, rfl, rfl⟩

theorem checkProgram_none {tx : ParsedTransaction} : checkProgram none tx = .ok () :=
  if_pos (.inl rfl)

theorem ends_verifyDeposit {p : VerifyDepositParams} {tx : ParsedTransaction} :
    (verifyDeposit lib p).Ends T s (.ok tx) s' ↔
      ∃ vault, lib.publicKey p.vault = .ok vault ∧
        (getTxWithRetry p.signature 6 0 none).Ends T s (.ok tx) s' ∧
        checkProgram p.programId tx = .ok () ∧ tx.Deposits lib p vault := by
  simp only [verifyDeposit, Prog.ends_bind_ok, ends_lift, ParsedTransaction.Deposits]
  by_cases hnative : falsy p.mint = true
  · simp only [if_pos hnative]
    constructor
    · intro hrun
      obtain ⟨tx', s₁, hfound, _, _, ⟨hprogram, rfl⟩, vault, _, ⟨hvault, rfl⟩, hr⟩ := hrun
      split at hr
      · cases hr.1
      · next idx hidx =>
        obtain ⟨hge, rfl, rfl⟩ := ends_unless.mp hr
        exact ⟨vault, hvault.symm, hfound, hprogram.symm, idx, hidx, by omega⟩
    · intro hspec
      obtain ⟨vault, hvault, hfound, hprogram, idx, hidx, hge⟩ := hspec
      refine ⟨tx, s', hfound, (), s', ⟨hprogram.symm, rfl⟩, vault, s', ⟨hvault.symm, rfl⟩, ?_⟩
      simp only [hidx]
      exact ends_unless.mpr ⟨by omega, rfl, rfl⟩
  · simp only [if_neg hnative, Prog.ends_bind_ok, ends_lift, ends_unless]
    constructor
    · intro hrun
      obtain ⟨tx', s₁, hfound, _, _, ⟨hprogram, rfl⟩, vault, _, ⟨hvault, rfl⟩, key, _,
        ⟨hkey, rfl⟩, hge, rfl, rfl⟩ := hrun
      exact ⟨vault, hvault.symm, hfound, hprogram.symm, key, hkey.symm, by omega⟩
    · intro hspec
      obtain ⟨vault, hvault, hfound, hprogram, key, hkey, hge⟩ := hspec
      exact ⟨tx, s', hfound, (), s', ⟨hprogram.symm, rfl⟩, vault, s', ⟨hvault.symm, rfl⟩, key, s',
        ⟨hkey.symm, rfl⟩, by omega, rfl, rfl⟩

end Ends

theorem returns_verifyTransfer {p : VerifyTransferParams} {tx : ParsedTransaction}
    {mint : String} (hp : p.mint = some mint) (hmint : mint ≠ "") :
    Returns env i (verifyTransfer lib p) w tx w' ↔
      ∃ owner key ata, lib.publicKey p.recipient = .ok owner ∧ lib.publicKey mint = .ok key ∧
        lib.getAssociatedTokenAddress key owner false = .ok ata ∧
        w.ledger p.signature = some tx ∧ tx.Succeeded ∧
        p.amount ≤ tx.tokenDelta owner key ∧ w' = w := by
  refine (ends_verifyTransfer hp hmint).trans ?_
  constructor
  · intro hrun
    obtain ⟨owner, key, ata, howner, hkey, hata, hfound, hge⟩ := hrun
    obtain ⟨hledger, hok, rfl⟩ := returns_getTxWithRetry.mp hfound
    exact ⟨owner, key, ata, howner, hkey, hata, hledger, hok, hge, rfl⟩
  · intro hspec
    obtain ⟨owner, key, ata, howner, hkey, hata, hledger, hok, hge, rfl⟩ := hspec
    exact ⟨owner, key, ata, howner, hkey, hata,
      returns_getTxWithRetry.mpr ⟨hledger, hok, rfl⟩, hge⟩

theorem returns_verifyDeposit {p : VerifyDepositParams} {tx : ParsedTransaction}
    (hp : p.programId = none) :
    Returns env i (verifyDeposit lib p) w tx w' ↔
      ∃ vault, lib.publicKey p.vault = .ok vault ∧ w.ledger p.signature = some tx ∧
        tx.Succeeded ∧ tx.Deposits lib p vault ∧ w' = w := by
  refine ends_verifyDeposit.trans ?_
  rw [hp]
  constructor
  · intro hrun
    obtain ⟨vault, hvault, hfound, -, hdeposits⟩ := hrun
    obtain ⟨hledger, hok, rfl⟩ := returns_getTxWithRetry.mp hfound
    exact ⟨vault, hvault, hledger, hok, hdeposits, rfl⟩
  · intro hspec
    obtain ⟨vault, hvault, hledger, hok, hdeposits, rfl⟩ := hspec
    exact ⟨vault, hvault, returns_getTxWithRetry.mpr ⟨hledger, hok, rfl⟩, checkProgram_none,
      hdeposits⟩

/-! ## Reads of the contract -/

theorem ends_await {o : Op} {x : Except JsError o.Answer} :
    (await o).Ends ((service env).answers i) w x w' ↔ w.answers env i o x w' :=
  Prog.ends_call

/-- A read of the contract, or its fallback when it fails. -/
theorem returns_readOr {o : Op} {view : o.Answer → α} {fallback a : α} :
    Returns env i (readOr o view fallback) w a w' ↔
      (∃ x, a = view x ∧ w.succeeds env i o x w') ∨ (a = fallback ∧ w.fails env i o w') := by
  refine (Prog.ends_tryCatch_ok _).trans (or_congr ?_ ?_)
  · refine returns_bind.trans ⟨?_, ?_⟩
    · intro hrun
      obtain ⟨x, w₁, hx, hret⟩ := hrun
      obtain ⟨rfl, rfl⟩ := returns_ret.mp hret
      exact ⟨x, rfl, ends_await.mp hx⟩
    · intro hspec
      obtain ⟨x, rfl, hx⟩ := hspec
      exact ⟨x, w', ends_await.mpr hx, returns_ret.mpr ⟨rfl, rfl⟩⟩
  · simp only [Prog.map_eq, Prog.ends_bind, Prog.ends_ret, ends_await]
    constructor
    · rintro ⟨e, w₁, ⟨x, w₂, -, h, -⟩ | ⟨e', -, hfails⟩, hret⟩
      · cases h
      · obtain ⟨rfl, rfl⟩ := returns_ret.mp hret
        exact ⟨rfl, hfails⟩
    · rintro ⟨rfl, hfails⟩
      exact ⟨badRequest "", w', .inr ⟨badRequest "", rfl, hfails⟩, returns_ret.mpr ⟨rfl, rfl⟩⟩

/-- Where the read is of what the contract has under a key. -/
theorem returns_readOr_key {o : Op} {κ : Type} {view : o.Answer → α} {fallback a : α}
    {key : Option κ} {value : κ → o.Answer}
    (hsucceeds : ∀ x w', w.succeeds env i o x w' ↔ ∃ k, key = some k ∧ x = value k ∧ w' = w)
    (hfails : ∀ w', w.fails env i o w' ↔ w' = w) :
    Returns env i (readOr o view fallback) w a w' ↔
      (a = fallback ∨ ∃ k, key = some k ∧ a = view (value k)) ∧ w' = w := by
  rw [returns_readOr, hfails]
  simp only [hsucceeds]
  constructor
  · intro hrun
    rcases hrun with ⟨x, rfl, k, hk, rfl, rfl⟩ | ⟨rfl, hw⟩
    · exact ⟨.inr ⟨k, hk, rfl⟩, rfl⟩
    · exact ⟨.inl rfl, hw⟩
  · intro hspec
    rcases hspec with ⟨rfl | ⟨k, hk, rfl⟩, rfl⟩
    · exact .inr ⟨rfl, rfl⟩
    · exact .inl ⟨_, rfl, k, hk, rfl, rfl⟩

theorem returns_getBridgeRequest {requestId : Int} {br : Option Evm.BridgeRequest} :
    Returns env i (getBridgeRequest requestId) w br w' ↔
      (br = none ∨ ∃ r, uint256 requestId = some r ∧ br = some (w.evm.bridgeRequests r)) ∧
        w' = w :=
  returns_readOr_key (fun _ _ => Iff.rfl) fun _ => Iff.rfl

theorem returns_getClaim {requestId : Int} {cl : Option Evm.Claim} :
    Returns env i (getClaim requestId) w cl w' ↔
      (cl = none ∨ ∃ r, uint256 requestId = some r ∧ cl = some (w.evm.requestClaim r)) ∧
        w' = w :=
  returns_readOr_key (fun _ _ => Iff.rfl) fun _ => Iff.rfl

theorem returns_getContractTokenBalance {token : String} {balance : Nat} :
    Returns env i (getContractTokenBalance token) w balance w' ↔
      (balance = 0 ∨ ∃ a, env.lib.resolveAddress token = some a ∧
        balance = w.evm.bal a env.ch.self) ∧ w' = w :=
  returns_readOr_key (fun _ _ => Iff.rfl) fun _ => Iff.rfl

@[simp] theorem returns_dateNow {now : Nat} :
    Returns env i dateNow w now w' ↔ now = w.clock ∧ w' = w :=
  Prog.ends_call

theorem watches_readOr {o : Op} (ho : o.Watches) {view : o.Answer → α} {fallback : α} :
    Watches (readOr o view fallback) :=
  Prog.Only.tryCatch (Prog.Only.bind (only_await ho) fun _ => trivial) fun _ => trivial

theorem watches_getBridgeRequest {requestId : Int} : Watches (getBridgeRequest requestId) :=
  watches_readOr (o := .getBridgeRequest requestId) trivial

theorem watches_getClaim {requestId : Int} : Watches (getClaim requestId) :=
  watches_readOr (o := .requestClaim requestId) trivial

theorem watches_getContractTokenBalance {token : String} :
    Watches (getContractTokenBalance token) :=
  watches_readOr (o := .getContractBalance token) trivial

/-! ## Transactions -/

theorem watches_wait {tx : Nat} : Watches (wait tx) := only_await trivial

theorem sends_transact {call call' : ContractCall} :
    Sends env i (transact call) w call' w' ↔ call' = call ∧ w' = w := by
  rw [transact, sends_bind_quiet fun _ => watches_wait.quiet]
  apply Prog.reaches_call.trans
  simp [eq_comm]

theorem atMost_transact {P : Op → Prop} {n : Nat} {call : ContractCall}
    (hP : ∀ o, P o → o.IsSend) (hn : P (.send call) → n = 1) : (transact call).AtMost P n := by
  refine atMost_bind_quiet ?_ hP fun _ => watches_wait.quiet
  by_cases h : P (.send call)
  · rw [hn h]
    exact Prog.atMost_call _
  · exact Prog.AtMost.mono _ (Nat.zero_le n) (Prog.atMost_call_of_not h)

end LunarysBridge.Relayer
