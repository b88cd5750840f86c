/-
LunarysBridge.Relayer.ErrorPath — how a call ends, and what it leaves in
its record.

`Outcomes` answers the operations of one call, taken alone: the
repositories and the clock work, and everything else answers or fails as it
likes. A call is closed when it has returned and its record is SETTLED, or
thrown and its record is FAILED with the message of what was thrown. The
handlers write FAILED next to most of what they throw. What throws outside
of that is named by `Guarded`, one for each handler.
-/
import LunarysBridge.Relayer.Replay

namespace LunarysBridge.Relayer

open Async

variable {α : Type} {lib : Libs} {cfg : Config}

/-- The operation writes no record. -/
def Op.Spares : Op → Prop
  | .insert _ _ _ | .update _ _ _ => False
  | _ => True

/-- Answers to the operations of one call, in states of any kind. -/
structure Outcomes (σ : Type) where
  answer : σ → (o : Op) → Except JsError o.Answer × σ
  tables : σ → Tables
  spares : ∀ s o, o.Spares → tables (answer s o).2 = tables s
  finds : ∀ s repo requestId,
    (answer s (.findOne repo requestId)).1 = .ok (tables s repo requestId)
  inserts : ∀ s repo requestId row, tables s repo requestId = none →
    (answer s (.insert repo requestId row)).1 = .ok () ∧
      tables (answer s (.insert repo requestId row)).2 repo requestId = some row
  updates : ∀ s repo requestId row, (answer s (.update repo requestId row)).1 = .ok () ∧
    tables (answer s (.update repo requestId row)).2 repo requestId = some row
  clock : ∀ s, ∃ now, (answer s .dateNow).1 = .ok now

abbrev Spares (p : Promise α) : Prop := p.Only Op.Spares

theorem Watches.spares {p : Promise α} (h : Watches p) : Spares p :=
  Prog.Only.mono h fun o => by cases o <;> simp [Op.Watches, Op.Spares]

theorem OnSolana.spares {p : Promise α} (h : OnSolana p) : Spares p :=
  Prog.Only.mono h fun o => by cases o <;> simp [Op.OnSolana, Op.Spares]

namespace Outcomes

variable {σ : Type} (out : Outcomes σ) (repo : Repo) (requestId : String)

/-- The record of the request is there, and has the property. -/
def Shows (P : Record repo → Prop) (s : σ) : Prop :=
  ∃ row, out.tables s repo requestId = some row ∧ P row

abbrev Present (s : σ) : Prop := out.Shows repo requestId (fun _ => True) s

/-- The status is RECEIVED or VERIFIED. -/
abbrev Open (s : σ) : Prop :=
  out.Shows repo requestId (fun row => row.status = .RECEIVED ∨ row.status = .VERIFIED) s

abbrev Settled (s : σ) : Prop := out.Shows repo requestId (fun row => row.status = .SETTLED) s

abbrev Failed (message : String) (s : σ) : Prop :=
  out.Shows repo requestId
    (fun row => row.status = .FAILED ∧ row.lastError = some message) s

/-- The program returns with the record settled, or throws with the record
failed and the error stored. -/
def Closes (p : Promise α) (s : σ) : Prop :=
  p.Post out.answer (fun _ => out.Settled repo requestId)
    (fun e => out.Failed repo requestId e.message) s

variable {out repo requestId} {s s' : σ} {P Q : Record repo → Prop}

theorem Shows.mono (h : out.Shows repo requestId P s)
    (himp : ∀ row, P row → Q row) : out.Shows repo requestId Q s := by
  obtain ⟨row, hrow, hP⟩ := h
  exact ⟨row, hrow, himp row hP⟩

theorem Shows.present (h : out.Shows repo requestId P s) : out.Present repo requestId s :=
  h.mono fun _ _ => trivial

theorem Shows.congr (h : out.Shows repo requestId P s) (ht : out.tables s' = out.tables s) :
    out.Shows repo requestId P s' := by
  unfold Shows
  rw [ht]
  exact h

theorem Shows.not_failed (h : out.Open repo requestId s) (message : String) :
    ¬ out.Failed repo requestId message s := by
  rintro ⟨row, hrow, hfailed, -⟩
  obtain ⟨row', hrow', hopen⟩ := h
  rw [hrow'] at hrow
  cases hrow
  rw [hfailed] at hopen
  rcases hopen with hopen | hopen <;> cases hopen

/-! ## Repositories -/

section Repositories

variable {data : repo.Columns} {message : String}

theorem post_await {o : Op} {a : o.Answer} {ok : o.Answer → σ → Prop}
    {err : JsError → σ → Prop} (h : (out.answer s o).1 = .ok a) :
    (await o).Post out.answer ok err s ↔ ok a (out.answer s o).2 := by
  show (Prog.ofExcept (out.answer s o).1 : Promise o.Answer).Post out.answer ok err _ ↔ _
  rw [h]
  rfl

theorem post_findOne {ok : Option (Record repo) → σ → Prop} {err : JsError → σ → Prop} :
    (findOne repo requestId).Post out.answer ok err s ↔
      ok (out.tables s repo requestId) (out.answer s (.findOne repo requestId)).2 :=
  post_await (out.finds s repo requestId)

theorem post_update {row : Record repo} {ok : Unit → σ → Prop} {err : JsError → σ → Prop} :
    (update repo requestId row).Post out.answer ok err s ↔
      ok () (out.answer s (.update repo requestId row)).2 :=
  post_await (out.updates s repo requestId row).1

theorem tables_findOne : out.tables (out.answer s (.findOne repo requestId)).2 = out.tables s :=
  out.spares s _ trivial

/-- The state in which `upsertReceived` leaves. -/
def received (out : Outcomes σ) (repo : Repo) (requestId : String) (data : repo.Columns)
    (s : σ) : σ :=
  let s' := (out.answer s (.findOne repo requestId)).2
  match out.tables s repo requestId with
  | some row => (out.answer s' (.update repo requestId (.received data (some row)))).2
  | none => (out.answer s' (.insert repo requestId (.received data none))).2

theorem open_received : out.Open repo requestId (out.received repo requestId data s) := by
  unfold received
  dsimp only
  split
  · next row hrow =>
    exact ⟨_, (out.updates _ repo requestId _).2, .inl rfl⟩
  · next hrow =>
    have hnone : out.tables (out.answer s (.findOne repo requestId)).2 repo requestId = none := by
      rw [tables_findOne, hrow]
    exact ⟨_, (out.inserts _ repo requestId _ hnone).2, .inl rfl⟩

theorem post_upsertReceived {ok : Unit → σ → Prop} {err : JsError → σ → Prop} :
    (upsertReceived repo requestId data).Post out.answer ok err s ↔
      ok () (out.received repo requestId data s) := by
  rw [upsertReceived, Prog.post_bind, post_findOne]
  unfold received
  dsimp only
  cases hrow : out.tables s repo requestId with
  | some row => exact post_update
  | none =>
      have hnone : out.tables (out.answer s (.findOne repo requestId)).2 repo requestId = none := by
        rw [tables_findOne, hrow]
      exact post_await (out.inserts _ repo requestId _ hnone).1

/-- A record that is there is rewritten. -/
theorem post_rewrite (h : out.Present repo requestId s) {P : Record repo → Prop}
    {change : Record repo → Record repo} (hP : ∀ row, P (change row))
    {other : Promise Unit} : ∃ s', out.Shows repo requestId P s' ∧
      ∀ {ok : Unit → σ → Prop} {err : JsError → σ → Prop},
        Prog.Post out.answer ok err (do
          match ← findOne repo requestId with
          | none => other
          | some row => update repo requestId (change row)) s ↔ ok () s' := by
  obtain ⟨row, hrow, -⟩ := h
  refine ⟨(out.answer (out.answer s (.findOne repo requestId)).2
    (.update repo requestId (change row))).2,
    ⟨_, (out.updates _ repo requestId (change row)).2, hP row⟩, fun {ok err} => ?_⟩
  rw [Prog.post_bind, post_findOne, hrow]
  exact post_update

theorem post_markVerified (patch : repo.Columns → repo.Columns)
    (h : out.Present repo requestId s) :
    ∃ s', out.Open repo requestId s' ∧ ∀ {ok : Unit → σ → Prop} {err : JsError → σ → Prop},
      (markVerified repo requestId patch).Post out.answer ok err s ↔ ok () s' :=
  post_rewrite h fun _ => .inr rfl

theorem post_markSettled (hash : Option String) (patch : repo.Columns → repo.Columns)
    (h : out.Present repo requestId s) :
    ∃ s', out.Settled repo requestId s' ∧ ∀ {ok : Unit → σ → Prop} {err : JsError → σ → Prop},
      (markSettled repo requestId hash patch).Post out.answer ok err s ↔ ok () s' :=
  post_rewrite (P := fun row => row.status = .SETTLED) h fun _ => rfl

theorem post_markFailed (message : String) (h : out.Present repo requestId s) :
    ∃ s', out.Failed repo requestId message s' ∧
      ∀ {ok : Unit → σ → Prop} {err : JsError → σ → Prop},
        (markFailed repo requestId message).Post out.answer ok err s ↔ ok () s' :=
  post_rewrite h fun _ => ⟨rfl, rfl⟩

/-- What is refused is thrown with the record failed. -/
theorem post_reject {ok : α → σ → Prop} {err : JsError → σ → Prop}
    (h : out.Present repo requestId s)
    (herr : ∀ s', out.Failed repo requestId message s' → err (badRequest message) s') :
    (reject repo requestId message).Post out.answer ok err s := by
  obtain ⟨s', hfailed, hpost⟩ := post_markFailed message h
  rw [reject, Prog.post_bind, hpost]
  exact herr s' hfailed

end Repositories

/-! ## How a program closes -/

section Closes

variable {β : Type} {message : String} {cond : Prop} [Decidable cond]

/-- A run of the program, in these outcomes. -/
abbrev Ends (out : Outcomes σ) (p : Promise α) (s : σ) (r : Except JsError α) (s' : σ) : Prop :=
  p.Ends (Prog.Answered out.answer) s r s'

theorem exists_ends (out : Outcomes σ) (p : Promise α) (s : σ) : ∃ r s', out.Ends p s r s' :=
  Prog.exists_answered p

theorem tables_of_ends {p : Promise α} {r : Except JsError α} (hp : Spares p)
    (h : out.Ends p s r s') : out.tables s' = out.tables s :=
  Prog.Only.keeps hp (fun {s o x s'} ho hanswer => by
    have hkept := out.spares s o ho
    rw [show out.answer s o = (x, s') from hanswer] at hkept
    exact hkept) h

theorem closes_rejectIf_bind {f : Unit → Promise α} (h : out.Present repo requestId s) :
    out.Closes repo requestId (rejectIf repo requestId cond message >>= f) s ↔
      (¬ cond → out.Closes repo requestId (f ()) s) := by
  unfold Closes
  rw [Prog.post_bind, rejectIf]
  by_cases hcond : cond
  · rw [if_pos hcond]
    exact iff_of_true (post_reject h fun _ hfailed => hfailed) fun hno => absurd hcond hno
  · rw [if_neg hcond]
    exact ⟨fun hpost _ => hpost, fun hpost => hpost hcond⟩

theorem closes_reject_bind {f : β → Promise α} (h : out.Present repo requestId s) :
    out.Closes repo requestId (reject repo requestId message >>= f) s := by
  unfold Closes
  rw [Prog.post_bind]
  exact post_reject h fun _ hfailed => hfailed

/-- What throws here leaves the record open. -/
theorem closes_lift_bind {x : Except JsError α} {f : α → Promise β}
    (h : out.Open repo requestId s) :
    out.Closes repo requestId (liftM x >>= f) s ↔
      ∃ a, x = .ok a ∧ out.Closes repo requestId (f a) s := by
  cases x with
  | ok a => exact ⟨fun hpost => ⟨a, rfl, hpost⟩, fun ⟨_, ha, hpost⟩ => by cases ha; exact hpost⟩
  | error e =>
      refine iff_of_false (h.not_failed e.message) ?_
      rintro ⟨a, ha, -⟩
      cases ha

theorem closes_spares_bind {p : Promise α} {f : α → Promise β} (hp : Spares p)
    (h : out.Open repo requestId s) :
    out.Closes repo requestId (p >>= f) s ↔
      ∃ a s₁, out.Ends p s (.ok a) s₁ ∧ out.Closes repo requestId (f a) s₁ := by
  unfold Closes
  rw [Prog.post_bind]
  constructor
  · intro hpost
    obtain ⟨r, s₁, hends⟩ := exists_ends out p s
    rw [Prog.ends_answered hends] at hpost
    cases r with
    | ok a => exact ⟨a, s₁, hends, hpost⟩
    | error e => exact absurd hpost ((h.congr (tables_of_ends hp hends)).not_failed e.message)
  · rintro ⟨a, s₁, hends, hpost⟩
    exact (Prog.ends_answered hends).mpr hpost

/-- What is thrown is caught, and refused. -/
theorem closes_checked_bind {p : Promise α} {f : α → Promise β} {message : JsError → String}
    (hp : Spares p) (h : out.Present repo requestId s) :
    out.Closes repo requestId
        (tryCatch p (fun e => reject repo requestId (message e)) >>= f) s ↔
      ∀ a s₁, out.Ends p s (.ok a) s₁ → out.Closes repo requestId (f a) s₁ := by
  unfold Closes
  rw [Prog.post_bind, Prog.post_tryCatch]
  constructor
  · intro hpost a s₁ hends
    exact (Prog.ends_answered hends).mp hpost
  · intro hall
    obtain ⟨r, s₁, hends⟩ := exists_ends out p s
    refine (Prog.ends_answered hends).mpr ?_
    cases r with
    | ok a => exact hall a s₁ hends
    | error e =>
        exact post_reject (h.congr (tables_of_ends hp hends)) fun _ hfailed => hfailed

/-- A read of the contract does not throw. -/
theorem closes_readOr_bind {o : Op} {view : o.Answer → β} {fallback : β} {f : β → Promise α}
    (ho : o.Spares) (h : out.Present repo requestId s)
    (hf : ∀ b s', out.Present repo requestId s' → out.Closes repo requestId (f b) s') :
    out.Closes repo requestId (readOr o view fallback >>= f) s := by
  unfold Closes
  rw [Prog.post_bind, readOr, Prog.post_tryCatch, Prog.map_eq, Prog.post_bind]
  have hpresent := h.congr (out.spares s o ho)
  show (Prog.ofExcept (out.answer s o).1 : Promise o.Answer).Post out.answer _ _ _
  cases (out.answer s o).1 with
  | ok a => exact hf _ _ hpresent
  | error e => exact hf _ _ hpresent

theorem closes_dateNow_bind {f : Nat → Promise α} (h : out.Present repo requestId s)
    (hf : ∀ now s', out.Present repo requestId s' → out.Closes repo requestId (f now) s') :
    out.Closes repo requestId (dateNow >>= f) s := by
  obtain ⟨now, hnow⟩ := out.clock s
  unfold Closes
  rw [Prog.post_bind]
  exact (post_await hnow).mpr (hf now _ (h.congr (out.spares s _ trivial)))

theorem closes_markVerified_bind {patch : repo.Columns → repo.Columns} {f : Unit → Promise α}
    (h : out.Present repo requestId s) : ∃ s', out.Open repo requestId s' ∧
      (out.Closes repo requestId (markVerified repo requestId patch >>= f) s ↔
        out.Closes repo requestId (f ()) s') := by
  obtain ⟨s', hopen, hpost⟩ := post_markVerified patch h
  refine ⟨s', hopen, ?_⟩
  unfold Closes
  rw [Prog.post_bind, hpost]

theorem closes_markSettled {hash : Option String} {patch : repo.Columns → repo.Columns} {a : α}
    (h : out.Present repo requestId s) :
    out.Closes repo requestId (markSettled repo requestId hash patch >>= fun _ => .ret a) s := by
  obtain ⟨s', hsettled, hpost⟩ := post_markSettled hash patch h
  unfold Closes
  rw [Prog.post_bind, hpost]
  exact hsettled

theorem closes_upsertReceived_bind {data : repo.Columns} {f : Unit → Promise α} :
    out.Closes repo requestId (upsertReceived repo requestId data >>= f) s ↔
      out.Closes repo requestId (f ()) (out.received repo requestId data s) := by
  unfold Closes
  rw [Prog.post_bind, post_upsertReceived]

/-- What is thrown is caught, stored and thrown again. -/
theorem closes_attempt {p : Promise α} {f : α → Promise β} (hp : Spares p)
    (h : out.Present repo requestId s)
    (hf : ∀ a s', out.Present repo requestId s' → out.Closes repo requestId (f a) s') :
    out.Closes repo requestId
      (tryCatch (p >>= f) fun e => do
        markFailed repo requestId e.message
        throw e) s := by
  have hstore : ∀ (e : JsError) (s' : σ), out.Present repo requestId s' →
      out.Closes repo requestId (do
        markFailed repo requestId e.message
        throw e : Promise β) s' := by
    intro e s' h'
    obtain ⟨s₁, hfailed, hpost⟩ := post_markFailed e.message h'
    unfold Closes
    rw [Prog.post_bind, hpost]
    exact hfailed
  obtain ⟨r, s₁, hends⟩ := exists_ends out p s
  have h₁ := h.congr (tables_of_ends hp hends)
  unfold Closes
  rw [Prog.post_tryCatch, Prog.post_bind]
  refine (Prog.ends_answered hends).mpr ?_
  cases r with
  | ok a =>
      exact Prog.Post.mono (p := f a) (fun _ _ hsettled => hsettled)
        (fun e s' hfailed => hstore e s' hfailed.present) (hf a s₁ h₁)
  | error e => exact hstore e s₁ h₁

end Closes

/-! ## Solana's node -/

/-- The node hands over the transaction in one of so many tries: it
succeeded, and so far there was no metadata. -/
inductive Finds (out : Outcomes σ) (sig : String) (tx : ParsedTransaction) :
    (tries i : Nat) → σ → Prop where
  | here {tries i : Nat} {s s₁ : σ}
      (answered : out.answer s (.getParsedTransaction sig) = (.ok (some tx), s₁))
      (succeeded : tx.Succeeded) : Finds out sig tx (tries + 1) i s
  | later {tries i : Nat} {s s₁ s₂ : σ} {last : Option ParsedTransaction}
      (answered : out.answer s (.getParsedTransaction sig) = (.ok last, s₁))
      (early : ∀ tx', last = some tx' → tx'.meta? = none)
      (slept : out.answer s₁ (.sleep (400 * (i + 1))) = (.ok (), s₂))
      (found : Finds out sig tx tries (i + 1) s₂) : Finds out sig tx (tries + 1) i s

theorem ends_getTxWithRetry {sig : String} {tx : ParsedTransaction} (tries : Nat) :
    ∀ {i : Nat} {last : Option ParsedTransaction} {s : σ},
      (∀ tx', last = some tx' → tx'.meta? = none) →
      ((∃ s', out.Ends (getTxWithRetry sig tries i last) s (.ok tx) s') ↔
        out.Finds sig tx tries i s) := by
  induction tries with
  | zero =>
      intro i last s hlast
      refine iff_of_false ?_ (by rintro ⟨⟩)
      rintro ⟨s', hends⟩
      cases last with
      | none => cases hends.1
      | some tx' =>
          simp only [getTxWithRetry, hlast tx' rfl, Option.isNone_none, if_true] at hends
          cases hends.1
  | succ tries ih =>
      intro i _ s _
      simp only [getTxWithRetry, Prog.ends_bind_ok]
      constructor
      · rintro ⟨s', last, s₁, hlast, hends⟩
        have hanswer : out.answer s (.getParsedTransaction sig) = (.ok last, s₁) :=
          Prog.ends_call.mp hlast
        cases htry : tryTx last with
        | some result =>
            rw [htry] at hends
            obtain ⟨rfl, rfl⟩ := ends_lift.mp hends
            obtain ⟨rfl, hok⟩ := tryTx_ok.mp htry
            exact .here hanswer hok
        | none =>
            simp only [htry, Prog.ends_bind_ok] at hends
            obtain ⟨_, s₂, hslept, hfound⟩ := hends
            exact .later hanswer (tryTx_none.mp htry) (Prog.ends_call.mp hslept)
              ((ih (tryTx_none.mp htry)).mp ⟨s', hfound⟩)
      · intro hfinds
        cases hfinds with
        | @here _ _ _ s₁ hanswer hok =>
            refine ⟨s₁, some tx, s₁, Prog.ends_call.mpr hanswer, ?_⟩
            rw [tryTx_ok.mpr ⟨rfl, hok⟩]
            exact ends_lift.mpr ⟨rfl, rfl⟩
        | later hanswer hearly hslept hfound =>
            obtain ⟨s', hends⟩ := (ih hearly).mpr hfound
            refine ⟨s', _, _, Prog.ends_call.mpr hanswer, ?_⟩
            rw [tryTx_none.mpr hearly]
            exact (Prog.ends_bind_ok _).mpr ⟨(), _, Prog.ends_call.mpr hslept, hends⟩

theorem finds_iff {sig : String} {tx : ParsedTransaction} :
    out.Finds sig tx 6 0 s ↔ ∃ s', out.Ends (getTxWithRetry sig 6 0 none) s (.ok tx) s' :=
  (ends_getTxWithRetry 6 fun _ hnone => by cases hnone).symm

end Outcomes

/-! ## EVM → SOL -/

section EvmToSol

open Outcomes

variable {σ : Type} {out : Outcomes σ} {s : σ} {dto : EvmToSolVerificationDto}

/-- The DTO has a signature, a destination and a positive amount. -/
structure EvmToSolVerificationDto.Complete (dto : EvmToSolVerificationDto) : Prop where
  signature : dto.solanaTransferSignature ≠ ""
  destination : dto.solanaDestination ≠ ""
  amount : ∃ evmAmt, bigInt dto.amount = .ok evmAmt ∧ 0 < evmAmt

theorem closes_resolveAmount_bind {f : Int × String → Promise α}
    (h : out.Open .evmToSol dto.requestId s) :
    out.Closes .evmToSol dto.requestId (resolveAmount cfg dto >>= f) s ↔
      (dto.Complete → findTokenInfo cfg dto.token ≠ some .inherited) ∧
        ∀ solAmount mint, dto.Resolves cfg solAmount mint →
          out.Closes .evmToSol dto.requestId (f (solAmount, mint)) s := by
  simp only [resolveAmount, Prog.bind_assoc]
  rw [closes_rejectIf_bind h.present, closes_rejectIf_bind h.present,
    closes_checked_bind (only_lift _) h.present]
  constructor
  · intro hcloses
    have hmapped : ∀ evmAmt, dto.solanaTransferSignature ≠ "" → dto.solanaDestination ≠ "" →
        bigInt dto.amount = .ok evmAmt → 0 < evmAmt → _ := fun evmAmt hsig hdest hparse hpos =>
      (closes_rejectIf_bind h.present).mp
        (hcloses hsig hdest evmAmt s (ends_lift.mpr ⟨hparse.symm, rfl⟩)) (by omega)
    constructor
    · rintro ⟨hsig, hdest, evmAmt, hparse, hpos⟩ hinherited
      have hread := hmapped evmAmt hsig hdest hparse hpos
      rw [hinherited, Prog.bind_assoc] at hread
      obtain ⟨info, hinfo, -⟩ := (closes_lift_bind h).mp hread
      cases hinfo
    · rintro solAmount mint ⟨hsig, hdest, ⟨evmAmt, hparse, hpos, rfl⟩, hentry, hne, rfl⟩
      have hread := hmapped evmAmt hsig hdest hparse hpos
      rw [hentry, Prog.bind_assoc] at hread
      obtain ⟨info, hinfo, hmint⟩ := (closes_lift_bind h).mp hread
      cases hinfo
      rw [Prog.bind_assoc] at hmint
      exact (closes_rejectIf_bind h.present).mp hmint hne
  · intro hspec hsig hdest evmAmt s₁ hparsed
    obtain ⟨htoken, hresolves⟩ := hspec
    obtain ⟨hparse, rfl⟩ := ends_lift.mp hparsed
    refine (closes_rejectIf_bind h.present).mpr fun hpos => ?_
    have hcomplete : dto.Complete := ⟨hsig, hdest, evmAmt, hparse.symm, by omega⟩
    cases hentry : findTokenInfo cfg dto.token with
    | none => exact closes_reject_bind h.present
    | some entry =>
        cases entry with
        | inherited => exact absurd hentry (htoken hcomplete)
        | own info =>
            obtain rfl := findTokenInfo_own hentry
            rw [Prog.bind_assoc, closes_lift_bind h]
            refine ⟨_, rfl, ?_⟩
            rw [Prog.bind_assoc, closes_rejectIf_bind h.present]
            intro hne
            exact hresolves _ _
              ⟨hsig, hdest, ⟨evmAmt, hparse.symm, by omega, rfl⟩, hentry, hne, rfl⟩

theorem closes_precheckRequest_bind {requestId : Int} {f : Unit → Promise α}
    (h : out.Present .evmToSol dto.requestId s)
    (hf : ∀ s', out.Present .evmToSol dto.requestId s' →
      out.Closes .evmToSol dto.requestId (f ()) s') :
    out.Closes .evmToSol dto.requestId (precheckRequest dto requestId >>= f) s := by
  simp only [precheckRequest, Prog.bind_assoc]
  refine closes_readOr_bind trivial h fun br s₁ h₁ => ?_
  rw [closes_rejectIf_bind h₁, closes_rejectIf_bind h₁]
  intro _ _
  refine closes_readOr_bind trivial h₁ fun cl s₂ h₂ => ?_
  rw [closes_rejectIf_bind h₂]
  intro _
  refine closes_dateNow_bind h₂ fun now s₃ h₃ => ?_
  rw [closes_rejectIf_bind h₃]
  exact fun _ => hf s₃ h₃

theorem spares_transact {call : ContractCall} : Spares (transact call) :=
  (only_await trivial).bind fun _ => only_await trivial

theorem closes_settleRequest {requestId : Int} {destTxHash evidenceHash : Evm.Bytes32}
    (h : out.Present .evmToSol dto.requestId s) :
    out.Closes .evmToSol dto.requestId (settleRequest dto requestId destTxHash evidenceHash) s := by
  have hspares : Spares (verifyAndSettle requestId destTxHash evidenceHash dto.evidenceURL) := by
    unfold verifyAndSettle
    split <;> exact spares_transact
  exact closes_attempt hspares h fun _ _ h' => closes_markSettled h'

/-- What the record says from the start. -/
def EvmToSolVerificationDto.columns (dto : EvmToSolVerificationDto) : EvmToSolColumns where
  tokenEvm := dto.token
  amountEvm := dto.amount
  ethClaimTxHash := some dto.ethClaimTxHash
  solanaSignature := dto.solanaTransferSignature
  solanaRecipient := dto.solanaDestination
  tokenSolMint := none
  amountSol := none
  destTxHash := none
  evidenceHash := none
  evidenceURL := dto.evidenceURL

/-- The node hands over the transaction of the DTO, and it credits the
destination. -/
def ShowsTransfer (lib : Libs) (out : Outcomes σ) (dto : EvmToSolVerificationDto)
    (solAmount : Int) (mint : String) (s : σ) : Prop :=
  ∃ tx, out.Finds dto.solanaTransferSignature tx 6 0 s ∧ tx.Credits lib dto solAmount mint

/-- A run of the check that does not throw. -/
theorem ends_checkedTransfer {solAmount : Int} {mint : String} {s' : σ} {u : Unit}
    (hmint : mint ≠ "") :
    out.Ends (do
        let _ ← verifyTransfer lib
          { signature := dto.solanaTransferSignature
            recipient := dto.solanaDestination
            amount := solAmount
            mint := some mint } : Promise Unit) s (.ok u) s' ↔
      ∃ tx, out.Ends (getTxWithRetry dto.solanaTransferSignature 6 0 none) s (.ok tx) s' ∧
        tx.Credits lib dto solAmount mint := by
  rw [Ends, Prog.ends_bind_ok]
  constructor
  · rintro ⟨tx, s₁, hverified, -, rfl⟩
    obtain ⟨owner, key, ata, howner, hkey, hata, hfound, hge⟩ :=
      (ends_verifyTransfer rfl hmint).mp hverified
    exact ⟨tx, hfound, owner, key, ata, howner, hkey, hata, hge⟩
  · rintro ⟨tx, hfound, owner, key, ata, howner, hkey, hata, hge⟩
    refine ⟨tx, s', (ends_verifyTransfer rfl hmint).mpr ?_, rfl, rfl⟩
    exact ⟨owner, key, ata, howner, hkey, hata, hfound, hge⟩

theorem closes_checkSolanaLeg_bind {solAmount : Int} {mint : String} {f : Unit → Promise α}
    {C : Prop} (hmint : mint ≠ "") (h : out.Open .evmToSol dto.requestId s)
    (hf : ∀ s', out.Open .evmToSol dto.requestId s' →
      (out.Closes .evmToSol dto.requestId (f ()) s' ↔ C)) :
    out.Closes .evmToSol dto.requestId (checkSolanaLeg lib dto solAmount mint >>= f) s ↔
      (ShowsTransfer lib out dto solAmount mint s → C) := by
  have hspares : ∀ p : VerifyTransferParams,
      Spares (verifyTransfer lib p >>= fun _ => pure () : Promise Unit) :=
    fun _ => watches_verifyTransfer.spares.bind fun _ => trivial
  rw [checkSolanaLeg, closes_checked_bind (hspares _) h.present]
  constructor
  · rintro hcloses ⟨tx, hfinds, hcredits⟩
    obtain ⟨s', hfound⟩ := finds_iff.mp hfinds
    have hends := (ends_checkedTransfer (u := ()) hmint).mpr ⟨tx, hfound, hcredits⟩
    exact (hf s' (h.congr (tables_of_ends (hspares _) hends))).mp (hcloses () s' hends)
  · intro hshown u s' hends
    refine (hf s' (h.congr (tables_of_ends (hspares _) hends))).mpr (hshown ?_)
    obtain ⟨tx, hfound, hcredits⟩ := (ends_checkedTransfer hmint).mp hends
    exact ⟨tx, finds_iff.mpr ⟨s', hfound⟩, hcredits⟩

/-- What is not caught does not throw: the table has an entry of its own
for the token, and the request id of a transfer that was shown is a
number. -/
structure EvmToSolVerificationDto.Guarded (lib : Libs) (cfg : Config) (out : Outcomes σ)
    (dto : EvmToSolVerificationDto) (s : σ) : Prop where
  token : dto.Complete → findTokenInfo cfg dto.token ≠ some .inherited
  requestId : ∀ solAmount mint, dto.Resolves cfg solAmount mint →
    ShowsTransfer lib out dto solAmount mint
      (out.received .evmToSol dto.requestId dto.columns s) →
    ∃ requestId, bigInt dto.requestId = .ok requestId

theorem closes_handleEvmToSol :
    out.Closes .evmToSol dto.requestId (handleEvmToSol lib cfg dto) s ↔
      dto.Guarded lib cfg out s := by
  have hreceived : out.Open .evmToSol dto.requestId
      (out.received .evmToSol dto.requestId dto.columns s) := open_received
  refine closes_upsertReceived_bind.trans ((closes_resolveAmount_bind hreceived).trans ?_)
  refine Iff.trans (and_congr_right' (forall₃_congr fun solAmount mint hresolves =>
    closes_checkSolanaLeg_bind (C := ∃ requestId, bigInt dto.requestId = .ok requestId)
      hresolves.mint_ne hreceived fun s' hopen => ?_))
    ⟨fun h => ⟨h.1, h.2⟩, fun h => ⟨h.token, h.requestId⟩⟩
  -- whatever follows closes
  rw [closes_lift_bind hopen]
  refine exists_congr fun requestId => and_iff_left ?_
  refine closes_precheckRequest_bind hopen.present fun s₁ h₁ => ?_
  obtain ⟨s₂, h₂, hverified⟩ := closes_markVerified_bind h₁
  exact hverified.mpr (closes_settleRequest h₂.present)

end EvmToSol

/-! ## SOL → EVM -/

section SolToEvm

open Outcomes

variable {σ : Type} {out : Outcomes σ} {s : σ} {dto : SolToEvmVerificationDto}

theorem exists_adjustToEvmDecimals {amount : Int} {info : TokenInfo} :
    (∃ evmAmount, adjustToEvmDecimals amount info = .ok evmAmount) ↔ 0 ≤ amount := by
  unfold adjustToEvmDecimals
  by_cases hneg : amount < 0
  · rw [if_pos hneg]
    exact iff_of_false (by rintro ⟨_, ⟨⟩⟩) (by omega)
  · rw [if_neg hneg]
    exact iff_of_true ⟨_, rfl⟩ (by omega)

theorem exists_mapping : (∃ mapping, (mappingFor cfg dto).read "decimals" = .ok mapping) ↔
    findTokenInfo cfg dto.evmToken ≠ some .inherited := by
  simp only [TableEntry.read_ok, mappingFor]
  cases findTokenInfo cfg dto.evmToken with
  | none => simp
  | some entry => cases entry <;> simp

/-- What the record says from the start. -/
def SolToEvmVerificationDto.columns (dto : SolToEvmVerificationDto) : SolToEvmColumns where
  solanaDepositSignature := dto.solanaDepositSignature
  solanaVault := dto.solanaVault
  solanaMint := some (dto.solanaMint.getD "")
  amountSol := dto.amount
  evmRecipient := dto.evmRecipient
  evmToken := dto.evmToken
  amountEvm := none

/-- The node hands over the transaction of the DTO, and it deposits the
amount in the vault. -/
def ShowsDeposit (lib : Libs) (out : Outcomes σ) (dto : SolToEvmVerificationDto)
    (amount : Int) (s : σ) : Prop :=
  ∃ tx vault, lib.publicKey dto.solanaVault = .ok vault ∧
    out.Finds dto.solanaDepositSignature tx 6 0 s ∧
    tx.Deposits lib (depositParams dto amount) vault

theorem closes_verifyDeposit_bind {amount : Int} {f : ParsedTransaction → Promise α} {C : Prop}
    (h : out.Open .solToEvm dto.requestId s)
    (hf : ∀ tx s', out.Open .solToEvm dto.requestId s' →
      (out.Closes .solToEvm dto.requestId (f tx) s' ↔ C)) :
    out.Closes .solToEvm dto.requestId (verifyDeposit lib (depositParams dto amount) >>= f) s ↔
      ShowsDeposit lib out dto amount s ∧ C := by
  have hspares : Spares (verifyDeposit lib (depositParams dto amount)) :=
    watches_verifyDeposit.spares
  rw [closes_spares_bind hspares h]
  constructor
  · rintro ⟨tx, s', hends, hcloses⟩
    obtain ⟨vault, hvault, hfound, -, hdeposits⟩ := ends_verifyDeposit.mp hends
    exact ⟨⟨tx, vault, hvault, finds_iff.mpr ⟨s', hfound⟩, hdeposits⟩,
      (hf tx s' (h.congr (tables_of_ends hspares hends))).mp hcloses⟩
  · rintro ⟨⟨tx, vault, hvault, hfinds, hdeposits⟩, hC⟩
    obtain ⟨s', hfound⟩ := finds_iff.mp hfinds
    have hends := (ends_verifyDeposit (p := depositParams dto amount)).mpr
      ⟨vault, hvault, hfound, checkProgram_none, hdeposits⟩
    exact ⟨tx, s', hends, (hf tx s' (h.congr (tables_of_ends hspares hends))).mpr hC⟩

/-- What is not caught does not throw: the amount is a number and not a
negative one, the transaction shows the deposit, and the table has no
inherited entry for the token. -/
structure SolToEvmVerificationDto.Covered (lib : Libs) (cfg : Config) (out : Outcomes σ)
    (dto : SolToEvmVerificationDto) (amount : Int) (s : σ) : Prop where
  amount_eq : bigInt dto.amount = .ok amount
  nonneg : 0 ≤ amount
  token : findTokenInfo cfg dto.evmToken ≠ some .inherited
  deposit : ShowsDeposit lib out dto amount s

theorem covered_iff {amount : Int} : dto.Covered lib cfg out amount s ↔
    bigInt dto.amount = .ok amount ∧ ShowsDeposit lib out dto amount s ∧
      findTokenInfo cfg dto.evmToken ≠ some .inherited ∧ 0 ≤ amount := by
  constructor
  · intro hcovered
    exact ⟨hcovered.amount_eq, hcovered.deposit, hcovered.token, hcovered.nonneg⟩
  · rintro ⟨hparse, hshown, htoken, hnonneg⟩
    exact ⟨hparse, hnonneg, htoken, hshown⟩

theorem closes_checkDeposit_bind {f : TokenInfo × Int → Promise α}
    (h : out.Open .solToEvm dto.requestId s)
    (hf : ∀ x s', out.Open .solToEvm dto.requestId s' →
      out.Closes .solToEvm dto.requestId (f x) s') :
    out.Closes .solToEvm dto.requestId (checkDeposit lib cfg dto >>= f) s ↔
      (lib.isAddress dto.evmRecipient = true → lib.isAddress dto.evmToken = true →
        ∃ amount, dto.Covered lib cfg out amount s) := by
  simp only [checkDeposit, Prog.bind_assoc]
  rw [closes_rejectIf_bind h.present, closes_rejectIf_bind h.present, closes_lift_bind h,
    Bool.not_eq_false, Bool.not_eq_false]
  refine forall₂_congr fun _ _ => exists_congr fun amount => ?_
  rw [covered_iff]
  refine and_congr_right' (closes_verifyDeposit_bind h fun tx s' h' => ?_)
  obtain ⟨s₁, h₁, hverified⟩ := closes_markVerified_bind h'.present
  rw [hverified, closes_lift_bind h₁, ← exists_mapping, ← exists_and_right]
  refine exists_congr fun mapping => and_congr_right' ?_
  rw [closes_lift_bind h₁]
  exact (exists_congr fun evmAmount => and_iff_left (hf _ _ h₁)).trans exists_adjustToEvmDecimals

theorem closes_precheckBalance_bind {evmAmount : Int} {f : Unit → Promise α}
    (h : out.Present .solToEvm dto.requestId s)
    (hf : ∀ s', out.Present .solToEvm dto.requestId s' →
      out.Closes .solToEvm dto.requestId (f ()) s') :
    out.Closes .solToEvm dto.requestId (precheckBalance dto evmAmount >>= f) s := by
  simp only [precheckBalance, Prog.bind_assoc]
  refine closes_readOr_bind trivial h fun balance s₁ h₁ => ?_
  rw [closes_rejectIf_bind h₁, closes_rejectIf_bind h₁]
  exact fun _ _ => hf s₁ h₁

theorem closes_confirmDelivery {mapping : TokenInfo} {evmAmount : Int}
    {receipt : Option TransactionReceipt} (h : out.Present .solToEvm dto.requestId s) :
    out.Closes .solToEvm dto.requestId
      (confirmDelivery lib cfg dto mapping evmAmount receipt) s := by
  rw [confirmDelivery, closes_checked_bind watches_verifyEvmDelivery.spares h]
  intro _ s₁ hdelivered
  have h₁ := h.congr (tables_of_ends watches_verifyEvmDelivery.spares hdelivered)
  rw [closes_checked_bind solana_closeOnSolana.spares h₁]
  intro _ s₂ hclosed
  exact closes_markSettled (h₁.congr (tables_of_ends solana_closeOnSolana.spares hclosed))

/-- What is not caught does not throw, once the addresses are addresses. -/
def SolToEvmVerificationDto.Guarded (lib : Libs) (cfg : Config) (out : Outcomes σ)
    (dto : SolToEvmVerificationDto) (s : σ) : Prop :=
  lib.isAddress dto.evmRecipient = true → lib.isAddress dto.evmToken = true →
    ∃ amount, dto.Covered lib cfg out amount
      (out.received .solToEvm dto.requestId dto.columns s)

theorem closes_handleSolToEvm :
    out.Closes .solToEvm dto.requestId (handleSolToEvm lib cfg dto) s ↔
      dto.Guarded lib cfg out s := by
  refine closes_upsertReceived_bind.trans (closes_checkDeposit_bind open_received ?_)
  intro ⟨mapping, evmAmount⟩ s₁ h₁
  refine closes_precheckBalance_bind h₁.present fun s₂ h₂ => ?_
  exact closes_attempt spares_transact h₂ fun receipt s₃ h₃ => closes_confirmDelivery h₃

end SolToEvm

/-- **When no call leaves its record open**: exactly where what the handlers
do not catch does not throw. -/
theorem error_path_iff (lib : Libs) (cfg : Config) {σ : Type} (out : Outcomes σ) (s : σ) :
    (∀ dto : EvmToSolVerificationDto,
      out.Closes .evmToSol dto.requestId (handleEvmToSol lib cfg dto) s ↔
        dto.Guarded lib cfg out s) ∧
    ∀ dto : SolToEvmVerificationDto,
      out.Closes .solToEvm dto.requestId (handleSolToEvm lib cfg dto) s ↔
        dto.Guarded lib cfg out s :=
  ⟨fun _ => closes_handleEvmToSol, fun _ => closes_handleSolToEvm⟩

/-! ### The world in which everything works -/

namespace World

variable {env : Setup} {i : Nat} {w : World}

theorem tables_answer {o : Op} (h : o.Spares) : (w.answer env i o).2.tables = w.tables := by
  cases o with
  | insert repo requestId row => exact absurd h id
  | update repo requestId row => exact absurd h id
  | getBridgeRequest | requestClaim | getContractBalance | send =>
      simp only [answer]
      split <;> rfl
  | wait tx =>
      simp only [answer]
      split
      · next w' hmine =>
        unfold mine at hmine
        split at hmine
        · split at hmine
          · split at hmine <;> cases hmine
            rfl
          · cases hmine
        · cases hmine
      · rfl
  | _ => rfl

theorem answer_insert {repo : Repo} {requestId : String} {row : Record repo}
    (h : w.tables repo requestId = none) :
    w.answer env i (.insert repo requestId row) = (.ok (), w.save repo requestId row) := by
  simp [answer, h]

/-- What is answered to the `i`-th call. -/
def outcomes (env : Setup) (i : Nat) : Outcomes World where
  answer := fun w o => w.answer env i o
  tables := World.tables
  spares := fun _ _ h => tables_answer h
  finds := fun _ _ _ => rfl
  inserts := fun _ _ _ _ h => by simp [answer_insert h]
  updates := fun _ _ _ _ => ⟨rfl, tables_save⟩
  clock := fun w => ⟨w.clock, rfl⟩

/-- Only what is on the ledger is found. -/
theorem ledger_of_finds {sig : String} {tx : ParsedTransaction} {tries j : Nat}
    (h : (outcomes env i).Finds sig tx tries j w) : w.ledger sig = some tx := by
  induction h with
  | here hanswer => exact Except.ok.inj (Prod.mk.inj hanswer).1
  | later hanswer _ hslept _ ih =>
      obtain ⟨-, rfl⟩ := Prod.mk.inj hanswer
      obtain ⟨-, rfl⟩ := Prod.mk.inj hslept
      exact ih

end World

/-- The vault was given one unit less than the DTO says. -/
def Sample.shortDeposit : SolToEvmVerificationDto := { deliver with amount := "1000001" }

/-- The deposit is refused, and the record stays RECEIVED. -/
theorem deposit_left_received : ¬ ∀ (lib : Libs) (cfg : Config) (out : Outcomes World) (w : World),
    (∀ dto : EvmToSolVerificationDto,
      out.Closes .evmToSol dto.requestId (handleEvmToSol lib cfg dto) w) ∧
    ∀ dto : SolToEvmVerificationDto,
      out.Closes .solToEvm dto.requestId (handleSolToEvm lib cfg dto) w := by
  intro hall
  have hcloses := (hall Sample.lib Sample.cfg (World.outcomes Sample.setup 0)
    (Sample.world Sample.deposited Evm.Sample.claimed)).2 Sample.shortDeposit
  obtain ⟨amount, hcovered⟩ := closes_handleSolToEvm.mp hcloses (by decide +kernel)
    (by decide +kernel)
  have hparse : bigInt Sample.shortDeposit.amount = .ok 1000001 := by decide +kernel
  obtain rfl : 1000001 = amount := Except.ok.inj (hparse.symm.trans hcovered.amount_eq)
  obtain ⟨tx, vault, hvault, hfinds, hdeposits⟩ := hcovered.deposit
  obtain rfl : Sample.deposited = tx := by
    have hledger : creditLedger Sample.signature Sample.deposited Sample.signature = some tx :=
      World.ledger_of_finds hfinds
    simpa [creditLedger] using hledger
  rw [ParsedTransaction.Deposits, if_neg (by decide +kernel)] at hdeposits
  obtain ⟨key, hkey, hge⟩ := hdeposits
  rw [Sample.deposited, tokenDelta_tokenCredit] at hge
  split at hge <;> exact absurd hge (by decide)

end LunarysBridge.Relayer
