/-
LunarysBridge.Node.Submissions — what the node posts to the relayer.

For each direction: an event leads to a post of this request if and only if
the relayer is configured, the event can be paid, and the request is what
`verificationOf` makes of the event and of the answers on the way
(`posts_iff`). Answers are arbitrary, but the signature of a transaction on
Solana is not the empty string.
-/
import LunarysBridge.Node.EvmToSol

namespace LunarysBridge.Node

open Async
open Relayer (JsError falsy)

/-! ## Requests on EVM -/

namespace EvmToSol

/-- Any operation may answer anything, or throw; but a signature is not
empty. -/
def anySigned (_ : Unit) : (o : Op) → Except JsError o.Answer → Unit → Prop
  | .sendAndConfirmTransaction _ _, .ok signature, _ => signature ≠ ""
  | .transfer _ _ _, .ok signature, _ => signature ≠ ""
  | _, _, _ => True

/-- The handler may come to post this request to this path. -/
def Posts (env : Setup) (req : BridgeRequest) (path : String) (request : VerificationRequest) :
    Prop :=
  (handleBridgeInitiated env req).Reaches anySigned () (.post path request) ()

/-- The mint on Solana, if the token is not native, and the destination are
keys. -/
def Payable (env : Setup) (req : BridgeRequest) (solDest : String) : Prop :=
  (∃ dest, env.publicKey solDest = .ok dest) ∧
    (isNativeToken req.token = true ∨ ∃ mapping mint,
      env.table.getTokenMapping env.chainId req.token = some mapping ∧
        env.publicKey mapping.solanaAddress = .ok mint)

/-- A destination that `destination` may give. -/
def Resolvable (env : Setup) (solDest : String) : Prop :=
  (∃ value, value ≠ 0 ∧ solDest = uint256ToSolanaAddress env value) ∨
    (falsy env.testSolDest = false ∧ solDest = env.testSolDest.getD "")

def Op.IsPost (o : Op) : Prop := ∃ path request, o = .post path request

variable {env : Setup} {req : BridgeRequest} {s s' : Unit} {α β : Type}

theorem Op.Apart.unposted {o : Op} (h : o.Apart) : ¬ o.IsPost := by
  rintro ⟨path, request, rfl⟩
  exact h

/-- What awaits no post posts nothing. -/
theorem unposted_of_only {f : Promise α} (hf : f.Only (¬ Op.IsPost ·)) :
    f.AtMost Op.IsPost 0 :=
  hf.avoids fun _ h => h

theorem unposted_of_apart {f : Promise α} (hf : f.Only Op.Apart) : f.AtMost Op.IsPost 0 :=
  unposted_of_only (hf.mono fun _ h => h.unposted)

theorem ends_lift {x r : Except JsError α} :
    (liftM x : Promise α).Ends anySigned s r s' ↔ r = x := by
  refine Prog.ends_ofExcept.trans ?_
  simp

theorem ends_await {o : Op} {x : Except JsError o.Answer} :
    (await o).Ends anySigned s x s' ↔ anySigned s o x s' :=
  Prog.ends_call

/-- Any hash may come of a claim. -/
theorem ends_claim {requestId : Int} (claimTxHash : String) :
    (claim requestId).Ends anySigned s (.ok claimTxHash) s' := by
  have hunclaimed : (isRequestClaimed requestId).Ends anySigned s (.ok false) s' :=
    (Prog.ends_bind_ok _).mpr ⟨(⟨0, 0, 0, 0⟩, 0), s', ends_await.mpr trivial, rfl, rfl⟩
  refine (Prog.ends_bind_ok _).mpr ⟨false, s', hunclaimed, ?_⟩
  exact (Prog.ends_bind_ok _).mpr ⟨⟨0, claimTxHash⟩, s', ends_await.mpr trivial,
    (Prog.ends_bind_ok _).mpr ⟨some 1, s', ends_await.mpr trivial, rfl, rfl⟩⟩

theorem ends_destination {requestId : Int} {solDest : String} :
    (destination env requestId).Ends anySigned s (.ok solDest) s' ↔ Resolvable env solDest := by
  rw [destination, Prog.ends_tryCatch_ok, decryptSolanaAddress]
  constructor
  · intro hends
    rcases hends with hends | ⟨e, s₁, -, hends⟩
    · simp only [Prog.ends_bind_ok] at hends
      obtain ⟨_, _, -, br, _, -, _, _, -, value, _, -, hends⟩ := hends
      split at hends
      · cases hends.1
      · next hvalue =>
        exact .inl ⟨value, hvalue, Except.ok.inj hends.1⟩
    · split at hends
      · cases hends.1
      · next htest =>
        exact .inr ⟨by simpa using htest, Except.ok.inj hends.1⟩
  · intro hspec
    rcases hspec with ⟨value, hvalue, rfl⟩ | ⟨htest, rfl⟩
    · left
      simp only [Prog.ends_bind_ok]
      refine ⟨(), s, ends_await.mpr trivial, ⟨0, 0, 0, 0, 0, false, 0⟩, s,
        ends_await.mpr trivial, (), s, ends_await.mpr trivial, value, s, ends_await.mpr trivial,
        ?_⟩
      rw [if_neg hvalue]
      exact ⟨rfl, rfl⟩
    · right
      refine ⟨⟨.Error, ""⟩, s, (Prog.ends_bind _).mpr (.inr ⟨_, rfl, ends_await.mpr trivial⟩), ?_⟩
      simp only [htest, Bool.false_eq_true, if_false]
      exact ⟨rfl, rfl⟩

theorem unposted_pay {solDest : String} : (pay env req solDest).AtMost Op.IsPost 0 := by
  apply unposted_of_only
  unfold pay
  split
  · exact (only_lift _).bind fun dest => only_await (by simp [Op.IsPost])
  · split
    · trivial
    · exact (only_lift _).bind fun mint => (only_lift _).bind fun dest =>
        (only_await (by simp [Op.IsPost])).bind fun srcAta =>
        (only_await (by simp [Op.IsPost])).bind fun dstAta => only_await (by simp [Op.IsPost])

theorem ends_pay {solDest signature : String} :
    (pay env req solDest).Ends anySigned s (.ok signature) s' ↔
      Payable env req solDest ∧ signature ≠ "" := by
  unfold pay Payable
  by_cases hnative : isNativeToken req.token = true
  · simp only [hnative, if_true, transferSOL, Prog.ends_bind_ok, ends_lift, true_or, and_true]
    constructor
    · intro hends
      obtain ⟨dest, _, hdest, hsent⟩ := hends
      exact ⟨⟨dest, hdest.symm⟩, ends_await.mp hsent⟩
    · intro hspec
      obtain ⟨⟨dest, hdest⟩, hsigned⟩ := hspec
      exact ⟨dest, s, hdest.symm, ends_await.mpr hsigned⟩
  · simp only [hnative, Bool.false_eq_true, if_false, false_or]
    cases hmapping : env.table.getTokenMapping env.chainId req.token with
    | none => simp [error]
    | some mapping =>
        simp only [transferSPLToken, Prog.ends_bind_ok, ends_lift]
        constructor
        · intro hends
          obtain ⟨mint, _, hmint, dest, _, hdest, _, _, -, _, _, -, hsent⟩ := hends
          exact ⟨⟨⟨dest, hdest.symm⟩, mapping, mint, rfl, hmint.symm⟩, ends_await.mp hsent⟩
        · intro hspec
          obtain ⟨⟨⟨dest, hdest⟩, _, mint, heq, hmint⟩, hsigned⟩ := hspec
          cases heq
          exact ⟨mint, s, hmint.symm, dest, s, hdest.symm, "", s, ends_await.mpr trivial, "", s,
            ends_await.mpr trivial, ends_await.mpr hsigned⟩

theorem reaches_submitVerification {request request' : VerificationRequest} {path : String} :
    (submitVerification env request').Reaches anySigned s (.post path request) s' ↔
      env.relayerApi = true ∧ path = "/api/verify-bridge/evm-to-sol" ∧ request = request' := by
  unfold submitVerification
  split
  · next hapi =>
    refine Prog.reaches_tryCatch_call.trans ?_
    simp [hapi, eq_comm]
  · next hapi =>
    exact ⟨fun hret => hret.elim, fun hspec => absurd hspec.1 hapi⟩

/-- **What the node posts of a request on EVM.** -/
theorem posts_iff {path : String} {request : VerificationRequest} :
    Posts env req path request ↔ env.relayerApi = true ∧ path = "/api/verify-bridge/evm-to-sol" ∧
      ∃ claimTxHash solDest signature, Resolvable env solDest ∧ Payable env req solDest ∧
        signature ≠ "" ∧ request = verificationOf req claimTxHash solDest signature := by
  have hP : Op.IsPost (.post path request) := ⟨path, request, rfl⟩
  have hclaim : (claim req.requestId).AtMost Op.IsPost 0 := unposted_of_apart only_claim
  have hdestination : (destination env req.requestId).AtMost Op.IsPost 0 :=
    unposted_of_apart only_destination
  rw [Posts, handleBridgeInitiated, Prog.reaches_tryCatch, processRequest,
    hclaim.reaches_bind hP]
  constructor
  · intro hreach
    rcases hreach with ⟨claimTxHash, s₁, -, hreach⟩ | ⟨_, _, -, hret⟩
    · obtain ⟨solDest, s₂, hdest, hreach⟩ := (hdestination.reaches_bind hP).mp hreach
      obtain ⟨signature, s₃, hpay, hreach⟩ := (unposted_pay.reaches_bind hP).mp hreach
      obtain ⟨hpayable, hsigned⟩ := ends_pay.mp hpay
      rcases (Prog.reaches_bind _).mp hreach with hpost | ⟨_, _, -, hret⟩
      · obtain ⟨hapi, rfl, rfl⟩ := reaches_submitVerification.mp hpost
        exact ⟨hapi, rfl, claimTxHash, solDest, signature, ends_destination.mp hdest, hpayable,
          hsigned, rfl⟩
      · exact hret.elim
    · exact hret.elim
  · intro hspec
    obtain ⟨hapi, rfl, claimTxHash, solDest, signature, hdest, hpayable, hsigned, rfl⟩ := hspec
    refine .inl ⟨claimTxHash, (), ends_claim claimTxHash, (hdestination.reaches_bind hP).mpr
      ⟨solDest, (), ends_destination.mpr hdest, (unposted_pay.reaches_bind hP).mpr
      ⟨signature, (), ends_pay.mpr ⟨hpayable, hsigned⟩, ?_⟩⟩⟩
    exact (Prog.reaches_bind _).mpr (.inl (reaches_submitVerification.mpr ⟨hapi, rfl, rfl⟩))

end EvmToSol

/-! ## Deposits on Solana -/

namespace SolToEvm

/-- The handler may come to post this request to this path. -/
def Posts (env : Env) (ev : SolBridgeRequest) (path : String)
    (request : VerificationRequestSolToEvm) : Prop :=
  (onSolBridgeInitiated env ev).Reaches anything () (.post path request) ()

def Op.IsPost (o : Op) : Prop := ∃ path request, o = .post path request

variable {env : Env} {ev : SolBridgeRequest} {s s' : Unit} {α : Type}

theorem Op.Apart.unposted {o : Op} (h : o.Apart) : ¬ o.IsPost := by
  rintro ⟨path, request, rfl⟩
  exact h

/-- What awaits no post posts nothing. -/
theorem unposted_of_only {f : Promise α} (hf : f.Only (¬ Op.IsPost ·)) :
    f.AtMost Op.IsPost 0 :=
  hf.avoids fun _ h => h

/-- A payment by one transaction. -/
theorem only_payment {tx : Promise String} (htx : tx.Only (¬ Op.IsPost ·))
    {reverted failed : String} :
    (transferResult tx reverted >>= txHashOf failed).Only (¬ Op.IsPost ·) := by
  refine Prog.Only.bind (Prog.Only.tryCatch (htx.bind fun txHash =>
    (only_await (by simp [Op.IsPost])).bind fun status => ?_) fun _ => trivial) fun res => ?_
  · split <;> trivial
  · unfold txHashOf
    split <;> trivial

theorem ends_payment {tx : Promise String} {reverted failed txHash : String}
    (htx : tx.Ends anything s (.ok txHash) s') :
    (transferResult tx reverted >>= txHashOf failed).Ends anything s (.ok txHash) s' := by
  refine (Prog.ends_bind_ok _).mpr ⟨⟨txHash, true, none⟩, s', ?_, rfl, rfl⟩
  refine (Prog.ends_tryCatch_ok _).mpr (.inl ((Prog.ends_bind_ok _).mpr ⟨txHash, s', htx, ?_⟩))
  exact (Prog.ends_bind_ok _).mpr ⟨some 1, s', ends_await.mpr trivial, rfl, rfl⟩

theorem unposted_pay {evmDest : String} : (pay env ev evmDest).AtMost Op.IsPost 0 := by
  apply unposted_of_only
  unfold pay
  split
  · exact only_payment (only_await (by simp [Op.IsPost]))
  · exact only_payment (only_await (by simp [Op.IsPost]))

/-- Any hash may come of a payment. -/
theorem ends_pay {evmDest : String} (txHash : String) :
    (pay env ev evmDest).Ends anything s (.ok txHash) s' := by
  unfold pay
  split
  · exact ends_payment (ends_await.mpr trivial)
  · exact ends_payment (ends_await.mpr trivial)

theorem reaches_submitVerification {request request' : VerificationRequestSolToEvm}
    {path : String} :
    (submitVerificationSolToEvm env request').Reaches anything s (.post path request) s' ↔
      env.relayerApi = true ∧ path = "/api/verify-bridge/sol-to-evm" ∧ request = request' := by
  unfold submitVerificationSolToEvm
  split
  · next hapi =>
    refine Prog.reaches_tryCatch_call.trans ?_
    simp [hapi, eq_comm]
  · next hapi =>
    exact ⟨fun hret => hret.elim, fun hspec => absurd hspec.1 hapi⟩

/-- **What the node posts of a deposit on Solana.** -/
theorem posts_iff {path : String} {request : VerificationRequestSolToEvm} :
    Posts env ev path request ↔ env.relayerApi = true ∧
      path = "/api/verify-bridge/sol-to-evm" ∧ Processable env ev ∧
      ∃ claimSig evmDest txHash, Readable env evmDest ∧
        request = verificationOf env ev claimSig evmDest txHash := by
  have hP : Op.IsPost (.post path request) := ⟨path, request, rfl⟩
  have hpayer : (liftM (env.publicKey ev.payer) : Promise _).AtMost Op.IsPost 0 :=
    unposted_of_only (only_lift _)
  have hresolved : ∀ {owner : Solana.Pubkey},
      (resolveEvmDestination env ev.requestId owner).AtMost Op.IsPost 0 :=
    unposted_of_only (only_resolveEvmDestination.mono fun _ h => h.unposted)
  rw [Posts, onSolBridgeInitiated, Prog.reaches_tryCatch, processRequest]
  constructor
  · intro hreach
    rcases hreach with hreach | ⟨_, _, -, hret⟩
    · obtain ⟨owner, _, howner, hreach⟩ := (hpayer.reaches_bind hP).mp hreach
      obtain ⟨⟨evmDest, claimSig⟩, _, hresolve, hreach⟩ :=
        (hresolved.reaches_bind hP).mp hreach
      obtain ⟨txHash, _, -, hreach⟩ := (unposted_pay.reaches_bind hP).mp hreach
      obtain ⟨hid, mxePub, out, hpub, hdest⟩ := ends_resolveEvmDestination.mp hresolve
      rcases (Prog.reaches_bind _).mp hreach with hpost | ⟨_, _, -, hret⟩
      · obtain ⟨hapi, rfl, rfl⟩ := reaches_submitVerification.mp hpost
        exact ⟨hapi, rfl, ⟨⟨owner, (ends_lift.mp howner).symm⟩, hid, mxePub, hpub⟩, claimSig,
          evmDest, txHash, ⟨mxePub, out, hpub, hdest⟩, rfl⟩
      · exact hret.elim
    · exact hret.elim
  · intro hspec
    obtain ⟨hapi, rfl, ⟨⟨owner, howner⟩, hid, -⟩, claimSig, evmDest, txHash, hread, rfl⟩ := hspec
    refine .inl ((hpayer.reaches_bind hP).mpr ⟨owner, (), ends_lift.mpr howner.symm,
      (hresolved.reaches_bind hP).mpr ⟨(evmDest, claimSig), (),
        ends_resolveEvmDestination.mpr ⟨hid, hread⟩, (unposted_pay.reaches_bind hP).mpr
      ⟨txHash, (), ends_pay txHash, ?_⟩⟩⟩)
    exact (Prog.reaches_bind _).mpr (.inl (reaches_submitVerification.mpr ⟨hapi, rfl, rfl⟩))

end SolToEvm

end LunarysBridge.Node
