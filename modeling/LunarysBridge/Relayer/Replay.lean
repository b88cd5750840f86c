/-
LunarysBridge.Relayer.Replay — evidence used more than once.

Nothing in the service remembers a Solana signature: a record is kept per
`requestId`, and receiving a request again resets it. So one transfer
settles as many requests as there are calls that name it, and one deposit
is delivered as often as it is posted. What the service does guarantee is
per call: a call sends one transaction, for its own request. The two
results say which discipline of starting calls makes up for the rest,
however the calls are interleaved and whatever the record tables hold.
-/
import LunarysBridge.Relayer.Binding

namespace LunarysBridge.Relayer

open Async

variable {env : Setup} {w w' w₀ : World} {p : Calls} {admits : Calls → Request → Prop}

/-! ## Transactions and their calls -/

/-- Every transaction was sent by a call, for the request of that call. -/
def Traced (env : Setup) (p : Calls) : Prop :=
  ∀ t ∈ p.state.sent, ∃ c call, p.calls[t.caller]? = some c ∧
    call.encode env.lib = some t.fn ∧ c.request.Issues env.lib call

/-- Others may change the status of a transaction, and nothing else. -/
theorem World.Outside.sent (h : World.Outside env w w') :
    ∀ t ∈ w'.sent, ∃ t₀ ∈ w.sent, t₀.caller = t.caller ∧ t₀.fn = t.fn := by
  have hset : ∀ {n : Nat} {t₀ : Sent} {status : TxStatus}, w.sent[n]? = some t₀ →
      ∀ t ∈ w.sent.set n { t₀ with status := status },
        ∃ t₀ ∈ w.sent, t₀.caller = t.caller ∧ t₀.fn = t.fn := by
    intro n t₀ status hget t ht
    rcases List.mem_or_eq_of_mem_set ht with hold | rfl
    · exact ⟨t, hold, rfl, rfl⟩
    · exact ⟨t₀, List.mem_of_getElem? hget, rfl, rfl⟩
  intro t ht
  cases h with
  | mined n hget _ _ => exact hset hget t ht
  | dropped n hget _ => exact hset hget t ht
  | chain | ledger | clock => exact ⟨t, ht, rfl, rfl⟩

theorem Run.traced (h₀ : w₀.sent = []) (hrun : Run (service env) admits (.idle w₀) p) :
    Traced env p := by
  have hlog := Async.Run.recorded World.sent Sent.caller (fun q t _ => ∃ call : ContractCall,
    call.encode env.lib = some t.fn ∧ q.Issues env.lib call) h₀ ?answers ?outside hrun
  · intro t ht
    obtain ⟨c, hget, call, hcall⟩ := hlog t ht
    exact ⟨c, call, hget, hcall⟩
  case answers =>
    intro p i q o k x s' hrun hat hans t ht
    rcases World.answers_cases hans with rfl | ⟨_, _, _, rfl⟩ | ⟨call, fn, rfl, hfn, rfl⟩
    · exact .inr ⟨t, ht, rfl, fun _ hsame => hsame⟩
    · exact .inr ⟨t, ht, rfl, fun _ hsame => hsame⟩
    · rcases List.mem_append.mp ht with hmem | hnew
      · exact .inr ⟨t, hmem, rfl, fun _ hsame => hsame⟩
      · obtain rfl := List.mem_singleton.mp hnew
        have honly := Run.only handle_issues hrun _ (List.mem_of_getElem? hat)
        exact .inl ⟨rfl, call, hfn, honly.1 call rfl⟩
  case outside =>
    intro p s' _ hmove t ht
    obtain ⟨t₀, ht₀, hcaller, hfn⟩ := hmove.sent t ht
    exact ⟨t₀, ht₀, hcaller, fun q hissued => by rwa [hfn] at hissued⟩

/-- A call with a transaction that was not dropped. -/
theorem live_of_sent {t : Sent} {c : Call api JsError Reply Request} (ht : t ∈ p.state.sent)
    (hstatus : t.status ≠ .dropped) (hget : p.calls[t.caller]? = some c) :
    Live World.sentBy p t.caller c.request := by
  refine ⟨c, hget, rfl, .inr ?_⟩
  exact List.countP_pos_iff.mpr ⟨t, ht, by simp [hstatus]⟩

theorem sentBy_start (h₀ : w₀.sent = []) (j : Nat) : w₀.sentBy j = 0 := by
  simp [World.sentBy, h₀]

/-! ## One transfer, one request -/

/-- Both ids read as the same number, if they read as numbers at all. -/
def SameRequest (a b : String) : Prop :=
  ∀ m n, bigInt a = .ok m → bigInt b = .ok n → m = n

/-- The request was settled on chain by a call with this DTO. -/
def SettledBy (p : Calls) (dto : EvmToSolVerificationDto) (r : Nat) : Prop :=
  ∃ t ∈ p.state.sent, t.status = .mined ∧ t.fn.settles = some r ∧
    ∃ c, p.calls[t.caller]? = some c ∧ c.request = .evmToSol dto

/-- Each Solana signature has settled one request at most. -/
def NoReplay (p : Calls) : Prop :=
  ∀ dto dto' r r', SettledBy p dto r → SettledBy p dto' r' →
    dto.solanaTransferSignature = dto'.solanaTransferSignature → r = r'

/-- The calls with the new call's signature that still run, or whose
transaction may be or was mined, are for the same request. -/
def SignatureFresh (p : Calls) (q : Request) : Prop :=
  ∀ dto, q = .evmToSol dto → ∀ j dto', Live World.sentBy p j (.evmToSol dto') →
    dto'.solanaTransferSignature = dto.solanaTransferSignature →
    SameRequest dto'.requestId dto.requestId

theorem settles_encode {lib : Libs} {dto : EvmToSolVerificationDto} {requestId : Int}
    {fn : Evm.Fn} {r : Nat} (hfn : (dto.settlement lib requestId).encode lib = some fn)
    (hr : fn.settles = some r) : uint256 requestId = some r := by
  unfold EvmToSolVerificationDto.settlement at hfn
  dsimp only at hfn
  split at hfn
  · obtain ⟨r', hr', hsome⟩ := Option.bind_eq_some_iff.mp hfn
    cases hsome
    rw [hr']
    exact hr
  · obtain ⟨r', hr', hsome⟩ := Option.bind_eq_some_iff.mp hfn
    cases hsome
    rw [hr']
    exact hr

/-- A settlement is for the id of its DTO, and its call is live. -/
theorem SettledBy.traced {dto : EvmToSolVerificationDto} {r : Nat} (htraced : Traced env p)
    (h : SettledBy p dto r) :
    ∃ j requestId, Live World.sentBy p j (.evmToSol dto) ∧
      bigInt dto.requestId = .ok requestId ∧ uint256 requestId = some r := by
  obtain ⟨t, ht, hmined, hr, c, hget, hreq⟩ := h
  obtain ⟨c', call, hget', hfn, hissues⟩ := htraced t ht
  obtain rfl : c = c' := by
    rw [hget] at hget'
    exact Option.some.inj hget'
  have hlive := live_of_sent ht (by simp [hmined]) hget
  rw [hreq] at hissues hlive
  obtain ⟨requestId, hid, rfl⟩ := hissues
  exact ⟨t.caller, requestId, hlive, hid, settles_encode hfn hr⟩

/-- **No replay**, when calls are started with fresh signatures: in every
run from any record table. -/
theorem no_replay (env : Setup) (w₀ : World) (h₀ : w₀.sent = []) (p : Calls)
    (hrun : Run (service env) SignatureFresh (.idle w₀) p) : NoReplay p := by
  have htraced := Run.traced h₀ hrun
  intro dto dto' r r' hs hs' hsig
  obtain ⟨i, m, hi, hm, hr⟩ := hs.traced htraced
  obtain ⟨j, n, hj, hn, hr'⟩ := hs'.traced htraced
  have hadmits : ∀ p q, SignatureFresh p q → ∀ j q', Live World.sentBy p j q' →
      ∀ a b, q' = .evmToSol a → q = .evmToSol b →
        a.solanaTransferSignature = b.solanaTransferSignature →
        SameRequest a.requestId b.requestId := by
    rintro p q hfresh j q' hlive a b rfl rfl hab
    exact hfresh b rfl j a hlive hab
  have hmn : m = n := by
    rcases Nat.lt_trichotomy i j with hlt | rfl | hgt
    · exact Run.separated sentBy_counts hadmits hrun hlt hi hj dto dto' rfl rfl hsig m n hm hn
    · obtain ⟨c, hget, hreq, -⟩ := hi
      obtain ⟨c', hget', hreq', -⟩ := hj
      rw [hget] at hget'
      cases hget'
      rw [hreq] at hreq'
      cases hreq'
      rw [hm] at hn
      exact Except.ok.inj hn
    · exact (Run.separated sentBy_counts hadmits hrun hgt hj hi dto' dto rfl rfl hsig.symm
        n m hn hm).symm
  rw [hmn, hr'] at hr
  exact (Option.some.inj hr).symm

/-! ### Two requests claimed, one unit paid -/

namespace Sample

def bothClaimed : Option Evm.State :=
  Evm.Sample.after (Evm.Sample.calls ++ Evm.Sample.moreCalls)

/-- The only transaction on Solana's ledger is this one, and nothing is
recorded yet. -/
def world (tx : ParsedTransaction) (evm : Evm.State) : World where
  evm := evm
  ledger := creditLedger signature tx
  clock := 1000000
  tables := fun _ _ => none
  sent := []

def serve (q : Request) (p : Calls) : Calls :=
  p.serve (service setup) (fun i w => w.answer setup i) q

/-- The calls, one after the other. -/
def served (qs : List Request) (w : World) : Calls :=
  qs.foldl (fun p q => serve q p) (.idle w)

def paid : ParsedTransaction := tokenCredit owner mint 1 (by decide)

def deposited : ParsedTransaction := tokenCredit vault mint 1000000 (by decide)

theorem run_serve {p p' : Calls} {q : Request} (hrun : Run (service setup) admits p p')
    (hq : admits p' q) : Run (service setup) admits p (serve q p') :=
  hrun.trans (Run.serve (fun _ _ o => World.answer_settled o) hq)

/-- They are a run that admits every request. -/
theorem run_served (qs : List Request) :
    Run (service setup) (fun _ _ => True) (.idle w) (served qs w) :=
  Run.serveAll (fun _ _ o => World.answer_settled o) qs _

theorem requests_served (qs : List Request) :
    (served qs w).calls.map (·.request) = qs := by
  suffices h : ∀ p : Calls, (qs.foldl (fun p q => serve q p) p).calls.map (·.request) =
      p.calls.map (·.request) ++ qs from h _
  induction qs with
  | nil => simp
  | cons q qs ih =>
      intro p
      rw [List.foldl_cons, ih]
      simp [serve, Pool.serve]

theorem atRest_served (qs : List Request) : (served qs w).AtRest := by
  suffices h : ∀ p : Calls, p.AtRest → (qs.foldl (fun p q => serve q p) p).AtRest by
    exact h _ fun c hc => by cases hc
  induction qs with
  | nil => exact fun p hp => hp
  | cons q qs ih => exact fun p hp => ih _ hp.serve

theorem request_of_live (qs : List Request) {q : Request} {j : Nat}
    (h : Live World.sentBy (served qs w) j q) : q ∈ qs := by
  obtain ⟨c, hget, rfl, -⟩ := h
  rw [← requests_served (w := w) qs]
  exact List.mem_map_of_mem (List.mem_of_getElem? hget)

theorem call_served {qs : List Request} {q : Request} {j : Nat} (h : qs[j]? = some q) :
    ∃ c, (served qs w).calls[j]? = some c ∧ c.request = q := by
  rw [← requests_served (w := w) qs, List.getElem?_map] at h
  exact Option.map_eq_some_iff.mp h

end Sample

/-- The same DTO twice: the second call finds the request finalized. -/
theorem no_replay_twice : ∃ w p, Run (service Sample.setup) SignatureFresh (.idle w) p ∧
    NoReplay p ∧ p.calls.length = 2 ∧
      p.state.sent.map (fun t => (t.fn.settles, t.status)) = [(some 1, .mined)] := by
  have hsent : Sample.bothClaimed.map (fun evm =>
      (Sample.served [.evmToSol (Sample.settle "1"), .evmToSol (Sample.settle "1")]
        (Sample.world Sample.paid evm)).state.sent.map fun t => (t.fn.settles, t.status)) =
      some [(some 1, .mined)] := by decide +kernel
  obtain ⟨evm, -, hsent⟩ := Option.map_eq_some_iff.mp hsent
  have hfresh : ∀ qs : List Request, (∀ q ∈ qs, q = .evmToSol (Sample.settle "1")) →
      SignatureFresh (Sample.served qs (Sample.world Sample.paid evm))
        (.evmToSol (Sample.settle "1")) := by
    intro qs hqs dto hdto j dto' hlive _ m n hm hn
    obtain rfl := Request.evmToSol.inj hdto
    obtain rfl := Request.evmToSol.inj (hqs _ (Sample.request_of_live qs hlive))
    rw [hm] at hn
    exact Except.ok.inj hn
  have hrun : Run (service Sample.setup) SignatureFresh (.idle (Sample.world Sample.paid evm))
      (Sample.served [.evmToSol (Sample.settle "1"), .evmToSol (Sample.settle "1")]
        (Sample.world Sample.paid evm)) :=
    Sample.run_serve (Sample.run_serve .refl (hfresh [] (by simp))) (hfresh [_] (by simp))
  exact ⟨_, _, hrun, no_replay _ _ rfl _ hrun, rfl, hsent⟩

/-- One transfer settles two requests. -/
theorem replayed_transfer : ¬ ∀ (env : Setup) (w₀ : World) (p : Calls), w₀.sent = [] →
    Run (service env) (fun _ _ => True) (.idle w₀) p → NoReplay p := by
  intro hall
  have hsent : Sample.bothClaimed.map (fun evm =>
      (Sample.served [.evmToSol (Sample.settle "1"), .evmToSol (Sample.settle "2")]
        (Sample.world Sample.paid evm)).state.sent.map
          fun t => (t.caller, t.fn.settles, t.status)) =
      some [(0, some 1, .mined), (1, some 2, .mined)] := by decide +kernel
  obtain ⟨evm, -, hsent⟩ := Option.map_eq_some_iff.mp hsent
  have hsettled : ∀ j dto r, (j, some r, TxStatus.mined) ∈
        [(0, some 1, TxStatus.mined), (1, some 2, TxStatus.mined)] →
      [Request.evmToSol (Sample.settle "1"), .evmToSol (Sample.settle "2")][j]? =
        some (.evmToSol dto) →
      SettledBy (Sample.served [.evmToSol (Sample.settle "1"), .evmToSol (Sample.settle "2")]
        (Sample.world Sample.paid evm)) dto r := by
    intro j dto r hmem hreq
    rw [← hsent] at hmem
    obtain ⟨t, ht, heq⟩ := List.mem_map.mp hmem
    simp only [Prod.mk.injEq] at heq
    obtain ⟨rfl, hr, hmined⟩ := heq
    exact ⟨t, ht, hmined, hr, Sample.call_served hreq⟩
  have heq := hall Sample.setup (Sample.world Sample.paid evm) _ rfl (Sample.run_served _)
    (Sample.settle "1") (Sample.settle "2") 1 2 (hsettled 0 _ 1 (by simp) rfl)
    (hsettled 1 _ 2 (by simp) rfl) rfl
  exact absurd heq (by decide)

/-! ## One deposit, one delivery -/

/-- The `n`-th transaction delivered tokens for a call with this DTO. -/
def Delivered (p : Calls) (n : Nat) (dto : SolToEvmVerificationDto) : Prop :=
  ∃ t, p.state.sent[n]? = some t ∧ t.status = .mined ∧
    (∃ recipient token amount, t.fn = .deliverTokens recipient token amount) ∧
    ∃ c, p.calls[t.caller]? = some c ∧ c.request = .solToEvm dto

/-- There is one delivery at most per request and per deposit. -/
def DeliveredOnce (p : Calls) : Prop :=
  ∀ n n' dto dto', Delivered p n dto → Delivered p n' dto' →
    dto.requestId = dto'.requestId ∨
      dto.solanaDepositSignature = dto'.solanaDepositSignature → n = n'

/-- No call of the request or of the deposit still runs, or has a
transaction that may be or was mined. -/
def DeliveryFresh (p : Calls) (q : Request) : Prop :=
  ∀ dto, q = .solToEvm dto → ∀ j dto', Live World.sentBy p j (.solToEvm dto') →
    dto'.requestId ≠ dto.requestId ∧
      dto'.solanaDepositSignature ≠ dto.solanaDepositSignature

/-- **Delivered once**, when calls are started with fresh requests and
deposits: in every run from any record table. -/
theorem delivered_once (env : Setup) (w₀ : World) (h₀ : w₀.sent = []) (p : Calls)
    (hrun : Run (service env) DeliveryFresh (.idle w₀) p) : DeliveredOnce p := by
  rintro n n' dto dto' ⟨t, ht, hmined, -, c, hget, hreq⟩ ⟨t', ht', hmined', -, c', hget', hreq'⟩
    hshare
  have hi := live_of_sent (List.mem_of_getElem? ht) (by simp [hmined]) hget
  have hj := live_of_sent (List.mem_of_getElem? ht') (by simp [hmined']) hget'
  have hadmits : ∀ p q, DeliveryFresh p q → ∀ j q', Live World.sentBy p j q' →
      ∀ a b, q' = .solToEvm a → q = .solToEvm b → a.requestId ≠ b.requestId ∧
        a.solanaDepositSignature ≠ b.solanaDepositSignature := by
    rintro p q hfresh j q' hlive a b rfl rfl
    exact hfresh b rfl j a hlive
  rcases Nat.lt_trichotomy t.caller t'.caller with hlt | heq | hgt
  · obtain ⟨hid, hsig⟩ :=
      Run.separated sentBy_counts hadmits hrun hlt hi hj dto dto' hreq hreq'
    rcases hshare with h | h
    · exact absurd h hid
    · exact absurd h hsig
  · have hle := Run.count_le sentBy_counts handle_sends_once (sentBy_start h₀) hrun t.caller
    exact countP_unique hle ht ht' (by simp [hmined]) (by simp [hmined', heq])
  · obtain ⟨hid, hsig⟩ :=
      Run.separated sentBy_counts hadmits hrun hgt hj hi dto' dto hreq' hreq
    rcases hshare with h | h
    · exact absurd h.symm hid
    · exact absurd h.symm hsig

namespace Sample

/-- Asks for more than was deposited. -/
def refused : SolToEvmVerificationDto := { deliver with amount := "1000001" }

/-- The refused call, and the retry of it. -/
def retried : List Request := [.solToEvm refused, .solToEvm deliver]

/-- Calls that have ended without a transaction are not in the way. -/
theorem fresh_of_unsent (qs : List Request) (h : (served qs w).state.sent = [])
    (q : Request) : DeliveryFresh (served qs w) q := by
  rintro dto - j dto' ⟨c, hget, -, hlive⟩
  rcases hlive with hruns | hsent
  · exact absurd hruns (atRest_served qs c (List.mem_of_getElem? hget))
  · rw [sentBy_start h] at hsent
    exact absurd hsent (Nat.lt_irrefl 0)

end Sample

/-- A refused call sends nothing, so it may be tried again: the second call
delivers the deposit. -/
theorem delivered_once_retried : ∃ w p, Run (service Sample.setup) DeliveryFresh (.idle w) p ∧
    DeliveredOnce p ∧ p.calls.length = 2 ∧ Delivered p 0 Sample.deliver := by
  have hrefused : (Sample.served [.solToEvm Sample.refused]
      (Sample.world Sample.deposited Evm.Sample.claimed)).state.sent = [] := by decide +kernel
  have hsent : (Sample.served Sample.retried
      (Sample.world Sample.deposited Evm.Sample.claimed)).state.sent =
      [⟨1, .deliverTokens 7 9 1000000, .mined⟩] := by decide +kernel
  have hrun : Run (service Sample.setup) DeliveryFresh
      (.idle (Sample.world Sample.deposited Evm.Sample.claimed))
      (Sample.served Sample.retried (Sample.world Sample.deposited Evm.Sample.claimed)) :=
    Sample.run_serve (Sample.run_serve .refl (Sample.fresh_of_unsent [] rfl _))
      (Sample.fresh_of_unsent _ hrefused _)
  exact ⟨_, _, hrun, delivered_once _ _ rfl _ hrun, rfl, ⟨1, .deliverTokens 7 9 1000000, .mined⟩,
    by rw [hsent]; rfl, rfl, ⟨_, _, _, rfl⟩, Sample.call_served rfl⟩

/-- The same DTO twice: its deposit is delivered twice. -/
theorem delivered_twice : ¬ ∀ (env : Setup) (w₀ : World) (p : Calls), w₀.sent = [] →
    Run (service env) (fun _ _ => True) (.idle w₀) p → DeliveredOnce p := by
  intro hall
  have hsent : (Sample.served [.solToEvm Sample.deliver, .solToEvm Sample.deliver]
      (Sample.world Sample.deposited Evm.Sample.claimed)).state.sent =
      [⟨0, .deliverTokens 7 9 1000000, .mined⟩, ⟨1, .deliverTokens 7 9 1000000, .mined⟩] := by
    decide +kernel
  have honce := hall Sample.setup (Sample.world Sample.deposited Evm.Sample.claimed) _ rfl
    (Sample.run_served [.solToEvm Sample.deliver, .solToEvm Sample.deliver])
  have heq := honce 0 1 Sample.deliver Sample.deliver
    ⟨⟨0, .deliverTokens 7 9 1000000, .mined⟩, by rw [hsent]; rfl, rfl, ⟨_, _, _, rfl⟩,
      Sample.call_served rfl⟩
    ⟨⟨1, .deliverTokens 7 9 1000000, .mined⟩, by rw [hsent]; rfl, rfl, ⟨_, _, _, rfl⟩,
      Sample.call_served rfl⟩ (.inl rfl)
  exact absurd heq (by decide)

end LunarysBridge.Relayer
