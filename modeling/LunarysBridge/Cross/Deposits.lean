/-
LunarysBridge.Cross.Deposits — a deposit made with the form, as the node reads it.

Who fills in the form gets the hash of a transaction. `deposit_on_record` says
what there is under it, in every run of any number of calls among whatever
else happens on the chain: a request of this call alone, by the connected
account, of the amount that was typed in, and with the destination that a node
decrypts to the address that was typed in.
-/
import LunarysBridge.Frontend.Submitted
import LunarysBridge.Cross.Codec

namespace LunarysBridge.Cross

open Async
open Frontend (decodeSolanaAddressToBigInt trimmed)
open Frontend.EvmBridge
open Node.EvmToSol (uint256ToSolanaAddress)
open Relayer (JsError uint256)

variable {env : Setup} {r : Render} {w w₀ : World} {i : Nat} {t : Sent} {tx : TxHash}

/-- A node with the same libraries reads this address under the handle. -/
def ReadAs (env : Setup) (handle : Evm.Handle) (address : String) : Prop :=
  ∀ node : Node.EvmToSol.Setup, node.bs58 = env.bs58.encode → node.plaintext = env.plaintext →
    uint256ToSolanaAddress node (node.plaintext handle) = address

/-- The request is what was filled in, and of the account that signed it. -/
def OnRecord (env : Setup) (r : Render) (req : Evm.BridgeRequest) : Prop :=
  ∃ f : Form env r, f.signer = f.owner ∧ req.sender = f.owner ∧ req.token = f.token.address ∧
    ((req.amount + req.fee : Nat) : Int) = f.parsed ∧
    ReadAs env req.encryptedSolanaDestination (trimmed r.solanaDestination)

theorem uint256_some {x : Int} {n : Nat} (h : uint256 x = some n) : (n : Int) = x := by
  unfold uint256 at h
  split at h
  · next hrange =>
    obtain rfl := Option.some.inj h
    exact Int.toNat_of_nonneg hrange.1
  · cases h

theorem requestOf_mined {announced : Option Nat} (hget : w.sent[tx]? = some t)
    (hm : t.status = .mined announced) : w.requestOf tx = announced := by
  obtain ⟨caller, sender, payload, status⟩ := t
  subst hm
  simp only [World.requestOf, hget]

/-- The value of the form is the one the node makes the address of. -/
theorem readAs_of_decodes (hbs58 : Lawful env.bs58) {s : String}
    {encoded : Frontend.EncodedDestination} {handle : Evm.Handle}
    (hdecodes : decodeSolanaAddressToBigInt env.bs58 s = .ok encoded)
    (hplain : (env.plaintext handle : Int) = encoded.value) :
    ReadAs env handle (trimmed s) := by
  obtain ⟨hne, key, hdecode, hlength⟩ := (Frontend.decodes_iff env.bs58 s).mp ⟨encoded, hdecodes⟩
  rw [Frontend.decodeSolanaAddressToBigInt_eq env.bs58 s hne hdecode hlength] at hdecodes
  obtain rfl := Except.ok.inj hdecodes
  have hvalue : env.plaintext handle = Frontend.bigEndian key := Int.ofNat_inj.mp hplain
  intro node hnode hsame
  rw [uint256ToSolanaAddress, hsame, hvalue, bigIntToBytes32_bigEndian hlength, hnode]
  exact hbs58.encode_decode _ _ hdecode

/-- A mined deposit of a form, and what is stored for it. -/
theorem onRecord_of_mined (hbs58 : Lawful env.bs58) (hs : w.Sound env) {f : Form env r}
    (h : w.MinedBy i f.Deposits tx) :
    ∃ id t, w.requestOf tx = some id ∧ OnRecord env r (w.evm.bridgeRequests id) ∧
      w.sent[tx]? = some t ∧ t.caller = i ∧ t.status = .mined (some id) := by
  obtain ⟨t, announced, hget, hcaller, hdeposits, hm⟩ := h
  have hrecorded := hs.recorded t (List.mem_of_getElem? hget)
  have hsigner := hdeposits.owner hrecorded hm
  obtain ⟨hsender, amount, handle, proof, hamount, hpayload, hbound⟩ := hdeposits
  obtain ⟨id, rfl, -, hdeposit⟩ := hrecorded announced _ _ _ _ hm hpayload
  refine ⟨id, t, requestOf_mined hget hm, ⟨f, hsigner, ?_, hdeposit.token, ?_, ?_⟩, hget, hcaller,
    hm⟩
  · rw [hdeposit.sender, hsender, hsigner]
  · rw [hdeposit.total, uint256_some hamount]
  · exact readAs_of_decodes hbs58 f.decodes (hbound _ _ hdeposit.destination).2

section Runs

variable {p : Calls} {admits : Calls → Render → Prop}

/-- **A deposit is on record.** A call of the form that returns has made a
request that the contract keeps, as it was filled in; no other call has made
the same. -/
theorem deposit_on_record (hbs58 : Lawful env.bs58) (h₀ : w₀.Initial env)
    (hrun : Run (service env) admits (.idle w₀) p) {c : Call api JsError BridgeResult Render}
    {res : BridgeResult} (hget : p.calls[i]? = some c) (hret : c.code = .ret res) :
    ∃ id, p.state.requestOf res.bridgeTxHash = some id ∧
      OnRecord env c.request (p.state.evm.bridgeRequests id) ∧
      ∀ (j : Nat) (c' : Call api JsError BridgeResult Render) (res' : BridgeResult),
        p.calls[j]? = some c' → c'.code = .ret res' →
        p.state.requestOf res'.bridgeTxHash = some id → j = i := by
  have hs := Run.sound h₀ hrun
  obtain ⟨f, hmined, -⟩ := Run.done hrun hget hret
  obtain ⟨id, t, hrequest, hrecord, hsent, hcaller, hm⟩ := onRecord_of_mined hbs58 hs hmined
  refine ⟨id, hrequest, hrecord, fun j c' res' hget' hret' hrequest' => ?_⟩
  obtain ⟨f', hmined', -⟩ := Run.done hrun hget' hret'
  obtain ⟨id', t', hid', -, hsent', hcaller', hm'⟩ := onRecord_of_mined hbs58 hs hmined'
  obtain rfl : id' = id := Option.some.inj (hid'.symm.trans hrequest')
  -- one number, one transaction; and that is of one call
  have hsame := hs.distinct _ _ t' t id' hsent' hsent hm' hm
  rw [hsame] at hsent'
  obtain rfl : t' = t := Option.some.inj (hsent'.symm.trans hsent)
  exact hcaller'.symm.trans hcaller

end Runs

/-- The first of two calls has made the request 1, the second the request 2. -/
theorem deposit_on_record_twice : ∃ w p c res, w.Initial Sample.form ∧
    Run (service Sample.form) (fun _ _ => True) (.idle w) p ∧ p.calls[0]? = some c ∧
    c.code = .ret res ∧
    (∃ id, p.state.requestOf res.bridgeTxHash = some id ∧
      OnRecord Sample.form c.request (p.state.evm.bridgeRequests id) ∧
      ∀ (j : Nat) (c' : Call api JsError BridgeResult Render) (res' : BridgeResult),
        p.calls[j]? = some c' → c'.code = .ret res' →
        p.state.requestOf res'.bridgeTxHash = some id → j = 0) ∧
    p.state.requestOf res.bridgeTxHash = some 1 ∧ p.state.requestOf 3 = some 2 := by
  have hfacts : Sample.deployed.map (fun evm =>
      ((Sample.first evm).1.toOption, (Sample.twice evm).state.requestOf 1,
        (Sample.twice evm).state.requestOf 3)) =
      some (some ⟨some 0, 1⟩, some 1, some 2) := by
    decide +kernel
  obtain ⟨evm, hevm, hfacts⟩ := Option.map_eq_some_iff.mp hfacts
  simp only [Prod.mk.injEq] at hfacts
  obtain ⟨hfirst, hone, htwo⟩ := hfacts
  have hinit : World.Initial Sample.form ⟨evm, []⟩ := ⟨Sample.reachable_deployed hevm, rfl⟩
  have hret := Sample.ofExcept_first hfirst
  exact ⟨_, Sample.twice evm, _, _, hinit, Sample.run_twice evm, rfl, hret,
    deposit_on_record lawful_base58 hinit (Sample.run_twice evm) rfl hret, hone, htwo⟩

end LunarysBridge.Cross
