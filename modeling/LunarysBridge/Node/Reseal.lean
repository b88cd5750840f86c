/-
LunarysBridge.Node.Reseal — can the solver who claims read the destination?

A deposit stores what the client encrypted between itself and the MXE. The
claim queues `reseal_destination` on the stored words under the solver's
public key. The MXE then decrypts with the key it was given, which is not the
one the words are encrypted under; the client's key is stored in the request,
and no instruction reads it.
-/
import LunarysBridge.Node.Destination
import LunarysBridge.Solana.Lifecycle

namespace LunarysBridge.Node

open Solana

variable {rt : Runtime} {s s' : State}

/-! ## What a deposit keeps for the claim -/

/-- The encrypted destination a request stores, next to the key of its client. -/
def stored (req : BridgeRequest) : Enc where
  owner := ⟨req.clientPubkey, req.nonceLe⟩
  ctWords := ⟨req.destCtW0, req.destCtW1, req.destCtW2, req.destCtW3⟩

/-- What a client encrypts and sends with its deposit. -/
structure Encrypts (mxe : Mxe) (client : mxe.scheme.PrivateKey) (ws : DestWords)
    (args : DepositArgs) : Prop where
  clientPubkey : args.clientPubkey = mxe.scheme.publicKey client
  ciphertext : (⟨args.destinationCt0, args.destinationCt1, args.destinationCt2,
    args.destinationCt3⟩ : Words Bytes32) =
      mxe.scheme.encryptFor client mxe.publicKey args.nonce ws

/-- A deposit of SPL tokens or of SOL that succeeds. -/
def deposits (rt : Runtime) (payer : Signer) (args : DepositArgs) (s s' : State) : Prop :=
  (∃ acc : DepositAndQueue, acc.payer = payer ∧ initiateBridge rt acc args s = .ok s') ∨
    ∃ acc : DepositSolAndQueue, acc.payer = payer ∧ initiateBridgeSol rt acc args s = .ok s'

theorem deposits.deposited {payer : Signer} {args : DepositArgs}
    (h : deposits rt payer args s s') :
    ∃ mint storedId, Deposited payer mint storedId args s s' := by
  rcases h with ⟨acc, rfl, h⟩ | ⟨acc, rfl, h⟩
  · exact ⟨_, _, (initiateBridge_ok h).1⟩
  · exact ⟨_, _, (initiateBridgeSol_ok h).1⟩

theorem deposits.instruction {payer : Signer} {args : DepositArgs}
    (h : deposits rt payer args s s') : ∃ i, exec rt i s = .ok s' := by
  rcases h with ⟨acc, _, h⟩ | ⟨acc, _, h⟩
  · exact ⟨.initiateBridge acc args, h⟩
  · exact ⟨.initiateBridgeSol acc args, h⟩

/-- The words of a client stay in its request. -/
theorem stored_of_deposits {mxe : Mxe} {client : mxe.scheme.PrivateKey} {ws : DestWords}
    {payer : Signer} {args : DepositArgs} {s₀ s₁ s₂ : State} (hreach : Reachable rt s₀)
    (hsent : Encrypts mxe client ws args) (hdeposit : deposits rt payer args s₀ s₁)
    (hrun : Run rt (fun _ _ => True) s₁ s₂) :
    ∃ req, s₂.requests.lookup (.request payer.key args.requestId) = some req ∧
      stored req = ⟨⟨mxe.scheme.publicKey client, args.nonce⟩,
        mxe.scheme.encryptFor client mxe.publicKey args.nonce ws⟩ := by
  obtain ⟨i, hexec⟩ := hdeposit.instruction
  obtain ⟨mint, storedId, hdep⟩ := hdeposit.deposited
  obtain ⟨cfg, _, hreq, _⟩ := hdep.stored
  have hl : s₁.requests.lookup (.request payer.key args.requestId) =
      some (args.stored storedId payer.key mint cfg s₀.now) := by
    rw [hreq, AList.lookup_insert]
  have hreach₁ := hreach.run ((Run.nil s₀).exec i trivial hexec)
  obtain ⟨req, hl₂, hk⟩ := hreach₁.kept hrun hl
  refine ⟨req, hl₂, ?_⟩
  rw [← hsent.clientPubkey, ← hsent.ciphertext, stored, hk.deposit.clientPubkey,
    hk.deposit.nonceLe, hk.deposit.destCtW0, hk.deposit.destCtW1, hk.deposit.destCtW2,
    hk.deposit.destCtW3]
  rfl

/-! ## What a claim makes of it -/

/-- What the claim queues: the stored words, under the key of the solver. -/
theorem input_resealed (req : BridgeRequest) (offset : UInt64) (solverX25519 : Bytes32) :
    (resealed req offset solverX25519).input =
      some ⟨⟨solverX25519, (stored req).owner.nonce⟩, (stored req).ctWords⟩ :=
  rfl

/-- The words of the client go over to the solver. -/
structure HandedOver (mxe : Mxe) (solver : mxe.scheme.PrivateKey) (ws : DestWords)
    (c : Computation) : Prop where
  /-- The computation decrypts the words of the client. -/
  circuit : ∃ input, c.input = some input ∧ input.toArcis mxe = ws
  /-- The solver's node reads them in its output. -/
  solver : ∃ out, c.execute mxe = some out ∧
    plains mxe.scheme solver mxe.publicKey (readOutput out) = ws

/-- The node of the solver reads what the circuit did. -/
theorem plains_resealed {mxe : Mxe} (hlaw : mxe.scheme.Lawful)
    (solver : mxe.scheme.PrivateKey) (circuit : Circuit) {input : Enc}
    (hkey : input.owner.publicKey = mxe.scheme.publicKey solver) :
    plains mxe.scheme solver mxe.publicKey (readOutput (circuit.run mxe input)) =
      input.toArcis mxe := by
  rw [Circuit.run_eq, plains, readOutput, Shared.fromArcis, hkey]
  exact hlaw.decryptFrom_encryptFor mxe.privateKey solver _ _

theorem handedOver_iff {mxe : Mxe} (hlaw : mxe.scheme.Lawful)
    {client : mxe.scheme.PrivateKey} (solver : mxe.scheme.PrivateKey) {nonce : BitVec 128}
    {ws : DestWords} {req : BridgeRequest} (offset : UInt64)
    (hstored : stored req = ⟨⟨mxe.scheme.publicKey client, nonce⟩,
      mxe.scheme.encryptFor client mxe.publicKey nonce ws⟩) :
    HandedOver mxe solver ws (resealed req offset (mxe.scheme.publicKey solver)) ↔
      mxe.scheme.sharedSecret mxe.privateKey (mxe.scheme.publicKey solver) =
        mxe.scheme.sharedSecret mxe.privateKey (mxe.scheme.publicKey client) := by
  -- the client's words, under the solver's key
  have hinput := input_resealed req offset (mxe.scheme.publicKey solver)
  rw [hstored] at hinput
  have hreads := hlaw.decryptFrom_iff client mxe.privateKey (mxe.scheme.publicKey solver)
    nonce ws
  refine ⟨?_, ?_⟩
  · intro h
    obtain ⟨input, hsome, hws⟩ := h.circuit
    rw [hinput] at hsome
    cases hsome
    exact hreads.mp hws
  · intro hsecret
    have hws := hreads.mpr hsecret
    refine ⟨⟨_, hinput, hws⟩, ⟨_, by rw [Computation.execute, hinput]; rfl, ?_⟩⟩
    rw [plains_resealed hlaw solver _ rfl]
    exact hws

/-- **Reseal.** After a deposit and any history, what `claim_bridge` queues
hands the client's words over to the solver exactly if the solver has the
same secret with the MXE as the client. -/
theorem reseal_handover (mxe : Mxe) (hlaw : mxe.scheme.Lawful)
    (client solver : mxe.scheme.PrivateKey) (ws : DestWords) {payer : Signer}
    {args : DepositArgs} {s₀ s₁ s₂ s₃ : State} (hreach : Reachable rt s₀)
    (hsent : Encrypts mxe client ws args) (hdeposit : deposits rt payer args s₀ s₁)
    (hrun : Run rt (fun _ _ => True) s₁ s₂) {acc : ClaimRequest} {offset : UInt64}
    (howner : acc.requestOwner = payer.key)
    (hclaim : claimBridge rt acc offset args.requestId (mxe.scheme.publicKey solver) s₂ =
      .ok s₃) :
    ∃ c, s₃.queue = s₂.queue ++ [c] ∧
      (HandedOver mxe solver ws c ↔
        mxe.scheme.sharedSecret mxe.privateKey (mxe.scheme.publicKey solver) =
          mxe.scheme.sharedSecret mxe.privateKey (mxe.scheme.publicKey client)) := by
  obtain ⟨req, hl, hstored⟩ := stored_of_deposits hreach hsent hdeposit hrun
  obtain ⟨cfg, req', deadline, _, hl', _, _, _, _, _, _, _, _, hqueue, _⟩ :=
    claimBridge_ok hclaim
  rw [howner, hl] at hl'
  cases hl'
  exact ⟨_, hqueue, handedOver_iff hlaw solver offset hstored⟩

namespace Sample

open Solana.Sample

/-- What the user sends with its deposit; its key is 0. -/
def sent : DepositArgs where
  computationOffset := 0
  requestId := 7
  clientPubkey := 0
  nonce := 0
  destinationCt0 := 0
  destinationCt1 := 0
  destinationCt2 := 0
  destinationCt3 := 0
  amount := 1000

/-- The words the zeros stand for. -/
def words : DestWords := ⟨-11, -11, -11, -11⟩

theorem sent_encrypts : Encrypts mxe (0 : UInt64) words sent := ⟨by decide, by decide⟩

def depositAccounts : DepositAndQueue where
  payer := user
  userToken := .key 20
  mint := mint
  escrowToken := .key 21
  arciumAccepts := true

def claimAccounts : ClaimRequest where
  solver := solver
  requestOwner := user.key
  arciumAccepts := true

/-- The config, the deposit, and the claim with the public key of `solverKey`. -/
def claimed (solverKey : UInt64) : Option (State × State × State) := do
  let s₀ ← runMoves Solana.Sample.runtime (fun _ _ => true) [(0, config)] initial
  let s₁ ← (initiateBridge Solana.Sample.runtime depositAccounts sent s₀).toOption
  let s₂ ← (claimBridge Solana.Sample.runtime claimAccounts 0 7
    (mxe.scheme.publicKey solverKey) s₁).toOption
  some (s₀, s₁, s₂)

theorem exists_of_claimed (solverKey : UInt64) (h : (claimed solverKey).isSome = true) :
    ∃ s₀ s₁ s₂, Reachable Solana.Sample.runtime s₀ ∧
      deposits Solana.Sample.runtime user sent s₀ s₁ ∧
      claimBridge Solana.Sample.runtime claimAccounts 0 7 (mxe.scheme.publicKey solverKey) s₁ =
        .ok s₂ := by
  obtain ⟨⟨s₀, s₁, s₂⟩, hs⟩ := Option.isSome_iff_exists.mp h
  simp only [claimed, Option.bind_eq_bind, Option.bind_eq_some_iff, Option.some.injEq,
    Prod.mk.injEq] at hs
  obtain ⟨_, hconfig, _, hdeposit, _, hclaim, rfl, rfl, rfl⟩ := hs
  exact ⟨_, _, _, reachable_of_moves hconfig,
    .inl ⟨depositAccounts, rfl, ok_of_toOption hdeposit⟩, ok_of_toOption hclaim⟩

end Sample

/-- A client that claims its own request reads its destination. -/
theorem reseal_handover_self : ∃ (s₀ s₁ s₂ : State) (c : Computation),
    deposits Solana.Sample.runtime Solana.Sample.user Sample.sent s₀ s₁ ∧
    s₂.queue = s₁.queue ++ [c] ∧
    HandedOver Solana.Sample.mxe (0 : UInt64) Sample.words c := by
  obtain ⟨s₀, s₁, s₂, hreach, hdeposit, hclaim⟩ :=
    Sample.exists_of_claimed 0 (by decide +kernel)
  obtain ⟨c, hqueue, hiff⟩ := reseal_handover Solana.Sample.mxe Solana.Sample.scheme_lawful
    (0 : UInt64) (0 : UInt64) Sample.words hreach Sample.sent_encrypts hdeposit (.nil s₁) rfl
    hclaim
  exact ⟨s₀, s₁, s₂, c, hdeposit, hqueue, hiff.mpr rfl⟩

/-- A solver with a key of its own gets nothing of it. -/
theorem reseal_not_handed_over :
    ¬ ∀ (rt : Runtime) (mxe : Mxe), mxe.scheme.Lawful →
      ∀ (client solver : mxe.scheme.PrivateKey) ws payer args s₀ s₁ s₂ acc offset,
      Reachable rt s₀ → Encrypts mxe client ws args → deposits rt payer args s₀ s₁ →
      acc.requestOwner = payer.key →
      claimBridge rt acc offset args.requestId (mxe.scheme.publicKey solver) s₁ = .ok s₂ →
      ∀ c, s₂.queue = s₁.queue ++ [c] → HandedOver mxe solver ws c := by
  intro hall
  obtain ⟨s₀, s₁, s₂, hreach, hdeposit, hclaim⟩ :=
    Sample.exists_of_claimed 5 (by decide +kernel)
  obtain ⟨req, hl, hstored⟩ := stored_of_deposits hreach Sample.sent_encrypts hdeposit
    (.nil s₁)
  obtain ⟨_, req', _, _, hl', _, _, _, _, _, _, _, _, hqueue, _⟩ := claimBridge_ok hclaim
  have heq : req' = req := Option.some.inj (hl'.symm.trans hl)
  rw [heq] at hqueue
  have hover := hall _ Solana.Sample.mxe Solana.Sample.scheme_lawful (0 : UInt64) (5 : UInt64)
    _ _ _ _ _ _ _ _ hreach Sample.sent_encrypts hdeposit rfl hclaim _ hqueue
  have hsecret := (handedOver_iff Solana.Sample.scheme_lawful (5 : UInt64) 0 hstored).mp hover
  have hsum : (11 : UInt64) + Solana.Sample.word (Solana.Sample.bytes32 5) =
    11 + Solana.Sample.word (Solana.Sample.bytes32 0) := hsecret
  rw [Solana.Sample.word_bytes32, Solana.Sample.word_bytes32] at hsum
  exact absurd hsum (by decide)

end LunarysBridge.Node
