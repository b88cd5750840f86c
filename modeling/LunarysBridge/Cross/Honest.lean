/-
LunarysBridge.Cross.Honest — is a transfer the node makes accepted?

Node and relayer convert the amount of a request in the same way, but the
node gives its transfer the number `Number` makes of it, a double. The
transfer moves the converted amount, and the relayer takes it for the
request, exactly if that amount has 53 significant bits
(`honest_transfer_iff`).
-/
import LunarysBridge.Cross.Decimals
import LunarysBridge.Cross.Wire
import LunarysBridge.Relayer.Evidence

namespace LunarysBridge

open Async
open Relayer (JsError)

/-! ## What the node sends -/

namespace Node.EvmToSol

/-- Accounts are the associated ones; anything else answers anything. -/
def associated (env : Setup) (_ : Unit) : (o : Op) → Except JsError o.Answer → Unit → Prop
  | .getOrCreateAssociatedTokenAccount mint owner, .ok account, _ => account = env.ata mint owner
  | _, _, _ => True

/-- The third section of the handler may come to send this transfer. -/
def Transfers (env : Setup) (req : BridgeRequest) (solDest source destination : String)
    (amount : Int) : Prop :=
  (pay env req solDest).Reaches (associated env) () (.transfer source destination amount) ()

theorem transfers_iff {env : Setup} {req : BridgeRequest} {mapping : TokenMapping}
    {solDest source destination : String} {amount : Int}
    (hnative : isNativeToken req.token = false)
    (hmapping : env.table.getTokenMapping env.chainId req.token = some mapping) :
    Transfers env req solDest source destination amount ↔
      ∃ mint owner, env.publicKey mapping.solanaAddress = .ok mint ∧
        env.publicKey solDest = .ok owner ∧ source = env.ata mint env.solWallet ∧
        destination = env.ata mint owner ∧ amount = number (converted req.amount mapping) := by
  rw [Transfers, pay_mapped hnative hmapping, transferSPLToken]
  have haccount : ∀ mint owner account s s',
      (getOrCreateAssociatedTokenAccount mint owner).Ends (associated env) s (.ok account) s' ↔
        account = env.ata mint owner := fun _ _ _ _ _ => Prog.ends_call
  have hother : ∀ mint owner s s', ¬ (getOrCreateAssociatedTokenAccount mint owner).Reaches
      (associated env) s (.transfer source destination amount) s' := by
    intro mint owner s s' hreach
    obtain ⟨h, -⟩ := Prog.reaches_call.mp hreach
    cases h
  have hkey : ∀ (x : Except JsError String) (s s' : Unit), ¬ (liftM x : Promise String).Reaches
      (associated env) s (.transfer source destination amount) s' := by
    intro x s s' hreach
    exact Prog.reaches_ofExcept.mp hreach
  have hlift : ∀ (x : Except JsError String) (a : String) (s s' : Unit),
      (liftM x : Promise String).Ends (associated env) s (.ok a) s' ↔ x = .ok a := by
    intro x a s s'
    exact Prog.ends_ofExcept.trans (by simp [eq_comm])
  have hsent : ∀ source' destination' amount' s s',
      (transfer source' destination' amount').Reaches (associated env) s
        (.transfer source destination amount) s' ↔
      source = source' ∧ destination = destination' ∧ amount = amount' := by
    intro source' destination' amount' s s'
    exact Prog.reaches_call.trans (by simp [eq_comm])
  simp only [Prog.reaches_bind, hkey, hother, hsent, false_or, haccount, hlift, exists_const]
  constructor
  · intro hsend
    obtain ⟨mint, hmint, owner, howner, srcAta, rfl, dstAta, rfl, rfl, rfl, rfl⟩ := hsend
    exact ⟨mint, owner, hmint, howner, rfl, rfl, rfl⟩
  · intro hspec
    obtain ⟨mint, owner, hmint, howner, rfl, rfl, rfl⟩ := hspec
    exact ⟨mint, hmint, owner, howner, _, rfl, _, rfl, rfl, rfl, rfl⟩

end Node.EvmToSol

/-! ## What it moves, and what the relayer makes of it -/

open Node (TokenMapping isNativeToken)
open Node.EvmToSol (Transfers number converted verificationOf)
open Relayer (ParsedTransaction TokenAccounts TokenMove AccountKind SameMint Outcomes toLowerCase
  tokenEntry)

/-- The eight bytes the token library writes for an amount. An amount of
eight bytes is written as it is; of `2 ^ 64` the low bytes are left, or the
first sixteen hexadecimal digits. -/
structure TokenClient where
  u64 : Int → Nat
  u64_of_lt : ∀ n : Nat, n < 2 ^ 64 → u64 n = n
  u64_over : u64 (2 ^ 64) = 0 ∨ u64 (2 ^ 64) = 2 ^ 60

/-- A transfer the node makes for a request to somebody else, of a token
that both services know by the same mint and the same decimals. -/
structure HonestTransfer (d : Deployment) (client : TokenClient) where
  req : Node.EvmToSol.BridgeRequest
  mapping : TokenMapping
  solDest : String
  signature : String
  /-- The mint, the owner of the destination, and the two accounts. -/
  mint : String
  owner : String
  source : String
  destination : String
  amount : Int
  tx : ParsedTransaction
  before : TokenAccounts
  after : TokenAccounts
  erc20 : isNativeToken req.token = false
  mapped : d.evmToSol.table.getTokenMapping d.evmToSol.chainId req.token = some mapping
  known : toLowerCase req.token = toLowerCase d.relayer.cfg.tokenUsdc
  decimals : Cross.SameDecimals mapping (tokenEntry d.relayer.cfg)
  node_mint : d.relayer.lib.publicKey mapping.solanaAddress = .ok mint
  relayer_mint : d.relayer.lib.publicKey d.relayer.cfg.tokenSol = .ok mint
  amount_pos : 0 < req.amount
  converted_pos : 0 < converted req.amount mapping
  converted_le : converted req.amount mapping ≤ 2 ^ 64 - 1
  recipient : d.relayer.lib.publicKey solDest = .ok owner
  other : owner ≠ d.evmToSol.solWallet
  on_curve : ∃ ata, d.relayer.lib.getAssociatedTokenAddress mint owner false = .ok ata
  sent : Transfers d.evmToSol req solDest source destination amount
  signed : signature ≠ ""
  succeeded : tx.Succeeded
  executes : tx.Executes [.transfer source destination (client.u64 amount)] before after
  source_kind : ∀ a ∈ before.lookup source, a.kind = ⟨d.evmToSol.solWallet, mint⟩
  destination_kind : ∀ a ∈ before.lookup destination, a.kind = ⟨owner, mint⟩

namespace HonestTransfer

variable {d : Deployment} {client : TokenClient} (t : HonestTransfer d client)

/-- The amount of the request, in the units of Solana. -/
def converted : Int := Node.EvmToSol.converted t.req.amount t.mapping

/-- The transaction moves the whole amount to the destination, and no more. -/
def Exact : Prop :=
  (t.before.inflow t.owner t.mint [.transfer t.source t.destination (client.u64 t.amount)] : Int) =
    t.converted

/-- The relayer reads what the node posts for the request, and finds in the
transaction what it asks for. -/
def Accepted : Prop :=
  ∀ claimTxHash, ∃ dto solAmount mint,
    Relayer.readEvmToSol (verificationOf t.req claimTxHash t.solDest t.signature).body = some dto ∧
      dto.Resolves d.relayer.cfg solAmount mint ∧
      ∀ {σ : Type} (out : Outcomes σ) (s : σ),
        out.Finds dto.solanaTransferSignature t.tx 6 0 s →
        out.Accepts (Relayer.verifyTransfer d.relayer.lib
          ⟨dto.solanaTransferSignature, dto.solanaDestination, solAmount, some mint⟩) s

theorem amount_eq : t.amount = number t.converted := by
  obtain ⟨_, _, -, -, -, -, hamount⟩ :=
    (Node.EvmToSol.transfers_iff t.erc20 t.mapped).mp t.sent
  exact hamount

theorem exists_toNat : ∃ c : Nat, t.converted = c ∧ 0 < c ∧ c < 2 ^ 64 := by
  have hpos : 0 < t.converted := t.converted_pos
  have hle : t.converted ≤ 2 ^ 64 - 1 := t.converted_le
  exact ⟨t.converted.toNat, by omega, by omega, by omega⟩

/-- What leaves the node's account comes to the owner's. -/
theorem flows : t.before.inflow t.owner t.mint
      [.transfer t.source t.destination (client.u64 t.amount)] = client.u64 t.amount ∧
    t.before.outflow t.owner t.mint
      [.transfer t.source t.destination (client.u64 t.amount)] = 0 := by
  obtain ⟨s₁, hstep, -⟩ := Option.bind_eq_some_iff.mp t.executes.run
  rcases Holdings.step_cases hstep with ⟨_, _, _, a, b, hmove, ha, hb, -, -, -⟩ |
    ⟨_, _, hmove, -⟩ | ⟨_, _, hmove, -⟩
  · cases hmove
    have hsource : ¬ t.before.InClass (· = ⟨t.owner, t.mint⟩) t.source := by
      rw [Holdings.inClass_iff ha, t.source_kind a ha, AccountKind.mk.injEq]
      intro h
      exact t.other h.1.symm
    have hdest : t.before.InClass (· = ⟨t.owner, t.mint⟩) t.destination :=
      (Holdings.inClass_iff hb).mpr (t.destination_kind b hb)
    unfold TokenAccounts.inflow TokenAccounts.outflow
    rw [Holdings.inflow_singleton, Holdings.outflow_singleton]
    exact Holdings.flow_into hsource hdest _
  · cases hmove
  · cases hmove

/-- The instruction has the converted amount exactly if a double has it. -/
theorem exact_iff : t.Exact ↔ Rounding.Exact 53 t.converted.toNat := by
  obtain ⟨c, hc, hpos, hlt⟩ := t.exists_toNat
  have hnumber : t.amount = (Rounding.round 53 c : Nat) := by
    rw [t.amount_eq, hc, number, Int.sign_eq_one_of_pos (by omega), Int.one_mul, Int.natAbs_natCast]
  rw [Exact, t.flows.1, hc, Int.toNat_natCast, ← Rounding.round_eq_iff, hnumber, Int.natCast_inj]
  have hle : Rounding.round 53 c ≤ 2 ^ 64 := Rounding.round_le (by decide) hlt
  rcases Nat.lt_or_eq_of_le hle with hsmall | htop
  · rw [client.u64_of_lt _ hsmall]
  · rw [htop]
    refine iff_of_false ?_ (by omega)
    intro hover
    have hcast : ((2 ^ 64 : Nat) : Int) = 2 ^ 64 := rfl
    rw [hcast] at hover
    rcases client.u64_over with hzero | hlead
    · omega
    · have hexact : Rounding.round 53 c = c := by
        rw [Rounding.round_eq_iff, ← hover, hlead]
        exact Rounding.exact_two_pow (by decide) 60
      omega

theorem mint_ne (t : HonestTransfer d client) : d.relayer.cfg.tokenSol ≠ "" := by
  intro h
  exact d.publicKey_empty _ (h ▸ t.relayer_mint)

theorem resolves (claimTxHash : String) : ∃ dto,
    Relayer.readEvmToSol (verificationOf t.req claimTxHash t.solDest t.signature).body = some dto ∧
      dto.solanaTransferSignature = t.signature ∧ dto.solanaDestination = t.solDest ∧
      dto.Resolves d.relayer.cfg t.converted d.relayer.cfg.tokenSol := by
  have hdest : t.solDest ≠ "" := by
    intro h
    exact d.publicKey_empty _ (h ▸ t.recipient)
  refine ⟨_, readEvmToSol_body, rfl, rfl, ?_⟩
  exact
    { signature := t.signed
      destination := hdest
      amount := ⟨t.req.amount, Relayer.bigInt_toString _, t.amount_pos,
        (t.decimals.toSol (Int.le_of_lt t.amount_pos)).symm⟩
      mapped := findTokenInfo_eq_own.mpr t.known
      mint_ne := t.mint_ne
      mint_eq := rfl }

/-- In the world where only this transaction is on the ledger. -/
theorem finds : (Relayer.World.outcomes d.relayer 0).Finds t.signature t.tx 6 0
    { Relayer.Sample.world t.tx Evm.Sample.claimed with
      ledger := Relayer.creditLedger t.signature t.tx } := by
  have hledger : Relayer.creditLedger t.signature t.tx t.signature = some t.tx := if_pos rfl
  exact .here (congrArg (fun x => (Except.ok x, _)) hledger) t.succeeded

theorem accepted_iff : t.Accepted ↔ t.converted ≤ client.u64 t.amount := by
  obtain ⟨ata, hcurve⟩ := t.on_curve
  have hdelta : t.tx.tokenDelta t.owner t.mint = client.u64 t.amount := by
    rw [Relayer.tokenDelta_eq t.owner t.mint t.executes, t.flows.1, t.flows.2]
    omega
  have haccepts : ∀ {σ : Type} (out : Outcomes σ) (s : σ), out.Finds t.signature t.tx 6 0 s →
      (out.Accepts (Relayer.verifyTransfer d.relayer.lib
        ⟨t.signature, t.solDest, t.converted, some d.relayer.cfg.tokenSol⟩) s ↔
          t.converted ≤ client.u64 t.amount) := by
    intro σ out s hfinds
    rw [← hdelta]
    exact Relayer.accepts_verifyTransfer hfinds rfl t.mint_ne t.recipient t.relayer_mint hcurve
  constructor
  · intro haccepted
    obtain ⟨dto, solAmount, mint, hread, hresolves, hall⟩ := haccepted ""
    obtain ⟨dto', hread', hsignature, hdestination, hresolves'⟩ := t.resolves ""
    obtain rfl : dto' = dto := Option.some.inj (hread'.symm.trans hread)
    obtain ⟨rfl, rfl⟩ := hresolves.unique hresolves'
    rw [hsignature, hdestination] at hall
    exact (haccepts _ _ t.finds).mp (hall _ _ t.finds)
  · intro hle claimTxHash
    obtain ⟨dto, hread, hsignature, hdestination, hresolves⟩ := t.resolves claimTxHash
    refine ⟨dto, _, _, hread, hresolves, fun {σ} out s hfinds => ?_⟩
    rw [hsignature] at hfinds ⊢
    rw [hdestination]
    exact (haccepts out s hfinds).mpr hle

end HonestTransfer

/-- **An honest transfer** moves the converted amount and is accepted for
the request exactly if that amount has 53 significant bits. -/
theorem honest_transfer_iff {d : Deployment} {client : TokenClient} (t : HonestTransfer d client) :
    t.Exact ∧ t.Accepted ↔ Rounding.Exact 53 t.converted.toNat := by
  rw [← t.exact_iff]
  constructor
  · intro h
    exact h.1
  · intro h
    refine ⟨h, t.accepted_iff.mpr (Int.le_of_eq ?_)⟩
    rw [← t.flows.1]
    exact h.symm

namespace Honest.Sample

open Wire.Sample (node relayer usdc deployment)

/-- Amounts are cut to their low eight bytes. -/
def client : TokenClient where
  u64 := fun n => n.toNat % 2 ^ 64
  u64_of_lt := fun _ h => Nat.mod_eq_of_lt h
  u64_over := .inl rfl

def mint : String := Relayer.Sample.mint

def owner : String := Relayer.Sample.owner

/-- The accounts of the node's wallet and of the recipient. -/
def accounts (mine theirs : Nat) : TokenAccounts :=
  ((∅ : TokenAccounts).insert (node.ata mint node.solWallet) ⟨⟨node.solWallet, mint⟩, mine⟩).insert
    (node.ata mint owner) ⟨⟨owner, mint⟩, theirs⟩

/-- What the node's wallet had, and pays. -/
def payment : ParsedTransaction where
  accountKeys := [node.ata mint node.solWallet, node.ata mint owner, Relayer.tokenProgramId]
  programs := [Relayer.tokenProgramId]
  meta? := some
    { err := none
      preBalances := []
      postBalances := []
      preTokenBalances := (accounts (2 ^ 54) 0).balances
      postTokenBalances := (accounts (2 ^ 53) (2 ^ 53)).balances
      post_u64 := Relayer.u64_nil
      post_supplied := Relayer.supplied_of_lt (by decide +kernel) }
  programs_mem := List.forall_mem_singleton.mpr (.tail _ (.tail _ (.head _)))

/-- The request is of one unit more than `2 ^ 53`. -/
def short : HonestTransfer deployment client where
  req := ⟨1, Relayer.Sample.token, 2 ^ 53 + 1⟩
  mapping := usdc
  solDest := owner
  signature := Relayer.Sample.signature
  mint := mint
  owner := owner
  source := node.ata mint node.solWallet
  destination := node.ata mint owner
  amount := 2 ^ 53
  tx := payment
  before := accounts (2 ^ 54) 0
  after := accounts (2 ^ 53) (2 ^ 53)
  erc20 := by decide +kernel
  mapped := by decide +kernel
  known := rfl
  decimals := rfl
  node_mint := rfl
  relayer_mint := rfl
  amount_pos := by decide
  converted_pos := by decide
  converted_le := by decide
  recipient := rfl
  other := by decide
  on_curve := ⟨_, rfl⟩
  sent := (Node.EvmToSol.transfers_iff (by decide +kernel)
    (show _ = some usdc by decide +kernel)).mpr ⟨_, _, rfl, rfl, rfl, rfl, by decide +kernel⟩
  signed := by decide
  succeeded := ⟨_, rfl, rfl⟩
  executes := ⟨rfl, .refl _, .refl _⟩
  source_kind := by
    intro a ha
    obtain rfl : _ = a := Option.some.inj ha
    rfl
  destination_kind := by
    intro a ha
    obtain rfl : _ = a := Option.some.inj ha
    rfl

/-- The request is of just what is paid. -/
def whole : HonestTransfer deployment client :=
  { short with
    req := { short.req with amount := 2 ^ 53 }
    amount_pos := by decide
    converted_pos := by decide
    converted_le := by decide
    sent := (Node.EvmToSol.transfers_iff short.erc20 short.mapped).mpr
      ⟨_, _, rfl, rfl, rfl, rfl, by decide +kernel⟩ }

end Honest.Sample

/-- The node pays `2 ^ 53` units for `2 ^ 53`, and the relayer takes them. -/
theorem honest_transfer_accepted : Honest.Sample.whole.converted = 2 ^ 53 ∧
    Honest.Sample.whole.Exact ∧ Honest.Sample.whole.Accepted := by
  refine ⟨by decide, (honest_transfer_iff Honest.Sample.whole).mpr ?_⟩
  exact Rounding.exact_two_pow (by decide) 53

/-- The node pays `2 ^ 53` units for `2 ^ 53 + 1`, and the relayer refuses
them. -/
theorem rounded_transfer_refused : Honest.Sample.short.converted = 2 ^ 53 + 1 ∧
    ¬ Honest.Sample.short.Exact ∧ ¬ Honest.Sample.short.Accepted := by
  refine ⟨by decide, ?_, ?_⟩
  · rw [HonestTransfer.Exact, Honest.Sample.short.flows.1]
    decide
  · rw [HonestTransfer.accepted_iff]
    decide

end LunarysBridge
