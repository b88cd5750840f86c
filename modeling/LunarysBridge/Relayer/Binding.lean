/-
LunarysBridge.Relayer.Binding — what the evidence a handler accepts says
about the payment it makes.

`handleEvmToSol` verifies the amount and the token of its DTO and then
settles the request the DTO names; the request's own token and amount are
read and not compared. `handleSolToEvm` verifies a credit to the vault and
in the mint of its DTO and then delivers the DTO's token. Each result says
for which DTOs, in which state of the contract, no transaction on Solana
makes the handler pay without the evidence it should have.
-/
import LunarysBridge.Relayer.Handlers

namespace LunarysBridge.Relayer

open Async

/-! ## Balances -/

theorem sum_filter_le {l : List TokenBalance} {p q : TokenBalance → Bool}
    (h : ∀ b, p b = true → q b = true) :
    ((l.filter p).map (·.amount)).sum ≤ ((l.filter q).map (·.amount)).sum := by
  induction l with
  | nil => simp
  | cons b l ih =>
      by_cases hp : p b = true
      · simp [hp, h b hp]
        exact ih
      · by_cases hq : q b = true
        · simp [hp, hq]
          omega
        · simp [hp, hq]
          exact ih

/-- Nobody is credited with `2 ^ 64` units. -/
theorem ParsedTransaction.tokenDelta_lt (tx : ParsedTransaction) (owner mint : String) :
    tx.tokenDelta owner mint < 2 ^ 64 := by
  have hpost : sumOwnerMint tx.postTokenBalances owner mint < 2 ^ 64 := by
    unfold postTokenBalances
    cases hmeta : tx.meta? with
    | none => simp [sumOwnerMint]
    | some info =>
        have hsupply := info.post_supplied mint
        have hle := sum_filter_le (l := info.postTokenBalances)
          (p := fun b => b.owner == some owner && b.mint == mint) (q := (·.mint == mint))
          (by simp)
        exact Nat.lt_of_le_of_lt hle hsupply
  unfold tokenDelta
  omega

theorem ParsedTransaction.lamportDelta_lt (tx : ParsedTransaction) (idx : Nat) :
    tx.lamportDelta idx < 2 ^ 64 := by
  have hpost : lamports (tx.meta?.map (·.postBalances)) idx < 2 ^ 64 := by
    cases hmeta : tx.meta? with
    | none => simp [lamports]
    | some info =>
        show (info.postBalances[idx]?).getD 0 < 2 ^ 64
        cases hidx : info.postBalances[idx]? with
        | none => simp
        | some n => exact info.post_u64 n (List.mem_of_getElem? hidx)
  unfold lamportDelta
  omega

/-- A transaction of the Token program that credits `owner` with `amount`
units of `mint`, and does nothing else. -/
def tokenCredit (owner mint : String) (amount : Nat) (h : amount < 2 ^ 64) :
    ParsedTransaction where
  accountKeys := [owner, tokenProgramId]
  programs := [tokenProgramId]
  meta? := some
    { err := none
      preBalances := []
      postBalances := []
      preTokenBalances := []
      postTokenBalances := [⟨some owner, mint, amount⟩]
      post_u64 := by simp
      post_supplied := by
        intro m
        by_cases hm : mint = m
        · simp [hm]
          omega
        · simp [hm] }
  programs_mem := by simp

/-- A transaction of the System program that credits `account` with
`amount` lamports, and does nothing else. -/
def lamportCredit (account : String) (amount : Nat) (h : amount < 2 ^ 64) :
    ParsedTransaction where
  accountKeys := [account, systemProgramId]
  programs := [systemProgramId]
  meta? := some
    { err := none
      preBalances := [0]
      postBalances := [amount]
      preTokenBalances := []
      postTokenBalances := []
      post_u64 := by simpa using h
      post_supplied := by
        intro m
        simp }
  programs_mem := by simp

theorem tokenDelta_tokenCredit {owner mint owner' mint' : String} {amount : Nat}
    {h : amount < 2 ^ 64} :
    (tokenCredit owner mint amount h).tokenDelta owner' mint' =
      if owner = owner' ∧ mint = mint' then (amount : Int) else 0 := by
  by_cases ho : owner = owner' <;> by_cases hm : mint = mint' <;>
    simp [ParsedTransaction.tokenDelta, ParsedTransaction.preTokenBalances,
      ParsedTransaction.postTokenBalances, sumOwnerMint, tokenCredit, ho, hm]

theorem lamportDelta_lamportCredit {account : String} {amount : Nat} {h : amount < 2 ^ 64} :
    (lamportCredit account amount h).lamportDelta 0 = amount := by
  simp [ParsedTransaction.lamportDelta, lamports, lamportCredit]

theorem succeeded_tokenCredit {owner mint : String} {amount : Nat} {h : amount < 2 ^ 64} :
    (tokenCredit owner mint amount h).Succeeded := ⟨_, rfl, rfl⟩

theorem succeeded_lamportCredit {account : String} {amount : Nat} {h : amount < 2 ^ 64} :
    (lamportCredit account amount h).Succeeded := ⟨_, rfl, rfl⟩

theorem adjustToSolDecimals_nonneg {amount : Int} (h : 0 ≤ amount) (info : TokenInfo) :
    0 ≤ adjustToSolDecimals amount info := by
  have hpow : ∀ d, 0 ≤ pow10 d := fun d => Int.le_of_lt (Int.pow_pos (by decide))
  unfold adjustToSolDecimals
  dsimp only
  split
  · exact Int.mul_nonneg h (hpow _)
  · exact Int.tdiv_nonneg h (hpow _)

/-! ## EVM → Solana -/

section EvmToSol

variable (env : Setup) (dto : EvmToSolVerificationDto)

/-- The request a call settles. -/
def ContractCall.settles : ContractCall → Option Int
  | .verifyAndSettle requestId _ _ => some requestId
  | .verifyAndSettleURL requestId _ _ _ => some requestId
  | .deliverTokens _ _ _ => none

theorem EvmToSolVerificationDto.settles_settlement (lib : Libs) (requestId : Int) :
    (dto.settlement lib requestId).settles = some requestId := by
  unfold settlement
  dsimp only
  split <;> rfl

/-- The transaction named by the DTO credited somebody with what request
`r` is worth on Solana, in the mint of its token. -/
def EvidenceFor (w : World) (r : Nat) : Prop :=
  ∃ tx info key, w.ledger dto.solanaTransferSignature = some tx ∧ tx.Succeeded ∧
    findTokenInfo env.cfg (addressString (w.evm.bridgeRequests r).token) = some (.own info) ∧
    env.lib.publicKey info.sol.mint = .ok key ∧
    ∃ owner, adjustToSolDecimals (w.evm.bridgeRequests r).amount info ≤ tx.tokenDelta owner key

/-- In this state of the contract and at this time, whatever is on Solana's
ledger: the handler settles a request only with evidence for it. -/
def SettlesWithEvidence (evm : Evm.State) (clock : Nat) : Prop :=
  ∀ (w : World) (i : Nat) (call : ContractCall) (w' : World) (requestId : Int) (r : Nat),
    w.evm = evm → w.clock = clock →
    Sends env i (handleEvmToSol env.lib env.cfg dto) w call w' →
    call.settles = some requestId → uint256 requestId = some r → EvidenceFor env dto w r

/-- The checks of `handleEvmToSol` that do not look at the transaction, for
request `r` and `solAmount` units of the mint. -/
structure Admits (evm : Evm.State) (clock : Nat) (solAmount : Int) (r : Nat) : Prop where
  resolves : dto.Resolves env.cfg solAmount env.cfg.tokenSol
  is_u64 : solAmount < 2 ^ 64
  keys : ∃ owner key ata, env.lib.publicKey dto.solanaDestination = .ok owner ∧
    env.lib.publicKey env.cfg.tokenSol = .ok key ∧
    env.lib.getAssociatedTokenAddress key owner false = .ok ata
  request : ∃ requestId, bigInt dto.requestId = .ok requestId ∧ uint256 requestId = some r
  settleable : Settleable evm (clock / 1000) r

/-- The request is of the token of the table, and worth no more than this
on Solana. -/
def CoveredBy (cfg : Config) (br : Evm.BridgeRequest) (solAmount : Int) : Prop :=
  findTokenInfo cfg (addressString br.token) = some (.own (tokenEntry cfg)) ∧
    adjustToSolDecimals br.amount (tokenEntry cfg) ≤ solAmount

variable {env dto} {evm : Evm.State} {clock : Nat}

theorem evidence_of_covered {w : World} {i : Nat} {call : ContractCall} {w' : World}
    {requestId : Int} {r : Nat}
    (hcovered : ∀ solAmount, Admits env dto w.evm w.clock solAmount r →
      CoveredBy env.cfg (w.evm.bridgeRequests r) solAmount)
    (hs : Sends env i (handleEvmToSol env.lib env.cfg dto) w call w')
    (hsettles : call.settles = some requestId) (hr : uint256 requestId = some r) :
    EvidenceFor env dto w r := by
  obtain ⟨solAmount, mint, hresolves, ⟨tx, hledger, hok, owner, key, ata, howner, hkey, hata, hge⟩,
    requestId', r', hid, hr', hsettleable, rfl⟩ := sends_handleEvmToSol.mp ⟨w', hs⟩
  obtain rfl : requestId' = requestId := by
    simpa [dto.settles_settlement] using hsettles
  obtain rfl : r' = r := by simpa [hr'] using hr
  obtain rfl := hresolves.mint_eq
  have hadmits : Admits env dto w.evm w.clock solAmount r' :=
    { resolves := hresolves
      is_u64 := by
        have hlt := tx.tokenDelta_lt owner key
        omega
      keys := ⟨owner, key, ata, howner, hkey, hata⟩
      request := ⟨requestId', hid, hr⟩
      settleable := hsettleable }
  obtain ⟨hmapped, hle⟩ := hcovered solAmount hadmits
  exact ⟨tx, tokenEntry env.cfg, key, hledger, hok, hmapped, hkey, owner, by omega⟩

/-- The ledger on which the only transaction credits `owner`. -/
def creditLedger (signature : String) (tx : ParsedTransaction) :
    String → Option ParsedTransaction :=
  fun s => if s = signature then some tx else none

/-- A DTO that passes the other checks settles its request with a
transaction that credits the DTO's amount and no more. -/
theorem exists_settlement {solAmount : Int} {r : Nat}
    (hadmits : Admits env dto evm clock solAmount r) :
    ∃ w call w' requestId owner key h, w.evm = evm ∧ w.clock = clock ∧
      w.ledger = creditLedger dto.solanaTransferSignature
        (tokenCredit owner key solAmount.toNat h) ∧
      env.lib.publicKey env.cfg.tokenSol = .ok key ∧
      Sends env 0 (handleEvmToSol env.lib env.cfg dto) w call w' ∧
      call.settles = some requestId ∧ uint256 requestId = some r := by
  obtain ⟨owner, key, ata, howner, hkey, hata⟩ := hadmits.keys
  obtain ⟨requestId, hid, hr⟩ := hadmits.request
  obtain ⟨evmAmt, -, hpos, heq⟩ := hadmits.resolves.amount
  have hnonneg : 0 ≤ solAmount := by
    rw [heq]
    exact adjustToSolDecimals_nonneg (by omega) _
  have hlt : solAmount.toNat < 2 ^ 64 := by
    have := hadmits.is_u64
    omega
  let w : World :=
    { evm := evm
      ledger := creditLedger dto.solanaTransferSignature
        (tokenCredit owner key solAmount.toNat hlt)
      clock := clock
      tables := fun _ _ => none
      sent := [] }
  have hcredits : (tokenCredit owner key solAmount.toNat hlt).Credits env.lib dto solAmount
      env.cfg.tokenSol := by
    refine ⟨owner, key, ata, howner, hkey, hata, ?_⟩
    rw [tokenDelta_tokenCredit, if_pos ⟨rfl, rfl⟩]
    omega
  have hsends : ∃ w', Sends env 0 (handleEvmToSol env.lib env.cfg dto) w
      (dto.settlement env.lib requestId) w' :=
    sends_handleEvmToSol.mpr ⟨solAmount, env.cfg.tokenSol, hadmits.resolves,
      ⟨_, by simp [w, creditLedger], succeeded_tokenCredit, hcredits⟩, requestId, r, hid, hr,
      hadmits.settleable, rfl⟩
  obtain ⟨w', hs⟩ := hsends
  exact ⟨w, _, w', requestId, owner, key, hlt, rfl, rfl, rfl, hkey, hs,
    dto.settles_settlement _ _, hr⟩

/-- Such a transaction is evidence for what it covers only. -/
theorem covered_of_evidence {w : World} {owner key : String} {solAmount : Int} {r : Nat}
    {h : solAmount.toNat < 2 ^ 64} (hnonneg : 0 ≤ solAmount)
    (hledger : w.ledger = creditLedger dto.solanaTransferSignature
      (tokenCredit owner key solAmount.toNat h))
    (hevidence : EvidenceFor env dto w r) :
    CoveredBy env.cfg (w.evm.bridgeRequests r) solAmount := by
  obtain ⟨tx, info, key', hget, -, hmapped, -, owner', hle⟩ := hevidence
  obtain rfl : tokenCredit owner key solAmount.toNat h = tx := by
    simpa [hledger, creditLedger] using hget
  obtain rfl := findTokenInfo_own hmapped
  refine ⟨hmapped, ?_⟩
  rw [tokenDelta_tokenCredit] at hle
  split at hle <;> omega

/-- **A settlement is bound to its request** exactly when every amount the
DTO can pass off covers it. -/
theorem settlement_binding (env : Setup) (dto : EvmToSolVerificationDto) (evm : Evm.State)
    (clock : Nat) :
    SettlesWithEvidence env dto evm clock ↔ ∀ solAmount r,
      Admits env dto evm clock solAmount r →
        CoveredBy env.cfg (evm.bridgeRequests r) solAmount := by
  constructor
  · intro hbound solAmount r hadmits
    obtain ⟨w, call, w', requestId, owner, key, h, rfl, rfl, hledger, -, hs, hsettles, hr⟩ :=
      exists_settlement hadmits
    obtain ⟨evmAmt, -, hpos, heq⟩ := hadmits.resolves.amount
    have hnonneg : 0 ≤ solAmount := by
      rw [heq]
      exact adjustToSolDecimals_nonneg (by omega) _
    exact covered_of_evidence hnonneg hledger
      (hbound w 0 call w' requestId r rfl rfl hs hsettles hr)
  · rintro hcovered w i call w' requestId r rfl rfl hs hsettles hr
    exact evidence_of_covered (fun solAmount => hcovered solAmount r) hs hsettles hr

/-- One unit is paid on Solana, and a request of 0.997 tokens is settled. -/
theorem underpaid_settlement : ¬ ∀ (env : Setup) (dto : EvmToSolVerificationDto)
    (evm : Evm.State) (clock : Nat), SettlesWithEvidence env dto evm clock := by
  intro hall
  have hadmits : Admits Sample.setup (Sample.settle "1") Evm.Sample.claimed 1000000 1 1 :=
    { resolves :=
        { signature := by decide +kernel
          destination := by decide +kernel
          amount := ⟨1, rfl, by decide, by decide⟩
          mapped := rfl
          mint_ne := by decide +kernel
          mint_eq := rfl }
      is_u64 := by decide
      keys := ⟨_, _, _, rfl, rfl, rfl⟩
      request := ⟨1, rfl, rfl⟩
      settleable :=
        { exists_request := by decide +kernel
          is_open := rfl
          claimed := by decide +kernel
          in_time := by decide +kernel } }
  obtain ⟨w, call, w', requestId, owner, key, h, hevm, hclock, hledger, -, hs, hsettles, hr⟩ :=
    exists_settlement hadmits
  have hcovered := covered_of_evidence (by decide) hledger
    (hall Sample.setup (Sample.settle "1") Evm.Sample.claimed 1000000 w 0 call w' requestId 1
      hevm hclock hs hsettles hr)
  have hle := hcovered.2
  rw [hevm] at hle
  exact absurd hle (by decide +kernel)

end EvmToSol

/-! ## Solana → EVM -/

section SolToEvm

variable (env : Setup) (dto : SolToEvmVerificationDto)

/-- The transaction named by the DTO deposited, through the bridge program
and to its sign PDA, what a payment of `x` units of `token` is worth. -/
def DepositFor (w : World) (token : String) (x : Int) : Prop :=
  ∃ tx info key a y, w.ledger dto.solanaDepositSignature = some tx ∧ tx.Succeeded ∧
    env.cfg.programId ∈ tx.programs ∧
    findTokenInfo env.cfg token = some (.own info) ∧
    env.lib.publicKey info.sol.mint = .ok key ∧ a ≤ tx.tokenDelta env.signPda key ∧
    adjustToEvmDecimals a info = .ok y ∧ x ≤ y ∧ 0 < x

/-- In this state of the contract, whatever is on Solana's ledger: the
handler delivers tokens only for a deposit of the bridge. -/
def DeliversWithDeposit (evm : Evm.State) : Prop :=
  ∀ (w : World) (i : Nat) (recipient token : String) (x : Int) (w' : World), w.evm = evm →
    Sends env i (handleSolToEvm env.lib env.cfg dto) w (.deliverTokens recipient token x) w' →
    DepositFor env dto w token x

/-- The checks of `handleSolToEvm` that do not look at the transaction. -/
structure Accepts (evm : Evm.State) (amount : Int) (mapping : TokenInfo) (evmAmount : Int) :
    Prop where
  names : dto.Names env amount mapping evmAmount
  is_u64 : amount < 2 ^ 64
  vault : ∃ vault, env.lib.publicKey dto.solanaVault = .ok vault
  mint : falsy dto.solanaMint = true ∨
    ∃ key, env.lib.publicKey (dto.solanaMint.getD "") = .ok key
  payable : Payable env evm dto.evmToken evmAmount

variable {env dto} {evm : Evm.State}

theorem adjustToEvmDecimals_nonneg {amount evmAmount : Int} {info : TokenInfo}
    (h : adjustToEvmDecimals amount info = .ok evmAmount) : 0 ≤ amount := by
  unfold adjustToEvmDecimals at h
  split at h
  · cases h
  · omega

theorem deposits_depositParams {tx : ParsedTransaction} {lib : Libs} {vault : String}
    {amount : Int} : tx.Deposits lib (depositParams dto amount) vault ↔
      if falsy dto.solanaMint = true then
        ∃ idx, tx.accountKeys.findIdx? (· == vault) = some idx ∧ amount ≤ tx.lamportDelta idx
      else ∃ key, lib.publicKey (dto.solanaMint.getD "") = .ok key ∧
        amount ≤ tx.tokenDelta vault key := Iff.rfl

theorem ParsedTransaction.Deposits.lt {tx : ParsedTransaction} {lib : Libs} {vault : String}
    {amount : Int} (h : tx.Deposits lib (depositParams dto amount) vault) : amount < 2 ^ 64 := by
  rw [deposits_depositParams] at h
  split at h
  · obtain ⟨idx, -, hle⟩ := h
    have hlt := tx.lamportDelta_lt idx
    omega
  · obtain ⟨key, -, hle⟩ := h
    have hlt := tx.tokenDelta_lt vault key
    omega

/-- A DTO that delivers tokens has passed the checks. -/
theorem accepts_of_sends {w : World} {i : Nat} {call : ContractCall} {w' : World}
    (hs : Sends env i (handleSolToEvm env.lib env.cfg dto) w call w') :
    ∃ amount mapping evmAmount, Accepts env dto w.evm amount mapping evmAmount := by
  obtain ⟨amount, mapping, evmAmount, hnames, ⟨tx, vault, hvault, -, -, hdeposits⟩, hpayable, -⟩ :=
    sends_handleSolToEvm.mp ⟨w', hs⟩
  refine ⟨amount, mapping, evmAmount, hnames, hdeposits.lt, ⟨vault, hvault⟩, ?_, hpayable⟩
  rw [deposits_depositParams] at hdeposits
  split at hdeposits
  · next hnative => exact .inl hnative
  · obtain ⟨key, hkey, -⟩ := hdeposits
    exact .inr ⟨key, hkey⟩

/-- Some transaction that is none of the bridge program's is a deposit of
`amount` as far as `verifyDeposit` can tell. -/
theorem exists_foreign_deposit {mapping : TokenInfo} {amount evmAmount : Int}
    (h : Accepts env dto evm amount mapping evmAmount) :
    ∃ (tx : ParsedTransaction) (vault : String), env.lib.publicKey dto.solanaVault = .ok vault ∧
      tx.Succeeded ∧
      tx.Deposits env.lib (depositParams dto amount) vault ∧
      env.cfg.programId ∉ tx.programs := by
  obtain ⟨vault, hvault⟩ := h.vault
  have hnonneg := adjustToEvmDecimals_nonneg h.names.converted
  have hlt : amount.toNat < 2 ^ 64 := by
    have := h.is_u64
    omega
  by_cases hnative : falsy dto.solanaMint = true
  · refine ⟨lamportCredit vault amount.toNat hlt, vault, hvault, succeeded_lamportCredit, ?_, ?_⟩
    · rw [deposits_depositParams, if_pos hnative]
      refine ⟨0, by simp [lamportCredit, List.findIdx?_cons], ?_⟩
      rw [lamportDelta_lamportCredit]
      omega
    · simpa [lamportCredit] using env.program_ne.2
  · obtain ⟨key, hkey⟩ := h.mint.resolve_left hnative
    refine ⟨tokenCredit vault key amount.toNat hlt, vault, hvault, succeeded_tokenCredit, ?_, ?_⟩
    · rw [deposits_depositParams, if_neg hnative]
      refine ⟨key, hkey, ?_⟩
      rw [tokenDelta_tokenCredit, if_pos ⟨rfl, rfl⟩]
      omega
    · simpa [tokenCredit] using env.program_ne.1

/-- It makes the handler deliver. -/
theorem exists_delivery {mapping : TokenInfo} {amount evmAmount : Int}
    (h : Accepts env dto evm amount mapping evmAmount) :
    ∃ w w', w.evm = evm ∧
      Sends env 0 (handleSolToEvm env.lib env.cfg dto) w
        (.deliverTokens dto.evmRecipient dto.evmToken evmAmount) w' ∧
      ¬ DepositFor env dto w dto.evmToken evmAmount := by
  obtain ⟨tx, vault, hvault, hok, hdeposits, hforeign⟩ := exists_foreign_deposit h
  let w : World :=
    { evm := evm
      ledger := creditLedger dto.solanaDepositSignature tx
      clock := 0
      tables := fun _ _ => none
      sent := [] }
  have hledger : w.ledger dto.solanaDepositSignature = some tx := by
    simp [w, creditLedger]
  have hsends : ∃ w', Sends env 0 (handleSolToEvm env.lib env.cfg dto) w
      (.deliverTokens dto.evmRecipient dto.evmToken evmAmount) w' :=
    sends_handleSolToEvm.mpr ⟨amount, mapping, evmAmount, h.names,
      ⟨tx, vault, hvault, hledger, hok, hdeposits⟩, h.payable, rfl⟩
  obtain ⟨w', hs⟩ := hsends
  refine ⟨w, w', rfl, hs, ?_⟩
  intro hrun
  obtain ⟨tx', -, -, -, -, hget, -, hprogram, -⟩ := hrun
  obtain rfl : tx = tx' := by simpa [hledger] using hget
  exact hforeign hprogram

/-- **A delivery is bound to a deposit of the bridge** exactly when the
DTO cannot make the handler deliver at all. -/
theorem delivery_binding (env : Setup) (dto : SolToEvmVerificationDto) (evm : Evm.State) :
    DeliversWithDeposit env dto evm ↔ ∀ amount mapping evmAmount,
      ¬ Accepts env dto evm amount mapping evmAmount := by
  constructor
  · intro hbound amount mapping evmAmount haccepts
    obtain ⟨w, w', hevm, hs, hno⟩ := exists_delivery haccepts
    exact hno (hbound w 0 _ _ _ w' hevm hs)
  · rintro hnever w i recipient token x w' rfl hs
    obtain ⟨amount, mapping, evmAmount, haccepts⟩ := accepts_of_sends hs
    exact absurd haccepts (hnever amount mapping evmAmount)

/-- The vault is the caller's own, and the tokens are delivered. -/
theorem delivery_without_deposit : ¬ ∀ (env : Setup) (dto : SolToEvmVerificationDto)
    (evm : Evm.State), DeliversWithDeposit env dto evm := by
  intro hall
  have haccepts : Accepts Sample.setup Sample.deliver Evm.Sample.claimed 1000000
      (tokenEntry Sample.cfg) 1000000 :=
    { names :=
        { recipient := rfl
          token := rfl
          amount_eq := rfl
          mapped := rfl
          converted := rfl }
      is_u64 := by decide
      vault := ⟨_, rfl⟩
      mint := .inr ⟨_, rfl⟩
      payable := ⟨by decide, 9, by decide +kernel, by decide +kernel⟩ }
  obtain ⟨w, w', hevm, hs, hno⟩ := exists_delivery haccepts
  exact hno (hall _ _ _ w 0 _ _ _ w' hevm hs)

end SolToEvm

end LunarysBridge.Relayer
