/-
LunarysBridge.Relayer.Handlers — what the two handlers do, part by part:
which DTOs pass each part in which world, when a call comes to send its
transaction (`sends_handleEvmToSol`, `sends_handleSolToEvm`), and that it
sends this one transaction and nothing else, whatever is answered.
-/
import LunarysBridge.Relayer.Effects

namespace LunarysBridge.Relayer

open Async

variable {env : Setup} {i : Nat} {w w' : World} {lib : Libs} {cfg : Config} {α : Type}

/-! ## The parts of `handleEvmToSol` -/

section EvmToSol

variable {dto : EvmToSolVerificationDto}

/-- The DTO names an amount of a mapped token: `solAmount` units of `mint`. -/
structure EvmToSolVerificationDto.Resolves (cfg : Config) (dto : EvmToSolVerificationDto)
    (solAmount : Int) (mint : String) : Prop where
  signature : dto.solanaTransferSignature ≠ ""
  destination : dto.solanaDestination ≠ ""
  amount : ∃ evmAmt, bigInt dto.amount = .ok evmAmt ∧ 0 < evmAmt ∧
    solAmount = adjustToSolDecimals evmAmt (tokenEntry cfg)
  mapped : findTokenInfo cfg dto.token = some (.own (tokenEntry cfg))
  mint_ne : mint ≠ ""
  mint_eq : mint = cfg.tokenSol

theorem EvmToSolVerificationDto.Resolves.unique {cfg : Config} {a b : Int} {mint mint' : String}
    (h : dto.Resolves cfg a mint) (h' : dto.Resolves cfg b mint') : a = b ∧ mint = mint' := by
  obtain ⟨evmAmt, hamount, -, rfl⟩ := h.amount
  obtain ⟨evmAmt', hamount', -, rfl⟩ := h'.amount
  obtain rfl : evmAmt = evmAmt' := Except.ok.inj (hamount.symm.trans hamount')
  exact ⟨rfl, h.mint_eq.trans h'.mint_eq.symm⟩

theorem tables_resolveAmount : OnTables (resolveAmount cfg dto) := by
  refine tables_rejectIf.bind fun _ => tables_rejectIf.bind fun _ =>
    ((only_lift _).tryCatch fun _ => tables_reject).bind fun evmAmt =>
    tables_rejectIf.bind fun _ => ?_
  split
  · exact tables_reject
  · exact (only_lift _).bind fun _ => tables_rejectIf.bind fun _ => trivial

theorem returns_resolveAmount {solAmount : Int} {mint : String} :
    Returns env i (resolveAmount cfg dto) w (solAmount, mint) w' ↔
      dto.Resolves cfg solAmount mint ∧ w' = w := by
  have hparse : ∀ {a : Int} {w w' : World},
      Returns env i (tryCatch (liftM (bigInt dto.amount) : Promise Int) fun _ =>
        reject .evmToSol dto.requestId "Invalid amount format") w a w' ↔
      bigInt dto.amount = .ok a ∧ w' = w := fun {a w w'} => by
    rw [returns_tryCatch (by simp), returns_lift]
  simp only [resolveAmount, returns_bind, returns_rejectIf, hparse]
  constructor
  · intro hrun
    obtain ⟨_, _, ⟨hsig, rfl⟩, _, _, ⟨hdest, rfl⟩, a, _, ⟨ha, rfl⟩, _, _, ⟨hpos, rfl⟩, hr⟩ := hrun
    split at hr
    · simp at hr
    · next entry hentry =>
      simp only [returns_bind, returns_lift, returns_rejectIf, returns_ret, Prog.pure_eq] at hr
      obtain ⟨info, _, ⟨hinfo, rfl⟩, _, _, ⟨hmint, rfl⟩, heq, rfl⟩ := hr
      cases entry with
      | inherited => cases hinfo
      | own info' =>
          cases hinfo
          obtain rfl := findTokenInfo_own hentry
          cases heq
          exact ⟨⟨hsig, hdest, ⟨a, ha, by omega, rfl⟩, hentry, hmint, rfl⟩, rfl⟩
  · intro hspec
    obtain ⟨⟨hsig, hdest, ⟨a, ha, hpos, rfl⟩, hmapped, hne, rfl⟩, rfl⟩ := hspec
    refine ⟨(), w', ⟨hsig, rfl⟩, (), w', ⟨hdest, rfl⟩, a, w', ⟨ha, rfl⟩, (), w',
      ⟨by omega, rfl⟩, ?_⟩
    simp only [hmapped, TableEntry.read, Prog.lift_ok, Prog.ret_bind, returns_bind,
      returns_rejectIf]
    exact ⟨(), w', ⟨hne, rfl⟩, returns_ret.mpr ⟨rfl, rfl⟩⟩

/-- The transaction credits the destination of the DTO. -/
def ParsedTransaction.Credits (tx : ParsedTransaction) (lib : Libs)
    (dto : EvmToSolVerificationDto) (solAmount : Int) (mint : String) : Prop :=
  ∃ owner key ata, lib.publicKey dto.solanaDestination = .ok owner ∧
    lib.publicKey mint = .ok key ∧ lib.getAssociatedTokenAddress key owner false = .ok ata ∧
    solAmount ≤ tx.tokenDelta owner key

theorem quiet_checkSolanaLeg {solAmount : Int} {mint : String} :
    Quiet (checkSolanaLeg lib dto solAmount mint) :=
  (watches_verifyTransfer.quiet.bind fun _ => quiet_ret).tryCatch fun _ => tables_reject.quiet

theorem returns_checkSolanaLeg {solAmount : Int} {mint : String} (hmint : mint ≠ "") {u : Unit} :
    Returns env i (checkSolanaLeg lib dto solAmount mint) w u w' ↔
      (∃ tx, w.ledger dto.solanaTransferSignature = some tx ∧ tx.Succeeded ∧
        tx.Credits lib dto solAmount mint) ∧ w' = w := by
  rw [checkSolanaLeg, returns_tryCatch (by simp), returns_bind]
  constructor
  · intro hrun
    obtain ⟨tx, w₁, hv, hret⟩ := hrun
    obtain ⟨-, rfl⟩ := returns_ret.mp hret
    obtain ⟨owner, key, ata, howner, hkey, hata, hledger, hok, hge, rfl⟩ :=
      (returns_verifyTransfer rfl hmint).mp hv
    exact ⟨⟨tx, hledger, hok, owner, key, ata, howner, hkey, hata, hge⟩, rfl⟩
  · intro hspec
    obtain ⟨⟨tx, hledger, hok, owner, key, ata, howner, hkey, hata, hge⟩, rfl⟩ := hspec
    exact ⟨tx, w', (returns_verifyTransfer rfl hmint).mpr
      ⟨owner, key, ata, howner, hkey, hata, hledger, hok, hge, rfl⟩, returns_ret.mpr ⟨rfl, rfl⟩⟩

/-- What `precheckRequest` wants of a request: it exists, it is open, and
its claim has not expired at the time `now`. -/
structure Settleable (evm : Evm.State) (now r : Nat) : Prop where
  exists_request : (evm.bridgeRequests r).sender ≠ 0
  is_open : (evm.bridgeRequests r).finalized = false
  claimed : (evm.requestClaim r).solver ≠ 0
  in_time : now ≤ (evm.requestClaim r).deadline

theorem quiet_precheckRequest {requestId : Int} : Quiet (precheckRequest dto requestId) :=
  watches_getBridgeRequest.quiet.bind fun _ => tables_rejectIf.quiet.bind fun _ =>
    tables_rejectIf.quiet.bind fun _ => watches_getClaim.quiet.bind fun _ =>
    tables_rejectIf.quiet.bind fun _ => (quiet_await (by simp)).bind fun _ => tables_rejectIf.quiet

theorem returns_precheckRequest {requestId : Int} {u : Unit} :
    Returns env i (precheckRequest dto requestId) w u w' ↔
      (∃ r, uint256 requestId = some r ∧ Settleable w.evm (w.clock / 1000) r) ∧ w' = w := by
  simp only [precheckRequest, returns_bind, returns_getBridgeRequest, returns_getClaim,
    returns_rejectIf, returns_dateNow]
  constructor
  · intro hrun
    obtain ⟨br, _, ⟨hbr, rfl⟩, _, _, ⟨hsender, rfl⟩, _, _, ⟨hopen, rfl⟩, cl, _, ⟨hcl, rfl⟩, _, _,
      ⟨hsolver, rfl⟩, now, _, ⟨rfl, rfl⟩, hexpired, rfl⟩ := hrun
    rcases hbr with rfl | ⟨r, hr, rfl⟩
    · simp at hsender
    · rcases hcl with rfl | ⟨r', hr', rfl⟩
      · simp at hsolver
      · obtain rfl : r = r' := by simpa [hr] using hr'
        simp only [Option.mem_def, Option.some.injEq, forall_eq', exists_eq_left',
          Bool.not_eq_true, Nat.not_lt] at hsender hopen hsolver hexpired
        exact ⟨⟨r, hr, hsender, hopen, hsolver, hexpired⟩, rfl⟩
  · intro hspec
    obtain ⟨⟨r, hr, hsettle⟩, rfl⟩ := hspec
    refine ⟨_, w', ⟨.inr ⟨r, hr, rfl⟩, rfl⟩, (), w', ⟨?_, rfl⟩, (), w', ⟨?_, rfl⟩,
      _, w', ⟨.inr ⟨r, hr, rfl⟩, rfl⟩, (), w', ⟨?_, rfl⟩, _, w', ⟨rfl, rfl⟩, ?_, rfl⟩
    · simpa using hsettle.exists_request
    · simpa using hsettle.is_open
    · simpa using hsettle.claimed
    · simpa using hsettle.in_time

/-- The transaction that settles the request of the DTO. -/
def EvmToSolVerificationDto.settlement (lib : Libs) (dto : EvmToSolVerificationDto)
    (requestId : Int) : ContractCall :=
  let destTxHash := lib.keccak256 dto.solanaTransferSignature
  let evidenceHash :=
    lib.keccak256 (dto.token ++ "|" ++ dto.amount ++ "|" ++ dto.solanaDestination)
  if falsy dto.evidenceURL then .verifyAndSettle requestId destTxHash evidenceHash
  else .verifyAndSettleURL requestId destTxHash evidenceHash (dto.evidenceURL.getD "")

theorem verifyAndSettle_eq {requestId : Int} :
    verifyAndSettle requestId (lib.keccak256 dto.solanaTransferSignature)
      (lib.keccak256 (dto.token ++ "|" ++ dto.amount ++ "|" ++ dto.solanaDestination))
      dto.evidenceURL = transact (dto.settlement lib requestId) := by
  unfold verifyAndSettle EvmToSolVerificationDto.settlement
  split <;> rfl

theorem quiet_markFailed_throw {repo : Repo} {requestId message : String} {e : JsError} :
    Quiet (do
      markFailed repo requestId message
      throw e : Promise α) :=
  tables_markFailed.quiet.bind fun _ => quiet_fail

/-- **When a call comes to settle a request**: the DTO names an amount of a
mapped token, its Solana transaction credits the destination with it, and
the request of the DTO can be settled. -/
theorem sends_handleEvmToSol {call : ContractCall} :
    (∃ w', Sends env i (handleEvmToSol env.lib env.cfg dto) w call w') ↔
      ∃ solAmount mint, dto.Resolves env.cfg solAmount mint ∧
        (∃ tx, w.ledger dto.solanaTransferSignature = some tx ∧ tx.Succeeded ∧
          tx.Credits env.lib dto solAmount mint) ∧
        ∃ requestId r, bigInt dto.requestId = .ok requestId ∧ uint256 requestId = some r ∧
          Settleable w.evm (w.clock / 1000) r ∧ call = dto.settlement env.lib requestId := by
  have hsettle : ∀ {requestId : Int} {w w' : World},
      Sends env i (settleRequest dto requestId (env.lib.keccak256 dto.solanaTransferSignature)
        (env.lib.keccak256 (dto.token ++ "|" ++ dto.amount ++ "|" ++ dto.solanaDestination)))
        w call w' ↔ call = dto.settlement env.lib requestId ∧ w' = w := by
    intro requestId w w'
    rw [settleRequest, verifyAndSettle_eq]
    refine (sends_tryCatch_quiet fun _ => quiet_markFailed_throw).trans ?_
    exact (sends_bind_quiet fun _ => tables_markSettled.quiet.bind fun _ => quiet_ret).trans
      sends_transact
  simp only [handleEvmToSol]
  constructor
  · intro hrun
    obtain ⟨w', hs⟩ := hrun
    obtain ⟨_, w₁, hreceived, hs⟩ := tables_upsertReceived.quiet.sends_bind.mp hs
    obtain rfl := returns_upsertReceived.mp hreceived
    obtain ⟨⟨solAmount, mint⟩, w₂, hresolved, hs⟩ := tables_resolveAmount.quiet.sends_bind.mp hs
    obtain ⟨hresolves, rfl⟩ := returns_resolveAmount.mp hresolved
    obtain ⟨_, w₃, hleg, hs⟩ := quiet_checkSolanaLeg.sends_bind.mp hs
    obtain ⟨htx, rfl⟩ := (returns_checkSolanaLeg hresolves.mint_ne).mp hleg
    obtain ⟨requestId, w₄, hparsed, hs⟩ := quiet_lift.sends_bind.mp hs
    obtain ⟨hid, rfl⟩ := returns_lift.mp hparsed
    obtain ⟨_, w₅, hpre, hs⟩ := quiet_precheckRequest.sends_bind.mp hs
    obtain ⟨⟨r, hr, hsettleable⟩, rfl⟩ := returns_precheckRequest.mp hpre
    obtain ⟨_, w₆, _, hs⟩ := tables_markVerified.quiet.sends_bind.mp hs
    exact ⟨solAmount, mint, hresolves, htx, requestId, r, hid, hr, hsettleable,
      (hsettle.mp hs).1⟩
  · intro hspec
    obtain ⟨solAmount, mint, hresolves, htx, requestId, r, hid, hr, hsettleable, hcall⟩ := hspec
    refine ⟨_, tables_upsertReceived.quiet.sends_bind.mpr
      ⟨(), _, returns_upsertReceived.mpr rfl, tables_resolveAmount.quiet.sends_bind.mpr
      ⟨(solAmount, mint), _, returns_resolveAmount.mpr ⟨hresolves, rfl⟩,
        quiet_checkSolanaLeg.sends_bind.mpr
      ⟨(), _, (returns_checkSolanaLeg hresolves.mint_ne).mpr ⟨htx, rfl⟩,
        quiet_lift.sends_bind.mpr
      ⟨requestId, _, returns_lift.mpr ⟨hid, rfl⟩, quiet_precheckRequest.sends_bind.mpr
      ⟨(), _, returns_precheckRequest.mpr ⟨⟨r, hr, hsettleable⟩, rfl⟩,
        tables_markVerified.quiet.sends_bind.mpr
      ⟨(), _, returns_markVerified.mpr ⟨_, World.tables_save, rfl⟩,
        hsettle.mpr ⟨hcall, rfl⟩⟩⟩⟩⟩⟩⟩⟩

theorem atMost_handleEvmToSol {P : Op → Prop} {n : Nat} (hP : ∀ o, P o → o.IsSend)
    (hn : ∀ requestId, bigInt dto.requestId = .ok requestId →
      P (.send (dto.settlement lib requestId)) → n = 1) :
    (handleEvmToSol lib cfg dto).AtMost P n := by
  refine tables_upsertReceived.quiet.atMost_bind hP fun _ =>
    tables_resolveAmount.quiet.atMost_bind hP fun _ =>
    quiet_checkSolanaLeg.atMost_bind hP fun _ => ?_
  cases hid : bigInt dto.requestId with
  | error e => exact Prog.atMost_fail.mpr trivial
  | ok requestId =>
      simp only [Prog.lift_ok, Prog.ret_bind]
      refine quiet_precheckRequest.atMost_bind hP fun _ =>
        tables_markVerified.quiet.atMost_bind hP fun _ => ?_
      rw [settleRequest, verifyAndSettle_eq]
      refine atMost_tryCatch_quiet ?_ hP fun _ => quiet_markFailed_throw
      exact atMost_bind_quiet (atMost_transact hP (hn requestId hid)) hP fun _ =>
        tables_markSettled.quiet.bind fun _ => quiet_ret

end EvmToSol

/-! ## The parts of `handleSolToEvm` -/

section SolToEvm

variable {dto : SolToEvmVerificationDto}

/-- The DTO names a payment: its addresses are addresses, and its amount is
`amount` on Solana and `evmAmount` on the EVM side, under `mapping`. -/
structure SolToEvmVerificationDto.Names (env : Setup) (dto : SolToEvmVerificationDto)
    (amount : Int) (mapping : TokenInfo) (evmAmount : Int) : Prop where
  recipient : env.lib.isAddress dto.evmRecipient = true
  token : env.lib.isAddress dto.evmToken = true
  amount_eq : bigInt dto.amount = .ok amount
  mapped : mappingFor env.cfg dto = .own mapping
  converted : adjustToEvmDecimals amount mapping = .ok evmAmount

theorem TableEntry.read_ok {entry : TableEntry} {property : String} {info : TokenInfo} :
    entry.read property = .ok info ↔ entry = .own info := by
  cases entry <;> simp [read]

theorem quiet_checkDeposit : Quiet (checkDeposit lib cfg dto) :=
  tables_rejectIf.quiet.bind fun _ => tables_rejectIf.quiet.bind fun _ => quiet_lift.bind fun _ =>
    watches_verifyDeposit.quiet.bind fun _ => tables_markVerified.quiet.bind fun _ =>
    quiet_lift.bind fun _ => quiet_lift.bind fun _ => quiet_ret

theorem returns_checkDeposit {mapping : TokenInfo} {evmAmount : Int} :
    Returns env i (checkDeposit env.lib env.cfg dto) w (mapping, evmAmount) w' ↔
      (∃ amount, dto.Names env amount mapping evmAmount ∧
        ∃ tx vault, env.lib.publicKey dto.solanaVault = .ok vault ∧
          w.ledger dto.solanaDepositSignature = some tx ∧ tx.Succeeded ∧
          tx.Deposits env.lib (depositParams dto amount) vault) ∧
      ∃ row, w.tables .solToEvm dto.requestId = some row ∧
        w' = w.save .solToEvm dto.requestId { row with status := .VERIFIED } := by
  have hdeposit : ∀ {amount : Int} {tx : ParsedTransaction} {w w' : World},
      Returns env i (verifyDeposit env.lib (depositParams dto amount)) w tx w' ↔
        ∃ vault, env.lib.publicKey dto.solanaVault = .ok vault ∧
          w.ledger dto.solanaDepositSignature = some tx ∧ tx.Succeeded ∧
          tx.Deposits env.lib (depositParams dto amount) vault ∧ w' = w :=
    returns_verifyDeposit rfl
  simp only [checkDeposit, returns_bind, returns_rejectIf, returns_lift, hdeposit,
    returns_markVerified, TableEntry.read_ok, Bool.not_eq_false]
  constructor
  · intro hrun
    obtain ⟨_, _, ⟨hrecipient, rfl⟩, _, _, ⟨htoken, rfl⟩, amount, _, ⟨hamount, rfl⟩, tx, _,
      ⟨vault, hvault, hledger, hok, hdeposits, rfl⟩, _, _, ⟨row, hrow, rfl⟩, mapping', _,
      ⟨hmapped, rfl⟩, evmAmount', _, ⟨hconverted, rfl⟩, hret⟩ := hrun
    obtain ⟨heq, rfl⟩ := returns_ret.mp hret
    cases heq
    exact ⟨⟨amount, ⟨hrecipient, htoken, hamount, hmapped, hconverted⟩, tx, vault, hvault,
      hledger, hok, hdeposits⟩, row, hrow, rfl⟩
  · intro hspec
    obtain ⟨⟨amount, ⟨hrecipient, htoken, hamount, hmapped, hconverted⟩, tx, vault, hvault,
      hledger, hok, hdeposits⟩, row, hrow, rfl⟩ := hspec
    exact ⟨(), w, ⟨hrecipient, rfl⟩, (), w, ⟨htoken, rfl⟩, amount, w, ⟨hamount, rfl⟩, tx, w,
      ⟨vault, hvault, hledger, hok, hdeposits, rfl⟩, (), _, ⟨row, hrow, rfl⟩, mapping, _,
      ⟨hmapped, rfl⟩, evmAmount, _, ⟨hconverted, rfl⟩, returns_ret.mpr ⟨rfl, rfl⟩⟩

/-- The bridge holds the amount of the token, and it is positive. -/
def Payable (env : Setup) (evm : Evm.State) (token : String) (evmAmount : Int) : Prop :=
  0 < evmAmount ∧ ∃ a, env.lib.resolveAddress token = some a ∧
    evmAmount ≤ evm.bal a env.ch.self

theorem quiet_precheckBalance {evmAmount : Int} : Quiet (precheckBalance dto evmAmount) :=
  watches_getContractTokenBalance.quiet.bind fun _ =>
    tables_rejectIf.quiet.bind fun _ => tables_rejectIf.quiet

theorem returns_precheckBalance {evmAmount : Int} {u : Unit} :
    Returns env i (precheckBalance dto evmAmount) w u w' ↔
      Payable env w.evm dto.evmToken evmAmount ∧ w' = w := by
  simp only [precheckBalance, returns_bind, returns_getContractTokenBalance, returns_rejectIf,
    Payable]
  constructor
  · intro hrun
    obtain ⟨balance, _, ⟨hbalance, rfl⟩, _, _, ⟨hle, rfl⟩, hpos, rfl⟩ := hrun
    rcases hbalance with rfl | ⟨a, ha, rfl⟩
    · omega
    · exact ⟨⟨by omega, a, ha, by omega⟩, rfl⟩
  · intro hspec
    obtain ⟨⟨hpos, a, ha, hle⟩, rfl⟩ := hspec
    exact ⟨_, w', ⟨.inr ⟨a, ha, rfl⟩, rfl⟩, (), w', ⟨by omega, rfl⟩, by omega, rfl⟩

theorem watches_successfulReceipt {hash : Option String} {minConf : Nat} {what : String} :
    Watches (successfulReceipt hash minConf what) := by
  refine (only_await trivial).bind fun receipt => ?_
  split
  · trivial
  · split <;> trivial

theorem watches_verifyEvmDelivery {hash : Option String} {token recipient : String}
    {amount : Int} : Watches (verifyEvmDelivery cfg hash token recipient amount) := by
  unfold verifyEvmDelivery
  split
  · exact watches_successfulReceipt.bind fun _ => trivial
  · refine watches_successfulReceipt.bind fun rcpt => ?_
    dsimp only
    split
    · trivial
    · split <;> trivial

theorem solana_submitVerifyAndSettle {requestId : Nat} {hash : List UInt8}
    {accounts : List String} : OnSolana (submitVerifyAndSettle requestId hash accounts) := by
  refine (only_await trivial).bind fun sig => (only_await trivial).bind fun err => ?_
  split <;> trivial

theorem solana_verifyAndSettleOnSolana {requestId : String} {hash : Option String}
    {accounts : SettleAccounts} :
    OnSolana (verifyAndSettleOnSolana lib requestId hash accounts) :=
  (only_await trivial).bind fun _ => (only_lift _).bind fun _ => (only_lift _).bind fun _ =>
    (only_lift _).bind fun _ => (only_lift _).bind fun _ => (only_lift _).bind fun _ =>
    (only_lift _).bind fun _ => (only_lift _).bind fun _ => (only_lift _).bind fun _ =>
    (only_lift _).bind fun _ => solana_submitVerifyAndSettle.tryCatch fun _ => trivial

theorem solana_closeOnSolana {mapping : TokenInfo} {hash : Option String} :
    OnSolana (closeOnSolana lib cfg dto mapping hash) :=
  (only_lift _).bind fun _ => solana_verifyAndSettleOnSolana.bind fun _ => trivial

theorem quiet_confirmDelivery {mapping : TokenInfo} {evmAmount : Int}
    {receipt : Option TransactionReceipt} :
    Quiet (confirmDelivery lib cfg dto mapping evmAmount receipt) :=
  (watches_verifyEvmDelivery.quiet.tryCatch fun _ => tables_reject.quiet).bind fun _ =>
    (solana_closeOnSolana.quiet.tryCatch fun _ => tables_reject.quiet).bind fun _ =>
    tables_markSettled.quiet.bind fun _ => quiet_ret

/-- **When a call comes to deliver tokens**: the DTO names a payment, the
transaction it names deposits what it says where it says, and the bridge
can pay. -/
theorem sends_handleSolToEvm {call : ContractCall} :
    (∃ w', Sends env i (handleSolToEvm env.lib env.cfg dto) w call w') ↔
      ∃ amount mapping evmAmount, dto.Names env amount mapping evmAmount ∧
        (∃ tx vault, env.lib.publicKey dto.solanaVault = .ok vault ∧
          w.ledger dto.solanaDepositSignature = some tx ∧ tx.Succeeded ∧
          tx.Deposits env.lib (depositParams dto amount) vault) ∧
        Payable env w.evm dto.evmToken evmAmount ∧
        call = .deliverTokens dto.evmRecipient dto.evmToken evmAmount := by
  have hdeliver : ∀ {mapping : TokenInfo} {evmAmount : Int} {w w' : World},
      Sends env i (tryCatch
        (do
          let receipt ← deliverTokens dto.evmRecipient dto.evmToken evmAmount
          confirmDelivery env.lib env.cfg dto mapping evmAmount receipt)
        fun e => do
          markFailed .solToEvm dto.requestId e.message
          throw e) w call w' ↔
      call = .deliverTokens dto.evmRecipient dto.evmToken evmAmount ∧ w' = w := by
    intro mapping evmAmount w w'
    refine (sends_tryCatch_quiet fun _ => quiet_markFailed_throw).trans ?_
    exact (sends_bind_quiet fun _ => quiet_confirmDelivery).trans sends_transact
  simp only [handleSolToEvm]
  constructor
  · intro hrun
    obtain ⟨w', hs⟩ := hrun
    obtain ⟨_, w₁, hreceived, hs⟩ := tables_upsertReceived.quiet.sends_bind.mp hs
    obtain rfl := returns_upsertReceived.mp hreceived
    obtain ⟨⟨mapping, evmAmount⟩, w₂, hchecked, hs⟩ := quiet_checkDeposit.sends_bind.mp hs
    obtain ⟨⟨amount, hnames, htx⟩, row, -, rfl⟩ := returns_checkDeposit.mp hchecked
    obtain ⟨_, w₃, hpre, hs⟩ := quiet_precheckBalance.sends_bind.mp hs
    obtain ⟨hpayable, rfl⟩ := returns_precheckBalance.mp hpre
    exact ⟨amount, mapping, evmAmount, hnames, htx, hpayable, (hdeliver.mp hs).1⟩
  · intro hspec
    obtain ⟨amount, mapping, evmAmount, hnames, htx, hpayable, hcall⟩ := hspec
    refine ⟨_, tables_upsertReceived.quiet.sends_bind.mpr
      ⟨(), _, returns_upsertReceived.mpr rfl, quiet_checkDeposit.sends_bind.mpr
      ⟨(mapping, evmAmount), _, returns_checkDeposit.mpr
        ⟨⟨amount, hnames, htx⟩, _, World.tables_save, rfl⟩, quiet_precheckBalance.sends_bind.mpr
      ⟨(), _, returns_precheckBalance.mpr ⟨hpayable, rfl⟩,
        hdeliver.mpr ⟨hcall, rfl⟩⟩⟩⟩⟩

theorem atMost_handleSolToEvm {P : Op → Prop} {n : Nat} (hP : ∀ o, P o → o.IsSend)
    (hn : ∀ evmAmount,
      P (.send (.deliverTokens dto.evmRecipient dto.evmToken evmAmount)) → n = 1) :
    (handleSolToEvm lib cfg dto).AtMost P n := by
  refine tables_upsertReceived.quiet.atMost_bind hP fun _ => quiet_checkDeposit.atMost_bind hP
    fun _ => quiet_precheckBalance.atMost_bind hP fun _ => ?_
  refine atMost_tryCatch_quiet ?_ hP fun _ => quiet_markFailed_throw
  exact atMost_bind_quiet (atMost_transact hP (hn _)) hP fun _ => quiet_confirmDelivery

end SolToEvm

/-- **A call sends at most one transaction**, whatever happens. -/
theorem handle_sends_once (q : Request) : (handle lib cfg q).AtMost Op.IsSend 1 := by
  cases q with
  | evmToSol dto => exact atMost_handleEvmToSol (fun _ h => h) fun _ _ _ => rfl
  | solToEvm dto => exact atMost_handleSolToEvm (fun _ h => h) fun _ _ => rfl

/-- What a request may send: the settlement of its own request, or the
delivery to its own recipient. -/
def Request.Issues (lib : Libs) : Request → ContractCall → Prop
  | .evmToSol dto, call =>
      ∃ requestId, bigInt dto.requestId = .ok requestId ∧ call = dto.settlement lib requestId
  | .solToEvm dto, call =>
      ∃ evmAmount, call = .deliverTokens dto.evmRecipient dto.evmToken evmAmount

/-- **A call sends nothing else**, whatever happens. -/
theorem handle_issues (q : Request) :
    (handle lib cfg q).Only fun o : Op => ∀ call, o = .send call → q.Issues lib call := by
  apply Prog.AtMost.only
  have hP : ∀ o : Op, (¬ ∀ call, o = .send call → q.Issues lib call) → o.IsSend := by
    intro o h
    by_contra hno
    exact h fun call ho => absurd ⟨call, ho⟩ hno
  cases q with
  | evmToSol dto =>
      refine atMost_handleEvmToSol hP fun requestId hid hbad => absurd ?_ hbad
      rintro call ⟨⟩
      exact ⟨requestId, hid, rfl⟩
  | solToEvm dto =>
      refine atMost_handleSolToEvm hP fun evmAmount hbad => absurd ?_ hbad
      rintro call ⟨⟩
      exact ⟨evmAmount, rfl⟩

end LunarysBridge.Relayer
