/-
LunarysBridge.Relayer.Body — what the relayer makes of the body of a POST.

The DTO classes carry decorators, but no `ValidationPipe` runs them: a
handler gets the JSON as it is, and reads `undefined` where a field is
missing. `checkEvmToSol` and `checkSolToEvm` are the checks a handler makes
on the fields before it looks at a chain. On the bodies that have all fields
of the DTO these are the checks of the handlers (`asks_handleEvmToSol`,
`asks_handleSolToEvm`). That a missing column may also be refused by the record
tables is left out.
-/
import LunarysBridge.Relayer.Handlers

namespace LunarysBridge.Relayer

open Async

/-! ## Integers as strings -/

/-- `BigInt(n.toString())` is `n`. -/
theorem bigInt_toString (n : Int) : bigInt (toString n) = .ok n := by
  cases n with
  | ofNat n =>
      have hchars : (toString (Int.ofNat n)).toList = Nat.toDigits 10 n := toList_natCast n
      rw [bigInt_of_isDigit (by rw [hchars]; exact Nat.toDigits_ne_nil)
        (by rw [hchars]; exact isDigit_toDigits), hchars, Nat.ofDigitChars_ten_toDigits]
      rfl
  | negSucc n =>
      have hchars : (toString (Int.negSucc n)).toList = '-' :: Nat.toDigits 10 (n + 1) := by
        show ("-" ++ Nat.repr (n + 1)).toList = _
        simp [Nat.repr_eq_ofList_toDigits]
      have htrim : trim ('-' :: Nat.toDigits 10 (n + 1)) = '-' :: Nat.toDigits 10 (n + 1) := by
        refine trim_eq_self fun c hc => ?_
        rcases List.mem_cons.mp hc with rfl | hc
        · decide
        · exact isSpace_of_isDigit (isDigit_toDigits c hc)
      rw [bigInt, hchars, htrim, integerLiteral,
        unsigned_of_isDigit Nat.toDigits_ne_nil isDigit_toDigits, Nat.ofDigitChars_ten_toDigits]
      rfl

/-! ## Bodies -/

/-- The path of `VerificationController.evmToSol`. -/
def evmToSolPath : String := "/api/verify-bridge/evm-to-sol"

/-- The path of `VerificationController.solToEvm`. -/
def solToEvmPath : String := "/api/verify-bridge/sol-to-evm"

/-- The fields of a JSON object whose values are strings. -/
abbrev Body := List (String × String)

/-- `ethers.isAddress` of what may be `undefined`. -/
def isAddress (lib : Libs) (v : Option String) : Bool := v.any lib.isAddress

/-- `BigInt` of what may be `undefined`. -/
def bigIntOf : Option String → Except JsError Int
  | none => .error ⟨.TypeError, "Cannot convert undefined to a BigInt"⟩
  | some s => bigInt s

/-- `findTokenInfo` of what may be `undefined`. -/
def findTokenInfoOf (cfg : Config) : Option String → Except JsError (Option TableEntry)
  | none => .error
      ⟨.TypeError, "Cannot read properties of undefined (reading 'toLowerCase')"⟩
  | some evmAddress => .ok (findTokenInfo cfg evmAddress)

def refuseIf (cond : Prop) [Decidable cond] (message : String) : Except JsError Unit :=
  if cond then .error (badRequest message) else .ok ()

variable (lib : Libs) (cfg : Config) (body : Body)

/-- What `handleEvmToSol` checks of the body, up to `new PublicKey` of the
recipient. -/
def checkEvmToSol : Except JsError Unit := do
  refuseIf (falsy (body.lookup "solanaTransferSignature") = true) "Missing Solana signature"
  refuseIf (falsy (body.lookup "solanaDestination") = true) "Missing Solana destination"
  let evmAmt ← (bigIntOf (body.lookup "amount")).mapError fun _ =>
    badRequest "Invalid amount format"
  refuseIf (evmAmt ≤ 0) "Amount must be greater than 0"
  match ← findTokenInfoOf cfg (body.lookup "token") with
  | none => .error (badRequest
      "Unknown ERC20→SPL mapping. Configure TOKEN_USDC / TOKEN_SOL (and decimals) in env.")
  | some entry => do
      let mapping ← entry.read "mint"
      refuseIf (mapping.sol.mint = "") "Missing SPL mint in token mapping"
      let _ ← (lib.publicKey ((body.lookup "solanaDestination").getD "")).mapError fun e =>
        badRequest ("[EVM->SOL] Solana transfer verification failed: " ++ e.message)
      return ()

/-- What `handleSolToEvm` checks of the body. -/
def checkSolToEvm : Except JsError Unit := do
  refuseIf (isAddress lib (body.lookup "evmRecipient") = false) "Invalid EVM recipient"
  refuseIf (isAddress lib (body.lookup "evmToken") = false) "Invalid EVM token address"
  let _ ← bigIntOf (body.lookup "amount")
  return ()

/-- The DTO, where no field it needs is `undefined`. -/
def readEvmToSol : Option EvmToSolVerificationDto := do
  some
    { requestId := ← body.lookup "requestId"
      ethClaimTxHash := ← body.lookup "ethClaimTxHash"
      solanaTransferSignature := ← body.lookup "solanaTransferSignature"
      solanaDestination := ← body.lookup "solanaDestination"
      amount := ← body.lookup "amount"
      token := ← body.lookup "token"
      evidenceURL := body.lookup "evidenceURL" }

def readSolToEvm : Option SolToEvmVerificationDto := do
  some
    { requestId := ← body.lookup "requestId"
      solanaDepositSignature := ← body.lookup "solanaDepositSignature"
      solanaVault := ← body.lookup "solanaVault"
      amount := ← body.lookup "amount"
      evmRecipient := ← body.lookup "evmRecipient"
      evmToken := ← body.lookup "evmToken"
      solanaMint := body.lookup "solanaMint" }

/-! ## The checks are those of the handlers -/

section Checks

variable {lib cfg body} {env : Setup} {i : Nat} {w w' : World} {α : Type}

def Op.OfSolana (o : Op) : Prop := ∃ signature, o = .getParsedTransaction signature

/-- The program asks Solana for no transaction. -/
def Offline (p : Promise α) : Prop := p.AtMost Op.OfSolana 0

theorem OnTables.offline {p : Promise α} (hp : OnTables p) : Offline p := by
  refine Prog.Only.avoids hp fun o htable hasks => ?_
  obtain ⟨signature, rfl⟩ := hasks
  exact htable

theorem offline_lift {x : Except JsError α} : Offline (liftM x : Promise α) := by
  cases x <;> trivial

/-- Run for the `i`-th call, the program may come to ask for this
transaction. -/
def Asks (env : Setup) (i : Nat) (p : Promise α) (w : World) (signature : String) : Prop :=
  ∃ w', p.Reaches ((service env).answers i) w (.getParsedTransaction signature) w'

theorem Offline.asks_bind {β : Type} {p : Promise α} {f : α → Promise β} (hp : Offline p)
    {signature : String} :
    Asks env i (p >>= f) w signature ↔
      ∃ a w₁, Returns env i p w a w₁ ∧ Asks env i (f a) w₁ signature := by
  simp only [Asks, Prog.AtMost.reaches_bind hp ⟨signature, rfl⟩, Returns]
  constructor
  · intro hasks
    obtain ⟨w', a, w₁, hp, hf⟩ := hasks
    exact ⟨a, w₁, hp, w', hf⟩
  · intro hasks
    obtain ⟨a, w₁, hp, w', hf⟩ := hasks
    exact ⟨w', a, w₁, hp, hf⟩

theorem bind_eq_ok {β : Type} {x : Except JsError α} {f : α → Except JsError β} {b : β} :
    x >>= f = .ok b ↔ ∃ a, x = .ok a ∧ f a = .ok b := by
  cases x <;> simp [bind, Except.bind]

theorem refuseIf_ok {cond : Prop} [Decidable cond] {message : String} {u : Unit} :
    refuseIf cond message = .ok u ↔ ¬ cond := by
  simp [refuseIf]

theorem mapError_ok {x : Except JsError α} {f : JsError → JsError} {a : α} :
    x.mapError f = .ok a ↔ x = .ok a := by
  cases x <;> simp [Except.mapError]

theorem readEvmToSol_some {dto : EvmToSolVerificationDto} :
    readEvmToSol body = some dto ↔ body.lookup "requestId" = some dto.requestId ∧
      body.lookup "ethClaimTxHash" = some dto.ethClaimTxHash ∧
      body.lookup "solanaTransferSignature" = some dto.solanaTransferSignature ∧
      body.lookup "solanaDestination" = some dto.solanaDestination ∧
      body.lookup "amount" = some dto.amount ∧ body.lookup "token" = some dto.token ∧
      body.lookup "evidenceURL" = dto.evidenceURL := by
  obtain ⟨_, _, _, _, _, _, _⟩ := dto
  simp [readEvmToSol, Option.bind_eq_some_iff]

theorem readSolToEvm_some {dto : SolToEvmVerificationDto} :
    readSolToEvm body = some dto ↔ body.lookup "requestId" = some dto.requestId ∧
      body.lookup "solanaDepositSignature" = some dto.solanaDepositSignature ∧
      body.lookup "solanaVault" = some dto.solanaVault ∧
      body.lookup "amount" = some dto.amount ∧
      body.lookup "evmRecipient" = some dto.evmRecipient ∧
      body.lookup "evmToken" = some dto.evmToken ∧
      body.lookup "solanaMint" = dto.solanaMint := by
  obtain ⟨_, _, _, _, _, _, _⟩ := dto
  simp [readSolToEvm, Option.bind_eq_some_iff]

/-- The fields of a body that is accepted. -/
theorem checkEvmToSol_ok {dto : EvmToSolVerificationDto} (hread : readEvmToSol body = some dto) :
    checkEvmToSol lib cfg body = .ok () ↔
      (∃ solAmount mint, dto.Resolves cfg solAmount mint) ∧
        ∃ key, lib.publicKey dto.solanaDestination = .ok key := by
  obtain ⟨-, -, hsig, hdest, hamount, htoken, -⟩ := readEvmToSol_some.mp hread
  simp only [checkEvmToSol, hsig, hdest, hamount, htoken, bigIntOf, findTokenInfoOf, bind_eq_ok,
    refuseIf_ok, mapError_ok, Option.getD_some]
  constructor
  · intro hok
    obtain ⟨_, hsig, _, hdest, evmAmt, hamount, _, hpos, entry, hentry, hok⟩ := hok
    cases Except.ok.inj hentry
    split at hok
    · cases hok
    · next entry hentry =>
      simp only [bind_eq_ok, refuseIf_ok, mapError_ok, TableEntry.read_ok] at hok
      obtain ⟨mapping, rfl, _, hmint, key, hkey, -⟩ := hok
      obtain rfl := findTokenInfo_own hentry
      refine ⟨⟨_, cfg.tokenSol, ?_, ?_, ⟨evmAmt, hamount, by omega, rfl⟩, hentry, hmint, rfl⟩,
        key, hkey⟩
      · simpa [falsy] using hsig
      · simpa [falsy] using hdest
  · intro hspec
    obtain ⟨⟨_, _, hsig, hdest, ⟨evmAmt, hamount, hpos, -⟩, hentry, hmint, rfl⟩, key, hkey⟩ := hspec
    refine ⟨(), by simpa [falsy] using hsig, (), by simpa [falsy] using hdest, evmAmt, hamount,
      (), by omega, _, rfl, ?_⟩
    simp only [hentry, bind_eq_ok, refuseIf_ok, mapError_ok, TableEntry.read_ok]
    exact ⟨_, rfl, (), hmint, key, hkey, rfl⟩

theorem checkSolToEvm_ok {dto : SolToEvmVerificationDto} (hread : readSolToEvm body = some dto) :
    checkSolToEvm lib body = .ok () ↔ lib.isAddress dto.evmRecipient = true ∧
      lib.isAddress dto.evmToken = true ∧ ∃ amount, bigInt dto.amount = .ok amount := by
  obtain ⟨-, -, -, hamount, hrecipient, htoken, -⟩ := readSolToEvm_some.mp hread
  simp only [checkSolToEvm, hamount, hrecipient, htoken, isAddress, bigIntOf, bind_eq_ok,
    refuseIf_ok, Option.any_some, Bool.not_eq_false]
  constructor
  · intro hok
    obtain ⟨_, hrecipient, _, htoken, amount, hamount, -⟩ := hok
    exact ⟨hrecipient, htoken, amount, hamount⟩
  · intro hspec
    obtain ⟨hrecipient, htoken, amount, hamount⟩ := hspec
    exact ⟨(), hrecipient, (), htoken, amount, hamount, rfl⟩

/-- Six tries begin with the first. -/
theorem asks_getTxWithRetry {signature : String} :
    Asks env i (getTxWithRetry signature 6 0 none) w signature :=
  ⟨w, .inl ⟨rfl, rfl⟩⟩

theorem asks_bind {β : Type} {p : Promise α} {f : α → Promise β} {signature : String} :
    Asks env i (p >>= f) w signature ↔ Asks env i p w signature ∨
      ∃ a w₁, Returns env i p w a w₁ ∧ Asks env i (f a) w₁ signature := by
  simp only [Asks, Prog.reaches_bind, exists_or, Returns]
  refine or_congr_right ⟨?_, ?_⟩
  · intro hasks
    obtain ⟨w', a, w₁, hp, hf⟩ := hasks
    exact ⟨a, w₁, hp, w', hf⟩
  · intro hasks
    obtain ⟨a, w₁, hp, w', hf⟩ := hasks
    exact ⟨w', a, w₁, hp, hf⟩

theorem asks_checkSolanaLeg {dto : EvmToSolVerificationDto} {solAmount : Int} {mint : String} :
    Asks env i (checkSolanaLeg lib dto solAmount mint) w dto.solanaTransferSignature ↔
      ∃ key, lib.publicKey dto.solanaDestination = .ok key := by
  constructor
  · intro hasks
    obtain ⟨w', hreach⟩ := hasks
    rcases (Prog.reaches_tryCatch _).mp hreach with hverify | ⟨e, w₁, -, hreject⟩
    · rcases asks_bind.mp ⟨w', hverify⟩ with hverify | ⟨tx, w₁, -, hret⟩
      · obtain ⟨key, w₁, hkey, -⟩ := offline_lift.asks_bind.mp hverify
        exact ⟨key, (returns_lift.mp hkey).1⟩
      · exact absurd hret.choose_spec id
    · exact absurd hreject (Prog.AtMost.not_reaches _ tables_reject.offline ⟨_, rfl⟩)
  · intro hspec
    obtain ⟨key, hkey⟩ := hspec
    obtain ⟨w', hverify⟩ : Asks env i (verifyTransfer lib
        { signature := dto.solanaTransferSignature
          recipient := dto.solanaDestination
          amount := solAmount
          mint := some mint }) w dto.solanaTransferSignature :=
      offline_lift.asks_bind.mpr ⟨key, w, returns_lift.mpr ⟨hkey, rfl⟩,
        asks_bind.mpr (.inl asks_getTxWithRetry)⟩
    exact ⟨w', (Prog.reaches_tryCatch _).mpr (.inl ((Prog.reaches_bind _).mpr (.inl hverify)))⟩

/-- **The checks before the ledger is asked**: on a body with all fields
`handleEvmToSol` comes to ask for the transfer if and only if these pass. -/
theorem asks_handleEvmToSol {dto : EvmToSolVerificationDto}
    (hread : readEvmToSol body = some dto) :
    Asks env i (handleEvmToSol env.lib env.cfg dto) w dto.solanaTransferSignature ↔
      checkEvmToSol env.lib env.cfg body = .ok () := by
  rw [checkEvmToSol_ok hread]
  simp only [handleEvmToSol]
  constructor
  · intro hasks
    obtain ⟨_, w₁, -, hasks⟩ := tables_upsertReceived.offline.asks_bind.mp hasks
    obtain ⟨⟨solAmount, mint⟩, w₂, hresolved, hrest⟩ :=
      tables_resolveAmount.offline.asks_bind.mp hasks
    obtain ⟨hresolves, rfl⟩ := returns_resolveAmount.mp hresolved
    refine ⟨⟨solAmount, mint, hresolves⟩, ?_⟩
    rcases asks_bind.mp hrest with hleg | ⟨_, w₃, hleg, -⟩
    · exact asks_checkSolanaLeg.mp hleg
    · obtain ⟨⟨_, _, _, key, _, _, hkey, -⟩, -⟩ :=
        (returns_checkSolanaLeg hresolves.mint_ne).mp hleg
      exact ⟨key, hkey⟩
  · intro hspec
    obtain ⟨⟨solAmount, mint, hresolves⟩, hkey⟩ := hspec
    exact tables_upsertReceived.offline.asks_bind.mpr ⟨(), _, returns_upsertReceived.mpr rfl,
      tables_resolveAmount.offline.asks_bind.mpr ⟨(solAmount, mint), _,
        returns_resolveAmount.mpr ⟨hresolves, rfl⟩,
        asks_bind.mpr (.inl (asks_checkSolanaLeg.mpr hkey))⟩⟩

/-- On a body with all fields `handleSolToEvm` comes to ask for the deposit
if and only if these pass. -/
theorem asks_handleSolToEvm {dto : SolToEvmVerificationDto}
    (hread : readSolToEvm body = some dto) :
    Asks env i (handleSolToEvm env.lib env.cfg dto) w dto.solanaDepositSignature ↔
      checkSolToEvm env.lib body = .ok () := by
  rw [checkSolToEvm_ok hread]
  simp only [handleSolToEvm]
  constructor
  · intro hasks
    obtain ⟨_, w₁, -, hasks⟩ := tables_upsertReceived.offline.asks_bind.mp hasks
    rcases asks_bind.mp hasks with hchecks | ⟨_, w₂, hchecks, -⟩
    · obtain ⟨_, w₂, hrecipient, hasks⟩ := tables_rejectIf.offline.asks_bind.mp hchecks
      obtain ⟨_, w₃, htoken, hasks⟩ := tables_rejectIf.offline.asks_bind.mp hasks
      obtain ⟨amount, w₄, hamount, -⟩ := offline_lift.asks_bind.mp hasks
      simp only [returns_rejectIf, returns_lift, Bool.not_eq_false] at hrecipient htoken hamount
      exact ⟨hrecipient.1, htoken.1, amount, hamount.1⟩
    · obtain ⟨⟨amount, hnames, -⟩, -⟩ := returns_checkDeposit.mp hchecks
      exact ⟨hnames.recipient, hnames.token, amount, hnames.amount_eq⟩
  · intro hspec
    obtain ⟨hrecipient, htoken, amount, hamount⟩ := hspec
    refine tables_upsertReceived.offline.asks_bind.mpr ⟨(), _, returns_upsertReceived.mpr rfl,
      asks_bind.mpr (.inl ?_)⟩
    exact tables_rejectIf.offline.asks_bind.mpr
      ⟨(), _, returns_rejectIf.mpr ⟨by simp [hrecipient], rfl⟩,
      tables_rejectIf.offline.asks_bind.mpr ⟨(), _, returns_rejectIf.mpr ⟨by simp [htoken], rfl⟩,
      offline_lift.asks_bind.mpr ⟨amount, _, returns_lift.mpr ⟨hamount, rfl⟩,
        asks_bind.mpr (.inl (asks_bind.mpr (.inl asks_getTxWithRetry)))⟩⟩⟩

end Checks

end LunarysBridge.Relayer
