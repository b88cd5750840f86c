/-
LunarysBridge.Relayer.Evidence — what the token balances of a transaction
say.

A transaction makes a list of moves on the token accounts, and its metadata
lists the accounts that are there before it and after it, in some order. The
difference of the two sums of an owner in a mint is what came in to the
owner less what went out (`tokenDelta_eq`). So the service takes a
transaction exactly when that is at least the amount it was told
(`evidence_is_net_inflow`).
-/
import LunarysBridge.Lib.Holdings
import LunarysBridge.Relayer.ErrorPath

namespace LunarysBridge.Relayer

open Async

/-! ## Token accounts -/

/-- Whose a token account is, and the mint of its tokens. -/
structure AccountKind where
  owner : String
  mint : String
  deriving DecidableEq

abbrev TokenAccounts := Holdings String AccountKind

abbrev TokenMove := Holdings.Move String AccountKind

/-- Tokens are paid between accounts of one mint. -/
def SameMint (a b : AccountKind) : Prop := a.mint = b.mint

instance : DecidableRel SameMint := fun a b => decEq a.mint b.mint

/-- The entry of an account in the metadata. -/
def tokenBalance (a : Holding AccountKind) : TokenBalance where
  owner := some a.kind.owner
  mint := a.kind.mint
  amount := a.amount

def TokenAccounts.balances (accounts : TokenAccounts) : List TokenBalance :=
  accounts.entries.map fun e => tokenBalance e.2

/-- The transaction makes these moves. -/
structure ParsedTransaction.Executes (tx : ParsedTransaction) (moves : List TokenMove)
    (before after : TokenAccounts) : Prop where
  run : before.run SameMint moves = some after
  pre : tx.preTokenBalances.Perm before.balances
  post : tx.postTokenBalances.Perm after.balances

theorem u64_nil : ∀ n ∈ ([] : List Nat), n < 2 ^ 64 := List.forall_mem_nil _

theorem supplied_of_lt {l : List TokenBalance} (h : (l.map (·.amount)).sum < 2 ^ 64) :
    Supplied l := by
  intro mint
  have hle := sum_filter_le (l := l) (p := (·.mint == mint)) (q := fun _ => true) fun _ _ => rfl
  rw [List.filter_true] at hle
  exact Nat.lt_of_le_of_lt hle h

section Sums

variable (owner mint : String)

/-- What is paid to the owner, in the mint. -/
def TokenAccounts.inflow (before : TokenAccounts) (moves : List TokenMove) : Nat :=
  Holdings.inflow SameMint (· = ⟨owner, mint⟩) before moves

/-- What the owner pays, in the mint. -/
def TokenAccounts.outflow (before : TokenAccounts) (moves : List TokenMove) : Nat :=
  Holdings.outflow SameMint (· = ⟨owner, mint⟩) before moves

theorem sumOwnerMint_perm {l l' : List TokenBalance} (h : l.Perm l') :
    sumOwnerMint l owner mint = sumOwnerMint l' owner mint :=
  ((h.filter _).map _).sum_eq

theorem sumOwnerMint_cons (b : TokenBalance) (l : List TokenBalance) :
    sumOwnerMint (b :: l) owner mint =
      (if b.owner = some owner ∧ b.mint = mint then b.amount else 0) +
        sumOwnerMint l owner mint := by
  unfold sumOwnerMint
  by_cases hb : b.owner = some owner ∧ b.mint = mint
  · simp [hb.1, hb.2]
  · have hno : (b.owner == some owner && b.mint == mint) = false := by
      simpa using hb
    rw [List.filter_cons_of_neg (by simp [hno]), if_neg hb, Nat.zero_add]

/-- The sum over the list is what the accounts of the owner hold. -/
theorem sumOwnerMint_balances (accounts : TokenAccounts) :
    sumOwnerMint accounts.balances owner mint = accounts.held (· = ⟨owner, mint⟩) := by
  unfold TokenAccounts.balances Holdings.held Table.total
  induction accounts.entries with
  | nil => rfl
  | cons e entries ih =>
      have hclass : ((tokenBalance e.2).owner = some owner ∧ (tokenBalance e.2).mint = mint) ↔
          e.2.kind = ⟨owner, mint⟩ := by
        rw [AccountKind.mk.injEq]
        simp [tokenBalance]
      rw [List.map_cons, sumOwnerMint_cons, ih, List.map_cons, List.sum_cons]
      simp only [hclass]
      rfl

/-- The delta of an owner in a mint is the net inflow. -/
theorem tokenDelta_eq {tx : ParsedTransaction} {moves : List TokenMove}
    {before after : TokenAccounts} (h : tx.Executes moves before after) :
    tx.tokenDelta owner mint =
      (before.inflow owner mint moves : Int) - before.outflow owner mint moves := by
  have hflow := Holdings.run_flow (P := (· = ⟨owner, mint⟩)) h.run
  unfold ParsedTransaction.tokenDelta
  rw [sumOwnerMint_perm owner mint h.pre, sumOwnerMint_perm owner mint h.post,
    sumOwnerMint_balances, sumOwnerMint_balances]
  unfold TokenAccounts.inflow TokenAccounts.outflow
  omega

/-- Paid from one account of the owner to another is neither paid nor
received. -/
theorem flow_own {accounts : TokenAccounts} {source dest : String} {a b : Holding AccountKind}
    (ha : accounts.lookup source = some a) (hb : accounts.lookup dest = some b)
    (hmint : SameMint a.kind b.kind) (hsource : a.kind.owner = owner)
    (hdest : b.kind.owner = owner) (amount : Nat) :
    accounts.flowIn (· = ⟨owner, mint⟩) (.transfer source dest amount) = 0 ∧
      accounts.flowOut (· = ⟨owner, mint⟩) (.transfer source dest amount) = 0 := by
  have hsame : a.kind.mint = b.kind.mint := hmint
  have hkind : a.kind = b.kind := by
    calc a.kind = ⟨a.kind.owner, a.kind.mint⟩ := rfl
      _ = ⟨b.kind.owner, b.kind.mint⟩ := by rw [hsource, hdest, hsame]
  have hclass : accounts.InClass (· = ⟨owner, mint⟩) source ↔
      accounts.InClass (· = ⟨owner, mint⟩) dest := by
    rw [Holdings.inClass_iff ha, Holdings.inClass_iff hb, hkind]
  exact ⟨if_neg fun h => h.2 (hclass.mpr h.1), if_neg fun h => h.2 (hclass.mp h.1)⟩

end Sums

/-! ## What the service accepts -/

section Accepts

variable {σ : Type} {out : Outcomes σ} {s : σ} {lib : Libs} {tx : ParsedTransaction}

/-- The call returns, in these outcomes. -/
def Outcomes.Accepts (out : Outcomes σ) (call : Promise ParsedTransaction) (s : σ) : Prop :=
  ∃ tx s', out.Ends call s (.ok tx) s'

/-- No other transaction is read. -/
theorem Outcomes.Finds.unique {sig : String} {tx' : ParsedTransaction} {s' : σ}
    (h : out.Finds sig tx 6 0 s) (h' : out.Ends (getTxWithRetry sig 6 0 none) s (.ok tx') s') :
    tx' = tx := by
  obtain ⟨s₁, hends⟩ := Outcomes.finds_iff.mp h
  have hpost : (getTxWithRetry sig 6 0 none).Post out.answer (fun a _ => a = tx)
      (fun _ _ => False) s := (Prog.ends_answered hends).mpr rfl
  exact (Prog.ends_answered h').mp hpost

theorem accepts_verifyTransfer {p : VerifyTransferParams} {mint owner key ata : String}
    (hfinds : out.Finds p.signature tx 6 0 s) (hp : p.mint = some mint) (hmint : mint ≠ "")
    (howner : lib.publicKey p.recipient = .ok owner) (hkey : lib.publicKey mint = .ok key)
    (hcurve : lib.getAssociatedTokenAddress key owner false = .ok ata) :
    out.Accepts (verifyTransfer lib p) s ↔ p.amount ≤ tx.tokenDelta owner key := by
  constructor
  · rintro ⟨tx', s', hends⟩
    obtain ⟨owner', key', _, howner', hkey', -, hfound, hge⟩ :=
      (ends_verifyTransfer hp hmint).mp hends
    rw [howner] at howner'
    rw [hkey] at hkey'
    cases howner'
    cases hkey'
    rw [← hfinds.unique hfound]
    exact hge
  · intro hge
    obtain ⟨s', hfound⟩ := Outcomes.finds_iff.mp hfinds
    exact ⟨tx, s', (ends_verifyTransfer hp hmint).mpr
      ⟨owner, key, ata, howner, hkey, hcurve, hfound, hge⟩⟩

theorem accepts_verifyDeposit {p : VerifyDepositParams} {mint vault key : String}
    (hfinds : out.Finds p.signature tx 6 0 s) (hp : p.mint = some mint) (hmint : mint ≠ "")
    (hprogram : checkProgram p.programId tx = .ok ())
    (hvault : lib.publicKey p.vault = .ok vault) (hkey : lib.publicKey mint = .ok key) :
    out.Accepts (verifyDeposit lib p) s ↔ p.amount ≤ tx.tokenDelta vault key := by
  have hspl : ¬ falsy p.mint = true := by simp [falsy, hp, hmint]
  have hkey' : lib.publicKey (p.mint.getD "") = .ok key := by rw [hp]; exact hkey
  constructor
  · rintro ⟨tx', s', hends⟩
    obtain ⟨vault', hvault', hfound, -, hdeposits⟩ := ends_verifyDeposit.mp hends
    rw [ParsedTransaction.Deposits, if_neg hspl] at hdeposits
    obtain ⟨key₁, hkey₁, hge⟩ := hdeposits
    rw [hvault] at hvault'
    rw [hkey'] at hkey₁
    cases hvault'
    cases hkey₁
    rw [← hfinds.unique hfound]
    exact hge
  · intro hge
    obtain ⟨s', hfound⟩ := Outcomes.finds_iff.mp hfinds
    refine ⟨tx, s', ends_verifyDeposit.mpr ⟨vault, hvault, hfound, hprogram, ?_⟩⟩
    rw [ParsedTransaction.Deposits, if_neg hspl]
    exact ⟨key, hkey', hge⟩

end Accepts

/-- **The evidence is the net inflow.** -/
theorem evidence_is_net_inflow {tx : ParsedTransaction} {moves : List TokenMove}
    {before after : TokenAccounts} (htx : tx.Executes moves before after) (owner mint : String) :
    (sumOwnerMint tx.postTokenBalances owner mint : Int) -
        sumOwnerMint tx.preTokenBalances owner mint =
      (before.inflow owner mint moves : Int) - before.outflow owner mint moves ∧
    (∀ (accounts : TokenAccounts) source dest amount a b,
      accounts.lookup source = some a → accounts.lookup dest = some b →
      SameMint a.kind b.kind → a.kind.owner = owner → b.kind.owner = owner →
      accounts.flowIn (· = ⟨owner, mint⟩) (.transfer source dest amount) = 0 ∧
        accounts.flowOut (· = ⟨owner, mint⟩) (.transfer source dest amount) = 0) ∧
    ∀ {σ : Type} (out : Outcomes σ) (s : σ) (lib : Libs) (given : String), given ≠ "" →
      lib.publicKey given = .ok mint →
      (∀ p : VerifyTransferParams, p.mint = some given → lib.publicKey p.recipient = .ok owner →
        (∃ ata, lib.getAssociatedTokenAddress mint owner false = .ok ata) →
        out.Finds p.signature tx 6 0 s →
        (out.Accepts (verifyTransfer lib p) s ↔
          p.amount ≤ (before.inflow owner mint moves : Int) - before.outflow owner mint moves)) ∧
      ∀ p : VerifyDepositParams, p.mint = some given → lib.publicKey p.vault = .ok owner →
        checkProgram p.programId tx = .ok () → out.Finds p.signature tx 6 0 s →
        (out.Accepts (verifyDeposit lib p) s ↔
          p.amount ≤ (before.inflow owner mint moves : Int) - before.outflow owner mint moves) := by
  have hdelta := tokenDelta_eq owner mint htx
  refine ⟨hdelta, fun accounts source dest amount a b ha hb hmint hsource hdest =>
    flow_own owner mint ha hb hmint hsource hdest amount, ?_⟩
  intro σ out s lib given hgiven hkey
  constructor
  · rintro p hp howner ⟨ata, hcurve⟩ hfinds
    rw [accepts_verifyTransfer hfinds hp hgiven howner hkey hcurve, hdelta]
  · intro p hp hvault hprogram hfinds
    rw [accepts_verifyDeposit hfinds hp hgiven hprogram hvault hkey, hdelta]

namespace Sample

def payer : AccountKind := ⟨"7NL5kRxFPpeFvSxAKmWuPMNeNcHYB8nHsHd4xYUTkTkg", mint⟩

def recipient : AccountKind := ⟨owner, mint⟩

/-- The payer holds ten units, the recipient one. -/
def holding : TokenAccounts :=
  ((∅ : TokenAccounts).insert "payer" ⟨payer, 10⟩).insert "old" ⟨recipient, 1⟩

/-- Four units come in to a new account, from where they go on. -/
def paying : List TokenMove :=
  [.create "new" recipient, .transfer "payer" "new" 4, .transfer "new" "old" 4, .close "new"]

def heldAfter : TokenAccounts :=
  ((∅ : TokenAccounts).insert "payer" ⟨payer, 6⟩).insert "old" ⟨recipient, 5⟩

def payment : ParsedTransaction where
  accountKeys := ["payer", "old", "new", tokenProgramId]
  programs := [tokenProgramId]
  meta? := some
    { err := none
      preBalances := []
      postBalances := []
      preTokenBalances := holding.balances
      postTokenBalances := heldAfter.balances
      post_u64 := u64_nil
      post_supplied := supplied_of_lt (by decide +kernel) }
  programs_mem := List.forall_mem_singleton.mpr (.tail _ (.tail _ (.tail _ (.head _))))

theorem payment_executes : payment.Executes paying holding heldAfter where
  run := rfl
  pre := .refl _
  post := .refl _

/-- The node of Solana shows the payment at once. -/
theorem payment_found :
    (World.outcomes setup 0).Finds signature payment 6 0 (world payment Evm.Sample.claimed) :=
  .here rfl ⟨_, rfl, rfl⟩

end Sample

/-- Four units are evidence of four, and not of five. -/
theorem evidence_is_net_inflow_four :
    (World.outcomes Sample.setup 0).Accepts
        (verifyTransfer Sample.lib ⟨Sample.signature, Sample.owner, 4, some Sample.mint⟩)
        (Sample.world Sample.payment Evm.Sample.claimed) ∧
      ¬ (World.outcomes Sample.setup 0).Accepts
        (verifyDeposit Sample.lib ⟨Sample.signature, Sample.owner, 5, some Sample.mint, none⟩)
        (Sample.world Sample.payment Evm.Sample.claimed) := by
  obtain ⟨-, -, haccepts⟩ := evidence_is_net_inflow Sample.payment_executes Sample.owner Sample.mint
  obtain ⟨htransfer, hdeposit⟩ := haccepts (World.outcomes Sample.setup 0)
    (Sample.world Sample.payment Evm.Sample.claimed) Sample.lib Sample.mint (by decide) rfl
  constructor
  · exact (htransfer ⟨Sample.signature, Sample.owner, 4, some Sample.mint⟩ rfl rfl ⟨_, rfl⟩
      Sample.payment_found).mpr (by decide +kernel)
  · intro hno
    have hge := (hdeposit ⟨Sample.signature, Sample.owner, 5, some Sample.mint, none⟩ rfl rfl
      checkProgram_none Sample.payment_found).mp hno
    exact absurd hge (by decide +kernel)

end LunarysBridge.Relayer
