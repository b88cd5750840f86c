/-
LunarysBridge.Lib.Erc20 — the ledger of ERC-20 tokens: who has how much, and
who may spend how much of it.

A ledger changes by moves, and a move that is not allowed leaves no trace.
Two accounts of a history of moves are all that is needed to reason about a
holder. A balance is what it was, with what was credited and less what was
debited (`run_balance`). An allowance the owner does not touch is what
remains of it after what was spent (`run_allowance`), unless it is
unlimited.
-/
import LunarysBridge.Lib.Tally
import Mathlib.Algebra.GroupWithZero.Nat

namespace Erc20

/-- `type(uint256).max`, the allowance that is never used up. -/
def unlimited : Nat := 2 ^ 256 - 1

/-- Tokens, holders and spenders are all accounts. -/
inductive Move (A : Type) where
  | transfer (token sender recipient : A) (amount : Nat)
  | transferFrom (token spender sender recipient : A) (amount : Nat)
  | approve (token owner spender : A) (amount : Nat)
  | mint (token recipient : A) (amount : Nat)
  | burn (token holder : A) (amount : Nat)
  deriving DecidableEq

structure Ledger (A : Type) where
  balanceOf : A → A → Nat
  allowance : A → A → A → Nat

variable {A : Type} [DecidableEq A]

/-! ## Moves -/

/-- Who asks the token for the move. Minting and burning is up to the token. -/
def Move.actor : Move A → Option A
  | .transfer _ sender _ _ => some sender
  | .transferFrom _ spender _ _ _ => some spender
  | .approve _ owner _ _ => some owner
  | .mint _ _ _ => none
  | .burn _ _ _ => none

namespace Ledger

def credit (token holder : A) (amount : Nat) (l : Ledger A) : Ledger A :=
  { l with
    balanceOf := fun t a =>
      if t = token ∧ a = holder then l.balanceOf t a + amount else l.balanceOf t a }

def debit (token holder : A) (amount : Nat) (l : Ledger A) : Option (Ledger A) :=
  if amount ≤ l.balanceOf token holder then
    some { l with
      balanceOf := fun t a =>
        if t = token ∧ a = holder then l.balanceOf t a - amount else l.balanceOf t a }
  else none

def approve (token owner spender : A) (amount : Nat) (l : Ledger A) : Ledger A :=
  { l with
    allowance := fun t o s =>
      if t = token ∧ o = owner ∧ s = spender then amount else l.allowance t o s }

/-- `_spendAllowance` -/
def spend (token owner spender : A) (amount : Nat) (l : Ledger A) : Option (Ledger A) :=
  if l.allowance token owner spender < unlimited then
    if amount ≤ l.allowance token owner spender then
      some (l.approve token owner spender (l.allowance token owner spender - amount))
    else none
  else some l

end Ledger

/-- The ledger after a move; `none` when the token reverts. -/
def Move.apply : Move A → Ledger A → Option (Ledger A)
  | .transfer token sender recipient amount, l =>
      (l.debit token sender amount).map (Ledger.credit token recipient amount)
  | .transferFrom token spender sender recipient amount, l =>
      (l.spend token sender spender amount).bind fun l =>
        (l.debit token sender amount).map (Ledger.credit token recipient amount)
  | .approve token owner spender amount, l => some (l.approve token owner spender amount)
  | .mint token recipient amount, l => some (l.credit token recipient amount)
  | .burn token holder amount, l => l.debit token holder amount

/-- The moves one after the other. -/
def run : List (Move A) → Ledger A → Option (Ledger A)
  | [], l => some l
  | m :: ms, l => (m.apply l).bind (run ms)

theorem run_append {ms₁ ms₂ : List (Move A)} {l l₁ : Ledger A} (h : run ms₁ l = some l₁) :
    run (ms₁ ++ ms₂) l = run ms₂ l₁ := by
  induction ms₁ generalizing l with
  | nil =>
      cases h
      rfl
  | cons m ms₁ ih =>
      obtain ⟨l₂, happly, hrun⟩ := Option.bind_eq_some_iff.mp h
      show (m.apply l).bind (run (ms₁ ++ ms₂)) = run ms₂ l₁
      rw [happly, Option.bind_some]
      exact ih hrun

/-! ## Balances -/

/-- What a move takes from a holder. -/
def Move.debit (token holder : A) : Move A → Nat
  | .transfer t sender _ amount => if t = token ∧ sender = holder then amount else 0
  | .transferFrom t _ sender _ amount => if t = token ∧ sender = holder then amount else 0
  | .burn t a amount => if t = token ∧ a = holder then amount else 0
  | .approve _ _ _ _ => 0
  | .mint _ _ _ => 0

/-- What a move gives to a holder. -/
def Move.credit (token holder : A) : Move A → Nat
  | .transfer t _ recipient amount => if t = token ∧ recipient = holder then amount else 0
  | .transferFrom t _ _ recipient amount => if t = token ∧ recipient = holder then amount else 0
  | .mint t a amount => if t = token ∧ a = holder then amount else 0
  | .approve _ _ _ _ => 0
  | .burn _ _ _ => 0

def debited (token holder : A) (ms : List (Move A)) : Nat :=
  Tally.total (Move.debit token holder) ms

def credited (token holder : A) (ms : List (Move A)) : Nat :=
  Tally.total (Move.credit token holder) ms

theorem balance_credit (token holder t a : A) (amount : Nat) (l : Ledger A) :
    (l.credit t a amount).balanceOf token holder =
      l.balanceOf token holder + if t = token ∧ a = holder then amount else 0 := by
  by_cases h : t = token ∧ a = holder
  · obtain ⟨rfl, rfl⟩ := h
    simp [Ledger.credit]
  · have h' : ¬ (token = t ∧ holder = a) := fun heq => h ⟨heq.1.symm, heq.2.symm⟩
    simp [Ledger.credit, h, h']

theorem balance_debit {t a : A} {amount : Nat} {l l' : Ledger A}
    (h : l.debit t a amount = some l') (token holder : A) :
    l'.balanceOf token holder + (if t = token ∧ a = holder then amount else 0) =
      l.balanceOf token holder := by
  simp only [Ledger.debit, Option.ite_none_right_eq_some, Option.some.injEq] at h
  obtain ⟨hle, rfl⟩ := h
  by_cases heq : t = token ∧ a = holder
  · obtain ⟨rfl, rfl⟩ := heq
    simp only [and_self, if_true]
    omega
  · have h' : ¬ (token = t ∧ holder = a) := fun heq' => heq ⟨heq'.1.symm, heq'.2.symm⟩
    simp [heq, h']

theorem balance_spend {token owner spender : A} {amount : Nat} {l l' : Ledger A}
    (h : l.spend token owner spender amount = some l') : l'.balanceOf = l.balanceOf := by
  unfold Ledger.spend at h
  split at h
  · split at h
    · cases h
      rfl
    · cases h
  · cases h
    rfl

theorem balance_apply {m : Move A} {l l' : Ledger A} (h : m.apply l = some l')
    (token holder : A) :
    l'.balanceOf token holder + m.debit token holder =
      l.balanceOf token holder + m.credit token holder := by
  cases m with
  | transfer t sender recipient amount =>
      obtain ⟨l₁, hdebit, rfl⟩ := Option.map_eq_some_iff.mp h
      have hless := balance_debit hdebit token holder
      rw [balance_credit]
      simp only [Move.debit, Move.credit]
      omega
  | transferFrom t spender sender recipient amount =>
      obtain ⟨l₁, hspend, h⟩ := Option.bind_eq_some_iff.mp h
      obtain ⟨l₂, hdebit, rfl⟩ := Option.map_eq_some_iff.mp h
      have hless := balance_debit hdebit token holder
      rw [balance_spend hspend] at hless
      rw [balance_credit]
      simp only [Move.debit, Move.credit]
      omega
  | approve t owner spender amount =>
      cases h
      rfl
  | mint t recipient amount =>
      cases h
      rw [balance_credit]
      rfl
  | burn t a amount => exact balance_debit h token holder

/-- **The balance of a holder** is what it was, with what was credited and
less what was debited. -/
theorem run_balance {ms : List (Move A)} {l l' : Ledger A} (h : run ms l = some l')
    (token holder : A) :
    l'.balanceOf token holder + debited token holder ms =
      l.balanceOf token holder + credited token holder ms := by
  induction ms generalizing l with
  | nil =>
      cases h
      rfl
  | cons m ms ih =>
      obtain ⟨l₁, happly, hrun⟩ := Option.bind_eq_some_iff.mp h
      have hstep := balance_apply happly token holder
      have hrest := ih hrun
      simp only [debited, credited, Tally.total_cons] at hrest ⊢
      omega

/-! ## Allowances -/

/-- What a move spends of an allowance. -/
def Move.spent (token owner spender : A) : Move A → Nat
  | .transferFrom t s sender _ amount =>
      if t = token ∧ sender = owner ∧ s = spender then amount else 0
  | _ => 0

def spent (token owner spender : A) (ms : List (Move A)) : Nat :=
  Tally.total (Move.spent token owner spender) ms

/-- What is left of an allowance. -/
def remaining (allowed amount : Nat) : Nat :=
  if allowed < unlimited then allowed - amount else allowed

theorem remaining_zero (allowed : Nat) : remaining allowed 0 = allowed := by
  simp [remaining]

theorem remaining_add (allowed a b : Nat) :
    remaining (remaining allowed a) b = remaining allowed (a + b) := by
  unfold remaining
  by_cases h : allowed < unlimited
  · rw [if_pos h, if_pos (by omega), if_pos h]
    omega
  · rw [if_neg h, if_neg h, if_neg h]

theorem allowance_approve (token owner spender t o s : A) (amount : Nat) (l : Ledger A) :
    (l.approve t o s amount).allowance token owner spender =
      if t = token ∧ o = owner ∧ s = spender then amount
      else l.allowance token owner spender := by
  by_cases h : t = token ∧ o = owner ∧ s = spender
  · obtain ⟨rfl, rfl, rfl⟩ := h
    simp [Ledger.approve]
  · have h' : ¬ (token = t ∧ owner = o ∧ spender = s) :=
      fun heq => h ⟨heq.1.symm, heq.2.1.symm, heq.2.2.symm⟩
    simp [Ledger.approve, h, h']

theorem allowance_spend {token owner spender t o s : A} {amount : Nat} {l l' : Ledger A}
    (h : l.spend t o s amount = some l') :
    l'.allowance token owner spender = remaining (l.allowance token owner spender)
      (if t = token ∧ o = owner ∧ s = spender then amount else 0) := by
  by_cases heq : t = token ∧ o = owner ∧ s = spender
  · obtain ⟨rfl, rfl, rfl⟩ := heq
    simp only [and_self, if_true, remaining]
    unfold Ledger.spend at h
    split at h
    · next hlimited =>
      split at h
      · cases h
        rw [allowance_approve, if_pos hlimited]
        simp
      · cases h
    · next hlimited =>
      cases h
      rw [if_neg hlimited]
  · rw [if_neg heq, remaining_zero]
    unfold Ledger.spend at h
    split at h
    · split at h
      · cases h
        rw [allowance_approve, if_neg heq]
      · cases h
    · cases h
      rfl

theorem allowance_debit {token holder : A} {amount : Nat} {l l' : Ledger A}
    (h : l.debit token holder amount = some l') : l'.allowance = l.allowance := by
  simp only [Ledger.debit, Option.ite_none_right_eq_some, Option.some.injEq] at h
  obtain ⟨_, rfl⟩ := h
  rfl

/-- What a move makes of an allowance, if it approves it. -/
def Move.approved (token owner spender : A) : Move A → Option Nat
  | .approve t o s amount => if t = token ∧ o = owner ∧ s = spender then some amount else none
  | _ => none

/-- An allowance is the owner's to set. -/
theorem approved_of_other {m : Move A} {owner : A} (hother : m.actor ≠ some owner)
    (token spender : A) : m.approved token owner spender = none := by
  cases m with
  | approve t o s amount => exact if_neg fun heq => hother (congrArg some heq.2.1)
  | _ => rfl

theorem allowance_apply {m : Move A} {l l' : Ledger A} (h : m.apply l = some l')
    (token owner spender : A) :
    l'.allowance token owner spender = (m.approved token owner spender).getD
      (remaining (l.allowance token owner spender) (m.spent token owner spender)) := by
  cases m with
  | transfer t sender recipient amount =>
      obtain ⟨l₁, hdebit, rfl⟩ := Option.map_eq_some_iff.mp h
      simp only [Ledger.credit, allowance_debit hdebit]
      exact (remaining_zero _).symm
  | transferFrom t s sender recipient amount =>
      obtain ⟨l₁, hspend, h⟩ := Option.bind_eq_some_iff.mp h
      obtain ⟨l₂, hdebit, rfl⟩ := Option.map_eq_some_iff.mp h
      simp only [Ledger.credit, allowance_debit hdebit]
      exact allowance_spend hspend
  | approve t o s amount =>
      cases h
      rw [allowance_approve]
      simp only [Move.approved]
      split
      · rfl
      · exact (remaining_zero _).symm
  | mint t recipient amount =>
      cases h
      exact (remaining_zero _).symm
  | burn t a amount =>
      rw [allowance_debit h]
      exact (remaining_zero _).symm

/-- **An allowance** the owner leaves alone is what remains of it. -/
theorem run_allowance {ms : List (Move A)} {l l' : Ledger A} {owner : A}
    (hothers : ∀ m ∈ ms, m.actor ≠ some owner) (h : run ms l = some l') (token spender : A) :
    l'.allowance token owner spender =
      remaining (l.allowance token owner spender) (spent token owner spender ms) := by
  induction ms generalizing l with
  | nil =>
      cases h
      exact (remaining_zero _).symm
  | cons m ms ih =>
      obtain ⟨l₁, happly, hrun⟩ := Option.bind_eq_some_iff.mp h
      obtain ⟨hhead, htail⟩ := List.forall_mem_cons.mp hothers
      rw [ih htail hrun, allowance_apply happly, approved_of_other hhead, Option.getD_none,
        remaining_add]
      rfl

end Erc20
