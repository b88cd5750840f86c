/-
LunarysBridge.Lib.Holdings — accounts of a kind each, opened, closed and
paid from one to the other.

Every account holds an amount and is of one kind. Accounts come and go
while a list of moves is made, and only an empty one goes. A transfer needs
two accounts that may pay each other, which is a parameter. `run_flow` adds
up what the accounts of a class of kinds hold: it changes by what came in
from outside the class and what went out of it.
-/
import LunarysBridge.Lib.Table

structure Holding (κ : Type) where
  kind : κ
  amount : Nat
  deriving DecidableEq

abbrev Holdings (α κ : Type) := Table α (Holding κ)

namespace Holdings

inductive Move (α κ : Type) where
  | transfer (source dest : α) (amount : Nat)
  /-- A new account, with nothing in it. -/
  | create (account : α) (kind : κ)
  | close (account : α)
  deriving DecidableEq

variable {α κ : Type} [DecidableEq α] (pays : κ → κ → Prop) [DecidableRel pays]

/-- The accounts after an amount went from the one to the other. -/
def pay (s : Holdings α κ) (source dest : α) (a b : Holding κ) (amount : Nat) : Holdings α κ :=
  if source = dest then s
  else (s.insert source { a with amount := a.amount - amount }).insert dest
    { b with amount := b.amount + amount }

/-- One move; `none` when it is refused. -/
def step (s : Holdings α κ) : Move α κ → Option (Holdings α κ)
  | .transfer source dest amount => do
      let a ← s.lookup source
      let b ← s.lookup dest
      if pays a.kind b.kind ∧ amount ≤ a.amount then some (s.pay source dest a b amount)
      else none
  | .create account kind =>
      if s.lookup account = none then some (s.insert account ⟨kind, 0⟩) else none
  | .close account => do
      let a ← s.lookup account
      if a.amount = 0 then some (s.erase account) else none

def run (s : Holdings α κ) : List (Move α κ) → Option (Holdings α κ)
  | [] => some s
  | m :: moves => do
      let s' ← s.step pays m
      run s' moves

variable {pays} in
/-- What a move does that is not refused. -/
theorem step_cases {s s' : Holdings α κ} {m : Move α κ} (h : s.step pays m = some s') :
    (∃ source dest amount a b, m = .transfer source dest amount ∧ s.lookup source = some a ∧
      s.lookup dest = some b ∧ pays a.kind b.kind ∧ amount ≤ a.amount ∧
      s' = s.pay source dest a b amount) ∨
    (∃ account kind, m = .create account kind ∧ s.lookup account = none ∧
      s' = s.insert account ⟨kind, 0⟩) ∨
    (∃ account a, m = .close account ∧ s.lookup account = some a ∧ a.amount = 0 ∧
      s' = s.erase account) := by
  cases m with
  | transfer source dest amount =>
      obtain ⟨a, ha, h⟩ := Option.bind_eq_some_iff.mp h
      obtain ⟨b, hb, h⟩ := Option.bind_eq_some_iff.mp h
      split at h
      · next hcond =>
        cases h
        exact .inl ⟨source, dest, amount, a, b, rfl, ha, hb, hcond.1, hcond.2, rfl⟩
      · cases h
  | create account kind =>
      simp only [step] at h
      split at h
      · next hfree =>
        cases h
        exact .inr (.inl ⟨account, kind, rfl, hfree, rfl⟩)
      · cases h
  | close account =>
      obtain ⟨a, ha, h⟩ := Option.bind_eq_some_iff.mp h
      split at h
      · next hempty =>
        cases h
        exact .inr (.inr ⟨account, a, rfl, ha, hempty, rfl⟩)
      · cases h

/-! ## A class of accounts -/

section Class

variable (P : κ → Prop)

/-- The account is there, and of the class. -/
def InClass (s : Holdings α κ) (account : α) : Prop :=
  ∃ a ∈ s.lookup account, P a.kind

variable {P} in
theorem inClass_iff {s : Holdings α κ} {account : α} {a : Holding κ}
    (h : s.lookup account = some a) : s.InClass P account ↔ P a.kind := by
  simp [InClass, h]

variable [DecidablePred P]

instance (s : Holdings α κ) (account : α) : Decidable (s.InClass P account) :=
  match h : s.lookup account with
  | none => .isFalse (by simp [InClass, h])
  | some a => decidable_of_iff (P a.kind) (by simp [InClass, h])

/-- What the accounts of the class hold. -/
def held (s : Holdings α κ) : Nat :=
  s.total fun _ a => if P a.kind then a.amount else 0

/-- What a move brings into the class from outside it. -/
def flowIn (s : Holdings α κ) : Move α κ → Nat
  | .transfer source dest amount =>
      if s.InClass P dest ∧ ¬ s.InClass P source then amount else 0
  | _ => 0

/-- What a move takes out of the class. -/
def flowOut (s : Holdings α κ) : Move α κ → Nat
  | .transfer source dest amount =>
      if s.InClass P source ∧ ¬ s.InClass P dest then amount else 0
  | _ => 0

/-- What the moves bring in, each at the accounts it finds. -/
def inflow (s : Holdings α κ) : List (Move α κ) → Nat
  | [] => 0
  | m :: moves => s.flowIn P m + ((s.step pays m).map fun s' => inflow s' moves).getD 0

def outflow (s : Holdings α κ) : List (Move α κ) → Nat
  | [] => 0
  | m :: moves => s.flowOut P m + ((s.step pays m).map fun s' => outflow s' moves).getD 0

variable {P pays} {s s' : Holdings α κ}

theorem inflow_singleton (m : Move α κ) : s.inflow pays P [m] = s.flowIn P m := by
  unfold inflow
  cases s.step pays m <;> rfl

theorem outflow_singleton (m : Move α κ) : s.outflow pays P [m] = s.flowOut P m := by
  unfold outflow
  cases s.step pays m <;> rfl

/-- A transfer from outside comes in whole. -/
theorem flow_into {source dest : α} (hs : ¬ s.InClass P source) (hd : s.InClass P dest)
    (amount : Nat) : s.flowIn P (.transfer source dest amount) = amount ∧
      s.flowOut P (.transfer source dest amount) = 0 :=
  ⟨if_pos ⟨hd, hs⟩, if_neg fun h => hs h.1⟩

theorem held_pay {source dest : α} {a b : Holding κ} {amount : Nat}
    (ha : s.lookup source = some a) (hb : s.lookup dest = some b) (hle : amount ≤ a.amount) :
    (s.pay source dest a b amount).held P + s.flowOut P (.transfer source dest amount) =
      s.held P + s.flowIn P (.transfer source dest amount) := by
  simp only [flowOut, flowIn, inClass_iff ha, inClass_iff hb]
  unfold pay
  split
  · next heq =>
    subst heq
    rw [ha] at hb
    cases hb
    simp
  · next hne =>
    have hdest : (s.insert source { a with amount := a.amount - amount }).lookup dest = some b := by
      rw [AList.lookup_insert_ne (Ne.symm hne), hb]
    have hdebit := Table.total_change
      (f := fun _ (x : Holding κ) => if P x.kind then x.amount else 0) ha
      { a with amount := a.amount - amount }
    have hcredit := Table.total_change
      (f := fun _ (x : Holding κ) => if P x.kind then x.amount else 0) hdest
      { b with amount := b.amount + amount }
    unfold held
    by_cases hPa : P a.kind <;> by_cases hPb : P b.kind <;>
      simp only [hPa, hPb, if_true, if_false, not_true, not_false_eq_true, and_self, and_true,
        and_false] at hdebit hcredit ⊢ <;>
      omega

theorem step_flow {m : Move α κ} (h : s.step pays m = some s') :
    s'.held P + s.flowOut P m = s.held P + s.flowIn P m := by
  rcases step_cases h with ⟨source, dest, amount, a, b, rfl, ha, hb, -, hle, rfl⟩ |
    ⟨account, kind, rfl, hfree, rfl⟩ | ⟨account, a, rfl, ha, hempty, rfl⟩
  · exact held_pay ha hb hle
  · have hinsert := Table.total_insert
      (f := fun _ (x : Holding κ) => if P x.kind then x.amount else 0) (b := ⟨kind, 0⟩) hfree
    simp only [ite_self, Nat.add_zero] at hinsert
    exact hinsert
  · have herase := Table.total_erase
      (f := fun _ (x : Holding κ) => if P x.kind then x.amount else 0) ha
    simp only [hempty, ite_self, Nat.add_zero] at herase
    exact herase.symm

/-- **What a class holds changes by what comes in and what goes out.** -/
theorem run_flow {moves : List (Move α κ)} : ∀ {s : Holdings α κ}, s.run pays moves = some s' →
    s'.held P + s.outflow pays P moves = s.held P + s.inflow pays P moves := by
  induction moves with
  | nil =>
      intro s h
      cases h
      rfl
  | cons m moves ih =>
      intro s h
      obtain ⟨s₁, hstep, hrest⟩ := Option.bind_eq_some_iff.mp h
      have hone := step_flow (P := P) hstep
      have hmany := ih hrest
      simp only [outflow, inflow, hstep, Option.map_some, Option.getD_some]
      omega

end Class

end Holdings
