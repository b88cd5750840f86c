/-
LunarysBridge.Lib.Ledger — transfers on a ledger of balances.

A transfer is refused when its source does not hold the amount. `run` makes
a list of transfers one after the other. Two facts are all a user needs: how
the balances before and after are related (`run_balance`), and that transfers
which are covered from the start go through in any order, with the same end
(`run_perm`).
-/
import LunarysBridge.Lib.Tally

namespace Ledger

variable {α : Type}

structure Transfer (α : Type) where
  source : α
  dest : α
  amount : Nat

variable [DecidableEq α]

/-- Take the amount from the one and give it to the other. -/
def move (ledger : α → Nat) (source dest : α) (amount : Nat) : α → Nat :=
  let debited := Function.update ledger source (ledger source - amount)
  Function.update debited dest (debited dest + amount)

def apply (x : Transfer α) (ledger : α → Nat) : Option (α → Nat) :=
  if x.amount ≤ ledger x.source then some (move ledger x.source x.dest x.amount) else none

/-- The transfers one after the other; `none` when one is refused. -/
def run : List (Transfer α) → (α → Nat) → Option (α → Nat)
  | [], ledger => some ledger
  | x :: xs, ledger => (apply x ledger).bind (run xs)

/-- What goes out of an account. -/
def out (a : α) (xs : List (Transfer α)) : Nat :=
  Tally.total (fun x => if x.source = a then x.amount else 0) xs

/-- What comes in to an account. -/
def into (a : α) (xs : List (Transfer α)) : Nat :=
  Tally.total (fun x => if x.dest = a then x.amount else 0) xs

@[simp] theorem out_nil (a : α) : out a [] = 0 := rfl

@[simp] theorem into_nil (a : α) : into a [] = 0 := rfl

@[simp] theorem out_cons (a : α) (x : Transfer α) (xs : List (Transfer α)) :
    out a (x :: xs) = (if x.source = a then x.amount else 0) + out a xs :=
  Tally.total_cons ..

@[simp] theorem into_cons (a : α) (x : Transfer α) (xs : List (Transfer α)) :
    into a (x :: xs) = (if x.dest = a then x.amount else 0) + into a xs :=
  Tally.total_cons ..

@[simp] theorem out_append (a : α) (xs ys : List (Transfer α)) :
    out a (xs ++ ys) = out a xs + out a ys :=
  Tally.total_append ..

@[simp] theorem into_append (a : α) (xs ys : List (Transfer α)) :
    into a (xs ++ ys) = into a xs + into a ys :=
  Tally.total_append ..

/-! ## Balances -/

theorem move_balance {ledger : α → Nat} {source : α} {amount : Nat}
    (h : amount ≤ ledger source) (dest a : α) :
    move ledger source dest amount a + (if source = a then amount else 0) =
      ledger a + (if dest = a then amount else 0) := by
  unfold move
  by_cases hd : dest = a
  · subst hd
    by_cases hs : source = dest
    · subst hs
      simp only [Function.update_self, if_true]
      omega
    · simp only [Function.update_self, Function.update_of_ne (Ne.symm hs), if_neg hs, if_true]
      omega
  · rw [Function.update_of_ne (Ne.symm hd), if_neg hd]
    by_cases hs : source = a
    · subst hs
      simp only [Function.update_self, if_true]
      omega
    · rw [Function.update_of_ne (Ne.symm hs), if_neg hs]

theorem apply_some {x : Transfer α} {ledger ledger' : α → Nat}
    (h : apply x ledger = some ledger') : x.amount ≤ ledger x.source ∧
      ledger' = move ledger x.source x.dest x.amount := by
  unfold apply at h
  split at h
  · next hle =>
    cases h
    exact ⟨hle, rfl⟩
  · cases h

/-- Balances change by what came in and what went out. -/
theorem run_balance {xs : List (Transfer α)} (a : α) : ∀ {ledger ledger' : α → Nat},
    run xs ledger = some ledger' → ledger' a + out a xs = ledger a + into a xs := by
  induction xs with
  | nil =>
      intro ledger ledger' h
      cases h
      rfl
  | cons x xs ih =>
      intro ledger ledger' h
      obtain ⟨ledger₁, happly, hrest⟩ := Option.bind_eq_some_iff.mp h
      obtain ⟨hle, rfl⟩ := apply_some happly
      have hmove := move_balance hle x.dest a
      have hrun := ih hrest
      rw [out_cons, into_cons]
      omega

/-- Transfers that are covered from the start go through. -/
theorem run_of_covered {xs : List (Transfer α)} : ∀ {ledger : α → Nat},
    (∀ a, out a xs ≤ ledger a) → ∃ ledger', run xs ledger = some ledger' := by
  induction xs with
  | nil => exact fun {ledger} _ => ⟨ledger, rfl⟩
  | cons x xs ih =>
      intro ledger h
      have hle : x.amount ≤ ledger x.source := by
        have hx := h x.source
        rw [out_cons, if_pos rfl] at hx
        omega
      have hcovered : ∀ a, out a xs ≤ move ledger x.source x.dest x.amount a := by
        intro a
        have ha := h a
        have hmove := move_balance hle x.dest a
        rw [out_cons] at ha
        omega
      obtain ⟨ledger', hrun⟩ := ih hcovered
      refine ⟨ledger', ?_⟩
      rw [run, apply, if_pos hle]
      exact hrun

theorem run_append (xs ys : List (Transfer α)) (ledger : α → Nat) :
    run (xs ++ ys) ledger = (run xs ledger).bind (run ys) := by
  induction xs generalizing ledger with
  | nil => rfl
  | cons x xs ih =>
      rw [List.cons_append, run, run, Option.bind_assoc]
      congr 1
      funext ledger₁
      exact ih ledger₁

/-- What leaves one account and is split over two others leaves every total
that counts the three as it was. -/
theorem sum_split {before after : α → Nat} {source left right : α} {n m k : Nat}
    (h : ∀ a, after a + (if source = a then n else 0) =
      before a + (if left = a then m else 0) + (if right = a then k else 0))
    (hsplit : m + k = n) {accounts : Finset α} (hs : source ∈ accounts)
    (hl : left ∈ accounts) (hr : right ∈ accounts) :
    ∑ a ∈ accounts, after a = ∑ a ∈ accounts, before a := by
  have hsum := Finset.sum_congr (rfl : accounts = accounts) fun a _ => h a
  simp only [Finset.sum_add_distrib, Finset.sum_ite_eq, hs, hl, hr, if_true] at hsum
  omega

/-! ## Any order -/

theorem out_perm {xs ys : List (Transfer α)} (h : xs.Perm ys) (a : α) :
    out a xs = out a ys :=
  (h.map _).sum_eq

theorem into_perm {xs ys : List (Transfer α)} (h : xs.Perm ys) (a : α) :
    into a xs = into a ys :=
  (h.map _).sum_eq

/-- Transfers that go through, from accounts to which none of them comes
back, were covered from the start. -/
theorem covered_of_run {xs : List (Transfer α)} {ledger ledger' : α → Nat}
    (h : run xs ledger = some ledger') (hno : ∀ a, out a xs = 0 ∨ into a xs = 0) (a : α) :
    out a xs ≤ ledger a := by
  have hb := run_balance a h
  rcases hno a with hout | hinto <;> omega

/-- Two orders of the same transfers, when both go through, end alike. -/
theorem run_perm {xs ys : List (Transfer α)} {ledger l₁ l₂ : α → Nat} (h : xs.Perm ys)
    (h₁ : run xs ledger = some l₁) (h₂ : run ys ledger = some l₂) : l₁ = l₂ := by
  funext a
  have hb₁ := run_balance a h₁
  have hb₂ := run_balance a h₂
  rw [out_perm h a, into_perm h a] at hb₁
  omega

end Ledger
