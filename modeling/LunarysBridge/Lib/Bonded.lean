/-
LunarysBridge.Lib.Bonded — a task that is taken under a bond, with a
deadline.

A solver takes the task and leaves a bond. Up to the deadline the task can
be settled, which returns the bond; afterwards the claim can be released or
taken over, which slashes a share of the bond and returns the rest. `step`
is this machine, with what every solver was refunded and lost so far.

An implementation refines the machine when its answer to each operation is
related to the answer of `step` (`Option.Rel`): it accepts and refuses the
same. Two such implementations accept the same operations
(`isSome_eq_of_rel`), and stay related to one position (`rel_getD`).
-/
import Mathlib.Data.Option.Basic
import Mathlib.Order.Basic

namespace Bonded

/-! ## The machine -/

structure Terms where
  bond : Nat
  window : Nat
  slashBps : Nat
  /-- Not more than the bond is slashed. -/
  bounded : slashBps ≤ 10000

/-- The share of the bond that is slashed. -/
def Terms.slash (m : Terms) : Nat := m.bond * m.slashBps / 10000

theorem Terms.slash_le (m : Terms) : m.slash ≤ m.bond := by
  have hproduct : m.bond * m.slashBps ≤ m.bond * 10000 := Nat.mul_le_mul_left _ m.bounded
  unfold Terms.slash
  omega

structure Claim (ι : Type) where
  solver : ι
  deadline : Nat

structure Position (ι : Type) where
  finalized : Bool
  claim : Option (Claim ι)
  refunded : ι → Nat
  slashed : ι → Nat

inductive Op (ι : Type) where
  | claim (solver : ι)
  | release
  | settle

variable {ι : Type} [DecidableEq ι]

/-- One account gets more. -/
def add (f : ι → Nat) (i : ι) (n : Nat) : ι → Nat := fun j => f j + if i = j then n else 0

variable (m : Terms)

def Position.take (time : Nat) (i : ι) (p : Position ι) : Position ι :=
  { p with claim := some ⟨i, time + m.window⟩ }

/-- The bond of the claim is split. -/
def Position.expire (c : Claim ι) (p : Position ι) : Position ι :=
  { p with
    claim := none
    refunded := add p.refunded c.solver (m.bond - m.slash)
    slashed := add p.slashed c.solver m.slash }

def Position.settle (c : Claim ι) (p : Position ι) : Position ι :=
  { p with
    finalized := true
    claim := none
    refunded := add p.refunded c.solver m.bond }

/-- An operation at a time; `none` when it is refused. -/
def step (time : Nat) : Op ι → Position ι → Option (Position ι)
  | .claim i, p =>
      if p.finalized then none
      else
        match p.claim with
        | none => some (p.take m time i)
        | some c =>
            if c.deadline < time then some ((p.expire m c).take m time i) else none
  | .release, p =>
      match p.claim with
      | none => none
      | some c => if c.deadline < time then some (p.expire m c) else none
  | .settle, p =>
      if p.finalized then none
      else
        match p.claim with
        | none => none
        | some c => if time ≤ c.deadline then some (p.settle m c) else none

/-! ## Two implementations -/

variable {σ τ ρ : Type} {R : σ → ρ → Prop} {Q : τ → ρ → Prop}

omit [DecidableEq ι] in
/-- Implementations of one machine accept the same. -/
theorem isSome_eq_of_rel {a : Option σ} {b : Option τ} {o : Option ρ} (ha : Option.Rel R a o)
    (hb : Option.Rel Q b o) : a.isSome = b.isSome := by
  cases ha with
  | some _ => cases hb with | some _ => rfl
  | none => cases hb with | none => rfl

/-- An operation that is refused changes nothing. -/
theorem rel_getD {a : Option σ} {o : Option ρ} {s : σ} {p : ρ} (h : Option.Rel R a o)
    (hs : R s p) : R (a.getD s) (o.getD p) := by
  cases h with
  | some h => exact h
  | none => exact hs

end Bonded
