/-
LunarysBridge.Lib.Tally — totals over a record of events, and sums over a
finite index set of which one entry changes.

An accounting invariant equates a balance with sums. Two shapes of change
occur: an event is appended to a record (`total_append`), and one entry of
a table is rewritten (`sum_change`), or a fresh one is added
(`sum_Icc_succ`). All three are stated without subtraction.
-/
import Mathlib.Algebra.BigOperators.Intervals
import Mathlib.Algebra.Order.BigOperators.Group.Finset

namespace Tally

variable {α ι : Type}

/-! ## Totals over a record -/

/-- The sum of `f` over the entries of a record. -/
def total (f : α → Nat) (l : List α) : Nat := (l.map f).sum

@[simp] theorem total_nil (f : α → Nat) : total f [] = 0 := rfl

@[simp] theorem total_cons (f : α → Nat) (a : α) (l : List α) :
    total f (a :: l) = f a + total f l := by
  simp [total]

@[simp] theorem total_append (f : α → Nat) (l₁ l₂ : List α) :
    total f (l₁ ++ l₂) = total f l₁ + total f l₂ := by
  simp [total]

/-- More on the record, no less in total. -/
theorem total_le_of_prefix {f : α → Nat} {l₁ l₂ : List α} (h : l₁ <+: l₂) :
    total f l₁ ≤ total f l₂ := by
  obtain ⟨l, rfl⟩ := h
  rw [total_append]
  exact Nat.le_add_right _ _

/-- A record of entries that count for nothing. -/
theorem total_eq_zero {f : α → Nat} {l : List α} (h : ∀ a ∈ l, f a = 0) :
    total f l = 0 := by
  induction l with
  | nil => rfl
  | cons a l ih =>
      rw [total_cons, h a (by simp), ih fun b hb => h b (by simp [hb])]

/-- Entries that count for nothing may be left out. -/
theorem total_filter {f : α → Nat} {p : α → Bool} (l : List α)
    (h : ∀ a, p a = false → f a = 0) : total f (l.filter p) = total f l := by
  induction l with
  | nil => rfl
  | cons a l ih =>
      by_cases hp : p a = true
      · simp [hp, ih]
      · have hf : f a = 0 := h a (by simpa using hp)
        simp [hp, ih, hf]

/-! ## Sums with one changed entry -/

variable [DecidableEq ι]

/-- If `g` is `f` but for the entry `i`, the two sums differ by that entry. -/
theorem sum_change {s : Finset ι} {i : ι} {f g : ι → Nat} (hi : i ∈ s)
    (h : ∀ j, j ≠ i → g j = f j) :
    (∑ j ∈ s, g j) + f i = (∑ j ∈ s, f j) + g i := by
  have hrest : ∑ j ∈ s.erase i, g j = ∑ j ∈ s.erase i, f j :=
    Finset.sum_congr rfl fun j hj => h j (Finset.ne_of_mem_erase hj)
  have hg := Finset.add_sum_erase s g hi
  have hf := Finset.add_sum_erase s f hi
  omega

/-- A fresh entry at the end of the range is added to the sum of the old. -/
theorem sum_Icc_succ {n : Nat} {f g : Nat → Nat} (h : ∀ j, j ≠ n + 1 → g j = f j) :
    ∑ j ∈ Finset.Icc 1 (n + 1), g j = (∑ j ∈ Finset.Icc 1 n, f j) + g (n + 1) := by
  rw [Finset.sum_Icc_succ_top (by omega)]
  congr 1
  refine Finset.sum_congr rfl fun j hj => h j ?_
  have := (Finset.mem_Icc.mp hj).2
  omega

end Tally
