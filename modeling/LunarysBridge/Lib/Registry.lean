/-
LunarysBridge.Lib.Registry — membership flags beside a list that only grows.

A common way to keep a set that can be listed: a flag for each element, and
a list to which an element is added when its flag is set. Taking the flag
back leaves the list alone, so that an element admitted again is in the
list twice. `exact_run_iff` says after which operations the list is exactly
the set.
-/
import Mathlib.Data.List.Induction
import Mathlib.Logic.Function.Basic

variable {α : Type} [DecidableEq α]

structure Registry (α : Type) where
  member : α → Bool
  listed : List α

namespace Registry

/-! ## Operations -/

inductive Op (α : Type) where
  | add (a : α)
  | drop (a : α)

def empty : Registry α := ⟨fun _ => false, []⟩

def apply (r : Registry α) : Op α → Registry α
  | .add a =>
      if r.member a then r
      else ⟨Function.update r.member a true, r.listed ++ [a]⟩
  | .drop a => ⟨Function.update r.member a false, r.listed⟩

def run (ops : List (Op α)) : Registry α := ops.foldl apply empty

theorem run_append (ops : List (Op α)) (op : Op α) : run (ops ++ [op]) = (run ops).apply op := by
  simp [run]

/-- Every member is listed once, and nothing else. -/
def Exact (r : Registry α) : Prop :=
  ∀ a, r.listed.count a = if r.member a then 1 else 0

/-- What a caller sees who skips the listed elements without the flag. -/
def members (r : Registry α) : List α := r.listed.filter r.member

theorem count_members (r : Registry α) (a : α) :
    r.members.count a = if r.member a then r.listed.count a else 0 := by
  unfold members
  split
  · next h => exact List.count_filter h
  · next h =>
    rw [List.count_eq_zero]
    intro hmem
    exact h (List.mem_filter.mp hmem).2

/-- The list is the set exactly if skipping takes nothing away and no member
is repeated. -/
theorem exact_iff (r : Registry α) :
    Exact r ↔ (∀ a, r.members.count a = if r.member a then 1 else 0) ∧
      r.members.length = r.listed.length := by
  constructor
  · intro h
    refine ⟨fun a => ?_, ?_⟩
    · rw [count_members, h a]
      split <;> rfl
    · refine List.length_filter_eq_length_iff.mpr fun a ha => ?_
      have hcount := h a
      have hpos := List.count_pos_iff.mpr ha
      by_contra hno
      rw [if_neg hno] at hcount
      omega
  · rintro ⟨hcount, hlength⟩ a
    have hall := List.length_filter_eq_length_iff.mp hlength
    have hsame : r.members = r.listed := List.filter_eq_self.mpr hall
    rw [← hsame]
    exact hcount a

/-! ## One operation, for one element -/

section
variable (r : Registry α) (a b : α)

@[simp] theorem member_add : (r.apply (.add b)).member a = (r.member a || a == b) := by
  simp only [apply]
  by_cases hab : a = b
  · subst hab
    split <;> simp [*]
  · split <;> simp [hab]

@[simp] theorem member_drop : (r.apply (.drop b)).member a = (r.member a && a != b) := by
  by_cases hab : a = b
  · subst hab
    simp [apply]
  · simp [apply, hab]

@[simp] theorem listed_drop : (r.apply (.drop b)).listed = r.listed := rfl

theorem count_add : (r.apply (.add b)).listed.count a =
    r.listed.count a + if a = b ∧ r.member a = false then 1 else 0 := by
  simp only [apply]
  by_cases hab : a = b
  · subst hab
    split <;> simp [*]
  · split <;> simp [hab, Ne.symm hab]

end

/-! ## Any operations, in any order -/

/-- A member is listed, in every registry built from the empty one. -/
theorem listed_of_member (ops : List (Op α)) {a : α} :
    (run ops).member a = true → 0 < (run ops).listed.count a := by
  induction ops using List.reverseRecOn with
  | nil =>
      intro h
      cases h
  | append_singleton ops op ih =>
      rw [run_append]
      cases op with
      | add b =>
          intro h
          rw [count_add]
          split
          · omega
          · next hcond =>
            rw [member_add, Bool.or_eq_true, beq_iff_eq] at h
            have hmember : (run ops).member a = true := by
              rcases h with h | rfl
              · exact h
              · simpa using hcond
            have := ih hmember
            omega
      | drop b =>
          intro h
          rw [member_drop, Bool.and_eq_true] at h
          exact ih h.1

/-- The list keeps everything that was ever added. -/
theorem count_pos_run_iff (ops : List (Op α)) (a : α) :
    0 < (run ops).listed.count a ↔ .add a ∈ ops := by
  induction ops using List.reverseRecOn with
  | nil => simp [run, empty]
  | append_singleton ops op ih =>
      rw [run_append]
      cases op with
      | add b =>
          rw [count_add, List.mem_append, ← ih, List.mem_singleton, Op.add.injEq]
          by_cases hab : a = b
          · by_cases hmember : (run ops).member a = true
            · have := listed_of_member ops hmember
              simp [hmember, this]
            · simp [hab ▸ hmember, hab]
          · simp [hab]
      | drop b => simp [ih]

/-- An element is listed as often as its flag says exactly if it was never
dropped after it was added. -/
theorem count_run_iff (ops : List (Op α)) (a : α) :
    (run ops).listed.count a = (if (run ops).member a then 1 else 0) ↔
      ops.Pairwise fun op op' => op = .add a → op' ≠ .drop a := by
  induction ops using List.reverseRecOn with
  | nil => simp [run, empty]
  | append_singleton ops op ih =>
      have hlisted := count_pos_run_iff ops a
      rw [run_append, List.pairwise_append]
      cases op with
      | add b =>
          rw [count_add, member_add]
          by_cases hab : a = b ∧ (run ops).member a = false
          · obtain ⟨rfl, hmember⟩ := hab
            simp [hmember, ← ih]
          · have hsame : ((run ops).member a || a == b) = (run ops).member a := by
              by_cases heq : a = b
              · have hmember : (run ops).member a = true := by simpa [heq] using hab
                simp [hmember]
              · simp [heq]
            rw [if_neg hab, hsame, Nat.add_zero, ih]
            simp
      | drop b =>
          rw [listed_drop, member_drop]
          by_cases hab : a = b
          · subst hab
            have hnever : (run ops).listed.count a = 0 ↔ Op.add a ∉ ops := by
              rw [← hlisted]
              omega
            simp only [bne_self_eq_false, Bool.and_false, Bool.false_eq_true, if_false, hnever]
            constructor
            · intro hno
              have hne : ∀ op ∈ ops, op ≠ .add a := by
                rintro op hop rfl
                exact hno hop
              refine ⟨?_, by simp, fun op hop _ _ heq => absurd heq (hne op hop)⟩
              exact List.pairwise_of_forall_mem_list
                fun op hop op' _ heq => absurd heq (hne op hop)
            · rintro ⟨-, -, hno⟩ hmem
              exact hno _ hmem (.drop a) (List.mem_singleton_self _) rfl rfl
          · simp [hab, ih, Ne.symm hab]

/-- **The list is the set** exactly if nothing was dropped after it was
added. -/
theorem exact_run_iff (ops : List (Op α)) :
    Exact (run ops) ↔ ∀ a, ops.Pairwise fun op op' => op = .add a → op' ≠ .drop a :=
  forall_congr' fun a => count_run_iff ops a

end Registry
