/-
LunarysBridge.Lib.SortedKey — lists as keys, whatever their order.

A list is sorted before it is used as a key. Two lists get the same key
exactly if one is a permutation of the other: an element that is in the list
twice counts twice. The order need only tell the elements apart that do
occur (`P`). `joined` writes such a list as one string.
-/
import Mathlib.Data.String.Basic

namespace SortedKey

section Sorting

variable {α : Type}

/-- A total order, as far as `P` goes. -/
structure Orders (le : α → α → Bool) (P : α → Prop) : Prop where
  trans : ∀ a b c, le a b → le b c → le a c
  total : ∀ a b, le a b || le b a
  antisymm : ∀ a b, P a → P b → le a b → le b a → a = b

variable {le : α → α → Bool} {P : α → Prop} {l l' : List α}

theorem sort_eq_iff (h : Orders le P) (hl : ∀ a ∈ l, P a) :
    l.mergeSort le = l'.mergeSort le ↔ l.Perm l' := by
  constructor
  · intro heq
    exact (List.mergeSort_perm l le).symm.trans (heq ▸ List.mergeSort_perm l' le)
  · intro hperm
    have hsorted : (l.mergeSort le).Perm (l'.mergeSort le) :=
      (List.mergeSort_perm l le).trans (hperm.trans (List.mergeSort_perm l' le).symm)
    refine List.Perm.eq_of_pairwise (fun a b ha hb hab hba => ?_)
      (List.pairwise_mergeSort h.trans h.total l) (List.pairwise_mergeSort h.trans h.total l')
      hsorted
    exact h.antisymm a b (hl a (List.mem_mergeSort.mp ha))
      (hl b (hperm.mem_iff.mpr (List.mem_mergeSort.mp hb))) hab hba

end Sorting

/-- The order of strings by their characters. -/
def byChars (s t : String) : Bool := decide (s ≤ t)

theorem orders_byChars : Orders byChars fun _ => True where
  trans a b c hab hbc := by
    simp only [byChars, decide_eq_true_eq] at *
    exact le_trans hab hbc
  total a b := by
    simp only [byChars, Bool.or_eq_true, decide_eq_true_eq]
    exact le_total a b
  antisymm a b _ _ hab hba := by
    simp only [byChars, decide_eq_true_eq] at *
    exact le_antisymm hab hba

/-! ## Lists in one string -/

section Joined

variable (sep : Char)

/-- `l.join(sep)` -/
def joined (l : List String) : String := String.ofList ([sep].intercalate (l.map String.toList))

variable {sep} {l l' : List String}

theorem joined_eq_empty (h : ∀ s ∈ l, s ≠ "") (hl : joined sep l = "") : l = [] := by
  cases l with
  | nil => rfl
  | cons s l =>
      have hs := h s (List.mem_cons_self ..)
      have hnil : [sep].intercalate ((s :: l).map String.toList) = [] := by
        rw [joined] at hl
        simpa using congrArg String.toList hl
      exfalso
      apply hs
      cases l with
      | nil => simpa using hnil
      | cons t l => simp at hnil

/-- Strings without the separator can be told from what is joined. -/
theorem joined_inj (h : ∀ s ∈ l, s ≠ "" ∧ sep ∉ s.toList) (h' : ∀ s ∈ l', s ≠ "" ∧ sep ∉ s.toList)
    (heq : joined sep l = joined sep l') : l = l' := by
  by_cases hnil : l = []
  · subst hnil
    exact (joined_eq_empty (fun s hs => (h' s hs).1) heq.symm).symm
  · have hnil' : l' ≠ [] := by
      rintro rfl
      exact hnil (joined_eq_empty (fun s hs => (h s hs).1) heq)
    have hchars : [sep].intercalate (l.map String.toList) =
        [sep].intercalate (l'.map String.toList) := by
      simpa [joined] using congrArg String.toList heq
    have hsplit : ∀ {l : List String}, l ≠ [] → (∀ s ∈ l, s ≠ "" ∧ sep ∉ s.toList) →
        ([sep].intercalate (l.map String.toList)).splitOn sep = l.map String.toList := by
      intro l hne hall
      refine List.splitOn_intercalate sep (fun cs hcs => ?_) (by simpa using hne)
      obtain ⟨s, hs, rfl⟩ := List.mem_map.mp hcs
      exact (hall s hs).2
    have hmap := (hsplit hnil h).symm.trans ((congrArg (List.splitOn sep) hchars).trans
      (hsplit hnil' h'))
    exact List.map_injective_iff.mpr (fun s t hst => String.toList_inj.mp hst) hmap

end Joined

end SortedKey
