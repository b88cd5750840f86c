/-
LunarysBridge.Lib.Table — finite tables and the totals over them.

A table is Mathlib's `AList` with one type of values, so a key is never in
it twice. `total f` adds `f` up over its entries; the rules say how it
changes when an entry is added or rewritten, and when one table has at
least what the other has.
-/
import Mathlib.Data.List.AList
import Mathlib.Algebra.BigOperators.Group.List.Basic
import Mathlib.Algebra.GroupWithZero.Nat

/-- A finite table from `α` to `β`. -/
abbrev Table (α β : Type) := AList fun _ : α => β

namespace Table

variable {α β : Type}

def total (f : α → β → Nat) (t : Table α β) : Nat :=
  (t.entries.map fun e => f e.1 e.2).sum

@[simp] theorem total_empty (f : α → β → Nat) : total f (∅ : Table α β) = 0 := rfl

variable [DecidableEq α]

/-- The total depends on what the table says of each key only. -/
theorem total_congr {f : α → β → Nat} {s t : Table α β}
    (h : ∀ a, s.lookup a = t.lookup a) : total f s = total f t := by
  refine List.Perm.sum_eq (List.Perm.map _ ?_)
  apply List.lookup_ext s.nodupKeys t.nodupKeys
  intro a b
  have ha : s.entries.dlookup a = t.entries.dlookup a := h a
  rw [ha]

/-- A new entry is added to the total. -/
theorem total_insert {f : α → β → Nat} {t : Table α β} {a : α} {b : β}
    (h : t.lookup a = none) : total f (t.insert a b) = total f t + f a b := by
  have hmem : a ∉ t := AList.lookup_eq_none.mp h
  rw [total, AList.entries_insert_of_notMem hmem, List.map_cons, List.sum_cons, total]
  exact Nat.add_comm _ _

/-- The total, split at one entry. -/
theorem total_erase {f : α → β → Nat} {t : Table α β} {a : α} {b : β}
    (h : t.lookup a = some b) : total f t = total f (t.erase a) + f a b := by
  rw [← total_insert (AList.lookup_erase a t)]
  apply total_congr
  intro a'
  by_cases ha : a' = a
  · subst ha
    rw [AList.lookup_insert, h]
  · rw [AList.lookup_insert_ne ha, AList.lookup_erase_ne ha]

/-- A rewritten entry changes the total by the difference. -/
theorem total_change {f : α → β → Nat} {t : Table α β} {a : α} {b : β}
    (h : t.lookup a = some b) (b' : β) :
    total f (t.insert a b') + f a b = total f t + f a b' := by
  have hlookup : (t.insert a b').lookup a = some b' := AList.lookup_insert t
  have hnew := total_erase (f := f) hlookup
  have hold := total_erase (f := f) h
  have hrest : total f ((t.insert a b').erase a) = total f (t.erase a) := by
    apply total_congr
    intro a'
    by_cases ha : a' = a
    · subst ha
      rw [AList.lookup_erase, AList.lookup_erase]
    · rw [AList.lookup_erase_ne ha, AList.lookup_erase_ne ha, AList.lookup_insert_ne ha]
  omega

/-- A table with at least the entries of another has at least its total. -/
theorem total_le {f g : α → β → Nat} (s : Table α β) : ∀ t : Table α β,
    (∀ a b, s.lookup a = some b → f a b = 0 ∨ ∃ b', t.lookup a = some b' ∧ f a b ≤ g a b') →
    total f s ≤ total g t := by
  induction s using AList.insertRec with
  | H0 => simp
  | IH a b s hnew ih =>
      intro t h
      have hnone : s.lookup a = none := AList.lookup_eq_none.mpr hnew
      rw [total_insert hnone]
      have hother : ∀ a' b', s.lookup a' = some b' → a' ≠ a := by
        rintro a' b' hl rfl
        rw [hnone] at hl
        cases hl
      rcases h a b (AList.lookup_insert s) with hzero | ⟨b', hb', hle⟩
      · have hrest := ih t fun a' b' hl =>
          h a' b' (by rw [AList.lookup_insert_ne (hother a' b' hl), hl])
        omega
      · have hrest := ih (t.erase a) fun a' b₁ hl => by
          have hne := hother a' b₁ hl
          rcases h a' b₁ (by rw [AList.lookup_insert_ne hne, hl]) with hz | ⟨b₂, hb₂, hle₂⟩
          · exact .inl hz
          · exact .inr ⟨b₂, by rw [AList.lookup_erase_ne hne, hb₂], hle₂⟩
        have hsplit := total_erase (f := g) hb'
        omega

end Table
