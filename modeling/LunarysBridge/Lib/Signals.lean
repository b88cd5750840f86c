/-
LunarysBridge.Lib.Signals — abort controllers and their signals.

A controller is a number, and its signal has the same one. Controllers are
numbered in the order in which they are made, so a number that is still to be
given is the number of no aborted signal (`unmade`); a signal that is aborted
stays so.
-/
import Mathlib.Logic.Function.Basic

/-- The controllers made so far, and which of their signals are aborted. -/
structure Signals where
  made : Nat
  aborted : Nat → Bool
  unmade : ∀ n, made ≤ n → aborted n = false

namespace Signals

def none : Signals := ⟨0, fun _ => false, fun _ _ => rfl⟩

/-- `new AbortController()`; its number is `made`. -/
def new (s : Signals) : Signals where
  made := s.made + 1
  aborted := s.aborted
  unmade := fun n hn => s.unmade n (by omega)

/-- `controller.abort()` -/
def abort (s : Signals) (controller : Nat) : Signals where
  made := max s.made (controller + 1)
  aborted := Function.update s.aborted controller true
  unmade := fun n hn => by
    rw [Function.update_of_ne (by omega)]
    exact s.unmade n (by omega)

@[simp] theorem aborted_none (n : Nat) : none.aborted n = false := rfl

@[simp] theorem aborted_new (s : Signals) : s.new.aborted = s.aborted := rfl

@[simp] theorem aborted_made (s : Signals) : s.aborted s.made = false := s.unmade _ (Nat.le_refl _)

@[simp] theorem aborted_abort_self (s : Signals) (n : Nat) : (s.abort n).aborted n = true :=
  Function.update_self ..

/-- What is not aborted afterwards is another signal. -/
theorem aborted_abort_eq_false {s : Signals} {m n : Nat} :
    (s.abort m).aborted n = false ↔ n ≠ m ∧ s.aborted n = false := by
  by_cases h : n = m
  · subst h
    simp
  · simp [abort, h]

end Signals
