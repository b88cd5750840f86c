/-
LunarysBridge.Lib.Digits — numerals of a fixed width.

`padStart` fills a numeral up with zeros. The result has one digit for each
power of the base below the width (`numeral`), so its last digits are the
numeral of the remainder. The first digits of a decimal are its quotient
(`ofDigitChars_take`), and zeros at either end can be taken off and put back.
-/
import Mathlib.Algebra.Order.Ring.Nat
import Mathlib.Data.List.TakeWhile

namespace Digits

/-- `s.padStart(width, fill)` -/
def padStart (width : Nat) (fill : Char) (cs : List Char) : List Char :=
  List.replicate (width - cs.length) fill ++ cs

/-- The last `width` digits of a number. -/
def numeral (base : Nat) : Nat → Nat → List Char
  | 0, _ => []
  | width + 1, n => numeral base width (n / base) ++ [(n % base).digitChar]

@[simp] theorem length_numeral (base width n : Nat) : (numeral base width n).length = width := by
  induction width generalizing n with
  | zero => rfl
  | succ width ih => simp [numeral, ih]

theorem numeral_zero (base width : Nat) :
    numeral base width 0 = List.replicate width '0' := by
  induction width with
  | zero => rfl
  | succ width ih => simp [numeral, ih, List.replicate_succ']

theorem padStart_toDigits {base : Nat} (hbase : 1 < base) (width n : Nat)
    (hn : n < base ^ (width + 1)) :
    padStart (width + 1) '0' (Nat.toDigits base n) = numeral base (width + 1) n := by
  induction width generalizing n with
  | zero =>
      have hlt : n < base := by simpa using hn
      simp [padStart, Nat.toDigits_of_lt_base hlt, numeral, Nat.mod_eq_of_lt hlt]
  | succ width ih =>
      by_cases hlt : n < base
      · rw [Nat.toDigits_of_lt_base hlt, numeral, Nat.div_eq_of_lt hlt, numeral_zero,
          Nat.mod_eq_of_lt hlt]
        simp [padStart]
      · have hdiv : n / base < base ^ (width + 1) := by
          rw [Nat.div_lt_iff_lt_mul (by omega), ← Nat.pow_succ]
          exact hn
        rw [Nat.toDigits_of_base_le hbase (by omega), numeral, ← ih (n / base) hdiv]
        simp [padStart]

/-- The last digits are those of the remainder. -/
theorem drop_numeral (base front width n : Nat) :
    (numeral base (front + width) n).drop front = numeral base width n := by
  induction width generalizing n with
  | zero => simp [numeral]
  | succ width ih =>
      rw [← Nat.add_assoc, numeral, List.drop_append_of_le_length (by simp), ih, numeral]

theorem numeral_mod (base width n : Nat) :
    numeral base width (n % base ^ width) = numeral base width n := by
  induction width generalizing n with
  | zero => rfl
  | succ width ih =>
      rw [numeral, numeral, ← ih (n / base), Nat.pow_succ', Nat.mod_mul_right_div_self,
        Nat.mod_mul_right_mod]

/-! ## Decimals -/

/-- `s.padEnd(width, fill)` -/
def padEnd (width : Nat) (fill : Char) (cs : List Char) : List Char :=
  cs ++ List.replicate (width - cs.length) fill

theorem ofDigitChars_lt {cs : List Char} (h : ∀ c ∈ cs, c.isDigit = true) :
    Nat.ofDigitChars 10 cs 0 < 10 ^ cs.length := by
  induction cs with
  | nil => simp
  | cons c cs ih =>
      have hlt := ih fun d hd => h d (List.mem_cons_of_mem _ hd)
      have hdigit := h c (List.mem_cons_self ..)
      simp only [Char.isDigit, Bool.and_eq_true, decide_eq_true_eq] at hdigit
      have hle : c.toNat - '0'.toNat ≤ 9 := by
        have hhi : c.toNat ≤ 57 := hdigit.2
        show c.toNat - 48 ≤ 9
        omega
      have hmul := Nat.mul_le_mul_left (10 ^ cs.length) hle
      rw [Nat.ofDigitChars_cons, Nat.ofDigitChars_eq_ofDigitChars_zero, List.length_cons,
        Nat.pow_succ, Nat.mul_zero, Nat.zero_add]
      omega

/-- The first digits are the quotient. -/
theorem ofDigitChars_take {cs : List Char} (h : ∀ c ∈ cs, c.isDigit = true) (width : Nat) :
    Nat.ofDigitChars 10 (cs.take width) 0 =
      Nat.ofDigitChars 10 cs 0 / 10 ^ (cs.length - width) := by
  have hrest : Nat.ofDigitChars 10 (cs.drop width) 0 < 10 ^ (cs.drop width).length :=
    ofDigitChars_lt fun c hc => h c (List.mem_of_mem_drop hc)
  have hsplit : Nat.ofDigitChars 10 cs 0 = 10 ^ (cs.drop width).length *
      Nat.ofDigitChars 10 (cs.take width) 0 + Nat.ofDigitChars 10 (cs.drop width) 0 := by
    rw [← Nat.ofDigitChars_eq_ofDigitChars_zero, ← Nat.ofDigitChars_append, List.take_append_drop]
  rw [hsplit, List.length_drop] at *
  rw [Nat.mul_add_div (Nat.pow_pos (by decide)), Nat.div_eq_of_lt hrest, Nat.add_zero]

/-- `s.replace(/^0+(?=\d)/, "")` -/
def stripStart : List Char → List Char
  | '0' :: c :: cs => if c.isDigit then stripStart (c :: cs) else '0' :: c :: cs
  | cs => cs

theorem stripStart_suffix (cs : List Char) : stripStart cs <:+ cs := by
  fun_induction stripStart cs with
  | case1 c cs hdigit ih => exact ih.trans (List.suffix_cons _ _)
  | case2 c cs hdigit => exact List.suffix_refl _
  | case3 cs hno => exact List.suffix_refl _

theorem stripStart_ne_nil {cs : List Char} (h : cs ≠ []) : stripStart cs ≠ [] := by
  fun_induction stripStart cs with
  | case1 c cs hdigit ih => exact ih (List.cons_ne_nil _ _)
  | case2 c cs hdigit => exact h
  | case3 cs hno => exact h

theorem ofDigitChars_stripStart (cs : List Char) :
    Nat.ofDigitChars 10 (stripStart cs) 0 = Nat.ofDigitChars 10 cs 0 := by
  fun_induction stripStart cs with
  | case1 c cs hdigit ih => simpa [Nat.ofDigitChars_cons] using ih
  | case2 c cs hdigit => rfl
  | case3 cs hno => rfl

/-- `s.replace(/0+$/, "")` -/
def stripEnd (cs : List Char) : List Char := (cs.reverse.dropWhile (· == '0')).reverse

/-- What was taken off the end are zeros. -/
theorem stripEnd_append (cs : List Char) :
    ∃ zeros, stripEnd cs ++ List.replicate zeros '0' = cs := by
  refine ⟨(cs.reverse.takeWhile (· == '0')).length, ?_⟩
  have hzeros : cs.reverse.takeWhile (· == '0') =
      List.replicate (cs.reverse.takeWhile (· == '0')).length '0' := by
    refine List.eq_replicate_iff.mpr ⟨rfl, fun c hc => ?_⟩
    simpa using List.mem_takeWhile_imp hc
  have hsplit := congrArg List.reverse (List.takeWhile_append_dropWhile (p := (· == '0'))
    (l := cs.reverse))
  rw [List.reverse_append, List.reverse_reverse] at hsplit
  rw [stripEnd, ← List.reverse_replicate, ← hzeros]
  exact hsplit

end Digits
