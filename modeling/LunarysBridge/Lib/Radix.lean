/-
LunarysBridge.Lib.Radix — digit strings in another base.

A digit string is read with the most significant digit first. Converting it
rewrites the number it stands for and keeps each leading zero as one zero,
so that strings of bytes can be written in any base. Converting there and
back gives the string again (`convert_convert`), and the number of digits is
known from the value (`length_convert_eq_iff`).
-/
import Mathlib.Data.List.TakeWhile
import Mathlib.Data.Nat.Digits.Lemmas

namespace Radix

/-- The number the digits stand for. -/
def value (base : Nat) (ds : List Nat) : Nat := Nat.ofDigits base ds.reverse

/-- The digits of a number, without leading zeros. -/
def numeral (base n : Nat) : List Nat := (Nat.digits base n).reverse

/-- How many zeros a digit string begins with. -/
def zeros (ds : List Nat) : Nat := (ds.takeWhile (· == 0)).length

def convert (base base' : Nat) (ds : List Nat) : List Nat :=
  List.replicate (zeros ds) 0 ++ numeral base' (value base ds)

/-! ## Leading zeros -/

@[simp] theorem value_zeros_append (base z : Nat) (ds : List Nat) :
    value base (List.replicate z 0 ++ ds) = value base ds := by
  rw [value, List.reverse_append, List.reverse_replicate, Nat.ofDigits_append_replicate_zero, value]

/-- A digit string is its zeros and the rest. -/
theorem zeros_append_rest (ds : List Nat) :
    List.replicate (zeros ds) 0 ++ ds.dropWhile (· == 0) = ds := by
  have hzeros : ds.takeWhile (· == 0) = List.replicate (zeros ds) 0 := by
    refine List.eq_replicate_iff.mpr ⟨rfl, fun d hd => ?_⟩
    simpa using List.mem_takeWhile_imp hd
  rw [← hzeros, List.takeWhile_append_dropWhile]

theorem zeros_replicate_append {ds : List Nat} (h : ds.head? ≠ some 0) (z : Nat) :
    zeros (List.replicate z 0 ++ ds) = z := by
  have hrest : ds.takeWhile (· == 0) = [] := by
    cases ds with
    | nil => rfl
    | cons d ds =>
        have hd : d ≠ 0 := fun heq => h (congrArg some heq)
        simp [hd]
  rw [zeros, List.takeWhile_append_of_pos (by simp), hrest, List.append_nil, List.length_replicate]

/-! ## Numerals -/

theorem head_numeral (base n : Nat) : (numeral base n).head? ≠ some 0 := by
  rw [numeral, List.head?_reverse]
  intro hlast
  have hne : Nat.digits base n ≠ [] := by
    intro hnil
    rw [hnil] at hlast
    cases hlast
  rw [List.getLast?_eq_getLast_of_ne_nil hne, Option.some.injEq] at hlast
  exact Nat.getLast_digit_ne_zero base (Nat.digits_ne_nil_iff_ne_zero.mp hne) hlast

section

variable {base : Nat} (hbase : 1 < base)
include hbase

theorem numeral_lt {n d : Nat} (h : d ∈ numeral base n) : d < base :=
  Nat.digits_lt_base hbase (List.mem_reverse.mp h)

theorem numeral_value {ds : List Nat} (hlt : ∀ d ∈ ds, d < base) (hhead : ds.head? ≠ some 0) :
    numeral base (value base ds) = ds := by
  have hlast : ∀ hne : ds.reverse ≠ [], ds.reverse.getLast hne ≠ 0 := by
    intro hne heq
    refine hhead ?_
    rw [← List.getLast?_reverse, List.getLast?_eq_getLast_of_ne_nil hne, heq]
  rw [numeral, value, Nat.digits_ofDigits base hbase _ (fun d hd => hlt d (List.mem_reverse.mp hd))
    hlast, List.reverse_reverse]

theorem length_numeral_le_iff (n k : Nat) : (numeral base n).length ≤ k ↔ n < base ^ k := by
  rw [numeral, List.length_reverse]
  exact Nat.digits_length_le_iff hbase n

end

theorem value_numeral (base n : Nat) : value base (numeral base n) = n := by
  rw [value, numeral, List.reverse_reverse, Nat.ofDigits_digits]

/-! ## Conversion -/

section

variable {base base' : Nat}

theorem convert_lt (hbase' : 1 < base') {ds : List Nat} {d : Nat}
    (h : d ∈ convert base base' ds) : d < base' := by
  rcases List.mem_append.mp h with h | h
  · rw [(List.mem_replicate.mp h).2]
    omega
  · exact numeral_lt hbase' h

theorem zeros_convert (ds : List Nat) : zeros (convert base base' ds) = zeros ds :=
  zeros_replicate_append (head_numeral base' _) _

theorem value_convert (ds : List Nat) :
    value base' (convert base base' ds) = value base ds := by
  rw [convert, value_zeros_append, value_numeral]

/-- **There and back** the digit string is the same. -/
theorem convert_convert (hbase : 1 < base) {ds : List Nat}
    (h : ∀ d ∈ ds, d < base) : convert base' base (convert base base' ds) = ds := by
  have hsplit := zeros_append_rest ds
  have hlt : ∀ d ∈ ds.dropWhile (· == 0), d < base :=
    fun d hd => h d ((List.dropWhile_suffix _).subset hd)
  have hhead : (ds.dropWhile (· == 0)).head? ≠ some 0 := by
    intro hzero
    have hno := List.head?_dropWhile_not (· == 0) ds
    rw [hzero] at hno
    simp at hno
  have hvalue : value base ds = value base (ds.dropWhile (· == 0)) := by
    conv_lhs => rw [← hsplit]
    rw [value_zeros_append]
  rw [convert, zeros_convert, value_convert, hvalue, numeral_value hbase hlt hhead, hsplit]

/-- So many digits come out: the value is in the window that is left behind
the zeros. -/
theorem length_convert_eq_iff (hbase' : 1 < base') (ds : List Nat) (k : Nat) :
    (convert base base' ds).length = k ↔ zeros ds ≤ k ∧
      value base ds < base' ^ (k - zeros ds) ∧
      (zeros ds < k → base' ^ (k - zeros ds - 1) ≤ value base ds) := by
  have hle := length_numeral_le_iff hbase' (value base ds)
  rw [convert, List.length_append, List.length_replicate]
  constructor
  · intro hlength
    refine ⟨by omega, (hle _).mp (by omega), fun hlt => ?_⟩
    by_contra hsmall
    have hshort := (hle (k - zeros ds - 1)).mpr (by omega)
    omega
  · rintro ⟨hzeros, hupper, hlower⟩
    have hmost := (hle _).mpr hupper
    by_cases hlt : zeros ds < k
    · have hleast : ¬ (numeral base' (value base ds)).length ≤ k - zeros ds - 1 := by
        intro hshort
        have := (hle _).mp hshort
        have := hlower hlt
        omega
      omega
    · omega

/-- A digit string with its zeros: the value is in the window of its length. -/
theorem value_window (hbase : 1 < base) {ds : List Nat} (h : ∀ d ∈ ds, d < base) :
    zeros ds ≤ ds.length ∧ value base ds < base ^ (ds.length - zeros ds) ∧
      (zeros ds < ds.length → base ^ (ds.length - zeros ds - 1) ≤ value base ds) := by
  have hback : (convert base base (convert base base ds)).length = ds.length := by
    rw [convert_convert hbase h]
  have hwindow := (length_convert_eq_iff hbase _ _).mp hback
  rwa [zeros_convert, value_convert] at hwindow

section Lengths

variable (hbase : 1 < base) (hle : base ≤ base') {ds : List Nat} (h : ∀ d ∈ ds, d < base)
include hbase hle h

/-- A larger base needs no more digits. -/
theorem length_convert_le : (convert base base' ds).length ≤ ds.length := by
  obtain ⟨hzeros, -, hlower⟩ :=
    (length_convert_eq_iff (Nat.lt_of_lt_of_le hbase hle) ds
      (convert base base' ds).length).mp rfl
  obtain ⟨hzeros', hupper, -⟩ := value_window hbase h
  by_cases hlt : zeros ds < (convert base base' ds).length
  · have hpow := Nat.pow_le_pow_left hle ((convert base base' ds).length - zeros ds - 1)
    have hexp := (Nat.pow_lt_pow_iff_right hbase).mp
      (Nat.lt_of_le_of_lt (Nat.le_trans hpow (hlower hlt)) hupper)
    omega
  · omega

/-- A smaller base needs no more digits than the largest number has. -/
theorem length_le_of_convert {m : Nat}
    (hm : base' ^ (convert base base' ds).length ≤ base ^ m) : ds.length ≤ m := by
  obtain ⟨hzeros, hupper, -⟩ :=
    (length_convert_eq_iff (Nat.lt_of_lt_of_le hbase hle) ds
      (convert base base' ds).length).mp rfl
  obtain ⟨hzeros', -, hlower⟩ := value_window hbase h
  have hzeros_pow := Nat.pow_le_pow_left hle (zeros ds)
  by_cases hlt : zeros ds < ds.length
  · have hpos : 0 < base' ^ zeros ds := Nat.pow_pos (by omega)
    have hall : base ^ (ds.length - 1) < base ^ m := by
      calc base ^ (ds.length - 1)
          = base ^ (ds.length - zeros ds - 1) * base ^ zeros ds := by
            rw [← Nat.pow_add]
            congr 1
            omega
        _ ≤ value base ds * base' ^ zeros ds := Nat.mul_le_mul (hlower hlt) hzeros_pow
        _ < base' ^ ((convert base base' ds).length - zeros ds) * base' ^ zeros ds :=
            Nat.mul_lt_mul_of_pos_right hupper hpos
        _ = base' ^ (convert base base' ds).length := by
            rw [← Nat.pow_add]
            congr 1
            omega
        _ ≤ base ^ m := hm
    have hexp := (Nat.pow_lt_pow_iff_right hbase).mp hall
    omega
  · have hmore := Nat.pow_le_pow_right (Nat.lt_of_lt_of_le (by omega) hle : 0 < base') hzeros
    have hexp := (Nat.pow_le_pow_iff_right hbase).mp
      (Nat.le_trans hzeros_pow (Nat.le_trans hmore hm))
    omega

end Lengths

end

end Radix
