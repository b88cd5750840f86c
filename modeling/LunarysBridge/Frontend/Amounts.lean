/-
LunarysBridge.Frontend.Amounts — amounts as people write them.

`toBaseUnits` joins the digits on both sides of the point into one numeral,
`toU64FromHuman` scales and adds. Both cut the fraction to `decimals` digits,
filled up with zeros (`fraction`), so they round the value down to base units.
`fromBaseUnits` writes a number so that it is read back. Strings are lists
of characters.
-/
import Mathlib.Data.Rat.Floor
import LunarysBridge.Lib.Digits
import LunarysBridge.Relayer.Data

namespace LunarysBridge.Frontend

open Digits (padStart padEnd stripStart stripEnd)
open Relayer (JsError trim bigInt)

/-! ## The functions -/

/-- `/^\d+(\.\d+)?$/.test(s)` -/
def isAmount (cs : List Char) : Bool :=
  let int := cs.takeWhile Char.isDigit
  match cs.dropWhile Char.isDigit with
  | [] => !int.isEmpty
  | '.' :: frac => !int.isEmpty && !frac.isEmpty && frac.all Char.isDigit
  | _ => false

/-- `const [int, frac = ""] = s.split(".")` -/
def splitPoint (cs : List Char) : List Char × List Char :=
  match cs.splitOn '.' with
  | int :: frac :: _ => (int, frac)
  | [int] => (int, [])
  | [] => ([], [])

/-- `s || "0"` -/
def orZero (cs : List Char) : List Char := if cs = [] then ['0'] else cs

def toBaseUnits (human : String) (decimals : Nat) : Except JsError Int :=
  let (i, fRaw) := splitPoint (trim human.toList)
  let f := (padEnd decimals '0' fRaw).take decimals
  let s := stripStart (orZero i ++ f)
  bigInt (String.ofList (orZero s))

def fromBaseUnits (amount : Int) (decimals : Nat) : String :=
  let s := padStart (decimals + 1) '0' (toString amount).toList
  let split := s.length - decimals
  let int := stripStart (s.take split)
  let frac := stripEnd (s.drop split)
  String.ofList (if frac = [] then int else int ++ '.' :: frac)

def toU64FromHuman (humanAmount : String) (decimals : Nat) : Except JsError Int :=
  let clean := trim humanAmount.toList
  if isAmount clean then do
    let (intPart, fracRaw) := splitPoint clean
    let frac := (fracRaw ++ List.replicate decimals '0').take decimals
    let base : Int := 10 ^ decimals
    .ok ((← bigInt (String.ofList (orZero intPart))) * base +
      (← bigInt (String.ofList (orZero frac))))
  else .error ⟨.Error, "Monto inválido"⟩

/-- The number an amount stands for. -/
def humanValue (cs : List Char) : ℚ :=
  let int := cs.takeWhile Char.isDigit
  let frac := (cs.dropWhile Char.isDigit).drop 1
  Nat.ofDigitChars 10 int 0 + Nat.ofDigitChars 10 frac 0 / 10 ^ frac.length

/-! ## Integer part and fraction -/

/-- The digits of an amount on both sides of the point, if there is one. -/
structure Parts (cs int frac : List Char) : Prop where
  int_digits : ∀ c ∈ int, c.isDigit = true
  frac_digits : ∀ c ∈ frac, c.isDigit = true
  int_ne_nil : int ≠ []
  joined : cs = if frac = [] then int else int ++ '.' :: frac

theorem takeWhile_digits {int rest : List Char} (hint : ∀ c ∈ int, c.isDigit = true)
    (hrest : ∀ c ∈ rest.head?, c.isDigit = false) :
    (int ++ rest).takeWhile Char.isDigit = int ∧ (int ++ rest).dropWhile Char.isDigit = rest := by
  rw [List.takeWhile_append_of_pos hint, List.dropWhile_append_of_pos hint]
  cases rest with
  | nil => simp
  | cons c rest =>
      have hc := hrest c rfl
      simp [hc]

namespace Parts

variable {cs int frac : List Char} (h : Parts cs int frac)
include h

theorem spanned : cs.takeWhile Char.isDigit = int ∧
    cs.dropWhile Char.isDigit = if frac = [] then [] else '.' :: frac := by
  rw [h.joined]
  split
  · have hspan : (int ++ []).takeWhile Char.isDigit = int ∧
        (int ++ []).dropWhile Char.isDigit = [] :=
      takeWhile_digits h.int_digits (by simp)
    rwa [List.append_nil] at hspan
  · exact takeWhile_digits h.int_digits (by simp)

theorem isAmount : isAmount cs = true := by
  obtain ⟨hint, hrest⟩ := h.spanned
  have hne : int.isEmpty = false := List.isEmpty_eq_false_iff.mpr h.int_ne_nil
  unfold Frontend.isAmount
  rw [hint, hrest]
  split_ifs with hfrac
  · simp [hne]
  · have hdigits : frac.all Char.isDigit = true := List.all_eq_true.mpr h.frac_digits
    simp [hne, hdigits, hfrac]

theorem humanValue_eq : humanValue cs =
    Nat.ofDigitChars 10 int 0 + Nat.ofDigitChars 10 frac 0 / 10 ^ frac.length := by
  obtain ⟨hint, hrest⟩ := h.spanned
  unfold humanValue
  rw [hint, hrest]
  split_ifs with hfrac
  · simp [hfrac]
  · rfl

theorem splitPoint_eq : splitPoint cs = (int, frac) := by
  have hno : ∀ ds : List Char, (∀ c ∈ ds, c.isDigit = true) → ∀ c ∈ ds, (c == '.') = false := by
    intro ds hds c hc
    refine beq_false_of_ne ?_
    rintro rfl
    exact absurd (hds '.' hc) (by decide)
  unfold splitPoint
  rw [h.joined]
  split_ifs with hfrac
  · rw [List.splitOn_eq_singleton_of_beq_eq_false (hno int h.int_digits), hfrac]
  · rw [List.splitOn_append_cons_of_forall_mem_beq_eq_false (hno int h.int_digits) '.'
        (beq_self_eq_true _), List.splitOn_eq_singleton_of_beq_eq_false (hno frac h.frac_digits)]

end Parts

/-- The expression matches just the strings that have such parts. -/
theorem isAmount_iff {cs : List Char} : isAmount cs = true ↔ ∃ int frac, Parts cs int frac := by
  constructor
  · intro h
    have hjoin := List.takeWhile_append_dropWhile (p := Char.isDigit) (l := cs)
    have hdigits : ∀ c ∈ cs.takeWhile Char.isDigit, c.isDigit = true :=
      fun c hc => List.mem_takeWhile_imp hc
    unfold isAmount at h
    split at h
    · next hrest =>
      rw [hrest, List.append_nil] at hjoin
      refine ⟨_, [], hdigits, by simp, by simpa using h, ?_⟩
      rw [if_pos rfl, hjoin]
    · next frac hrest =>
      simp only [Bool.and_eq_true, Bool.not_eq_true', List.isEmpty_eq_false_iff,
        List.all_eq_true] at h
      obtain ⟨⟨hint, hfrac⟩, hall⟩ := h
      refine ⟨_, frac, hdigits, hall, hint, ?_⟩
      rw [if_neg hfrac, ← hrest, hjoin]
    · cases h
  · rintro ⟨int, frac, h⟩
    exact h.isAmount

/-! ## Cutting the fraction -/

/-- The fraction, cut or filled up to so many digits. -/
def fraction (decimals : Nat) (frac : List Char) : List Char :=
  (frac ++ List.replicate decimals '0').take decimals

section Fraction

variable {frac : List Char} (decimals : Nat)

theorem padEnd_take : (padEnd decimals '0' frac).take decimals = fraction decimals frac := by
  unfold padEnd fraction
  rw [List.take_append, List.take_append, List.take_replicate, List.take_replicate, Nat.min_self]
  congr 2
  omega

theorem length_fraction : (fraction decimals frac).length = decimals := by
  unfold fraction
  rw [List.length_take, List.length_append, List.length_replicate]
  omega

variable (h : ∀ c ∈ frac, c.isDigit = true)
include h

theorem filled_digits : ∀ c ∈ frac ++ List.replicate decimals '0', c.isDigit = true := by
  intro c hc
  rcases List.mem_append.mp hc with hc | hc
  · exact h c hc
  · rw [(List.mem_replicate.mp hc).2]
    decide

theorem fraction_digits : ∀ c ∈ fraction decimals frac, c.isDigit = true :=
  fun c hc => filled_digits decimals h c (List.mem_of_mem_take hc)

/-- Cutting rounds down. -/
theorem ofDigitChars_fraction : Nat.ofDigitChars 10 (fraction decimals frac) 0 =
    Nat.ofDigitChars 10 frac 0 * 10 ^ decimals / 10 ^ frac.length := by
  unfold fraction
  rw [Digits.ofDigitChars_take (filled_digits decimals h), Nat.ofDigitChars_append,
    Nat.ofDigitChars_replicate_zero, Nat.mul_comm, List.length_append, List.length_replicate,
    Nat.add_sub_cancel]

end Fraction

/-! ## Reading -/

theorem bigInt_digits {cs : List Char} (hne : cs ≠ []) (h : ∀ c ∈ cs, c.isDigit = true) :
    bigInt (String.ofList cs) = .ok (Nat.ofDigitChars 10 cs 0 : Int) := by
  have hchars : (String.ofList cs).toList = cs := String.toList_ofList
  rw [Relayer.bigInt_of_isDigit (by rwa [hchars]) (by rwa [hchars]), hchars]

/-- Nothing is read as zero. -/
theorem bigInt_orZero {cs : List Char} (h : ∀ c ∈ cs, c.isDigit = true) :
    bigInt (String.ofList (orZero cs)) = .ok (Nat.ofDigitChars 10 cs 0 : Int) := by
  unfold orZero
  split
  · next hnil =>
    subst hnil
    refine bigInt_digits (List.cons_ne_nil _ _) fun c hc => ?_
    rw [List.mem_singleton.mp hc]
    decide
  · next hne => exact bigInt_digits hne h

section Reading

variable {human : String} {int frac : List Char} (h : Parts (trim human.toList) int frac)
  (decimals : Nat)
include h

theorem joined_digits : ∀ c ∈ int ++ fraction decimals frac, c.isDigit = true := by
  intro c hc
  rcases List.mem_append.mp hc with hc | hc
  · exact h.int_digits c hc
  · exact fraction_digits decimals h.frac_digits c hc

omit h in
theorem ofDigitChars_joined : Nat.ofDigitChars 10 (int ++ fraction decimals frac) 0 =
    Nat.ofDigitChars 10 int 0 * 10 ^ decimals +
      Nat.ofDigitChars 10 (fraction decimals frac) 0 := by
  rw [Nat.ofDigitChars_append, Nat.ofDigitChars_eq_ofDigitChars_zero, length_fraction,
    Nat.mul_comm]

/-- The digits on both sides of the point, as one numeral. -/
theorem toBaseUnits_eq : toBaseUnits human decimals =
    .ok (Nat.ofDigitChars 10 (int ++ fraction decimals frac) 0 : Int) := by
  have hkept : ∀ c ∈ stripStart (int ++ fraction decimals frac), c.isDigit = true :=
    fun c hc => joined_digits h decimals c ((Digits.stripStart_suffix _).subset hc)
  have hint : orZero int = int := if_neg h.int_ne_nil
  unfold toBaseUnits
  rw [h.splitPoint_eq]
  dsimp only
  rw [padEnd_take, hint, bigInt_orZero hkept, Digits.ofDigitChars_stripStart]

theorem toU64FromHuman_eq : toU64FromHuman human decimals =
    .ok (Nat.ofDigitChars 10 (int ++ fraction decimals frac) 0 : Int) := by
  have hint := bigInt_orZero h.int_digits
  have hfrac := bigInt_orZero (fraction_digits decimals h.frac_digits)
  unfold toU64FromHuman
  rw [if_pos h.isAmount, h.splitPoint_eq, ofDigitChars_joined]
  dsimp only
  rw [hint, show (frac ++ List.replicate decimals '0').take decimals =
    fraction decimals frac from rfl, hfrac]
  refine congrArg Except.ok ?_
  push_cast
  rfl

/-- That numeral is the value in base units, rounded down. -/
theorem floor_humanValue : ⌊humanValue (trim human.toList) * 10 ^ decimals⌋ =
    (Nat.ofDigitChars 10 (int ++ fraction decimals frac) 0 : Int) := by
  have hsplit : humanValue (trim human.toList) * 10 ^ decimals =
      (Nat.ofDigitChars 10 int 0 * 10 ^ decimals : ℕ) +
        ((Nat.ofDigitChars 10 frac 0 * 10 ^ decimals : ℕ) : ℚ) / (10 ^ frac.length : ℕ) := by
    rw [h.humanValue_eq]
    push_cast
    rw [add_mul, div_mul_eq_mul_div]
  rw [hsplit, Int.floor_natCast_add, Rat.floor_natCast_div_natCast, ofDigitChars_joined,
    ofDigitChars_fraction decimals h.frac_digits]
  push_cast
  rfl

end Reading

/-! ## Writing -/

/-- There is nothing to trim. -/
theorem Parts.trim_eq {cs int frac : List Char} (h : Parts cs int frac) : trim cs = cs := by
  refine Relayer.trim_eq_self fun c hc => ?_
  rw [h.joined] at hc
  split_ifs at hc with hfrac
  · exact Relayer.isSpace_of_isDigit (h.int_digits c hc)
  · rcases List.mem_append.mp hc with hc | hc
    · exact Relayer.isSpace_of_isDigit (h.int_digits c hc)
    · rcases List.mem_cons.mp hc with rfl | hc
      · decide
      · exact Relayer.isSpace_of_isDigit (h.frac_digits c hc)

/-- Zeros taken off the end are filled up again. -/
theorem fraction_stripEnd (frac : List Char) : fraction frac.length (stripEnd frac) = frac := by
  obtain ⟨zeros, hzeros⟩ := Digits.stripEnd_append frac
  have hlength := congrArg List.length hzeros
  rw [List.length_append, List.length_replicate] at hlength
  have hmore : List.replicate frac.length '0' =
      List.replicate zeros '0' ++ List.replicate (frac.length - zeros) '0' := by
    rw [List.replicate_append_replicate]
    congr 1
    omega
  rw [fraction, hmore, ← List.append_assoc, hzeros, List.take_left]

section Writing

variable (n decimals : Nat)

/-- The digits of a number, at least one of them before the point. -/
def padded : List Char := padStart (decimals + 1) '0' (Nat.toDigits 10 n)

theorem padded_digits : ∀ c ∈ padded n decimals, c.isDigit = true := by
  intro c hc
  rcases List.mem_append.mp hc with hc | hc
  · rw [(List.mem_replicate.mp hc).2]
    decide
  · exact Relayer.isDigit_toDigits c hc

theorem length_padded : decimals + 1 ≤ (padded n decimals).length := by
  rw [padded, padStart, List.length_append, List.length_replicate]
  omega

theorem ofDigitChars_padded : Nat.ofDigitChars 10 (padded n decimals) 0 = n := by
  rw [padded, padStart, Nat.ofDigitChars_append, Nat.ofDigitChars_replicate_zero, Nat.mul_zero,
    Nat.ofDigitChars_ten_toDigits]

theorem fromBaseUnits_parts : Parts (fromBaseUnits n decimals).toList
    (stripStart ((padded n decimals).take ((padded n decimals).length - decimals)))
    (stripEnd ((padded n decimals).drop ((padded n decimals).length - decimals))) := by
  have hdigits := padded_digits n decimals
  have hlength := length_padded n decimals
  refine ⟨fun c hc => ?_, fun c hc => ?_, ?_, ?_⟩
  · exact hdigits c (List.mem_of_mem_take ((Digits.stripStart_suffix _).subset hc))
  · obtain ⟨zeros, hzeros⟩ := Digits.stripEnd_append
      ((padded n decimals).drop ((padded n decimals).length - decimals))
    refine hdigits c (List.mem_of_mem_drop (i := (padded n decimals).length - decimals) ?_)
    rw [← hzeros]
    exact List.mem_append_left _ hc
  · refine Digits.stripStart_ne_nil fun hnil => ?_
    have hzero := congrArg List.length hnil
    rw [List.length_take, List.length_nil] at hzero
    omega
  · rw [fromBaseUnits, Relayer.toList_natCast]
    exact String.toList_ofList

/-- **Round trip** — what is written is read back. -/
theorem toBaseUnits_fromBaseUnits :
    toBaseUnits (fromBaseUnits n decimals) decimals = .ok (n : Int) := by
  have hparts := fromBaseUnits_parts n decimals
  have hlength := length_padded n decimals
  have htrimmed := hparts
  rw [← hparts.trim_eq] at htrimmed
  have hfrac := fraction_stripEnd
    ((padded n decimals).drop ((padded n decimals).length - decimals))
  have hdecimals : ((padded n decimals).drop ((padded n decimals).length - decimals)).length =
      decimals := by
    rw [List.length_drop]
    omega
  rw [hdecimals] at hfrac
  rw [toBaseUnits_eq htrimmed, hfrac, Nat.ofDigitChars_append, Digits.ofDigitChars_stripStart,
    ← Nat.ofDigitChars_append, List.take_append_drop, ofDigitChars_padded]

end Writing

/-- **Amounts** — both parsers read every amount as its value in base units,
rounded down, and what `fromBaseUnits` writes is read back. -/
theorem amounts_exact :
    (∀ (human : String) (decimals : Nat), isAmount (trim human.toList) = true →
      toBaseUnits human decimals = .ok ⌊humanValue (trim human.toList) * 10 ^ decimals⌋ ∧
      toU64FromHuman human decimals = .ok ⌊humanValue (trim human.toList) * 10 ^ decimals⌋) ∧
    ∀ n decimals : Nat, toBaseUnits (fromBaseUnits n decimals) decimals = .ok (n : Int) := by
  refine ⟨fun human decimals hamount => ?_, toBaseUnits_fromBaseUnits⟩
  obtain ⟨int, frac, h⟩ := isAmount_iff.mp hamount
  rw [floor_humanValue h decimals]
  exact ⟨toBaseUnits_eq h decimals, toU64FromHuman_eq h decimals⟩

theorem amounts_exact_sample :
    toBaseUnits " 007.1239 " 3 = .ok 7123 ∧ toU64FromHuman " 007.1239 " 3 = .ok 7123 ∧
      ⌊humanValue (trim " 007.1239 ".toList) * 10 ^ 3⌋ = 7123 := by
  obtain ⟨hbase, hscaled⟩ := amounts_exact.1 " 007.1239 " 3 (by decide)
  have hread : toBaseUnits " 007.1239 " 3 = .ok 7123 := by decide +kernel
  have hfloor := Except.ok.inj (hbase.symm.trans hread)
  rw [hfloor] at hscaled
  exact ⟨hread, hscaled, hfloor⟩

end LunarysBridge.Frontend
