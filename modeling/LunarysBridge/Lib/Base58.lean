/-
LunarysBridge.Lib.Base58 — strings of bytes in base 58.

The bytes are converted as one number, a leading zero byte to a leading `1`.
Decoding fails on a character outside the alphabet, and on nothing else.
-/
import Mathlib.Data.List.GetD
import LunarysBridge.Lib.Radix

namespace Base58

open Radix (convert value zeros)

def alphabet : List Char := "123456789ABCDEFGHJKLMNPQRSTUVWXYZabcdefghijkmnopqrstuvwxyz".toList

theorem length_alphabet : alphabet.length = 58 := by decide

theorem nodup_alphabet : alphabet.Nodup := by decide

/-! ## Characters -/

def charOf (d : Nat) : Char := alphabet.getD d '1'

def digit (c : Char) : Nat := alphabet.idxOf c

theorem charOf_mem {d : Nat} (h : d < 58) : charOf d ∈ alphabet := by
  have hlt : d < alphabet.length := by rwa [length_alphabet]
  rw [charOf, List.getD_eq_getElem _ _ hlt]
  exact List.getElem_mem hlt

theorem digit_charOf {d : Nat} (h : d < 58) : digit (charOf d) = d := by
  have hlt : d < alphabet.length := by rwa [length_alphabet]
  rw [digit, charOf, List.getD_eq_getElem _ _ hlt, List.Nodup.idxOf_getElem nodup_alphabet]

theorem digit_lt {c : Char} (h : c ∈ alphabet) : digit c < 58 := by
  rw [← length_alphabet]
  exact List.idxOf_lt_length_of_mem h

theorem charOf_digit {c : Char} (h : c ∈ alphabet) : charOf (digit c) = c := by
  have hlt := List.idxOf_lt_length_of_mem h
  rw [charOf, digit, List.getD_eq_getElem _ _ hlt, List.getElem_idxOf]

theorem digit_eq_zero_iff (c : Char) : digit c = 0 ↔ c = '1' := by
  have hhead : ∀ cs : List Char, ('1' :: cs).idxOf c = 0 ↔ c = '1' := by
    intro cs
    by_cases hc : '1' = c
    · subst hc
      simp
    · simp [List.idxOf_cons_ne _ hc, Ne.symm hc]
  exact hhead _

/-- The digits of a string; `none` if one of its characters is none. -/
def digits (cs : List Char) : Option (List Nat) :=
  if cs.all alphabet.contains then some (cs.map digit) else none

theorem all_contains_iff (cs : List Char) :
    cs.all alphabet.contains = true ↔ ∀ c ∈ cs, c ∈ alphabet := by
  simp [List.all_eq_true]

theorem digits_map_charOf {ds : List Nat} (h : ∀ d ∈ ds, d < 58) :
    digits (ds.map charOf) = some ds := by
  have hmem : ∀ c ∈ ds.map charOf, c ∈ alphabet := by
    intro c hc
    obtain ⟨d, hd, rfl⟩ := List.mem_map.mp hc
    exact charOf_mem (h d hd)
  rw [digits, if_pos ((all_contains_iff _).mpr hmem), List.map_map]
  conv_rhs => rw [← List.map_id ds]
  exact congrArg some (List.map_congr_left fun d hd => digit_charOf (h d hd))

theorem digits_some {cs : List Char} {ds : List Nat} (h : digits cs = some ds) :
    (∀ d ∈ ds, d < 58) ∧ ds.map charOf = cs := by
  unfold digits at h
  split at h
  · next hall =>
    have hmem := (all_contains_iff cs).mp hall
    cases h
    constructor
    · intro d hd
      obtain ⟨c, hc, rfl⟩ := List.mem_map.mp hd
      exact digit_lt (hmem c hc)
    · rw [List.map_map]
      conv_rhs => rw [← List.map_id cs]
      exact List.map_congr_left fun c hc => charOf_digit (hmem c hc)
  · cases h

/-! ## Bytes -/

def encode (bytes : List UInt8) : String :=
  String.ofList ((convert 256 58 (bytes.map UInt8.toNat)).map charOf)

def decode (s : String) : Option (List UInt8) :=
  (digits s.toList).map fun ds => (convert 58 256 ds).map UInt8.ofNat

theorem toNat_ofNat_of_lt {ns : List Nat} (h : ∀ n ∈ ns, n < 256) :
    (ns.map UInt8.ofNat).map UInt8.toNat = ns := by
  rw [List.map_map]
  conv_rhs => rw [← List.map_id ns]
  refine List.map_congr_left fun n hn => ?_
  exact Nat.mod_eq_of_lt (h n hn)

theorem ofNat_toNat (bytes : List UInt8) : (bytes.map UInt8.toNat).map UInt8.ofNat = bytes := by
  rw [List.map_map]
  conv_rhs => rw [← List.map_id bytes]
  exact List.map_congr_left fun b _ => UInt8.ofNat_toNat

theorem decode_encode (bytes : List UInt8) : decode (encode bytes) = some bytes := by
  have hlt : ∀ d ∈ convert 256 58 (bytes.map UInt8.toNat), d < 58 :=
    fun d hd => Radix.convert_lt (by decide) hd
  have hbytes : ∀ n ∈ bytes.map UInt8.toNat, n < 256 := by
    intro n hn
    obtain ⟨b, -, rfl⟩ := List.mem_map.mp hn
    exact b.toNat_lt
  rw [decode, encode, String.toList_ofList, digits_map_charOf hlt, Option.map_some,
    Radix.convert_convert (by decide) hbytes, ofNat_toNat]

theorem encode_decode {s : String} {bytes : List UInt8} (h : decode s = some bytes) :
    encode bytes = s := by
  obtain ⟨ds, hds, rfl⟩ := Option.map_eq_some_iff.mp h
  obtain ⟨hlt, hchars⟩ := digits_some hds
  have hbytes : ∀ n ∈ convert 58 256 ds, n < 256 :=
    fun n hn => Radix.convert_lt (by decide) hn
  rw [encode, toNat_ofNat_of_lt hbytes, Radix.convert_convert (by decide) hlt, hchars,
    String.ofList_toList]

/-! ## Length -/

/-- How many `1` a string begins with. -/
def ones (s : String) : Nat := (s.toList.takeWhile (· == '1')).length

/-- The number a string stands for. -/
def number (s : String) : Nat := value 58 (s.toList.map digit)

/-- A string of the alphabet that decodes to `k` bytes: as many zeros as it
has leading `1`, and a number that just needs the other bytes. -/
structure Fits (k : Nat) (s : String) : Prop where
  alphabet : ∀ c ∈ s.toList, c ∈ alphabet
  ones : ones s ≤ k
  upper : number s < 256 ^ (k - Base58.ones s)
  lower : Base58.ones s < k → 256 ^ (k - Base58.ones s - 1) ≤ number s

theorem zeros_map_digit (cs : List Char) :
    zeros (cs.map digit) = (cs.takeWhile (· == '1')).length := by
  induction cs with
  | nil => rfl
  | cons c cs ih =>
      have hzero := digit_eq_zero_iff c
      unfold zeros at ih ⊢
      by_cases hc : c = '1'
      · subst hc
        simp [hzero.mpr rfl, ih]
      · simp [hc, mt hzero.mp hc]

theorem decode_eq_some_iff {s : String} {bytes : List UInt8} :
    decode s = some bytes ↔ (∀ c ∈ s.toList, c ∈ alphabet) ∧
      (convert 58 256 (s.toList.map digit)).map UInt8.ofNat = bytes := by
  unfold decode digits
  rw [← all_contains_iff]
  split
  · next hall => exact ⟨fun h => ⟨hall, Option.some.inj h⟩, fun h => congrArg some h.2⟩
  · next hno => exact ⟨fun h => (by cases h), fun h => absurd h.1 hno⟩

/-- **Length** of what a string decodes to. -/
theorem fits_iff (s : String) (k : Nat) :
    Fits k s ↔ ∃ bytes, decode s = some bytes ∧ bytes.length = k := by
  have hlength : (convert 58 256 (s.toList.map digit)).length = k ↔ _ :=
    Radix.length_convert_eq_iff (by decide) _ k
  rw [zeros_map_digit] at hlength
  constructor
  · intro h
    refine ⟨_, decode_eq_some_iff.mpr ⟨h.alphabet, rfl⟩, ?_⟩
    rw [List.length_map]
    exact hlength.mpr ⟨h.ones, h.upper, h.lower⟩
  · rintro ⟨bytes, hdecode, hbytes⟩
    obtain ⟨hmem, rfl⟩ := decode_eq_some_iff.mp hdecode
    rw [List.length_map] at hbytes
    obtain ⟨hones, hupper, hlower⟩ := hlength.mp hbytes
    exact ⟨hmem, hones, hupper, hlower⟩

/-- So many bytes have at least as many characters, and at most as many as
the largest number of the bytes. -/
theorem length_of_decode {s : String} {bytes : List UInt8} (h : decode s = some bytes) :
    bytes.length ≤ s.toList.length ∧
      ∀ m, 256 ^ bytes.length ≤ 58 ^ m → s.toList.length ≤ m := by
  obtain ⟨hmem, rfl⟩ := decode_eq_some_iff.mp h
  have hlt : ∀ d ∈ s.toList.map digit, d < 58 := by
    intro d hd
    obtain ⟨c, hc, rfl⟩ := List.mem_map.mp hd
    exact digit_lt (hmem c hc)
  have hle := Radix.length_convert_le (by decide) (by decide : 58 ≤ 256) hlt
  rw [List.length_map] at hle
  refine ⟨by rwa [List.length_map], fun m hm => ?_⟩
  rw [List.length_map] at hm
  have hmost := Radix.length_le_of_convert (by decide) (by decide) hlt hm
  rwa [List.length_map] at hmost

end Base58
