/-
LunarysBridge.Frontend.Destination — the Solana address somebody types in.

`isValidSolanaAddress` decides on the length of the string and its alphabet
whether the form may be sent; `decodeSolanaAddressToBigInt` then decodes the
string and insists on 32 bytes. Every string that decodes is valid, but not
the other way round: how many bytes a string has depends on its leading `1`
and on the number it stands for (`address_valid_iff`).
-/
import LunarysBridge.Lib.Base58
import LunarysBridge.Lib.Digits
import LunarysBridge.Relayer.Data

namespace LunarysBridge.Frontend

open Digits (padStart)
open Relayer (JsError trim bigInt)

/-! ## The functions -/

/-- The library `bs58`; `decode` throws where it is `none`. -/
structure Bs58 where
  encode : List UInt8 → String
  decode : String → Option (List UInt8)

/-- `s.trim()` -/
def trimmed (s : String) : String := String.ofList (trim s.toList)

/-- `[1-9A-HJ-NP-Za-km-z]` -/
def isBase58Char (c : Char) : Bool :=
  ('1' ≤ c && c ≤ '9') || ('A' ≤ c && c ≤ 'H') || ('J' ≤ c && c ≤ 'N') || ('P' ≤ c && c ≤ 'Z') ||
    ('a' ≤ c && c ≤ 'k') || ('m' ≤ c && c ≤ 'z')

def isValidSolanaAddress (address : String) : Bool :=
  if address = "" ∨ trimmed address = "" then false
  else
    let cs := (trimmed address).toList
    cs.all isBase58Char && 32 ≤ cs.length && cs.length ≤ 44

structure EncodedDestination where
  value : Int
  hex : String
  deriving DecidableEq

/-- `byte.toString(16).padStart(2, "0")` -/
def byteHex (byte : UInt8) : List Char := padStart 2 '0' (Nat.toDigits 16 byte.toNat)

def decodeSolanaAddressToBigInt (bs58 : Bs58) (destination : String) :
    Except JsError EncodedDestination :=
  let trimmed := trimmed destination
  if trimmed = "" then .error ⟨.Error, "Solana destination address is required"⟩
  else
    match bs58.decode trimmed with
    | none => .error ⟨.Error, "Destination is not valid base58 encoding"⟩
    | some decoded =>
        if decoded.length ≠ 32 then
          .error ⟨.Error, "Solana destination must decode to 32 bytes"⟩
        else do
          let hex := String.ofList (decoded.foldl (fun hex byte => hex ++ byteHex byte) ['0', 'x'])
          let value ← bigInt hex
          .ok ⟨value, hex⟩

/-! ## Hexadecimal strings -/

/-- The digits of the bytes, two each. -/
def bytesHex (bytes : List UInt8) : List Char := bytes.flatMap byteHex

/-- The number the bytes stand for. -/
def bigEndian (bytes : List UInt8) : Nat := bytes.foldl (fun n b => n * 256 + b.toNat) 0

theorem bytesHex_cons (b : UInt8) (bytes : List UInt8) :
    bytesHex (b :: bytes) = byteHex b ++ bytesHex bytes :=
  List.flatMap_cons

theorem foldl_byteHex (bytes : List UInt8) (hex : List Char) :
    bytes.foldl (fun hex byte => hex ++ byteHex byte) hex = hex ++ bytesHex bytes := by
  induction bytes generalizing hex with
  | nil => simp [bytesHex]
  | cons b bytes ih => rw [List.foldl_cons, ih, bytesHex_cons, List.append_assoc]

theorem byteHex_eq (b : UInt8) :
    byteHex b = [(b.toNat / 16).digitChar, (b.toNat % 16).digitChar] := by
  have hlt : b.toNat < 16 ^ 2 := b.toNat_lt
  rw [byteHex, Digits.padStart_toDigits (by decide) 1 b.toNat hlt]
  have hdiv : b.toNat / 16 % 16 = b.toNat / 16 := Nat.mod_eq_of_lt (by omega)
  simp [Digits.numeral, hdiv]

theorem hexDigit_digitChar : ∀ d < 16, Relayer.hexDigit d.digitChar = some d := by decide

/-- Reading the digits of the bytes reads the bytes. -/
theorem digits_bytesHex (bytes : List UInt8) (acc : Nat) :
    Relayer.digits 16 acc (bytesHex bytes) =
      some (bytes.foldl (fun n b => n * 256 + b.toNat) acc) := by
  induction bytes generalizing acc with
  | nil => rfl
  | cons b bytes ih =>
      have hlt : b.toNat < 256 := b.toNat_lt
      have hread : (acc * 16 + b.toNat / 16) * 16 + b.toNat % 16 = acc * 256 + b.toNat := by omega
      rw [bytesHex_cons, byteHex_eq, List.cons_append, List.singleton_append]
      simp only [Relayer.digits, hexDigit_digitChar _ (by omega : b.toNat / 16 < 16),
        hexDigit_digitChar _ (by omega : b.toNat % 16 < 16)]
      rw [if_pos (by omega), if_pos (by omega), hread]
      exact ih _

theorem isSpace_byteHex (b : UInt8) : ∀ c ∈ byteHex b, Relayer.isSpace c = false := by
  have hspace : ∀ d < 16, Relayer.isSpace d.digitChar = false := by decide
  have hlt : b.toNat < 256 := b.toNat_lt
  intro c hc
  rw [byteHex_eq] at hc
  rcases List.mem_cons.mp hc with rfl | hc
  · exact hspace _ (by omega)
  · obtain rfl := List.mem_singleton.mp hc
    exact hspace _ (by omega)

/-- `BigInt` of the hexadecimal string of some bytes. -/
theorem bigInt_bytesHex {bytes : List UInt8} (hne : bytes ≠ []) :
    bigInt (String.ofList ('0' :: 'x' :: bytesHex bytes)) = .ok (bigEndian bytes : Int) := by
  have hspace : ∀ c ∈ '0' :: 'x' :: bytesHex bytes, Relayer.isSpace c = false := by
    intro c hc
    simp only [List.mem_cons, bytesHex, List.mem_flatMap] at hc
    rcases hc with rfl | rfl | ⟨b, -, hc⟩
    · decide
    · decide
    · exact isSpace_byteHex b c hc
  have hnonempty : bytesHex bytes ≠ [] := by
    obtain ⟨b, rest, rfl⟩ := List.exists_cons_of_ne_nil hne
    rw [bytesHex_cons, byteHex_eq]
    exact List.cons_ne_nil _ _
  rw [bigInt, String.toList_ofList, Relayer.trim_eq_self hspace]
  simp only [Relayer.integerLiteral, Relayer.unsigned, if_neg hnonempty, digits_bytesHex]
  rfl

/-! ## Decoding -/

section Decoding

variable (bs58 : Bs58) (s : String)

/-- What a string decodes to: the number of its bytes. -/
theorem decodeSolanaAddressToBigInt_eq {key : List UInt8} (hne : trimmed s ≠ "")
    (hdecode : bs58.decode (trimmed s) = some key) (hlength : key.length = 32) :
    decodeSolanaAddressToBigInt bs58 s =
      .ok ⟨bigEndian key, String.ofList ('0' :: 'x' :: bytesHex key)⟩ := by
  have hkey : key ≠ [] := by
    rintro rfl
    cases hlength
  unfold decodeSolanaAddressToBigInt
  dsimp only
  rw [if_neg hne, hdecode]
  dsimp only
  rw [if_neg (not_not_intro hlength), foldl_byteHex, List.cons_append, List.singleton_append,
    bigInt_bytesHex hkey]
  rfl

/-- It succeeds on the strings of 32 bytes, and on no others. -/
theorem decodes_iff : (∃ e, decodeSolanaAddressToBigInt bs58 s = .ok e) ↔
    trimmed s ≠ "" ∧ ∃ key, bs58.decode (trimmed s) = some key ∧ key.length = 32 := by
  constructor
  · rintro ⟨e, h⟩
    unfold decodeSolanaAddressToBigInt at h
    dsimp only at h
    split at h
    · cases h
    · next hne =>
      refine ⟨hne, ?_⟩
      split at h
      · cases h
      · next key hdecode =>
        split at h
        · cases h
        · next hlength => exact ⟨key, hdecode, not_not.mp hlength⟩
  · rintro ⟨hne, key, hdecode, hlength⟩
    exact ⟨_, decodeSolanaAddressToBigInt_eq bs58 s hne hdecode hlength⟩

end Decoding

/-! ## Validity -/

theorem isBase58Char_iff (c : Char) : isBase58Char c = true ↔ c ∈ Base58.alphabet := by
  have hmem : Base58.alphabet.all isBase58Char = true := by decide
  have hall : ((List.range 123).map Char.ofNat).all
      (fun c => !isBase58Char c || Base58.alphabet.contains c) = true := by decide
  refine ⟨fun h => ?_, List.all_eq_true.mp hmem c⟩
  have hlt : c.toNat < 123 := by
    simp only [isBase58Char, Bool.or_eq_true, Bool.and_eq_true, decide_eq_true_eq] at h
    rcases h with ((((h | h) | h) | h) | h) | h <;>
      exact Nat.lt_of_le_of_lt (show c.toNat ≤ _ from h.2) (by decide)
  have hc : c ∈ (List.range 123).map Char.ofNat :=
    List.mem_map.mpr ⟨c.toNat, List.mem_range.mpr hlt, Char.ofNat_toNat c⟩
  have hbase := List.all_eq_true.mp hall c hc
  simpa [h] using hbase

theorem valid_iff (s : String) : isValidSolanaAddress s = true ↔
    (∀ c ∈ (trimmed s).toList, c ∈ Base58.alphabet) ∧
      32 ≤ (trimmed s).toList.length ∧ (trimmed s).toList.length ≤ 44 := by
  unfold isValidSolanaAddress
  split
  · next hempty =>
    have hnil : trimmed s = "" := by
      rcases hempty with rfl | h
      · rfl
      · exact h
    rw [hnil]
    simp
  · simp only [Bool.and_eq_true, List.all_eq_true, decide_eq_true_eq, isBase58Char_iff, and_assoc]

/-- The validation of the string agrees with its decoding, and that with the
number of bytes. -/
def Agrees (bs58 : Bs58) (s : String) : Prop :=
  (isValidSolanaAddress s = true ↔ ∃ e, decodeSolanaAddressToBigInt bs58 s = .ok e) ∧
  ((∃ e, decodeSolanaAddressToBigInt bs58 s = .ok e) ↔
    ∃ key, Base58.decode (trimmed s) = some key ∧ key.length = 32)

/-- What decodes has between 32 and 44 characters. -/
theorem valid_of_fits {s : String} (h : Base58.Fits 32 (trimmed s)) :
    isValidSolanaAddress s = true := by
  obtain ⟨key, hdecode, hlength⟩ := (Base58.fits_iff _ _).mp h
  obtain ⟨hleast, hmost⟩ := Base58.length_of_decode hdecode
  rw [hlength] at hleast hmost
  exact (valid_iff s).mpr ⟨h.alphabet, hleast, hmost 44 (by decide)⟩

section Validity

variable {bs58 : Bs58} (hbs58 : ∀ s, bs58.decode s = Base58.decode s) (s : String)
include hbs58

theorem decodes_iff_fits :
    (∃ e, decodeSolanaAddressToBigInt bs58 s = .ok e) ↔ Base58.Fits 32 (trimmed s) := by
  rw [decodes_iff, Base58.fits_iff, hbs58]
  refine and_iff_right_of_imp ?_
  rintro ⟨key, hdecode, hlength⟩ hempty
  rw [hempty] at hdecode
  have hnil : Base58.decode "" = some [] := by decide
  rw [hnil] at hdecode
  cases hdecode
  cases hlength

/-- **Validation** agrees with decoding exactly on the strings that are not
32 to 44 characters of the alphabet, or stand for 32 bytes. -/
theorem address_valid_iff : Agrees bs58 s ↔
    ((∀ c ∈ (trimmed s).toList, c ∈ Base58.alphabet) →
      32 ≤ (trimmed s).toList.length → (trimmed s).toList.length ≤ 44 →
      Base58.Fits 32 (trimmed s)) := by
  have hdecodes := decodes_iff_fits hbs58 s
  unfold Agrees
  rw [hdecodes, ← Base58.fits_iff, valid_iff]
  constructor
  · rintro ⟨hagree, -⟩ halphabet hleast hmost
    exact hagree.mp ⟨halphabet, hleast, hmost⟩
  · intro h
    refine ⟨⟨fun hvalid => h hvalid.1 hvalid.2.1 hvalid.2.2, fun hfits => ?_⟩, Iff.rfl⟩
    exact (valid_iff s).mp (valid_of_fits hfits)

end Validity

namespace Sample

/-- The library. -/
def bs58 : Bs58 := ⟨Base58.encode, Base58.decode⟩

/-- The largest character, 32 times: 24 bytes. -/
def short : String := String.ofList (List.replicate 32 'z')

end Sample

theorem address_valid_system : Agrees Sample.bs58 "11111111111111111111111111111111" := by
  refine (address_valid_iff (fun _ => rfl) _).mpr fun _ _ _ => ?_
  exact (Base58.fits_iff _ _).mpr ⟨List.replicate 32 0, by decide +kernel, rfl⟩

/-- A string may be valid and stand for 24 bytes only. -/
theorem address_valid_short : ¬ ∀ (bs58 : Bs58) (s : String),
    (∀ s, bs58.decode s = Base58.decode s) → Agrees bs58 s := by
  intro hall
  have hvalid : isValidSolanaAddress Sample.short = true := by decide +kernel
  obtain ⟨hagree, hbytes⟩ := hall Sample.bs58 Sample.short fun _ => rfl
  obtain ⟨key, hdecode, hlength⟩ := hbytes.mp (hagree.mp hvalid)
  have hshort : (Base58.decode (trimmed Sample.short)).map List.length = some 24 := by
    decide +kernel
  rw [hdecode] at hshort
  rw [Option.map_some, hlength] at hshort
  cases hshort

end LunarysBridge.Frontend
