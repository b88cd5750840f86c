/-
LunarysBridge.Node.Destination — the EVM address of a Solana deposit, from
the frontend to the node.

The frontend packs the 20 bytes into four words (`ethAddressTo4U64`), the
circuits pass them on, and the node makes an address of what it decrypts
(`evmDestination`). The packing puts the most significant word first; the
node takes the first word for the least significant, and cuts off all but 16
of the 64 digits.
-/
import LunarysBridge.Lib.Digits
import LunarysBridge.Relayer.Data
import LunarysBridge.Solana.Circuits

namespace LunarysBridge.Node

open Evm (Address)
open Relayer (JsError hexDigit trim toLowerCase addressString)
open Solana (Bytes32 Circuit DestWords Enc Mxe Scheme Words)

/-! ## The frontend -/

def bytesToBigBE (b : List UInt8) : Nat := b.foldl (fun v x => v <<< 8 + x.toNat) 0

inductive Endian where
  | be
  | le
  deriving DecidableEq

/-- `/^[0-9a-f]$/` -/
def isHexLower (c : Char) : Bool := ('0' ≤ c && c ≤ '9') || ('a' ≤ c && c ≤ 'f')

/-- `h.replace(/^0x/, "")` -/
def dropPrefix : List Char → List Char
  | '0' :: 'x' :: h => h
  | h => h

/-- `parseInt(h.slice(i * 2, i * 2 + 2), 16)` for each `i`. -/
def hexBytes : List Char → List UInt8
  | a :: b :: h =>
      UInt8.ofNat ((hexDigit a).getD 0 * 16 + (hexDigit b).getD 0) :: hexBytes h
  | _ => []

def ethAddressTo4U64 (addr : String) (endian : Endian) : Except JsError (Words Nat) :=
  let h := dropPrefix (toLowerCase (String.ofList (trim addr.toList))).toList
  if h.length = 40 ∧ h.all isHexLower then
    let raw := hexBytes h
    let buf32 := match endian with
      | .be => List.replicate 12 0 ++ raw
      | .le => raw ++ List.replicate 12 0
    let part (i : Nat) := bytesToBigBE ((buf32.drop (i * 8)).take 8)
    .ok ⟨part 0, part 1, part 2, part 3⟩
  else .error ⟨.Error, "Dirección EVM inválida (esperaba 20 bytes hex)"⟩

/-! ## The node -/

structure ResealOutput where
  nonce : BitVec 128
  ctWords : Words Bytes32
  deriving DecidableEq

/-- `fetchResealOutput` of what a circuit left in the computation account: the
nonce, and after it the four words. -/
def readOutput (out : Enc) : ResealOutput := ⟨out.owner.nonce, out.ctWords⟩

/-- What the solver decrypts of an output, with its private key and the public
key of the MXE. -/
def plains (S : Scheme) (solver : S.PrivateKey) (mxePub : Bytes32) (out : ResealOutput) :
    DestWords :=
  S.decryptFrom solver mxePub out.nonce out.ctWords

/-- `evmU256` of `resolveEvmDestination`. -/
def joinWords (plains : Words Nat) : Nat :=
  [plains.w0, plains.w1, plains.w2, plains.w3].zipIdx.foldl
    (fun evmU256 (w, i) => evmU256 ||| (w &&& (1 <<< 64 - 1)) <<< (64 * i)) 0

/-- The end of `resolveEvmDestination`, from the decrypted words on. -/
def evmDestination (plains : Words Nat) : String :=
  let hex := Digits.padStart 64 '0' (Nat.toDigits 16 (joinWords plains))
  String.ofList ('0' :: 'x' :: hex.drop (24 * 2))

/-- A word that is put on top of the ones below it. -/
theorem or_shiftLeft (below i w : Nat) (h : below < 2 ^ i) :
    below ||| w <<< i = below + 2 ^ i * w := by
  rw [Nat.or_comm, ← Nat.shiftLeft_add_eq_or_of_lt h, Nat.shiftLeft_eq, Nat.add_comm,
    Nat.mul_comm]

theorem joinWords_eq (plains : Words Nat) :
    joinWords plains = plains.w0 % 2 ^ 64 + 2 ^ 64 * (plains.w1 % 2 ^ 64) +
      2 ^ 128 * (plains.w2 % 2 ^ 64) + 2 ^ 192 * (plains.w3 % 2 ^ 64) := by
  have hmask : ∀ w : Nat, w &&& (1 <<< 64 - 1) = w % 2 ^ 64 := fun w =>
    Nat.and_two_pow_sub_one_eq_mod w 64
  -- each word comes above the ones that are there
  have h₁ := or_shiftLeft (plains.w0 % 2 ^ 64) 64 (plains.w1 % 2 ^ 64) (by omega)
  have h₂ := or_shiftLeft (plains.w0 % 2 ^ 64 + 2 ^ 64 * (plains.w1 % 2 ^ 64)) 128
    (plains.w2 % 2 ^ 64) (by omega)
  have h₃ := or_shiftLeft (plains.w0 % 2 ^ 64 + 2 ^ 64 * (plains.w1 % 2 ^ 64) +
    2 ^ 128 * (plains.w2 % 2 ^ 64)) 192 (plains.w3 % 2 ^ 64) (by omega)
  simp only [joinWords, List.zipIdx_cons, List.zipIdx_nil, List.foldl_cons, List.foldl_nil,
    hmask, Nat.mul_zero, Nat.shiftLeft_zero, Nat.zero_or, Nat.zero_add, Nat.reduceAdd,
    Nat.reduceMul, h₁, h₂, h₃]

/-- **Only the first word counts**: the node's address is its 16 digits. -/
theorem evmDestination_eq (plains : Words Nat) :
    evmDestination plains =
      String.ofList ('0' :: 'x' :: Digits.numeral 16 16 plains.w0) := by
  have heq := joinWords_eq plains
  have hlt : joinWords plains < 16 ^ (63 + 1) := by omega
  have hmod : joinWords plains % 16 ^ 16 = plains.w0 % 16 ^ 16 := by omega
  have hslice := Digits.drop_numeral 16 48 16 (joinWords plains)
  rw [← Digits.numeral_mod 16 16, hmod, Digits.numeral_mod] at hslice
  rw [evmDestination, Digits.padStart_toDigits (by decide) 63 _ hlt]
  exact congrArg (fun digits => String.ofList ('0' :: 'x' :: digits)) hslice

/-! ## The way of an address -/

/-- The digits of an address are lower case and no white space. -/
theorem hexLower_digitChar : ∀ d < 16,
    isHexLower (Nat.digitChar d) = true ∧ Relayer.isSpace (Nat.digitChar d) = false ∧
      (if (Nat.digitChar d).toNat = 0x212A then 'k' else (Nat.digitChar d).toLower) =
        Nat.digitChar d := by
  decide

/-- `addressString` without its prefix. -/
def addressDigits (a : Address) : List Char :=
  (List.range 40).map fun i => Nat.digitChar (a.toNat / 16 ^ (39 - i) % 16)

theorem mem_addressDigits {a : Address} {c : Char} (h : c ∈ addressDigits a) :
    ∃ d < 16, c = Nat.digitChar d := by
  obtain ⟨i, _, rfl⟩ := List.mem_map.mp h
  exact ⟨_, Nat.mod_lt _ (by decide), rfl⟩

theorem addressString_toList (a : Address) :
    (addressString a).toList = '0' :: 'x' :: addressDigits a :=
  String.toList_ofList

theorem toLowerCase_addressString (a : Address) :
    toLowerCase (addressString a) = addressString a := by
  have hdigits : ∀ c ∈ addressDigits a,
      (if c.toNat = 0x212A then 'k' else c.toLower) = c := by
    intro c hc
    obtain ⟨d, hd, rfl⟩ := mem_addressDigits hc
    exact (hexLower_digitChar d hd).2.2
  rw [toLowerCase, addressString_toList, List.map_cons, List.map_cons,
    List.map_congr_left hdigits, List.map_id']
  rfl

theorem trim_addressString (a : Address) :
    trim (addressString a).toList = (addressString a).toList := by
  refine Relayer.trim_eq_self fun c hc => ?_
  simp only [addressString_toList, List.mem_cons] at hc
  rcases hc with rfl | rfl | hc
  · decide
  · decide
  · obtain ⟨d, hd, rfl⟩ := mem_addressDigits hc
    exact (hexLower_digitChar d hd).2.1

/-- The frontend takes every address. -/
theorem ethAddressTo4U64_addressString (a : Address) (endian : Endian) :
    ∃ parts, ethAddressTo4U64 (addressString a) endian = .ok parts := by
  have hlength : (addressDigits a).length = 40 := by simp [addressDigits]
  have hall : (addressDigits a).all isHexLower = true := by
    rw [List.all_eq_true]
    intro c hc
    obtain ⟨d, hd, rfl⟩ := mem_addressDigits hc
    exact (hexLower_digitChar d hd).1
  simp only [ethAddressTo4U64, trim_addressString, String.ofList_toList,
    toLowerCase_addressString]
  simp only [addressString_toList, dropPrefix, hlength, hall, and_self, if_true]
  exact ⟨_, rfl⟩

/-- The first word of a big-endian packing holds no byte of the address. -/
theorem ethAddressTo4U64_w0 {addr : String} {parts : Words Nat}
    (h : ethAddressTo4U64 addr .be = .ok parts) : parts.w0 = 0 := by
  simp only [ethAddressTo4U64] at h
  split at h
  · cases h
    simp [bytesToBigBE]
  · cases h

/-- A destination on its way: packed by the frontend, encrypted between the
MXE and `key`, passed through a circuit, decrypted with `key` and put together
by the node. -/
def roundTrip (mxe : Mxe) (key : mxe.scheme.PrivateKey) (nonce : BitVec 128)
    (circuit : Circuit) (addr : String) : Except JsError String := do
  let parts ← ethAddressTo4U64 addr .be
  let input : Enc :=
    { owner := ⟨mxe.scheme.publicKey key, nonce⟩
      ctWords := mxe.scheme.encryptFor key mxe.publicKey nonce (parts.map UInt64.ofNat) }
  let out := circuit.run mxe input
  .ok (evmDestination ((plains mxe.scheme key mxe.publicKey (readOutput out)).map UInt64.toNat))

/-- Whatever address it was, the node reads eight zero bytes. -/
theorem roundTrip_eq (mxe : Mxe) (hlaw : mxe.scheme.Lawful) (key : mxe.scheme.PrivateKey)
    (nonce : BitVec 128) (circuit : Circuit) {addr : String} {parts : Words Nat}
    (h : ethAddressTo4U64 addr .be = .ok parts) :
    roundTrip mxe key nonce circuit addr = .ok "0x0000000000000000" := by
  have hzero := ethAddressTo4U64_w0 h
  simp only [roundTrip, h, Circuit.run_eq, plains, readOutput, Enc.toArcis, Solana.Shared.fromArcis,
    Mxe.publicKey]
  simp only [hlaw.decryptFrom_encryptFor]
  show Except.ok (evmDestination _) = _
  rw [evmDestination_eq]
  simp [Words.map, hzero, Digits.numeral_zero]

/-- **The destination codec** gives no address back, and any two addresses end
up as the same destination. -/
theorem destination_codec (mxe : Mxe) (hlaw : mxe.scheme.Lawful)
    (key : mxe.scheme.PrivateKey) (nonce : BitVec 128) (circuit : Circuit) (a b : Address) :
    roundTrip mxe key nonce circuit (addressString a) ≠ .ok (addressString a) ∧
      roundTrip mxe key nonce circuit (addressString a) =
        roundTrip mxe key nonce circuit (addressString b) := by
  obtain ⟨partsA, hA⟩ := ethAddressTo4U64_addressString a .be
  obtain ⟨partsB, hB⟩ := ethAddressTo4U64_addressString b .be
  rw [roundTrip_eq mxe hlaw key nonce circuit hA, roundTrip_eq mxe hlaw key nonce circuit hB]
  refine ⟨?_, rfl⟩
  intro h
  -- the node's string has 16 digits, an address 40
  have hlength := congrArg (fun s => s.toList.length) (Except.ok.inj h)
  simp [addressString_toList, addressDigits] at hlength

theorem destination_codec_seven :
    roundTrip Solana.Sample.mxe (5 : UInt64) 0 .resealDestination (addressString 7) ≠
        .ok (addressString 7) ∧
      roundTrip Solana.Sample.mxe (5 : UInt64) 0 .resealDestination (addressString 7) =
        roundTrip Solana.Sample.mxe (5 : UInt64) 0 .resealDestination (addressString 8) :=
  destination_codec Solana.Sample.mxe Solana.Sample.scheme_lawful (5 : UInt64) 0
    .resealDestination 7 8

/-- Address 7 comes out as eight zero bytes. -/
theorem destination_lost :
    (¬ ∀ (mxe : Mxe), mxe.scheme.Lawful → ∀ key nonce circuit a,
      roundTrip mxe key nonce circuit (addressString a) = .ok (addressString a)) ∧
    roundTrip Solana.Sample.mxe (5 : UInt64) 0 .resealDestination
      "0x0000000000000000000000000000000000000007" = .ok "0x0000000000000000" := by
  have hseven : addressString 7 = "0x0000000000000000000000000000000000000007" := by decide
  obtain ⟨parts, hparts⟩ := ethAddressTo4U64_addressString 7 .be
  have hlost := roundTrip_eq Solana.Sample.mxe Solana.Sample.scheme_lawful (5 : UInt64) 0
    .resealDestination hparts
  rw [← hseven]
  refine ⟨fun hall => ?_, hlost⟩
  have hback := hall Solana.Sample.mxe Solana.Sample.scheme_lawful (5 : UInt64) 0
    .resealDestination 7
  rw [hlost, hseven] at hback
  exact absurd hback (by decide)
end LunarysBridge.Node
