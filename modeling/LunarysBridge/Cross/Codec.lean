/-
LunarysBridge.Cross.Codec — a Solana destination, from the frontend to the
node.

The frontend decodes the address, writes the bytes in hexadecimal and reads
them as one number, which loses their leading zeros. The node writes the
number in hexadecimal again, fills it up to 64 digits and reads these by
twos. Both hexadecimal strings are the same (`padStart_bytesHex`).
-/
import LunarysBridge.Frontend.Destination
import LunarysBridge.Node.OwnClaim

namespace LunarysBridge.Cross

open Digits (numeral padStart)
open Frontend (Bs58 bigEndian bytesHex decodeSolanaAddressToBigInt trimmed)
open Node (hexBytes)
open Node.EvmToSol (Setup bigIntToBytes32 uint256ToSolanaAddress)

/-! ## Hexadecimal strings -/

theorem length_bytesHex (bytes : List UInt8) : (bytesHex bytes).length = 2 * bytes.length := by
  induction bytes with
  | nil => rfl
  | cons b bytes ih =>
      rw [Frontend.bytesHex_cons, List.length_append, ih, Frontend.byteHex_eq, List.length_cons]
      simp only [List.length_cons, List.length_nil]
      omega

/-- Reading two digits for each byte gives the bytes. -/
theorem hexBytes_bytesHex (bytes : List UInt8) : hexBytes (bytesHex bytes) = bytes := by
  induction bytes with
  | nil => rfl
  | cons b bytes ih =>
      have hlt : b.toNat < 256 := b.toNat_lt
      have hread : b.toNat / 16 * 16 + b.toNat % 16 = b.toNat := by omega
      rw [Frontend.bytesHex_cons, Frontend.byteHex_eq, List.cons_append, List.singleton_append,
        hexBytes, ih, Frontend.hexDigit_digitChar _ (by omega : b.toNat / 16 < 16),
        Frontend.hexDigit_digitChar _ (by omega : b.toNat % 16 < 16), Option.getD_some,
        Option.getD_some, hread, UInt8.ofNat_toNat]

theorem bigEndian_append (bytes : List UInt8) (b : UInt8) :
    bigEndian (bytes ++ [b]) = bigEndian bytes * 256 + b.toNat := by
  rw [bigEndian, List.foldl_append, bigEndian]
  rfl

/-- The digits of the bytes are those of their number, zeros included. -/
theorem numeral_bigEndian (bytes : List UInt8) :
    numeral 16 (2 * bytes.length) (bigEndian bytes) = bytesHex bytes := by
  induction bytes using List.reverseRecOn with
  | nil => rfl
  | append_singleton bytes b ih =>
      have hlt : b.toNat < 256 := b.toNat_lt
      have hlow : (bigEndian bytes * 256 + b.toNat) % 16 = b.toNat % 16 := by omega
      have hhigh : (bigEndian bytes * 256 + b.toNat) / 16 % 16 = b.toNat / 16 := by omega
      have hrest : (bigEndian bytes * 256 + b.toNat) / 16 / 16 = bigEndian bytes := by omega
      have hwidth : 2 * (bytes ++ [b]).length = 2 * bytes.length + 1 + 1 := by
        rw [List.length_append, List.length_singleton]
        omega
      rw [hwidth, bigEndian_append, numeral, numeral, hlow, hhigh, hrest, ih, bytesHex, bytesHex,
        List.flatMap_append, List.flatMap_singleton, Frontend.byteHex_eq, List.append_assoc]
      rfl

theorem bigEndian_lt (bytes : List UInt8) : bigEndian bytes < 256 ^ bytes.length := by
  induction bytes using List.reverseRecOn with
  | nil => decide
  | append_singleton bytes b ih =>
      have hlt : b.toNat < 256 := b.toNat_lt
      rw [bigEndian_append, List.length_append, List.length_singleton, Nat.pow_succ]
      omega

/-- The string the node fills up is the one the frontend read. -/
theorem padStart_bytesHex {key : List UInt8} (h : key.length = 32) :
    padStart 64 '0' (Nat.toDigits 16 (bigEndian key)) = bytesHex key := by
  have hlt := bigEndian_lt key
  have hdigits := numeral_bigEndian key
  rw [h] at hlt hdigits
  rw [Digits.padStart_toDigits (by decide) 63 _ (Nat.lt_of_lt_of_eq hlt (by decide))]
  exact hdigits

/-- The node gets the bytes of the key back. -/
theorem bigIntToBytes32_bigEndian {key : List UInt8} (h : key.length = 32) :
    bigIntToBytes32 (bigEndian key) = key := by
  have hlength : (bytesHex key).length = 64 := by rw [length_bytesHex, h]
  unfold bigIntToBytes32
  rw [padStart_bytesHex h]
  dsimp only
  rw [← hlength, List.take_length, hexBytes_bytesHex]

/-! ## Destinations -/

/-- What is known of the library: `decode` and `encode` undo each other, and
the empty string stands for no bytes. -/
structure Lawful (bs58 : Bs58) : Prop where
  decode_encode : ∀ bytes, bs58.decode (bs58.encode bytes) = some bytes
  encode_decode : ∀ s bytes, bs58.decode s = some bytes → bs58.encode bytes = s
  encode_nil : bs58.encode [] = ""

/-- **Destinations** — the node reads each key as the address that was typed
in, and what is not the address of a key is refused. -/
theorem destination_round_trip (env : Setup) (bs58 : Bs58) (hbs58 : Lawful bs58)
    (hnode : env.bs58 = bs58.encode) (s : String) :
    (∀ key : List UInt8, key.length = 32 → trimmed s = bs58.encode key →
      ∃ value : Nat, ∃ hex, decodeSolanaAddressToBigInt bs58 s = .ok ⟨value, hex⟩ ∧
        uint256ToSolanaAddress env value = trimmed s) ∧
    ((¬ ∃ key, bs58.decode (trimmed s) = some key ∧ key.length = 32) →
      ∃ e, decodeSolanaAddressToBigInt bs58 s = .error e) := by
  constructor
  · intro key hlength hkey
    have hdecode : bs58.decode (trimmed s) = some key := by
      rw [hkey, hbs58.decode_encode]
    have hne : trimmed s ≠ "" := by
      intro hempty
      rw [hempty, ← hbs58.encode_nil, hbs58.decode_encode] at hdecode
      cases hdecode
      cases hlength
    refine ⟨bigEndian key, _,
      Frontend.decodeSolanaAddressToBigInt_eq bs58 s hne hdecode hlength, ?_⟩
    rw [uint256ToSolanaAddress, bigIntToBytes32_bigEndian hlength, hnode, hkey]
  · intro hno
    cases hresult : decodeSolanaAddressToBigInt bs58 s with
    | error e => exact ⟨e, rfl⟩
    | ok e => exact absurd ((Frontend.decodes_iff bs58 s).mp ⟨e, hresult⟩).2 hno

theorem lawful_base58 : Lawful Frontend.Sample.bs58 where
  decode_encode := Base58.decode_encode
  encode_decode := fun _ _ h => Base58.encode_decode h
  encode_nil := by decide

/-- A node with the same library. -/
def Sample.decryptor : Setup := { Node.EvmToSol.Sample.node with bs58 := Base58.encode }

/-- A key with 31 leading zeros, and the same characters without the last. -/
theorem destination_round_trip_one :
    (∃ value : Nat, ∃ hex,
      decodeSolanaAddressToBigInt Frontend.Sample.bs58 " 11111111111111111111111111111112" =
        .ok ⟨value, hex⟩ ∧
      uint256ToSolanaAddress Sample.decryptor value = "11111111111111111111111111111112") ∧
    ∃ e, decodeSolanaAddressToBigInt Frontend.Sample.bs58 "1111111111111111111111111111111" =
      .error e := by
  have hkey := (destination_round_trip Sample.decryptor Frontend.Sample.bs58 lawful_base58 rfl
    " 11111111111111111111111111111112").1 (List.replicate 31 0 ++ [1]) rfl (by decide +kernel)
  have hshort := (destination_round_trip Sample.decryptor Frontend.Sample.bs58 lawful_base58 rfl
    "1111111111111111111111111111111").2
  constructor
  · have htrimmed : trimmed " 11111111111111111111111111111112" =
        "11111111111111111111111111111112" := by decide +kernel
    rw [htrimmed] at hkey
    exact hkey
  · refine hshort ?_
    rintro ⟨key, hdecode, hlength⟩
    have hlen : (Base58.decode (trimmed "1111111111111111111111111111111")).map List.length =
        some 31 := by decide +kernel
    have hdecode' : Base58.decode (trimmed "1111111111111111111111111111111") = some key := hdecode
    rw [hdecode', Option.map_some, hlength] at hlen
    cases hlen

end LunarysBridge.Cross
