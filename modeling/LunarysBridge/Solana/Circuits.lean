/-
LunarysBridge.Solana.Circuits — the encrypted instructions
(`encrypted-ixs`), and how the MXE runs one that is queued.

Destination words are four `u64`s, and a ciphertext has four words of 32
bytes next to its nonce. The MXE has a key pair of its own. An
`Enc<Shared, _>` is encrypted between the MXE and the owner of a public key:
`to_arcis` decrypts with that key, and `owner.from_arcis` encrypts for the
same one. Which nonce an output gets is the MXE's business (`nextNonce`).
-/
import LunarysBridge.Lib.Encryption
import LunarysBridge.Solana.Program

namespace LunarysBridge.Solana

/-- Four words. -/
structure Words (α : Type) where
  w0 : α
  w1 : α
  w2 : α
  w3 : α
  deriving DecidableEq

def Words.map {α β : Type} (f : α → β) (ws : Words α) : Words β :=
  ⟨f ws.w0, f ws.w1, f ws.w2, f ws.w3⟩

abbrev DestWords := Words UInt64

/-- x25519 and the Rescue cipher. -/
abbrev Scheme := Encryption.Scheme Bytes32 (BitVec 128) DestWords (Words Bytes32)

structure Mxe where
  scheme : Scheme
  privateKey : scheme.PrivateKey
  nextNonce : BitVec 128 → BitVec 128

def Mxe.publicKey (mxe : Mxe) : Bytes32 := mxe.scheme.publicKey mxe.privateKey

/-- The owner of a shared input or output. -/
structure Shared where
  publicKey : Bytes32
  nonce : BitVec 128
  deriving DecidableEq

/-- `Enc<Shared, DestWords>` -/
structure Enc where
  owner : Shared
  ctWords : Words Bytes32
  deriving DecidableEq

def Enc.toArcis (mxe : Mxe) (e : Enc) : DestWords :=
  mxe.scheme.decryptFrom mxe.privateKey e.owner.publicKey e.owner.nonce e.ctWords

def Shared.fromArcis (mxe : Mxe) (owner : Shared) (ws : DestWords) : Enc where
  owner := ⟨owner.publicKey, mxe.nextNonce owner.nonce⟩
  ctWords := mxe.scheme.encryptFor mxe.privateKey owner.publicKey
    (mxe.nextNonce owner.nonce) ws

namespace Circuits

def planPayout (mxe : Mxe) (inputCtxt : Enc) : Enc :=
  let d := inputCtxt.toArcis mxe
  inputCtxt.owner.fromArcis mxe ⟨d.w0, d.w1, d.w2, d.w3⟩

def resealDestination (mxe : Mxe) (inputCtxt : Enc) : Enc :=
  let d := inputCtxt.toArcis mxe
  inputCtxt.owner.fromArcis mxe ⟨d.w0, d.w1, d.w2, d.w3⟩

end Circuits

def Circuit.run (mxe : Mxe) : Circuit → Enc → Enc
  | .planPayout => Circuits.planPayout mxe
  | .resealDestination => Circuits.resealDestination mxe

/-- Both circuits pass the words through. -/
theorem Circuit.run_eq (mxe : Mxe) (circuit : Circuit) (e : Enc) :
    circuit.run mxe e = e.owner.fromArcis mxe (e.toArcis mxe) := by
  cases circuit <;> rfl

/-- The input of a circuit, from the arguments of its computation. -/
def Computation.input (c : Computation) : Option Enc :=
  match c.args with
  | [.ArcisPubkey publicKey, .PlaintextU128 nonce, .EncryptedU64 ct0, .EncryptedU64 ct1,
      .EncryptedU64 ct2, .EncryptedU64 ct3] =>
      some ⟨⟨publicKey, nonce⟩, ⟨ct0, ct1, ct2, ct3⟩⟩
  | _ => none

/-- The MXE runs a queued computation. -/
def Computation.execute (mxe : Mxe) (c : Computation) : Option Enc :=
  c.input.map (c.circuit.run mxe)

namespace Sample

/-- A word as 32 bytes. -/
def bytes32 (w : UInt64) : Bytes32 := BitVec.ofNat 256 w.toNat

def word (b : Bytes32) : UInt64 := UInt64.ofNat b.toNat

theorem word_bytes32 (w : UInt64) : word (bytes32 w) = w := by
  have hlt : w.toNat < 2 ^ 256 := Nat.lt_trans w.toNat_lt (by decide)
  rw [word, bytes32, BitVec.toNat_ofNat, Nat.mod_eq_of_lt hlt, UInt64.ofNat_toNat]

/-- Keys and secrets are numbers, and a secret is added to each word. -/
def scheme : Scheme where
  PrivateKey := UInt64
  Secret := UInt64
  publicKey := bytes32
  sharedSecret := fun a peer => a + word peer
  encrypt := fun secret _ ws => ws.map fun w => bytes32 (w + secret)
  decrypt := fun secret _ ct => ct.map fun b => word b - secret

theorem scheme_lawful : scheme.Lawful where
  agree := by
    intro (a : UInt64) (b : UInt64)
    show a + word (bytes32 b) = b + word (bytes32 a)
    rw [word_bytes32, word_bytes32, UInt64.add_comm]
  reads := by
    intro (secret : UInt64) nonce ws
    have hback : ∀ w : UInt64, word (bytes32 (w + secret)) - secret = w := by
      intro w
      rw [word_bytes32, UInt64.add_sub_cancel]
    simp only [scheme, Words.map, hback]
  hides := by
    intro (secret : UInt64) (secret' : UInt64) nonce ws hne h
    simp only [scheme, Words.map, word_bytes32] at h
    have h₀ : ws.w0 + secret - secret' = ws.w0 := congrArg Words.w0 h
    exact hne (by grind)

def mxe : Mxe where
  scheme := scheme
  privateKey := (11 : UInt64)
  nextNonce := fun nonce => nonce + 1

end Sample

end LunarysBridge.Solana
