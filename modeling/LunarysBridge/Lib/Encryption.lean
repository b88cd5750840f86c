/-
LunarysBridge.Lib.Encryption — two parties that share a secret, and what
they encrypt under it.

Each party has a private key, and any two of them agree on a secret from
their own private and the other one's public key. A cipher encrypts under a
secret. `Lawful` is all that is assumed: the two agree on the secret, whoever
has it reads what was encrypted under it, and nobody reads it with another.
-/
import Mathlib.Tactic.ByContra

namespace Encryption

structure Scheme (PublicKey Nonce Plain Sealed : Type) where
  PrivateKey : Type
  Secret : Type
  publicKey : PrivateKey → PublicKey
  sharedSecret : PrivateKey → PublicKey → Secret
  encrypt : Secret → Nonce → Plain → Sealed
  decrypt : Secret → Nonce → Sealed → Plain

namespace Scheme

variable {PublicKey Nonce Plain Sealed : Type} (S : Scheme PublicKey Nonce Plain Sealed)

structure Lawful : Prop where
  agree : ∀ a b, S.sharedSecret a (S.publicKey b) = S.sharedSecret b (S.publicKey a)
  reads : ∀ secret nonce m, S.decrypt secret nonce (S.encrypt secret nonce m) = m
  hides : ∀ secret secret' nonce m, secret' ≠ secret →
    S.decrypt secret' nonce (S.encrypt secret nonce m) ≠ m

/-- What `a` encrypts for the owner of a public key. -/
def encryptFor (a : S.PrivateKey) (peer : PublicKey) (nonce : Nonce) (m : Plain) : Sealed :=
  S.encrypt (S.sharedSecret a peer) nonce m

/-- What `a` reads of a message from the owner of a public key. -/
def decryptFrom (a : S.PrivateKey) (peer : PublicKey) (nonce : Nonce) (c : Sealed) : Plain :=
  S.decrypt (S.sharedSecret a peer) nonce c

variable {S}

/-- A message is read by the one it is for. -/
theorem Lawful.decryptFrom_encryptFor (h : S.Lawful) (a b : S.PrivateKey) (nonce : Nonce)
    (m : Plain) :
    S.decryptFrom b (S.publicKey a) nonce (S.encryptFor a (S.publicKey b) nonce m) = m := by
  unfold decryptFrom encryptFor
  rw [h.agree b a, h.reads]

/-- Who reads as if the message came from somebody else reads it exactly if
the secret happens to be the same. -/
theorem Lawful.decryptFrom_iff (h : S.Lawful) (a b : S.PrivateKey) (peer : PublicKey)
    (nonce : Nonce) (m : Plain) :
    S.decryptFrom b peer nonce (S.encryptFor a (S.publicKey b) nonce m) = m ↔
      S.sharedSecret b peer = S.sharedSecret b (S.publicKey a) := by
  unfold decryptFrom encryptFor
  rw [h.agree a b]
  constructor
  · intro hm
    by_contra hne
    exact h.hides _ _ nonce m hne hm
  · intro hsecret
    rw [hsecret, h.reads]

end Scheme

end Encryption
