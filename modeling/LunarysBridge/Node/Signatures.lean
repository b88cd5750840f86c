/-
LunarysBridge.Node.Signatures — the decryption signatures of the node, and
when one is used again.

`FHEDecryptor` keeps the signatures of the running process in a map, by the
sorted addresses of the contracts, and `FhevmDecryptionSignature` keeps them
in a file, by a hash of the public key and the sorted addresses. A start of
the process makes a new key pair. So a signature of an earlier process is not
found again, nor one for the same addresses in another multiplicity; there is
no other way to miss one (`signatures_reused_iff`). None that is returned is
expired, or for other addresses.

The clock is read once in a call, the file works, and the wallet signs. A
process whose `initialize` fails returns no signature.
-/
import Mathlib.Data.List.Induction
import LunarysBridge.Lib.SortedKey

namespace LunarysBridge.Node.Signatures

open SortedKey (joined byChars Orders)

/-! ## Signatures -/

/-- What `generateKeypair` gives. -/
structure Keypair where
  publicKey : String
  privateKey : String
  publicKey_ne : publicKey ≠ ""
  deriving DecidableEq

/-- `FhevmDecryptionSignature`, but for the message that was signed. -/
structure DecryptionSignature where
  keypair : Keypair
  signature : String
  startTimestamp : Nat
  durationDays : Nat
  userAddress : String
  contractAddresses : List String
  deriving DecidableEq

/-- Libraries and the wallet. -/
structure Env where
  /-- `ethers.getAddress`; `none` when it throws. -/
  getAddress : String → Option String
  /-- `a.localeCompare(b)` is not positive. -/
  localeCompare : String → String → Bool
  /-- The wallet's address. -/
  userAddress : String
  /-- `wallet.signTypedData` of the request message. -/
  signTypedData : String → List String → Nat → Nat → String
  /-- The hashes of EIP-712, and that of the message for a public key and
  contracts, from time 0 on for 0 days. -/
  Digest : Type
  hash : String → List String → Digest
  [decEq : DecidableEq Digest]
  getAddress_getAddress : ∀ s a, getAddress s = some a → getAddress a = some a
  address_ok : ∀ s a, getAddress s = some a → a ≠ "" ∧ '|' ∉ a.toList
  localeCompare_orders : Orders localeCompare fun a => getAddress a = some a
  hash_inj : ∀ pk pk' l l', hash pk l = hash pk' l' → pk = pk' ∧ l = l'

attribute [instance] Env.decEq

/-- `` `${userAddress}:${hash}` `` -/
structure StorageKey (Digest : Type) where
  userAddress : String
  hash : Digest
  deriving DecidableEq

/-- `isValid`, at a time in milliseconds. -/
def DecryptionSignature.isValid (b : DecryptionSignature) (now : Nat) : Bool :=
  now / 1000 < b.startTimestamp + b.durationDays * 24 * 60 * 60

/-- `ethers.ZeroAddress` -/
def zeroAddress : String := "0x0000000000000000000000000000000000000000"

section

variable (env : Env)

/-- `contractAddresses.map(getAddress)` -/
def normalize (contractAddresses : List String) : Option (List String) :=
  contractAddresses.mapM env.getAddress

/-- `sort()` -/
def sorted (contractAddresses : List String) : List String := contractAddresses.mergeSort byChars

/-- The key of `FhevmDecryptionSignatureStorageKey`. -/
def storageKey (contractAddresses : List String) (publicKey : Option String) :
    StorageKey env.Digest where
  userAddress := env.userAddress
  hash := env.hash (publicKey.getD zeroAddress) (sorted contractAddresses)

def getSignatureCacheKey (contractAddresses : List String) : Option String := do
  let addresses ← normalize env contractAddresses
  some (joined '|' (addresses.mergeSort env.localeCompare))

def create (contractAddresses : List String) (keypair : Keypair) (now : Nat) :
    DecryptionSignature :=
  let startTimestamp := now / 1000
  let durationDays := 365
  { keypair := keypair
    signature := env.signTypedData keypair.publicKey contractAddresses startTimestamp durationDays
    startTimestamp := startTimestamp
    durationDays := durationDays
    userAddress := env.userAddress
    contractAddresses := contractAddresses }

end

/-! ## The process and its file -/

/-- A process, the file, and all signatures that were made so far. -/
structure World (env : Env) where
  /-- `fhevmInstance` is there. -/
  ready : Bool
  keypair : Option Keypair
  signatureCache : String → Option DecryptionSignature
  /-- `signatures.json` -/
  storage : StorageKey env.Digest → Option DecryptionSignature
  /-- In the order in which they were signed; no code reads it. -/
  created : List DecryptionSignature

namespace World

variable {env : Env}

/-- Before the first start. -/
def empty : World env := ⟨false, none, fun _ => none, fun _ => none, []⟩

/-- A new process, after `initialize`. -/
def initialized (w : World env) (keypair : Keypair) : World env :=
  { w with ready := true, keypair := some keypair, signatureCache := fun _ => none }

def loadFromStorage (w : World env) (contractAddresses : List String) (publicKey : Option String)
    (now : Nat) : Option DecryptionSignature :=
  (w.storage (storageKey env contractAddresses publicKey)).filter (·.isValid now)

/-- The file has the signature; with the public key in its key, or not. -/
def saveToStorage (w : World env) (b : DecryptionSignature) (withPublicKey : Bool) : World env :=
  let key := storageKey env b.contractAddresses
    (if withPublicKey then some b.keypair.publicKey else none)
  { w with storage := Function.update w.storage key (some b), created := w.created ++ [b] }

/-- `generated` is the key pair that `generateKeypair` would give. -/
def loadOrSign (w : World env) (contractAddresses : List String) (now : Nat)
    (generated : Keypair) : Option (DecryptionSignature × World env) := do
  let normalizedContracts ← normalize env contractAddresses
  match w.loadFromStorage normalizedContracts (w.keypair.map (·.publicKey)) now with
  | some cached => some (cached, w)
  | none =>
      -- the constructor of the storage key has sorted the array in place
      let signature := create env (sorted normalizedContracts) (w.keypair.getD generated) now
      some (signature, w.saveToStorage signature w.keypair.isSome)

/-- The process works with this signature; an expired one is replaced. -/
def remember (w : World env) (cacheKey : String) (b : DecryptionSignature) : World env :=
  { w with
    keypair := some b.keypair
    signatureCache := Function.update w.signatureCache cacheKey (some b) }

def ensureDecryptionSignature (w : World env) (contractAddresses : List String) (now : Nat)
    (generated : Keypair) : Option (DecryptionSignature × World env) :=
  if w.ready = false then none
  else do
    let normalized ← normalize env contractAddresses
    let cacheKey ← getSignatureCacheKey env normalized
    match (w.signatureCache cacheKey).filter (·.isValid now) with
    | some cached => some (cached, w)
    | none =>
        let out ← w.loadOrSign normalized now generated
        some (out.1, out.2.remember cacheKey out.1)

end World

/-! ## Keys -/

section Keys

variable {env : Env} {l l' : List String}

/-- The addresses are as `getAddress` writes them. -/
def Normal (env : Env) (l : List String) : Prop := ∀ a ∈ l, env.getAddress a = some a

/-- The key in the map. -/
def cacheKey (env : Env) (l : List String) : String :=
  joined '|' (l.mergeSort env.localeCompare)

theorem normal_of_normalize (h : normalize env l = some l') : Normal env l' := by
  induction l generalizing l' with
  | nil =>
      cases h
      intro a ha
      cases ha
  | cons s l ih =>
      simp only [normalize, List.mapM_cons, Option.bind_eq_bind, Option.bind_eq_some_iff] at h
      obtain ⟨a, ha, addresses, hl, h⟩ := h
      cases h
      intro b hb
      rcases List.mem_cons.mp hb with rfl | hb
      · exact env.getAddress_getAddress s b ha
      · exact ih hl b hb

theorem normalize_normal (h : Normal env l) : normalize env l = some l := by
  induction l with
  | nil => rfl
  | cons a l ih =>
      have hl : normalize env l = some l := ih fun b hb => h b (List.mem_cons_of_mem _ hb)
      rw [normalize] at hl
      rw [normalize, List.mapM_cons, h a (List.mem_cons_self ..), hl]
      rfl

theorem getSignatureCacheKey_normal (h : Normal env l) :
    getSignatureCacheKey env l = some (cacheKey env l) := by
  rw [getSignatureCacheKey, normalize_normal h]
  rfl

theorem cacheKey_perm (h : Normal env l) (h' : Normal env l')
    (heq : cacheKey env l = cacheKey env l') : l.Perm l' := by
  have hshape : ∀ {l : List String}, Normal env l →
      ∀ a ∈ l.mergeSort env.localeCompare, a ≠ "" ∧ '|' ∉ a.toList := by
    intro l hl a ha
    exact env.address_ok a a (hl a (List.mem_mergeSort.mp ha))
  exact (SortedKey.sort_eq_iff env.localeCompare_orders h).mp
    (SortedKey.joined_inj (hshape h) (hshape h') heq)

theorem sorted_eq_iff : sorted l = sorted l' ↔ l.Perm l' :=
  SortedKey.sort_eq_iff SortedKey.orders_byChars fun _ _ => trivial

theorem sorted_perm : (sorted l).Perm l := List.mergeSort_perm l byChars

theorem storageKey_eq_iff {pk pk' : String} :
    storageKey env l (some pk) = storageKey env l' (some pk') ↔ pk = pk' ∧ l.Perm l' := by
  rw [← sorted_eq_iff]
  constructor
  · intro heq
    exact env.hash_inj _ _ _ _ (congrArg StorageKey.hash heq)
  · intro h
    rw [storageKey, storageKey, h.2]
    obtain ⟨rfl, -⟩ := h
    rfl

end Keys

/-! ## What a call does -/

namespace World

variable {env : Env} {w w' : World env} {addresses l : List String} {now : Nat}
  {generated keypair : Keypair} {b : DecryptionSignature}

/-- The signature is for these addresses, and not expired. -/
structure Fits (b : DecryptionSignature) (l : List String) (now : Nat) : Prop where
  addresses : ∀ a, a ∈ b.contractAddresses ↔ a ∈ l
  valid : b.isValid now = true

/-- What is known of every world. -/
structure Sound (w : World env) : Prop where
  keypair : w.ready = true → ∃ keypair, w.keypair = some keypair
  year : ∀ b ∈ w.created, b.durationDays = 365
  stored : ∀ key b, w.storage key = some b → b ∈ w.created ∧
    key = storageKey env b.contractAddresses (some b.keypair.publicKey)
  cached : ∀ key b, w.signatureCache key = some b → b ∈ w.created ∧
    (∃ keypair, w.keypair = some keypair ∧ keypair.publicKey = b.keypair.publicKey) ∧
    ∃ l, Normal env l ∧ key = cacheKey env l ∧ l.Perm b.contractAddresses
  kept : ∀ b ∈ w.created, ∃ b',
    w.storage (storageKey env b.contractAddresses (some b.keypair.publicKey)) = some b' ∧
      b.startTimestamp ≤ b'.startTimestamp

/-- Where a call takes its signature from. -/
inductive Answers (w : World env) (l : List String) (keypair : Keypair) (now : Nat) :
    DecryptionSignature → World env → Prop where
  | cached {b : DecryptionSignature} (found : w.signatureCache (cacheKey env l) = some b)
      (valid : b.isValid now = true) : Answers w l keypair now b w
  | loaded {b : DecryptionSignature}
      (found : w.storage (storageKey env l (some keypair.publicKey)) = some b)
      (valid : b.isValid now = true) :
      Answers w l keypair now b (w.remember (cacheKey env l) b)
  | signed {b : DecryptionSignature}
      (none_valid : ∀ b', w.storage (storageKey env l (some keypair.publicKey)) = some b' →
        b'.isValid now = false)
      (fresh : b = create env (sorted l) keypair now) :
      Answers w l keypair now b ((w.saveToStorage b true).remember (cacheKey env l) b)

theorem filter_isValid {o : Option DecryptionSignature} :
    o.filter (·.isValid now) = some b ↔ o = some b ∧ b.isValid now = true :=
  Option.filter_eq_some_iff

theorem answers_of_ensure (hkeypair : w.keypair = some keypair)
    (hl : normalize env addresses = some l)
    (h : w.ensureDecryptionSignature addresses now generated = some (b, w')) :
    w.Answers l keypair now b w' := by
  have hnormal := normal_of_normalize hl
  unfold ensureDecryptionSignature at h
  split at h
  · cases h
  · simp only [hl, getSignatureCacheKey_normal hnormal, Option.bind_eq_bind,
      Option.bind_some] at h
    split at h
    · next cached hcached =>
      cases h
      obtain ⟨hfound, hvalid⟩ := filter_isValid.mp hcached
      exact .cached hfound hvalid
    · simp only [loadOrSign, normalize_normal hnormal, hkeypair, Option.map_some, Option.getD_some,
        Option.isSome_some, Option.bind_eq_bind, Option.bind_some, loadFromStorage] at h
      split at h
      · next stored hstored =>
        cases h
        obtain ⟨hfound, hvalid⟩ := filter_isValid.mp hstored
        exact .loaded hfound hvalid
      · next hnone =>
        cases h
        refine .signed (fun b' hfound => ?_) rfl
        cases hvalid : b'.isValid now with
        | false => rfl
        | true =>
            rw [filter_isValid.mpr ⟨hfound, hvalid⟩] at hnone
            cases hnone

theorem exists_answer (now : Nat) (generated : Keypair) (hready : w.ready = true)
    (hl : normalize env addresses = some l) :
    ∃ b w', w.ensureDecryptionSignature addresses now generated = some (b, w') := by
  have hnormal := normal_of_normalize hl
  simp only [ensureDecryptionSignature, hready, Bool.true_eq_false, if_false, hl,
    getSignatureCacheKey_normal hnormal, loadOrSign, normalize_normal hnormal,
    Option.bind_eq_bind, Option.bind_some]
  split
  · exact ⟨_, _, rfl⟩
  · split <;> exact ⟨_, _, rfl⟩

/-- A call that returns runs in a process that is ready, on addresses. -/
theorem normalized_of_ensure
    (h : w.ensureDecryptionSignature addresses now generated = some (b, w')) :
    w.ready = true ∧ ∃ l, normalize env addresses = some l := by
  unfold ensureDecryptionSignature at h
  split at h
  · cases h
  · next hready =>
    obtain ⟨l, hl, -⟩ := Option.bind_eq_some_iff.mp h
    exact ⟨by simpa using hready, l, hl⟩

/-! ## Invariants -/

theorem Sound.stored_key (h : w.Sound)
    (hb : w.storage (storageKey env l (some keypair.publicKey)) = some b) :
    b ∈ w.created ∧ keypair.publicKey = b.keypair.publicKey ∧ l.Perm b.contractAddresses := by
  obtain ⟨hmem, hkey⟩ := h.stored _ b hb
  exact ⟨hmem, storageKey_eq_iff.mp hkey⟩

theorem Sound.cached_key (h : w.Sound) (hl : Normal env l)
    (hb : w.signatureCache (cacheKey env l) = some b) :
    b ∈ w.created ∧ (∃ keypair, w.keypair = some keypair ∧
      keypair.publicKey = b.keypair.publicKey) ∧ l.Perm b.contractAddresses := by
  obtain ⟨hmem, hpk, l', hl', hkey, hperm⟩ := h.cached _ b hb
  exact ⟨hmem, hpk, (cacheKey_perm hl hl' hkey).trans hperm⟩

theorem sound_empty : (empty : World env).Sound where
  keypair h := nomatch h
  year _ h := nomatch h
  stored _ _ h := nomatch h
  cached _ _ h := nomatch h
  kept _ h := nomatch h

theorem Sound.initialized (h : w.Sound) (keypair : Keypair) : (w.initialized keypair).Sound where
  keypair _ := ⟨keypair, rfl⟩
  year := h.year
  stored := h.stored
  cached _ _ hb := nomatch hb
  kept := h.kept

theorem Sound.remember (h : w.Sound) (hkeypair : w.keypair = some keypair) (hl : Normal env l)
    (hb : b ∈ w.created) (hpk : keypair.publicKey = b.keypair.publicKey)
    (hperm : l.Perm b.contractAddresses) : (w.remember (cacheKey env l) b).Sound where
  keypair _ := ⟨b.keypair, rfl⟩
  year := h.year
  stored := h.stored
  kept := h.kept
  cached key b' hb' := by
    by_cases hkey : key = cacheKey env l
    · subst hkey
      obtain rfl : b = b' := by
        simp only [World.remember, Function.update_self] at hb'
        exact Option.some.inj hb'
      exact ⟨hb, ⟨_, rfl, rfl⟩, l, hl, rfl, hperm⟩
    · have hold : w.signatureCache key = some b' := by
        simp only [World.remember, Function.update_of_ne hkey] at hb'
        exact hb'
      obtain ⟨hmem, ⟨keypair', hkeypair', hpk'⟩, hl'⟩ := h.cached key b' hold
      obtain rfl : keypair = keypair' := Option.some.inj (hkeypair.symm.trans hkeypair')
      exact ⟨hmem, ⟨_, rfl, hpk.symm.trans hpk'⟩, hl'⟩

/-- A new signature takes the place of an expired one, or of none. -/
theorem Sound.saved (h : w.Sound) (hyear : b.durationDays = 365)
    (hold : ∀ b', w.storage (storageKey env b.contractAddresses (some b.keypair.publicKey)) =
      some b' → b'.startTimestamp ≤ b.startTimestamp) : (w.saveToStorage b true).Sound where
  keypair := h.keypair
  year b' hb' := by
    rcases List.mem_append.mp hb' with hb' | hb'
    · exact h.year b' hb'
    · rw [List.mem_singleton.mp hb']
      exact hyear
  stored key b' hb' := by
    by_cases hkey : key = storageKey env b.contractAddresses (some b.keypair.publicKey)
    · subst hkey
      obtain rfl : b = b' := by
        simp only [World.saveToStorage, if_true, Function.update_self] at hb'
        exact Option.some.inj hb'
      exact ⟨List.mem_append_right _ (List.mem_singleton.mpr rfl), rfl⟩
    · simp only [World.saveToStorage, if_true, Function.update_of_ne hkey] at hb'
      obtain ⟨hmem, hkey'⟩ := h.stored key b' hb'
      exact ⟨List.mem_append_left _ hmem, hkey'⟩
  cached key b' hb' := by
    obtain ⟨hmem, hrest⟩ := h.cached key b' hb'
    exact ⟨List.mem_append_left _ hmem, hrest⟩
  kept b₁ hb₁ := by
    simp only [World.saveToStorage, if_true]
    by_cases hkey : storageKey env b₁.contractAddresses (some b₁.keypair.publicKey) =
        storageKey env b.contractAddresses (some b.keypair.publicKey)
    · refine ⟨b, by rw [hkey, Function.update_self], ?_⟩
      rcases List.mem_append.mp hb₁ with hmem | hmem
      · obtain ⟨b', hb', hle⟩ := h.kept b₁ hmem
        rw [hkey] at hb'
        exact Nat.le_trans hle (hold b' hb')
      · rw [List.mem_singleton.mp hmem]
    · rw [Function.update_of_ne hkey]
      rcases List.mem_append.mp hb₁ with hmem | hmem
      · exact h.kept b₁ hmem
      · rw [List.mem_singleton.mp hmem] at hkey
        exact absurd rfl hkey

theorem Sound.isValid_iff (h : w.Sound) (hb : b ∈ w.created) :
    b.isValid now = true ↔ now / 1000 < b.startTimestamp + 365 * 24 * 60 * 60 := by
  rw [DecryptionSignature.isValid, h.year b hb, decide_eq_true_eq]

theorem Sound.answers (h : w.Sound) (hkeypair : w.keypair = some keypair) (hl : Normal env l)
    (ha : w.Answers l keypair now b w') : w'.Sound := by
  cases ha with
  | cached found valid => exact h
  | loaded found valid =>
      obtain ⟨hmem, hpk, hperm⟩ := h.stored_key found
      exact h.remember hkeypair hl hmem hpk hperm
  | signed none_valid fresh =>
      subst fresh
      have hperm : l.Perm (sorted l) := sorted_perm.symm
      have hkey : storageKey env (sorted l) (some keypair.publicKey) =
          storageKey env l (some keypair.publicKey) :=
        storageKey_eq_iff.mpr ⟨rfl, hperm.symm⟩
      have hsaved : (w.saveToStorage (create env (sorted l) keypair now) true).Sound := by
        refine h.saved rfl fun b' hb' => ?_
        have hfound : w.storage (storageKey env l (some keypair.publicKey)) = some b' :=
          hkey ▸ hb'
        have hexpired := none_valid b' hfound
        have hvalid : b'.isValid now = true ↔ _ := h.isValid_iff (h.stored_key hfound).1
        show b'.startTimestamp ≤ now / 1000
        rw [hexpired] at hvalid
        simp only [Bool.false_eq_true, false_iff] at hvalid
        omega
      exact hsaved.remember hkeypair hl (List.mem_append_right _ (List.mem_singleton.mpr rfl)) rfl
        hperm

/-- What is returned is not expired, and for these addresses. -/
theorem Sound.fits (h : w.Sound) (hl : Normal env l) (ha : w.Answers l keypair now b w') :
    Fits b l now := by
  cases ha with
  | cached found valid =>
      exact ⟨fun a => (h.cached_key hl found).2.2.symm.mem_iff, valid⟩
  | loaded found valid =>
      exact ⟨fun a => (h.stored_key found).2.2.symm.mem_iff, valid⟩
  | signed none_valid fresh =>
      subst fresh
      refine ⟨fun a => sorted_perm.mem_iff, ?_⟩
      rw [DecryptionSignature.isValid, decide_eq_true_eq]
      show now / 1000 < now / 1000 + 365 * 24 * 60 * 60
      omega

/-- One of the signatures that are found again: with the public key of the
process, for these addresses as often as they are in the list. -/
structure Found (b : DecryptionSignature) (keypair : Keypair) (l : List String) (now : Nat) :
    Prop where
  publicKey : b.keypair.publicKey = keypair.publicKey
  addresses : b.contractAddresses.Perm l
  valid : b.isValid now = true

/-- Nothing is signed exactly if there is one that is found. -/
theorem Sound.reused_iff (h : w.Sound) (hkeypair : w.keypair = some keypair) (hl : Normal env l)
    (ha : w.Answers l keypair now b w') :
    (b ∈ w.created ∧ w'.created = w.created) ↔ ∃ b ∈ w.created, Found b keypair l now := by
  cases ha with
  | cached found valid =>
      obtain ⟨hmem, ⟨keypair', hkeypair', hpk⟩, hperm⟩ := h.cached_key hl found
      obtain rfl : keypair = keypair' := Option.some.inj (hkeypair.symm.trans hkeypair')
      exact iff_of_true ⟨hmem, rfl⟩ ⟨b, hmem, hpk.symm, hperm.symm, valid⟩
  | loaded found valid =>
      obtain ⟨hmem, hpk, hperm⟩ := h.stored_key found
      exact iff_of_true ⟨hmem, rfl⟩ ⟨b, hmem, hpk.symm, hperm.symm, valid⟩
  | signed none_valid fresh =>
      refine iff_of_false ?_ ?_
      · rintro ⟨-, hsame⟩
        have hlength := congrArg List.length hsame
        simp [World.remember, World.saveToStorage] at hlength
      · rintro ⟨b₁, hmem, hpk, hperm, hvalid⟩
        obtain ⟨b', hb', hle⟩ := h.kept b₁ hmem
        have hkey : storageKey env b₁.contractAddresses (some b₁.keypair.publicKey) =
            storageKey env l (some keypair.publicKey) := storageKey_eq_iff.mpr ⟨hpk, hperm⟩
        rw [hkey] at hb'
        have hexpired := none_valid b' hb'
        have hvalid' : b'.isValid now = true := by
          rw [h.isValid_iff (h.stored_key hb').1]
          have hlt := (h.isValid_iff hmem).mp hvalid
          omega
        rw [hexpired] at hvalid'
        cases hvalid'

end World

/-! ## Histories -/

structure Call where
  contractAddresses : List String
  /-- `Date.now()` -/
  now : Nat
  /-- What `generateKeypair` would give. -/
  generated : Keypair

/-- The node is started, once more perhaps, or asked for a signature. -/
inductive Event where
  | start (keypair : Keypair)
  | call (c : Call)

section Histories

variable {env : Env} {w : World env} {c : Call} {history : List Event}

/-- What a call returns, and the world after it. -/
def Call.run (c : Call) (w : World env) : Option (DecryptionSignature × World env) :=
  w.ensureDecryptionSignature c.contractAddresses c.now c.generated

def World.apply (w : World env) : Event → World env
  | .start keypair => w.initialized keypair
  | .call c => ((c.run w).map (·.2)).getD w

def run (env : Env) (history : List Event) : World env := history.foldl World.apply World.empty

theorem run_append (events : List Event) (e : Event) :
    run env (events ++ [e]) = (run env events).apply e := by
  simp [run]

theorem World.Sound.apply (h : w.Sound) (e : Event) : (w.apply e).Sound := by
  cases e with
  | start keypair => exact h.initialized keypair
  | call c =>
      cases hrun : c.run w with
      | none =>
          rw [World.apply, hrun]
          exact h
      | some out =>
          obtain ⟨hready, l, hl⟩ := World.normalized_of_ensure hrun
          obtain ⟨keypair, hkeypair⟩ := h.keypair hready
          rw [World.apply, hrun]
          exact h.answers hkeypair (normal_of_normalize hl)
            (World.answers_of_ensure hkeypair hl hrun)

theorem sound_run (history : List Event) : (run env history).Sound := by
  induction history using List.reverseRecOn with
  | nil => exact World.sound_empty
  | append_singleton events e ih =>
      rw [run_append]
      exact ih.apply e

/-- A signature that fits was made before. -/
def Unexpired (w : World env) (l : List String) (now : Nat) : Prop :=
  ∃ b ∈ w.created, World.Fits b l now

/-- What the call returns is not expired, and for its addresses. -/
def Safe (w : World env) (c : Call) : Prop :=
  ∀ l, normalize env c.contractAddresses = some l → ∀ out, c.run w = some out →
    World.Fits out.1 l c.now

/-- Where a signature fits that was made before, such a one is returned and
none is signed. -/
def Reuses (w : World env) (c : Call) : Prop :=
  ∀ l, w.ready = true → normalize env c.contractAddresses = some l → Unexpired w l c.now →
    ∃ out, c.run w = some out ∧ out.1 ∈ w.created ∧ out.2.created = w.created

/-- Where a signature fits that was made before, there is one with the public
key of the process, and for each address as often as it is in the list. -/
def Findable (w : World env) (c : Call) : Prop :=
  ∀ l keypair, w.ready = true → w.keypair = some keypair →
    normalize env c.contractAddresses = some l → Unexpired w l c.now →
      ∃ b ∈ w.created, World.Found b keypair l c.now

theorem World.Sound.safe (h : w.Sound) (c : Call) : Safe w c := by
  intro l hl out hrun
  obtain ⟨hready, -⟩ := World.normalized_of_ensure hrun
  obtain ⟨keypair, hkeypair⟩ := h.keypair hready
  exact h.fits (normal_of_normalize hl) (World.answers_of_ensure hkeypair hl hrun)

theorem World.Sound.reuses_iff (h : w.Sound) (c : Call) : Reuses w c ↔ Findable w c := by
  constructor
  · intro hreuses l keypair hready hkeypair hl hold
    obtain ⟨out, hrun, hreused⟩ := hreuses l hready hl hold
    exact (h.reused_iff hkeypair (normal_of_normalize hl)
      (World.answers_of_ensure hkeypair hl hrun)).mp hreused
  · intro hfindable l hready hl hold
    obtain ⟨keypair, hkeypair⟩ := h.keypair hready
    obtain ⟨b, w', hrun⟩ := World.exists_answer c.now c.generated hready hl
    exact ⟨(b, w'), hrun, (h.reused_iff hkeypair (normal_of_normalize hl)
      (World.answers_of_ensure hkeypair hl hrun)).mpr
        (hfindable l keypair hready hkeypair hl hold)⟩

/-! ### One process -/

/-- Every start makes this public key, and no list has an address twice. -/
def Event.Steady (env : Env) (publicKey : String) : Event → Prop
  | .start keypair => keypair.publicKey = publicKey
  | .call c => ∀ l, normalize env c.contractAddresses = some l → l.Nodup

/-- All signatures so far have this public key, and no address twice. -/
structure World.Steady (w : World env) (publicKey : String) : Prop where
  keypair : ∀ keypair, w.keypair = some keypair → keypair.publicKey = publicKey
  created : ∀ b ∈ w.created, b.keypair.publicKey = publicKey ∧ b.contractAddresses.Nodup

theorem World.Steady.apply {publicKey : String} (h : w.Steady publicKey) (hs : w.Sound)
    {e : Event} (he : e.Steady env publicKey) : (w.apply e).Steady publicKey := by
  cases e with
  | start keypair =>
      refine ⟨fun keypair' hkeypair' => ?_, h.created⟩
      obtain rfl : keypair = keypair' := Option.some.inj hkeypair'
      exact he
  | call c =>
      cases hrun : c.run w with
      | none =>
          rw [World.apply, hrun]
          exact h
      | some out =>
          obtain ⟨hready, l, hl⟩ := World.normalized_of_ensure hrun
          obtain ⟨keypair, hkeypair⟩ := hs.keypair hready
          have hpk := h.keypair keypair hkeypair
          have hnodup : l.Nodup := he l hl
          obtain ⟨b, w'⟩ := out
          have ha : w.Answers l keypair c.now b w' := World.answers_of_ensure hkeypair hl hrun
          rw [World.apply, hrun]
          show w'.Steady publicKey
          cases ha with
          | cached found valid => exact h
          | loaded found valid =>
              obtain ⟨hmem, hpk', -⟩ := hs.stored_key found
              refine ⟨fun keypair' hkeypair' => ?_, h.created⟩
              obtain rfl : b.keypair = keypair' := Option.some.inj hkeypair'
              exact hpk'.symm.trans hpk
          | signed none_valid fresh =>
              subst fresh
              refine ⟨fun keypair' hkeypair' => ?_, fun b' hb' => ?_⟩
              · obtain rfl : keypair = keypair' := Option.some.inj hkeypair'
                exact hpk
              · rcases List.mem_append.mp hb' with hb' | hb'
                · exact h.created b' hb'
                · rw [List.mem_singleton.mp hb']
                  exact ⟨hpk, sorted_perm.nodup_iff.mpr hnodup⟩

theorem steady_run {publicKey : String} (h : ∀ e ∈ history, e.Steady env publicKey) :
    (run env history).Steady publicKey := by
  induction history using List.reverseRecOn with
  | nil => exact ⟨nofun, nofun⟩
  | append_singleton events e ih =>
      rw [run_append]
      exact (ih fun e' he' => h e' (List.mem_append_left _ he')).apply (sound_run events)
        (h e (List.mem_append_right _ (List.mem_singleton.mpr rfl)))

theorem World.Steady.findable {publicKey : String} (h : w.Steady publicKey)
    (hc : Event.Steady env publicKey (.call c)) : Findable w c := by
  intro l keypair _ hkeypair hl hold
  obtain ⟨b, hmem, hfits⟩ := hold
  obtain ⟨hpk, hnodup⟩ := h.created b hmem
  refine ⟨b, hmem, hpk.trans (h.keypair keypair hkeypair).symm, ?_, hfits.valid⟩
  exact (List.perm_ext_iff_of_nodup hnodup (hc l hl)).mpr hfits.addresses

/-- **Signatures used again.** In every history what is returned is not
expired and for the addresses that were asked for. Signatures that fit are
used again in all calls of a history exactly if in each such a call one is
there with the public key of the process, for the addresses in the same
multiplicity. So they are where every start makes the same key and no list
has an address twice. -/
theorem signatures_reused_iff (env : Env) (history : List Event) :
    (∀ past c future, history = past ++ .call c :: future → Safe (run env past) c) ∧
    ((∀ past c future, history = past ++ .call c :: future → Reuses (run env past) c) ↔
      ∀ past c future, history = past ++ .call c :: future → Findable (run env past) c) ∧
    ∀ publicKey, (∀ e ∈ history, e.Steady env publicKey) →
      ∀ past c future, history = past ++ .call c :: future → Reuses (run env past) c := by
  have hiff : ∀ past c, Reuses (run env past) c ↔ Findable (run env past) c :=
    fun past c => (sound_run past).reuses_iff c
  refine ⟨fun past c future _ => (sound_run past).safe c, ?_, ?_⟩
  · simp only [hiff]
  · rintro publicKey hsteady past c future rfl
    have hpast : (run env past).Steady publicKey :=
      steady_run fun e he => hsteady e (List.mem_append_left _ he)
    exact (hiff past c).mpr
      (hpast.findable (hsteady (.call c) (List.mem_append_right _ (List.mem_cons_self ..))))

end Histories

namespace Sample

def contract : String := "0x0000000000000000000000000000000000000009"

/-- One contract, and a hash that is what is hashed. -/
def env : Env where
  getAddress := fun s => if s = contract then some contract else none
  localeCompare := byChars
  userAddress := "0x0000000000000000000000000000000000000005"
  signTypedData := fun _ _ _ _ => "0x01"
  Digest := String × List String
  hash := Prod.mk
  getAddress_getAddress s a h := by
    split at h
    · cases h
      rfl
    · cases h
  address_ok s a h := by
    split at h
    · cases h
      decide
    · cases h
  localeCompare_orders :=
    { trans := SortedKey.orders_byChars.trans
      total := SortedKey.orders_byChars.total
      antisymm := fun a b _ _ => SortedKey.orders_byChars.antisymm a b trivial trivial }
  hash_inj _ _ _ _ h := Prod.mk.inj h

def keypair (publicKey : String) (h : publicKey ≠ "") : Keypair := ⟨publicKey, "0x00", h⟩

def first : Keypair := keypair "0x01" (by decide)

def second : Keypair := keypair "0x02" (by decide)

/-- Ask for the contract's signature, so many milliseconds after the epoch. -/
def ask (now : Nat) : Call := ⟨[contract], now, first⟩

/-- A signature is made, and the process is started again. -/
def past : List Event := [.start first, .call (ask 0), .start second]

def made : DecryptionSignature := create env [contract] first 0

theorem created_past : (run env past).created = [made] := by
  decide +kernel

end Sample

/-- After the second start the signature is not found, one second later. -/
theorem restart_signs_again : ¬ ∀ (env : Env) (history past : List Event) c future,
    history = past ++ .call c :: future → Reuses (run env past) c := by
  intro hall
  have hreuses := hall Sample.env _ Sample.past (Sample.ask 1000) [] rfl
  have hfindable := ((sound_run Sample.past).reuses_iff _).mp hreuses
  obtain ⟨b, hmem, hfound⟩ := hfindable [Sample.contract] Sample.second rfl rfl rfl
    ⟨Sample.made, by rw [Sample.created_past]; exact List.mem_singleton.mpr rfl,
      fun _ => Iff.rfl, by decide⟩
  rw [Sample.created_past] at hmem
  rw [List.mem_singleton.mp hmem] at hfound
  exact absurd hfound.publicKey (by decide)

end LunarysBridge.Node.Signatures
