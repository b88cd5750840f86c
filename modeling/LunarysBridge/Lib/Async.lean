/-
LunarysBridge.Lib.Async — asynchronous functions, one at a time and many
at once.

An asynchronous function is a tree (`Prog`): it returns, throws, or awaits
an operation and goes on with the answer, which may be an exception. What
an operation answers and does to the state it runs in is a relation, so
that one function has many runs: `Ends` says how a run may end and
`Reaches` which operation it may come to. `AtMost` counts operations on
every path, whatever is answered, and `Only` says of which kind they are.

A `Pool` is a service with all the calls it has ever been given. One step
of it starts a call, lets one call go on to its next await, or is somebody
else's. Two rules serve every service: `Run.count_le` bounds what each
call does by its `AtMost`, and `Run.separated` carries the condition on
which calls are started to all calls that still do something, or did.
-/
import Mathlib.Logic.Relation
import Mathlib.Data.List.Nodup
import Mathlib.Data.List.Perm.Subperm

namespace Async

/-- The operations a function may await, and the type of their answers. -/
structure Interface where
  Op : Type
  Answer : Op → Type

/-- What is left of an asynchronous function. -/
inductive Prog (I : Interface) (ε α : Type) where
  | ret (a : α)
  | fail (e : ε)
  | await (o : I.Op) (k : Except ε (I.Answer o) → Prog I ε α)

variable {I : Interface} {ε α β κ σ : Type}

namespace Prog

def bind : Prog I ε α → (α → Prog I ε β) → Prog I ε β
  | .ret a, f => f a
  | .fail e, _ => .fail e
  | .await o k, f => .await o fun r => (k r).bind f

def tryCatch : Prog I ε α → (ε → Prog I ε α) → Prog I ε α
  | .ret a, _ => .ret a
  | .fail e, h => h e
  | .await o k, h => .await o fun r => (k r).tryCatch h

instance : Monad (Prog I ε) where
  pure := .ret
  bind := .bind

instance : MonadExcept ε (Prog I ε) where
  throw := .fail
  tryCatch := .tryCatch

/-- The end of a program. -/
def ofExcept : Except ε α → Prog I ε α
  | .ok a => .ret a
  | .error e => .fail e

instance : MonadLift (Except ε) (Prog I ε) := ⟨ofExcept⟩

/-- `await o` -/
def call (o : I.Op) : Prog I ε (I.Answer o) := .await o ofExcept

@[simp] theorem pure_eq (a : α) : (pure a : Prog I ε α) = .ret a := rfl

@[simp] theorem throw_eq (e : ε) : (MonadExcept.throw e : Prog I ε α) = .fail e := rfl

@[simp] theorem ret_bind (a : α) (f : α → Prog I ε β) : (ret a : Prog I ε α) >>= f = f a := rfl

@[simp] theorem fail_bind (e : ε) (f : α → Prog I ε β) :
    (fail e : Prog I ε α) >>= f = fail e := rfl

@[simp] theorem map_eq (f : α → β) (p : Prog I ε α) : f <$> p = p >>= fun a => ret (f a) := rfl

@[simp] theorem lift_ok (a : α) : (liftM (Except.ok a : Except ε α) : Prog I ε α) = .ret a := rfl

@[simp] theorem lift_error (e : ε) :
    (liftM (Except.error e : Except ε α) : Prog I ε α) = .fail e := rfl

theorem bind_assoc {γ : Type} {f : α → Prog I ε β} {g : β → Prog I ε γ} (p : Prog I ε α) :
    p >>= f >>= g = p >>= fun a => f a >>= g := by
  induction p with
  | ret a => rfl
  | fail e => rfl
  | await o k ih => exact congrArg (Prog.await o) (funext ih)

/-! ## Runs of one program -/

variable (T : σ → (o : I.Op) → Except ε (I.Answer o) → σ → Prop)

/-- A run of the program may end with this result, in this state. -/
def Ends : Prog I ε α → σ → Except ε α → σ → Prop
  | .ret a, s, r, s' => r = .ok a ∧ s' = s
  | .fail e, s, r, s' => r = .error e ∧ s' = s
  | .await o k, s, r, s' => ∃ x s₁, T s o x s₁ ∧ Ends (k x) s₁ r s'

/-- A run of the program may come to await this operation, in this state. -/
def Reaches : Prog I ε α → σ → I.Op → σ → Prop
  | .ret _, _, _, _ => False
  | .fail _, _, _, _ => False
  | .await o k, s, o', s' => (o = o' ∧ s = s') ∨ ∃ x s₁, T s o x s₁ ∧ Reaches (k x) s₁ o' s'

variable {T} {s s' : σ} {o : I.Op}

@[simp] theorem ends_ret {a : α} {r : Except ε α} :
    Ends T (ret a) s r s' ↔ r = .ok a ∧ s' = s := Iff.rfl

@[simp] theorem ends_fail {e : ε} {r : Except ε α} :
    Ends T (fail e) s r s' ↔ r = .error e ∧ s' = s := Iff.rfl

@[simp] theorem ends_ofExcept {x r : Except ε α} :
    Ends T (ofExcept x) s r s' ↔ r = x ∧ s' = s := by
  cases x <;> rfl

@[simp] theorem ends_call {x : Except ε (I.Answer o)} :
    Ends T (call o) s x s' ↔ T s o x s' := by
  simp only [call, Ends, ends_ofExcept]
  constructor
  · intro hends
    obtain ⟨y, s₁, hT, rfl, rfl⟩ := hends
    exact hT
  · intro hT
    exact ⟨x, s', hT, rfl, rfl⟩

theorem ends_bind {f : α → Prog I ε β} {r : Except ε β} (p : Prog I ε α) :
    Ends T (p >>= f) s r s' ↔
      (∃ a s₁, Ends T p s (.ok a) s₁ ∧ Ends T (f a) s₁ r s') ∨
        ∃ e, r = .error e ∧ Ends T p s (.error e) s' := by
  induction p generalizing s with
  | ret a => simp
  | fail e => simp
  | await o k ih =>
      show (∃ x s₁, T s o x s₁ ∧ Ends T (k x >>= f) s₁ r s') ↔ _
      simp only [ih, Ends]
      constructor
      · intro hends
        rcases hends with ⟨x, s₁, hT, ⟨a, s₂, hp, hf⟩ | ⟨e, rfl, hp⟩⟩
        · exact .inl ⟨a, s₂, ⟨x, s₁, hT, hp⟩, hf⟩
        · exact .inr ⟨e, rfl, x, s₁, hT, hp⟩
      · intro hends
        rcases hends with ⟨a, s₂, ⟨x, s₁, hT, hp⟩, hf⟩ | ⟨e, rfl, x, s₁, hT, hp⟩
        · exact ⟨x, s₁, hT, .inl ⟨a, s₂, hp, hf⟩⟩
        · exact ⟨x, s₁, hT, .inr ⟨e, rfl, hp⟩⟩

theorem ends_tryCatch {h : ε → Prog I ε α} {r : Except ε α} (p : Prog I ε α) :
    Ends T (MonadExcept.tryCatch p h) s r s' ↔
      (∃ a, r = .ok a ∧ Ends T p s (.ok a) s') ∨
        ∃ e s₁, Ends T p s (.error e) s₁ ∧ Ends T (h e) s₁ r s' := by
  induction p generalizing s with
  | ret a =>
      show (r = .ok a ∧ s' = s) ↔ _
      simp only [ends_ret, Except.ok.injEq, reduceCtorEq, false_and, exists_false, or_false]
      constructor
      · intro hends
        obtain ⟨rfl, rfl⟩ := hends
        exact ⟨a, rfl, rfl, rfl⟩
      · intro hends
        obtain ⟨b, rfl, rfl, rfl⟩ := hends
        exact ⟨rfl, rfl⟩
  | fail e =>
      show Ends T (h e) s r s' ↔ _
      simp
  | await o k ih =>
      show (∃ x s₁, T s o x s₁ ∧ Ends T (MonadExcept.tryCatch (k x) h) s₁ r s') ↔ _
      simp only [ih, Ends]
      constructor
      · rintro ⟨x, s₁, hT, ⟨a, rfl, hp⟩ | ⟨e, s₂, hp, hh⟩⟩
        · exact .inl ⟨a, rfl, x, s₁, hT, hp⟩
        · exact .inr ⟨e, s₂, ⟨x, s₁, hT, hp⟩, hh⟩
      · rintro (⟨a, rfl, x, s₁, hT, hp⟩ | ⟨e, s₂, ⟨x, s₁, hT, hp⟩, hh⟩)
        · exact ⟨x, s₁, hT, .inl ⟨a, rfl, hp⟩⟩
        · exact ⟨x, s₁, hT, .inr ⟨e, s₂, hp, hh⟩⟩

theorem ends_bind_ok {f : α → Prog I ε β} {b : β} (p : Prog I ε α) :
    Ends T (p >>= f) s (.ok b) s' ↔
      ∃ a s₁, Ends T p s (.ok a) s₁ ∧ Ends T (f a) s₁ (.ok b) s' := by
  simp [ends_bind]

theorem ends_tryCatch_ok {h : ε → Prog I ε α} {a : α} (p : Prog I ε α) :
    Ends T (MonadExcept.tryCatch p h) s (.ok a) s' ↔
      Ends T p s (.ok a) s' ∨
        ∃ e s₁, Ends T p s (.error e) s₁ ∧ Ends T (h e) s₁ (.ok a) s' := by
  simp [ends_tryCatch]

@[simp] theorem reaches_ret {a : α} : Reaches T (ret a : Prog I ε α) s o s' ↔ False := Iff.rfl

@[simp] theorem reaches_fail {e : ε} :
    Reaches T (fail e : Prog I ε α) s o s' ↔ False := Iff.rfl

@[simp] theorem reaches_ofExcept {x : Except ε α} :
    Reaches T (ofExcept x) s o s' ↔ False := by
  cases x <;> rfl

@[simp] theorem reaches_call {o' : I.Op} :
    Reaches T (call o') s o s' ↔ o' = o ∧ s = s' := by
  simp [call, Reaches]

theorem reaches_bind {f : α → Prog I ε β} (p : Prog I ε α) :
    Reaches T (p >>= f) s o s' ↔
      Reaches T p s o s' ∨ ∃ a s₁, Ends T p s (.ok a) s₁ ∧ Reaches T (f a) s₁ o s' := by
  induction p generalizing s with
  | ret a => simp
  | fail e => simp
  | await o₁ k ih =>
      show ((o₁ = o ∧ s = s') ∨ ∃ x s₁, T s o₁ x s₁ ∧ Reaches T (k x >>= f) s₁ o s') ↔ _
      simp only [ih, Reaches, Ends]
      constructor
      · intro hreach
        rcases hreach with here | ⟨x, s₁, hT, hp | ⟨a, s₂, hp, hf⟩⟩
        · exact .inl (.inl here)
        · exact .inl (.inr ⟨x, s₁, hT, hp⟩)
        · exact .inr ⟨a, s₂, ⟨x, s₁, hT, hp⟩, hf⟩
      · intro hreach
        rcases hreach with (here | ⟨x, s₁, hT, hp⟩) | ⟨a, s₂, ⟨x, s₁, hT, hp⟩, hf⟩
        · exact .inl here
        · exact .inr ⟨x, s₁, hT, .inl hp⟩
        · exact .inr ⟨x, s₁, hT, .inr ⟨a, s₂, hp, hf⟩⟩

theorem reaches_tryCatch {h : ε → Prog I ε α} (p : Prog I ε α) :
    Reaches T (MonadExcept.tryCatch p h) s o s' ↔
      Reaches T p s o s' ∨ ∃ e s₁, Ends T p s (.error e) s₁ ∧ Reaches T (h e) s₁ o s' := by
  induction p generalizing s with
  | ret a =>
      show False ↔ _
      simp
  | fail e =>
      show Reaches T (h e) s o s' ↔ _
      simp
  | await o₁ k ih =>
      show ((o₁ = o ∧ s = s') ∨
        ∃ x s₁, T s o₁ x s₁ ∧ Reaches T (MonadExcept.tryCatch (k x) h) s₁ o s') ↔ _
      simp only [ih, Reaches, Ends]
      constructor
      · intro hreach
        rcases hreach with here | ⟨x, s₁, hT, hp | ⟨e, s₂, hp, hh⟩⟩
        · exact .inl (.inl here)
        · exact .inl (.inr ⟨x, s₁, hT, hp⟩)
        · exact .inr ⟨e, s₂, ⟨x, s₁, hT, hp⟩, hh⟩
      · intro hreach
        rcases hreach with (here | ⟨x, s₁, hT, hp⟩) | ⟨e, s₂, ⟨x, s₁, hT, hp⟩, hh⟩
        · exact .inl here
        · exact .inr ⟨x, s₁, hT, .inl hp⟩
        · exact .inr ⟨x, s₁, hT, .inr ⟨e, s₂, hp, hh⟩⟩

/-- One operation, whatever comes of it, and nothing else. -/
theorem reaches_tryCatch_call {o₀ : I.Op} {f : I.Answer o₀ → α} {h : ε → α} :
    Reaches T (MonadExcept.tryCatch (call o₀ >>= fun a => (ret (f a) : Prog I ε α))
      fun e => ret (h e)) s o s' ↔ o₀ = o ∧ s = s' := by
  simp [reaches_tryCatch, reaches_bind]

/-! ## Counting operations -/

section AtMost

variable (P : I.Op → Prop)

/-- On no path are more than `n` operations with `P` awaited. -/
def AtMost : Prog I ε α → Nat → Prop
  | .ret _, _ => True
  | .fail _, _ => True
  | .await o k, n =>
      (P o → ∃ m, n = m + 1 ∧ ∀ x, AtMost (k x) m) ∧ (¬ P o → ∀ x, AtMost (k x) n)

variable {P} {m n : Nat}

@[simp] theorem atMost_ret {a : α} : AtMost P (ret a : Prog I ε α) n ↔ True := Iff.rfl

@[simp] theorem atMost_fail {e : ε} : AtMost P (fail e : Prog I ε α) n ↔ True := Iff.rfl

@[simp] theorem atMost_ofExcept {x : Except ε α} :
    AtMost P (ofExcept x : Prog I ε α) n ↔ True := by
  cases x <;> rfl

theorem AtMost.mono (p : Prog I ε α) (hle : m ≤ n) : AtMost P p m → AtMost P p n := by
  induction p generalizing m n with
  | ret a => simp
  | fail e => simp
  | await o k ih =>
      intro hmost
      obtain ⟨hyes, hno⟩ := hmost
      refine ⟨fun hP => ?_, fun hP x => ih x hle (hno hP x)⟩
      obtain ⟨m', rfl, hk⟩ := hyes hP
      obtain ⟨n', rfl⟩ : ∃ n', n = n' + 1 := ⟨n - 1, by omega⟩
      exact ⟨n', rfl, fun x => ih x (by omega) (hk x)⟩

theorem AtMost.weaken {Q : I.Op → Prop} (p : Prog I ε α) (hQ : ∀ o, Q o → P o) :
    AtMost P p n → AtMost Q p n := by
  induction p generalizing n with
  | ret a => simp
  | fail e => simp
  | await o k ih =>
      intro hmost
      obtain ⟨hyes, hno⟩ := hmost
      by_cases hP : P o
      · obtain ⟨m, rfl, hk⟩ := hyes hP
        exact ⟨fun _ => ⟨m, rfl, fun x => ih x (hk x)⟩,
          fun _ x => ih x (AtMost.mono (k x) (by omega) (hk x))⟩
      · exact ⟨fun hq => absurd (hQ o hq) hP, fun _ x => ih x (hno hP x)⟩

theorem AtMost.bind {f : α → Prog I ε β} {p : Prog I ε α} (hp : AtMost P p m)
    (hf : ∀ a, AtMost P (f a) n) : AtMost P (p >>= f) (m + n) := by
  induction p generalizing m with
  | ret a => exact AtMost.mono _ (by omega) (hf a)
  | fail e => simp
  | await o k ih =>
      obtain ⟨hyes, hno⟩ := hp
      refine ⟨fun hP => ?_, fun hP x => ih x (hno hP x)⟩
      obtain ⟨m', rfl, hk⟩ := hyes hP
      exact ⟨m' + n, by omega, fun x => ih x (hk x)⟩

/-- Before what counts. -/
theorem AtMost.zero_bind {f : α → Prog I ε β} {p : Prog I ε α} (hp : AtMost P p 0)
    (hf : ∀ a, AtMost P (f a) n) : AtMost P (p >>= f) n := by
  have h := AtMost.bind hp hf
  rwa [Nat.zero_add] at h

/-- After what counts. -/
theorem AtMost.bind_zero {f : α → Prog I ε β} {p : Prog I ε α} (hp : AtMost P p n)
    (hf : ∀ a, AtMost P (f a) 0) : AtMost P (p >>= f) n :=
  AtMost.bind hp hf

theorem AtMost.tryCatch {h : ε → Prog I ε α} {p : Prog I ε α} (hp : AtMost P p m)
    (hh : ∀ e, AtMost P (h e) n) : AtMost P (MonadExcept.tryCatch p h) (m + n) := by
  induction p generalizing m with
  | ret a => trivial
  | fail e => exact AtMost.mono _ (by omega) (hh e)
  | await o k ih =>
      obtain ⟨hyes, hno⟩ := hp
      refine ⟨fun hP => ?_, fun hP x => ih x (hno hP x)⟩
      obtain ⟨m', rfl, hk⟩ := hyes hP
      exact ⟨m' + n, by omega, fun x => ih x (hk x)⟩

theorem atMost_call (o : I.Op) : AtMost P (call o : Prog I ε _) 1 := by
  simp [call, AtMost]

theorem atMost_call_of_not (hP : ¬ P o) : AtMost P (call o : Prog I ε _) 0 := by
  simp [call, AtMost, hP]

/-- A program that awaits no such operation comes to none. -/
theorem AtMost.not_reaches (p : Prog I ε α) (hp : AtMost P p 0) (hP : P o) :
    ¬ Reaches T p s o s' := by
  induction p generalizing s with
  | ret a => simp
  | fail e => simp
  | await o₁ k ih =>
      intro hreach
      rcases hreach with ⟨rfl, rfl⟩ | ⟨x, s₁, hT, hr⟩
      · obtain ⟨m, hm, -⟩ := hp.1 hP
        omega
      · by_cases hP₁ : P o₁
        · obtain ⟨m, hm, -⟩ := hp.1 hP₁
          omega
        · exact ih x (hp.2 hP₁ x) hr

/-- It is what follows such a program that comes to the operation. -/
theorem AtMost.reaches_bind {f : α → Prog I ε β} {p : Prog I ε α} (hp : AtMost P p 0)
    (hP : P o) :
    Reaches T (p >>= f) s o s' ↔
      ∃ a s₁, Ends T p s (.ok a) s₁ ∧ Reaches T (f a) s₁ o s' := by
  rw [Prog.reaches_bind]
  simp [hp.not_reaches p hP]

end AtMost

/-! ## Kinds of operations -/

section Only

variable {A P : I.Op → Prop}

/-- On every path such operations are awaited and no others. -/
def Only (A : I.Op → Prop) : Prog I ε α → Prop
  | .ret _ => True
  | .fail _ => True
  | .await o k => A o ∧ ∀ x, Only A (k x)

theorem only_ofExcept (x : Except ε α) : Only A (ofExcept x : Prog I ε α) := by
  cases x <;> trivial

theorem only_call (ho : A o) : Only A (call o : Prog I ε _) := ⟨ho, only_ofExcept⟩

theorem Only.bind {f : α → Prog I ε β} {p : Prog I ε α} (hp : Only A p)
    (hf : ∀ a, Only A (f a)) : Only A (p >>= f) := by
  induction p with
  | ret a => exact hf a
  | fail e => trivial
  | await o k ih => exact ⟨hp.1, fun x => ih x (hp.2 x)⟩

theorem Only.tryCatch {h : ε → Prog I ε α} {p : Prog I ε α} (hp : Only A p)
    (hh : ∀ e, Only A (h e)) : Only A (MonadExcept.tryCatch p h) := by
  induction p with
  | ret a => trivial
  | fail e => exact hh e
  | await o k ih => exact ⟨hp.1, fun x => ih x (hp.2 x)⟩

theorem Only.mono {B : I.Op → Prop} {p : Prog I ε α} (hp : Only A p) (hAB : ∀ o, A o → B o) :
    Only B p := by
  induction p with
  | ret a => trivial
  | fail e => trivial
  | await o k ih => exact ⟨hAB o hp.1, fun x => ih x (hp.2 x)⟩

/-- Operations of one kind are none of another. -/
theorem Only.avoids {p : Prog I ε α} (hp : Only A p) (hA : ∀ o, A o → ¬ P o) :
    AtMost P p 0 := by
  induction p with
  | ret a => trivial
  | fail e => trivial
  | await o k ih => exact ⟨fun hP => absurd hP (hA o hp.1), fun _ x => ih x (hp.2 x)⟩

/-- What no operation changes, no run changes. -/
theorem Only.keeps {κ : Type} {view : σ → κ} {p : Prog I ε α} {r : Except ε α} (hp : Only A p)
    (hkeeps : ∀ {s o x s'}, A o → T s o x s' → view s' = view s) (h : Ends T p s r s') :
    view s' = view s := by
  induction p generalizing s with
  | ret a => rw [h.2]
  | fail e => rw [h.2]
  | await o k ih =>
      obtain ⟨x, s₁, hT, hends⟩ := h
      exact (ih x (hp.2 x) hends).trans (hkeeps hp.1 hT)

/-- What awaits no others awaits these. -/
theorem AtMost.only {p : Prog I ε α} (hp : AtMost (fun o => ¬ A o) p 0) : Only A p := by
  induction p with
  | ret a => trivial
  | fail e => trivial
  | await o k ih =>
      have ho : A o := by
        by_contra hno
        obtain ⟨m, hm, -⟩ := hp.1 hno
        omega
      exact ⟨ho, fun x => ih x (hp.2 (not_not_intro ho) x)⟩

end Only

/-! ## One run, computed -/

/-- The run in which every operation is answered by this function. -/
def run (answer : σ → (o : I.Op) → Except ε (I.Answer o) × σ) :
    Prog I ε α → σ → Except ε α × σ
  | .ret a, s => (.ok a, s)
  | .fail e, s => (.error e, s)
  | .await o k, s => run answer (k (answer s o).1) (answer s o).2

theorem ends_run {answer : σ → (o : I.Op) → Except ε (I.Answer o) × σ}
    (h : ∀ s o, T s o (answer s o).1 (answer s o).2) (p : Prog I ε α) :
    Ends T p s (run answer p s).1 (run answer p s).2 := by
  induction p generalizing s with
  | ret a => exact ⟨rfl, rfl⟩
  | fail e => exact ⟨rfl, rfl⟩
  | await o k ih => exact ⟨_, _, h s o, ih _⟩

section Post

variable {answer : σ → (o : I.Op) → Except ε (I.Answer o) × σ} {ok : α → σ → Prop}
  {ok' : β → σ → Prop} {err err' : ε → σ → Prop}

/-- Each operation is answered by this function. -/
def Answered (answer : σ → (o : I.Op) → Except ε (I.Answer o) × σ) (s : σ) (o : I.Op)
    (x : Except ε (I.Answer o)) (s' : σ) : Prop := answer s o = (x, s')

/-- What holds where this one run ends, by the way it ends. -/
def Post (answer : σ → (o : I.Op) → Except ε (I.Answer o) × σ) (ok : α → σ → Prop)
    (err : ε → σ → Prop) : Prog I ε α → σ → Prop
  | .ret a, s => ok a s
  | .fail e, s => err e s
  | .await o k, s => Post answer ok err (k (answer s o).1) (answer s o).2

@[simp] theorem post_ret {a : α} : Post answer ok err (ret a) s ↔ ok a s := Iff.rfl

@[simp] theorem post_fail {e : ε} : Post answer ok err (fail e) s ↔ err e s := Iff.rfl

theorem post_bind {f : α → Prog I ε β} (p : Prog I ε α) :
    Post answer ok' err (p >>= f) s ↔
      Post answer (fun a s₁ => Post answer ok' err (f a) s₁) err p s := by
  induction p generalizing s with
  | ret a => rfl
  | fail e => rfl
  | await o k ih => exact ih _

theorem post_tryCatch {h : ε → Prog I ε α} (p : Prog I ε α) :
    Post answer ok err' (MonadExcept.tryCatch p h) s ↔
      Post answer ok (fun e s₁ => Post answer ok err' (h e) s₁) p s := by
  induction p generalizing s with
  | ret a => rfl
  | fail e => rfl
  | await o k ih => exact ih _

theorem Post.mono {ok₁ : α → σ → Prop} {err₁ : ε → σ → Prop} {p : Prog I ε α}
    (hok : ∀ a s, ok a s → ok₁ a s) (herr : ∀ e s, err e s → err₁ e s)
    (h : Post answer ok err p s) : Post answer ok₁ err₁ p s := by
  induction p generalizing s with
  | ret a => exact hok a s h
  | fail e => exact herr e s h
  | await o k ih => exact ih _ h

theorem exists_answered (p : Prog I ε α) : ∃ r s₁, Ends (Answered answer) p s r s₁ := by
  induction p generalizing s with
  | ret a => exact ⟨.ok a, s, rfl, rfl⟩
  | fail e => exact ⟨.error e, s, rfl, rfl⟩
  | await o k ih =>
      obtain ⟨r, s₁, hends⟩ := ih (answer s o).1 (s := (answer s o).2)
      exact ⟨r, s₁, _, _, rfl, hends⟩

/-- There is but one run. -/
theorem ends_answered {p : Prog I ε α} {r : Except ε α} {s₁ : σ}
    (h : Ends (Answered answer) p s r s₁) : Post answer ok err p s ↔
      Post answer ok err (ofExcept r) s₁ := by
  induction p generalizing s with
  | ret a =>
      obtain ⟨rfl, rfl⟩ := h
      rfl
  | fail e =>
      obtain ⟨rfl, rfl⟩ := h
      rfl
  | await o k ih =>
      obtain ⟨x, s₂, hanswer, h⟩ := h
      obtain ⟨rfl, rfl⟩ := Prod.mk.inj hanswer
      exact ih _ h

end Post

end Prog

/-! ## Many calls at once -/

theorem getElem?_concat {τ : Type} {l : List τ} {a b : τ} {j : Nat}
    (h : (l ++ [a])[j]? = some b) : l[j]? = some b ∨ (j = l.length ∧ a = b) := by
  rcases Nat.lt_or_ge j l.length with hlt | hge
  · rw [List.getElem?_append_left hlt] at h
    exact .inl h
  · rw [List.getElem?_append_right hge, List.getElem?_singleton] at h
    split at h
    · exact .inr ⟨by omega, Option.some.inj h⟩
    · cases h

theorem getElem?_replaced {τ : Type} {l : List τ} {a b : τ} {i j : Nat}
    (h : (l.set i a)[j]? = some b) : (i = j ∧ a = b) ∨ (i ≠ j ∧ l[j]? = some b) := by
  by_cases hij : i = j
  · subst hij
    have hlt := (List.getElem?_eq_some_iff.mp h).1
    rw [List.length_set] at hlt
    rw [List.getElem?_set_self hlt] at h
    exact .inl ⟨rfl, Option.some.inj h⟩
  · rw [List.getElem?_set_ne hij] at h
    exact .inr ⟨hij, h⟩

/-- A call that was made, and what is left of it. -/
structure Call (I : Interface) (ε α κ : Type) where
  request : κ
  code : Prog I ε α

/-- The call awaits an operation. -/
def Call.running : Call I ε α κ → Prop
  | ⟨_, .await _ _⟩ => True
  | _ => False

/-- A service: the code of a request; what the operations of its `i`-th
call answer and do; what others do. -/
structure Service (I : Interface) (ε α κ σ : Type) where
  handler : κ → Prog I ε α
  answers : Nat → σ → (o : I.Op) → Except ε (I.Answer o) → σ → Prop
  outside : σ → σ → Prop

/-- The state of a service, and the calls made so far, in their order. -/
structure Pool (I : Interface) (ε α κ σ : Type) where
  state : σ
  calls : List (Call I ε α κ)

variable (S : Service I ε α κ σ) (admits : Pool I ε α κ σ → κ → Prop)

inductive Step : Pool I ε α κ σ → Pool I ε α κ σ → Prop where
  | start {p : Pool I ε α κ σ} (q : κ) (admitted : admits p q) :
      Step p { p with calls := p.calls ++ [⟨q, S.handler q⟩] }
  | resume {p : Pool I ε α κ σ} (i : Nat) {q : κ} {o : I.Op}
      {k : Except ε (I.Answer o) → Prog I ε α} {x : Except ε (I.Answer o)} {s' : σ}
      (at_await : p.calls[i]? = some ⟨q, .await o k⟩) (answered : S.answers i p.state o x s') :
      Step p ⟨s', p.calls.set i ⟨q, k x⟩⟩
  | outside {p : Pool I ε α κ σ} {s' : σ} (move : S.outside p.state s') :
      Step p { p with state := s' }

/-- Any number of steps; calls are started when `admits` says so. -/
abbrev Run : Pool I ε α κ σ → Pool I ε α κ σ → Prop :=
  Relation.ReflTransGen (Step S admits)

/-- No call has been made. -/
def Pool.idle (s : σ) : Pool I ε α κ σ := ⟨s, []⟩

variable {S admits} in
/-- A call stays the call of its request. -/
theorem Step.request {p p' : Pool I ε α κ σ} (hstep : Step S admits p p') {j : Nat}
    {c : Call I ε α κ} (h : p.calls[j]? = some c) :
    ∃ c', p'.calls[j]? = some c' ∧ c'.request = c.request := by
  have hlt : j < p.calls.length := (List.getElem?_eq_some_iff.mp h).1
  cases hstep with
  | start q => exact ⟨c, by rw [List.getElem?_append_left hlt, h], rfl⟩
  | @resume i q o k x s' hat hans =>
      by_cases hij : i = j
      · subst hij
        obtain rfl : c = ⟨q, .await o k⟩ := by
          rw [hat] at h
          exact (Option.some.inj h).symm
        exact ⟨⟨q, k x⟩, by simp [hlt], rfl⟩
      · exact ⟨c, by rw [List.getElem?_set_ne hij, h], rfl⟩
  | outside => exact ⟨c, h, rfl⟩

/-! ## What the calls of a service have done -/

section Rules

variable (P : I.Op → Prop) (count : σ → Nat → Nat)

/-- `count s i` is what the `i`-th call has done in state `s`: it grows by
operations with `P` of that call only, by one at a time. -/
structure Counts : Prop where
  answers : ∀ {i : Nat} {s s' : σ} {o : I.Op} {x : Except ε (I.Answer o)},
    S.answers i s o x s' → ∀ j, count s' j ≤ count s j ∨
      (j = i ∧ P o ∧ count s' j ≤ count s j + 1)
  outside : ∀ {s s' : σ}, S.outside s s' → ∀ j, count s' j ≤ count s j

variable {S admits P count} {n : Nat} {s₀ : σ} {p p' : Pool I ε α κ σ}

/-- What a call has done and may still do. -/
def Within (P : I.Op → Prop) (count : σ → Nat → Nat) (n : Nat) (p : Pool I ε α κ σ) : Prop :=
  ∀ j, count p.state j ≤ n ∧ (p.calls[j]? = none → count p.state j = 0) ∧
    ∀ c, p.calls[j]? = some c → ∃ b, c.code.AtMost P b ∧ count p.state j + b ≤ n

theorem Within.start (hw : Within P count n p) {q : κ} (hq : (S.handler q).AtMost P n) :
    Within P count n { p with calls := p.calls ++ [⟨q, S.handler q⟩] } := by
  intro j
  obtain ⟨hle, hnone, hsome⟩ := hw j
  refine ⟨hle, fun h => ?_, fun c h => ?_⟩
  · refine hnone (List.getElem?_eq_none ?_)
    have hlen := List.getElem?_eq_none_iff.mp h
    simp at hlen
    omega
  · rcases getElem?_concat h with hold | ⟨rfl, rfl⟩
    · exact hsome c hold
    · have hzero := hnone (by simp)
      exact ⟨n, hq, by show count p.state _ + n ≤ n; omega⟩

theorem Within.resume (hc : Counts S P count) (hw : Within P count n p) {i : Nat} {q : κ}
    {o : I.Op} {k : Except ε (I.Answer o) → Prog I ε α} {x : Except ε (I.Answer o)} {s' : σ}
    (hat : p.calls[i]? = some ⟨q, .await o k⟩) (hans : S.answers i p.state o x s') :
    Within P count n ⟨s', p.calls.set i ⟨q, k x⟩⟩ := by
  intro j
  obtain ⟨hle, hnone, hsome⟩ := hw j
  have hj := hc.answers hans j
  by_cases hij : i = j
  · subst hij
    obtain ⟨b, hb, hsum⟩ := hsome _ hat
    have hlt : i < p.calls.length := (List.getElem?_eq_some_iff.mp hat).1
    have hnext : ∃ b', (k x).AtMost P b' ∧ count s' i + b' ≤ n := by
      by_cases hP : P o
      · obtain ⟨m, rfl, hk⟩ := hb.1 hP
        refine ⟨m, hk x, ?_⟩
        rcases hj with h | ⟨-, -, h⟩ <;> omega
      · refine ⟨b, hb.2 hP x, ?_⟩
        rcases hj with h | ⟨-, h, -⟩
        · omega
        · exact absurd h hP
    obtain ⟨b', hb', hsum'⟩ := hnext
    refine ⟨by show count s' i ≤ n; omega, fun h => ?_, fun c h => ?_⟩
    · simp [hlt] at h
    · simp [hlt] at h
      subst h
      exact ⟨b', hb', hsum'⟩
  · have hsame : count s' j ≤ count p.state j := by
      rcases hj with h | ⟨h, -⟩
      · exact h
      · exact absurd h.symm hij
    refine ⟨by show count s' j ≤ n; omega, fun h => ?_, fun c h => ?_⟩
    · rw [List.getElem?_set_ne hij] at h
      have hzero := hnone h
      show count s' j = 0
      omega
    · rw [List.getElem?_set_ne hij] at h
      obtain ⟨b, hb, hsum⟩ := hsome c h
      exact ⟨b, hb, by show count s' j + b ≤ n; omega⟩

theorem Within.outside (hc : Counts S P count) (hw : Within P count n p) {s' : σ}
    (hmove : S.outside p.state s') : Within P count n { p with state := s' } := by
  intro j
  obtain ⟨hle, hnone, hsome⟩ := hw j
  have hj := hc.outside hmove j
  refine ⟨by show count s' j ≤ n; omega, fun h => ?_, fun c h => ?_⟩
  · have hzero := hnone h
    show count s' j = 0
    omega
  · obtain ⟨b, hb, hsum⟩ := hsome c h
    exact ⟨b, hb, by show count s' j + b ≤ n; omega⟩

theorem Run.within (hc : Counts S P count) (hcode : ∀ q, (S.handler q).AtMost P n)
    (h₀ : ∀ j, count s₀ j = 0) (hrun : Run S admits (.idle s₀) p) : Within P count n p := by
  induction hrun with
  | refl =>
      intro j
      refine ⟨by show count s₀ j ≤ n; rw [h₀]; omega, fun _ => h₀ j, fun c h => ?_⟩
      simp [Pool.idle] at h
  | tail _ hstep ih =>
      cases hstep with
      | start q => exact ih.start (hcode q)
      | resume i hat hans => exact ih.resume hc hat hans
      | outside hmove => exact ih.outside hc hmove

/-- **What a call does, its code bounds**: in every run. -/
theorem Run.count_le (hc : Counts S P count) (hcode : ∀ q, (S.handler q).AtMost P n)
    (h₀ : ∀ j, count s₀ j = 0) (hrun : Run S admits (.idle s₀) p) (j : Nat) :
    count p.state j ≤ n :=
  (Run.within hc hcode h₀ hrun j).1

/-- The `j`-th call is for this request, and still runs or has done
something. -/
def Live (count : σ → Nat → Nat) (p : Pool I ε α κ σ) (j : Nat) (q : κ) : Prop :=
  ∃ c, p.calls[j]? = some c ∧ c.request = q ∧ (c.running ∨ 0 < count p.state j)

/-- No step but its start makes a call live. -/
theorem Live.of_step (hc : Counts S P count) (hstep : Step S admits p p') {j : Nat} {q : κ}
    (h : Live count p' j q) :
    Live count p j q ∨ (j = p.calls.length ∧ admits p q) := by
  obtain ⟨c, hget, rfl, hlive⟩ := h
  cases hstep with
  | start q hq =>
      rcases getElem?_concat hget with hold | ⟨rfl, rfl⟩
      · exact .inl ⟨c, hold, rfl, hlive⟩
      · exact .inr ⟨rfl, hq⟩
  | @resume i q o k x s' hat hans =>
      rcases getElem?_replaced hget with ⟨rfl, rfl⟩ | ⟨hij, hold⟩
      · exact .inl ⟨_, hat, rfl, .inl trivial⟩
      · refine .inl ⟨c, hold, rfl, hlive.imp_right fun hpos => ?_⟩
        rcases hc.answers hans j with h | ⟨h, -⟩
        · exact Nat.lt_of_lt_of_le hpos h
        · exact absurd h.symm hij
  | outside hmove =>
      refine .inl ⟨c, hget, rfl, hlive.imp_right fun hpos => ?_⟩
      exact Nat.lt_of_lt_of_le hpos (hc.outside hmove j)

/-- **What holds between a new call and the live ones holds between all
live calls**, in every run. -/
theorem Run.separated {R : κ → κ → Prop} (hc : Counts S P count)
    (hadmits : ∀ p q, admits p q → ∀ j q', Live count p j q' → R q' q)
    (hrun : Run S admits (.idle s₀) p) {i j : Nat} {q q' : κ} (hij : i < j)
    (hi : Live count p i q) (hj : Live count p j q') : R q q' := by
  induction hrun generalizing i j q q' with
  | refl =>
      obtain ⟨c, hget, -⟩ := hi
      simp [Pool.idle] at hget
  | @tail p₁ p₂ _ hstep ih =>
      rcases Live.of_step hc hstep hj with hj₁ | ⟨rfl, hadm⟩
      · rcases Live.of_step hc hstep hi with hi₁ | ⟨rfl, -⟩
        · exact ih hij hi₁ hj₁
        · obtain ⟨c, hget, -⟩ := hj₁
          rw [List.getElem?_eq_none (by omega)] at hget
          cases hget
      · rcases Live.of_step hc hstep hi with hi₁ | ⟨rfl, -⟩
        · exact hadmits _ _ hadm _ _ hi₁
        · omega

/-- **What the code of a request may do is all its calls still may do**, in
every run. -/
theorem Run.only {Good : κ → I.Op → Prop} (hcode : ∀ q, (S.handler q).Only (Good q))
    (hrun : Run S admits (.idle s₀) p) : ∀ c ∈ p.calls, c.code.Only (Good c.request) := by
  induction hrun with
  | refl => simp [Pool.idle]
  | tail _ hstep ih =>
      cases hstep with
      | start q =>
          intro c hc
          rcases List.mem_append.mp hc with hold | hnew
          · exact ih c hold
          · obtain rfl := List.mem_singleton.mp hnew
            exact hcode q
      | @resume i q o k x s' hat hans =>
          intro c hc
          rcases List.mem_or_eq_of_mem_set hc with hold | rfl
          · exact ih c hold
          · have hmem := ih _ (List.mem_of_getElem? hat)
            exact hmem.2 x
      | outside => exact ih

/-- Of two entries that are counted there is but one. -/
theorem countP_unique {α : Type} {l : List α} {f : α → Bool} {m n : Nat} {a b : α}
    (hle : l.countP f ≤ 1) (hm : l[m]? = some a) (hn : l[n]? = some b) (ha : f a = true)
    (hb : f b = true) : m = n := by
  induction l generalizing m n with
  | nil => simp at hm
  | cons c l ih =>
      have hnone : f c = true → ∀ {k : Nat} {d : α}, l[k]? = some d → f d ≠ true := by
        intro hc k d hk hd
        have hpos : 0 < l.countP f := List.countP_pos_iff.mpr ⟨d, List.mem_of_getElem? hk, hd⟩
        rw [List.countP_cons, if_pos hc] at hle
        omega
      cases m with
      | zero =>
          cases n with
          | zero => rfl
          | succ n =>
              obtain rfl : c = a := by simpa using hm
              exact absurd hb (hnone ha (by simpa using hn))
      | succ m =>
          cases n with
          | zero =>
              obtain rfl : c = b := by simpa using hn
              exact absurd ha (hnone hb (by simpa using hm))
          | succ n =>
              refine congrArg Nat.succ (ih ?_ (by simpa using hm) (by simpa using hn))
              rw [List.countP_cons] at hle
              omega

/-- Entries of different calls of which each call has one on another record:
there are as many there. -/
theorem countP_le_of_callers {τ υ : Type} {l : List τ} {l' : List υ} {f : τ → Bool} {g : υ → Bool}
    {caller : τ → Nat} {caller' : υ → Nat} (honce : ∀ j, l.countP (caller · == j) ≤ 1)
    (hhas : ∀ t ∈ l, f t = true → ∃ u ∈ l', g u = true ∧ caller' u = caller t) :
    l.countP f ≤ l'.countP g := by
  have hnodup : (l.map caller).Nodup := by
    refine List.nodup_iff_count_le_one.mpr fun j => ?_
    rw [List.count_eq_countP, List.countP_map]
    exact honce j
  have hsub : (l.filter f).map caller ⊆ (l'.filter g).map caller' := by
    intro j hj
    obtain ⟨t, ht, rfl⟩ := List.mem_map.mp hj
    obtain ⟨hmem, hf⟩ := List.mem_filter.mp ht
    obtain ⟨u, hu, hg, hcaller⟩ := hhas t hmem hf
    exact List.mem_map.mpr ⟨u, List.mem_filter.mpr ⟨hu, hg⟩, hcaller⟩
  have hdistinct : ((l.filter f).map caller).Nodup :=
    hnodup.sublist ((List.filter_sublist (l := l)).map caller)
  have hle := (List.subperm_of_subset hdistinct hsub).length_le
  rwa [List.length_map, List.length_map, ← List.countP_eq_length_filter,
    ← List.countP_eq_length_filter] at hle

/-- **Everything on the record has its call.** `log` lists what calls have
done, `caller` says which call did it, and `Good` holds of an entry for the
request of that call. It is enough that an operation adds only good entries
of its own call, and that old ones stay good. -/
theorem Run.recorded {τ : Type} (log : σ → List τ) (caller : τ → Nat) (Good : κ → τ → σ → Prop)
    (h₀ : log s₀ = [])
    (hans : ∀ {p : Pool I ε α κ σ} {i : Nat} {q : κ} {o : I.Op}
      {k : Except ε (I.Answer o) → Prog I ε α} {x : Except ε (I.Answer o)} {s' : σ},
      Run S admits (.idle s₀) p → p.calls[i]? = some ⟨q, .await o k⟩ → S.answers i p.state o x s' →
      ∀ t ∈ log s', (caller t = i ∧ Good q t s') ∨ ∃ t₀ ∈ log p.state, caller t₀ = caller t ∧
        ∀ q, Good q t₀ p.state → Good q t s')
    (hout : ∀ {p : Pool I ε α κ σ} {s' : σ}, Run S admits (.idle s₀) p → S.outside p.state s' →
      ∀ t ∈ log s', ∃ t₀ ∈ log p.state, caller t₀ = caller t ∧
        ∀ q, Good q t₀ p.state → Good q t s')
    (hrun : Run S admits (.idle s₀) p) :
    ∀ t ∈ log p.state, ∃ c, p.calls[caller t]? = some c ∧ Good c.request t p.state := by
  induction hrun with
  | refl =>
      intro t ht
      simp [Pool.idle, h₀] at ht
  | @tail p₁ p₂ hrun hstep ih =>
      cases hstep with
      | start q =>
          intro t ht
          obtain ⟨c, hget, hgood⟩ := ih t ht
          have hlt : caller t < p₁.calls.length := (List.getElem?_eq_some_iff.mp hget).1
          exact ⟨c, by rw [List.getElem?_append_left hlt, hget], hgood⟩
      | @resume i q o k x s' hat hx =>
          have hlt : i < p₁.calls.length := (List.getElem?_eq_some_iff.mp hat).1
          intro t ht
          rcases hans hrun hat hx t ht with ⟨rfl, hgood⟩ | ⟨t₀, ht₀, hcaller, hstill⟩
          · exact ⟨⟨q, k x⟩, by simp [hlt], hgood⟩
          · obtain ⟨c, hget, hgood⟩ := ih t₀ ht₀
            by_cases hi : i = caller t
            · obtain rfl : c = ⟨q, .await o k⟩ := by
                rw [hcaller, ← hi, hat] at hget
                exact (Option.some.inj hget).symm
              exact ⟨⟨q, k x⟩, by rw [← hi]; simp [hlt], hstill q hgood⟩
            · exact ⟨c, by rw [List.getElem?_set_ne hi, ← hcaller, hget], hstill _ hgood⟩
      | outside hmove =>
          intro t ht
          obtain ⟨t₀, ht₀, hcaller, hstill⟩ := hout hrun hmove t ht
          obtain ⟨c, hget, hgood⟩ := ih t₀ ht₀
          exact ⟨c, hcaller ▸ hget, hstill _ hgood⟩

end Rules

/-! ## One call of a service, run to its end -/

section Computed

variable {S admits} {i : Nat}

/-- Others may move before an operation is answered. -/
def Service.settled (S : Service I ε α κ σ) (i : Nat) (s : σ) (o : I.Op)
    (x : Except ε (I.Answer o)) (s' : σ) : Prop :=
  ∃ s₁, Relation.ReflTransGen S.outside s s₁ ∧ S.answers i s₁ o x s'

theorem Run.outside {p : Pool I ε α κ σ} {s' : σ}
    (h : Relation.ReflTransGen S.outside p.state s') :
    Run S admits p { p with state := s' } := by
  induction h with
  | refl => exact .refl
  | tail _ hmove ih => exact ih.tail (.outside hmove)

theorem Pool.set_same {p : Pool I ε α κ σ} {c : Call I ε α κ} (h : p.calls[i]? = some c) :
    (⟨p.state, p.calls.set i c⟩ : Pool I ε α κ σ) = p := by
  obtain ⟨hlt, rfl⟩ := List.getElem?_eq_some_iff.mp h
  rw [List.set_getElem_self]

/-- A run of the code of one call is a run of the service. -/
theorem Run.call (code : Prog I ε α) :
    ∀ {p : Pool I ε α κ σ} {q : κ} {r : Except ε α} {s' : σ},
      p.calls[i]? = some ⟨q, code⟩ → code.Ends (S.settled i) p.state r s' →
      Run S admits p ⟨s', p.calls.set i ⟨q, Prog.ofExcept r⟩⟩ := by
  induction code with
  | ret a =>
      intro p q r s' hget hends
      obtain ⟨rfl, rfl⟩ := hends
      rw [Prog.ofExcept, Pool.set_same hget]
  | fail e =>
      intro p q r s' hget hends
      obtain ⟨rfl, rfl⟩ := hends
      rw [Prog.ofExcept, Pool.set_same hget]
  | await o k ih =>
      intro p q r s' hget hends
      obtain ⟨x, s₂, ⟨s₁, hout, hans⟩, hends⟩ := hends
      have hlt : i < p.calls.length := (List.getElem?_eq_some_iff.mp hget).1
      have hnext : (p.calls.set i ⟨q, k x⟩)[i]? = some ⟨q, k x⟩ := by simp [hlt]
      have hrest := ih x (p := ⟨s₂, p.calls.set i ⟨q, k x⟩⟩) hnext hends
      rw [List.set_set] at hrest
      exact (Run.outside hout).trans (.head (.resume i hget hans) hrest)

/-- One call, run to its end with these answers. -/
def Pool.serve (S : Service I ε α κ σ)
    (answer : Nat → σ → (o : I.Op) → Except ε (I.Answer o) × σ) (q : κ)
    (p : Pool I ε α κ σ) : Pool I ε α κ σ :=
  let result := Prog.run (answer p.calls.length) (S.handler q) p.state
  ⟨result.2, p.calls ++ [⟨q, Prog.ofExcept result.1⟩]⟩

theorem Run.serve {answer : Nat → σ → (o : I.Op) → Except ε (I.Answer o) × σ}
    (h : ∀ i s o, S.settled i s o (answer i s o).1 (answer i s o).2) {q : κ}
    {p : Pool I ε α κ σ} (admitted : admits p q) : Run S admits p (p.serve S answer q) := by
  have hends := Prog.ends_run (h p.calls.length) (S.handler q) (s := p.state)
  have hget : (p.calls ++ [⟨q, S.handler q⟩])[p.calls.length]? = some ⟨q, S.handler q⟩ := by simp
  have hcall : Run S admits ⟨p.state, p.calls ++ [⟨q, S.handler q⟩]⟩ _ :=
    Run.call (S.handler q) hget hends
  simp only [List.set_append_right _ _ (Nat.le_refl _), Nat.sub_self, List.set_cons_zero] at hcall
  exact .head (.start q admitted) hcall

/-- Calls that are run to their ends, one after the other. -/
theorem Run.serveAll {answer : Nat → σ → (o : I.Op) → Except ε (I.Answer o) × σ}
    (h : ∀ i s o, S.settled i s o (answer i s o).1 (answer i s o).2) (qs : List κ)
    (p : Pool I ε α κ σ) :
    Run S (fun _ _ => True) p (qs.foldl (fun p q => p.serve S answer q) p) := by
  induction qs generalizing p with
  | nil => exact .refl
  | cons q qs ih => exact (Run.serve h trivial).trans (ih (p.serve S answer q))

/-- No call is in progress. -/
def Pool.AtRest (p : Pool I ε α κ σ) : Prop := ∀ c ∈ p.calls, ¬ c.running

theorem Pool.AtRest.serve {answer : Nat → σ → (o : I.Op) → Except ε (I.Answer o) × σ} {q : κ}
    {p : Pool I ε α κ σ} (h : p.AtRest) : (p.serve S answer q).AtRest := by
  intro c hc
  rcases List.mem_append.mp hc with hold | hnew
  · exact h c hold
  · obtain rfl := List.mem_singleton.mp hnew
    cases (Prog.run (answer p.calls.length) (S.handler q) p.state).1 <;> exact id

end Computed

/-! ## Schedules -/

section Schedules

variable {S admits} {answer : Nat → σ → (o : I.Op) → Except ε (I.Answer o) × σ}

/-- More calls are made before any call goes on. -/
def Pool.startAll (S : Service I ε α κ σ) (p : Pool I ε α κ σ) (qs : List κ) :
    Pool I ε α κ σ :=
  { p with calls := p.calls ++ qs.map fun q => ⟨q, S.handler q⟩ }

theorem Run.startAll (qs : List κ) (p : Pool I ε α κ σ) :
    Run S (fun _ _ => True) p (p.startAll S qs) := by
  induction qs generalizing p with
  | nil =>
      simp only [Pool.startAll, List.map_nil, List.append_nil]
      exact .refl
  | cons q qs ih =>
      have hrest := ih { p with calls := p.calls ++ [⟨q, S.handler q⟩] }
      simp only [Pool.startAll, List.append_assoc, List.singleton_append] at hrest
      exact .head (.start q trivial) hrest

/-- The `i`-th call goes on to its next await, with these answers. -/
def Pool.advance (answer : Nat → σ → (o : I.Op) → Except ε (I.Answer o) × σ)
    (p : Pool I ε α κ σ) (i : Nat) : Pool I ε α κ σ :=
  match p.calls[i]? with
  | some ⟨q, .await o k⟩ =>
      ⟨(answer i p.state o).2, p.calls.set i ⟨q, k (answer i p.state o).1⟩⟩
  | _ => p

/-- All steps of a schedule pass a check. -/
def Pool.passes (check : σ → I.Op → Bool)
    (answer : Nat → σ → (o : I.Op) → Except ε (I.Answer o) × σ) :
    List Nat → Pool I ε α κ σ → Bool
  | [], _ => true
  | i :: order, p =>
      (match p.calls[i]? with
        | some ⟨_, .await o _⟩ => check p.state o
        | _ => true) && Pool.passes check answer order (p.advance answer i)

/-- A schedule is a run, if its steps pass what the answers depend on. -/
theorem Run.schedule {check : σ → I.Op → Bool}
    (h : ∀ i s o, check s o = true → S.answers i s o (answer i s o).1 (answer i s o).2)
    {order : List Nat} {p : Pool I ε α κ σ} (hpasses : p.passes check answer order = true) :
    Run S admits p (order.foldl (Pool.advance answer) p) := by
  induction order generalizing p with
  | nil => exact .refl
  | cons i order ih =>
      obtain ⟨hcheck, hrest⟩ := Bool.and_eq_true_iff.mp hpasses
      refine .trans ?_ (ih hrest)
      unfold Pool.advance
      split
      · next q o k hat =>
        rw [hat] at hcheck
        exact .single (.resume i hat (h i p.state o hcheck))
      · exact .refl

end Schedules

end Async
