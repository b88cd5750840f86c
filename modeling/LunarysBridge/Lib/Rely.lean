/-
LunarysBridge.Lib.Rely — what the code of one call may rely on while others
run.

`Prog.wp` is the weakest precondition of an asynchronous function among
others. Before an operation is answered they may have moved the state along
`rely`; the function in turn keeps `may` with each of its own operations.
`wp` goes through `>>=` and `tryCatch`. `Run.keeps` says that what is proved
of the code of a request on its own holds of its calls in every run of the
service, whatever the other calls are.
-/
import LunarysBridge.Lib.Async

namespace Async

variable {I : Interface} {ε α β κ σ : Type}

namespace Prog

section

variable (T : σ → (o : I.Op) → Except ε (I.Answer o) → σ → Prop) (rely : σ → σ → Prop)
  (may : σ → (o : I.Op) → Except ε (I.Answer o) → σ → Prop)

/-- Every operation keeps `may`, and every end meets `post`. -/
def wp (post : Except ε α → σ → Prop) : Prog I ε α → σ → Prop
  | .ret a, s => post (.ok a) s
  | .fail e, s => post (.error e) s
  | .await o k, s => ∀ s₁, rely s s₁ → ∀ x s₂, T s₁ o x s₂ → may s₁ o x s₂ ∧ wp post (k x) s₂

end

variable {T : σ → (o : I.Op) → Except ε (I.Answer o) → σ → Prop} {rely : σ → σ → Prop}
  {may : σ → (o : I.Op) → Except ε (I.Answer o) → σ → Prop} {s s' : σ}

@[simp] theorem wp_ret {post : Except ε α → σ → Prop} {a : α} :
    wp T rely may post (ret a) s ↔ post (.ok a) s := Iff.rfl

@[simp] theorem wp_fail {post : Except ε α → σ → Prop} {e : ε} :
    wp T rely may post (fail e) s ↔ post (.error e) s := Iff.rfl

@[simp] theorem wp_ofExcept {post : Except ε α → σ → Prop} {x : Except ε α} :
    wp T rely may post (ofExcept x) s ↔ post x s := by
  cases x <;> rfl

theorem wp_call {o : I.Op} {post : Except ε (I.Answer o) → σ → Prop} :
    wp T rely may post (call o) s ↔
      ∀ s₁, rely s s₁ → ∀ x s₂, T s₁ o x s₂ → may s₁ o x s₂ ∧ post x s₂ := by
  simp only [call, wp, wp_ofExcept]

theorem wp.mono {post post' : Except ε α → σ → Prop} (p : Prog I ε α)
    (himp : ∀ r s, post r s → post' r s) :
    wp T rely may post p s → wp T rely may post' p s := by
  induction p generalizing s with
  | ret a => exact himp _ _
  | fail e => exact himp _ _
  | await o k ih =>
      intro h s₁ hrely x s₂ hT
      obtain ⟨hmay, hk⟩ := h s₁ hrely x s₂ hT
      exact ⟨hmay, ih x hk⟩

/-- The rest of a function runs from where its first part returned. -/
theorem wp_bind {f : α → Prog I ε β} {post : Except ε β → σ → Prop} (p : Prog I ε α) :
    wp T rely may post (p >>= f) s ↔
      wp T rely may (fun r s => match r with
        | .ok a => wp T rely may post (f a) s
        | .error e => post (.error e) s) p s := by
  induction p generalizing s with
  | ret a => rfl
  | fail e => rfl
  | await o k ih =>
      show (∀ s₁, _ → ∀ x s₂, _ → _ ∧ wp T rely may post (k x >>= f) s₂) ↔ _
      simp only [ih, wp]

/-- A handler runs from where the exception was thrown. -/
theorem wp_tryCatch {h : ε → Prog I ε α} {post : Except ε α → σ → Prop} (p : Prog I ε α) :
    wp T rely may post (MonadExcept.tryCatch p h) s ↔
      wp T rely may (fun r s => match r with
        | .ok a => post (.ok a) s
        | .error e => wp T rely may post (h e) s) p s := by
  induction p generalizing s with
  | ret a => rfl
  | fail e => rfl
  | await o k ih =>
      show (∀ s₁, _ → ∀ x s₂, _ → _ ∧ wp T rely may post (MonadExcept.tryCatch (k x) h) s₂) ↔ _
      simp only [ih, wp]

/-- What holds where a function ends, by the way it ends. -/
def ends (ok : α → σ → Prop) (err : ε → σ → Prop) : Except ε α → σ → Prop
  | .ok a, s => ok a s
  | .error e, s => err e s

theorem wp.bind {ok : α → σ → Prop} {ok' : β → σ → Prop} {err : ε → σ → Prop}
    {f : α → Prog I ε β} {p : Prog I ε α} (hp : wp T rely may (ends ok err) p s)
    (hf : ∀ a s, ok a s → wp T rely may (ends ok' err) (f a) s) :
    wp T rely may (ends ok' err) (p >>= f) s := by
  refine (wp_bind p).mpr (wp.mono p ?_ hp)
  intro r s hr
  cases r with
  | ok a => exact hf a s hr
  | error e => exact hr

theorem wp.tryCatch {ok : α → σ → Prop} {err err' : ε → σ → Prop} {h : ε → Prog I ε α}
    {p : Prog I ε α} (hp : wp T rely may (ends ok err) p s)
    (hh : ∀ e s, err e s → wp T rely may (ends ok err') (h e) s) :
    wp T rely may (ends ok err') (MonadExcept.tryCatch p h) s := by
  refine (wp_tryCatch p).mpr (wp.mono p ?_ hp)
  intro r s hr
  cases r with
  | ok a => exact hr
  | error e => exact hh e s hr

/-- A function keeps what none of its operations breaks. -/
theorem wp_of_only {A : I.Op → Prop} {p : Prog I ε α} (hp : Only A p)
    (hmay : ∀ {s o x s'}, A o → may s o x s') : wp T rely may (fun _ _ => True) p s := by
  induction p generalizing s with
  | ret a => trivial
  | fail e => trivial
  | await o k ih => exact fun s₁ _ x s₂ _ => ⟨hmay hp.1, ih x (hp.2 x)⟩

/-- What nobody breaks holds at the end as it did at the start. -/
theorem wp.frame {ok : α → σ → Prop} {err : ε → σ → Prop} {R : σ → Prop} {p : Prog I ε α}
    (hrely : ∀ {s s'}, rely s s' → R s → R s') (hstep : ∀ {s o x s'}, T s o x s' → R s → R s')
    (hR : R s) (hp : wp T rely may (ends ok err) p s) :
    wp T rely may (ends (fun a s => ok a s ∧ R s) err) p s := by
  induction p generalizing s with
  | ret a => exact ⟨hp, hR⟩
  | fail e => exact hp
  | await o k ih =>
      intro s₁ hothers x s₂ hT
      obtain ⟨hmay, hk⟩ := hp s₁ hothers x s₂ hT
      exact ⟨hmay, ih x (hstep hT (hrely hothers hR)) hk⟩

/-- Others may move on before the function does. -/
theorem wp.stable {post : Except ε α → σ → Prop} (p : Prog I ε α)
    (htrans : ∀ {s₁ s₂ s₃}, rely s₁ s₂ → rely s₂ s₃ → rely s₁ s₃)
    (hpost : ∀ {r s₁ s₂}, rely s₁ s₂ → post r s₁ → post r s₂) (hrely : rely s s') :
    wp T rely may post p s → wp T rely may post p s' := by
  cases p with
  | ret a => exact hpost hrely
  | fail e => exact hpost hrely
  | await o k =>
      intro h s₁ hrely₁
      exact h s₁ (htrans hrely hrely₁)

end Prog

/-! ## The calls of a service -/

variable {S : Service I ε α κ σ} {admits : Pool I ε α κ σ → κ → Prop} {s₀ : σ}
  {p : Pool I ε α κ σ} {rely : Nat → σ → σ → Prop}
  {may : κ → σ → (o : I.Op) → Except ε (I.Answer o) → σ → Prop}

/-- What a call relies on is what the others do. -/
structure Relies (S : Service I ε α κ σ) (rely : Nat → σ → σ → Prop) : Prop where
  refl : ∀ i s, rely i s s
  trans : ∀ {i s₁ s₂ s₃}, rely i s₁ s₂ → rely i s₂ s₃ → rely i s₁ s₃
  others : ∀ {i j s o x s'}, i ≠ j → S.answers j s o x s' → rely i s s'
  outside : ∀ {i s s'}, S.outside s s' → rely i s s'

/-- What is left of a call keeps `may`, from the present state on, and ends
with `post`. -/
def KeepsTo (S : Service I ε α κ σ) (rely : Nat → σ → σ → Prop)
    (may : κ → σ → (o : I.Op) → Except ε (I.Answer o) → σ → Prop)
    (post : Nat → κ → Except ε α → σ → Prop) (p : Pool I ε α κ σ) : Prop :=
  ∀ (i : Nat) (c : Call I ε α κ), p.calls[i]? = some c →
    c.code.wp (S.answers i) (rely i) (may c.request) (post i c.request) p.state

/-- **A call in company keeps what its code keeps alone**, in every run, and
ends as its code ends. -/
theorem Run.keepsTo {post : Nat → κ → Except ε α → σ → Prop} (hrelies : Relies S rely)
    (hpost : ∀ i q r s s', rely i s s' → post i q r s → post i q r s')
    (hcode : ∀ p q, Run S admits (.idle s₀) p → admits p q →
      (S.handler q).wp (S.answers p.calls.length) (rely p.calls.length) (may q)
        (post p.calls.length q) p.state)
    (hrun : Run S admits (.idle s₀) p) : KeepsTo S rely may post p := by
  induction hrun with
  | refl =>
      intro i c hget
      simp [Pool.idle] at hget
  | @tail p₁ p₂ hrun hstep ih =>
      cases hstep with
      | start q hq =>
          intro i c hget
          rcases getElem?_concat hget with hold | ⟨rfl, rfl⟩
          · exact ih i c hold
          · exact hcode p₁ q hrun hq
      | @resume j q o k x s' hat hans =>
          intro i c hget
          rcases getElem?_replaced hget with ⟨rfl, rfl⟩ | ⟨hij, hold⟩
          · exact (ih j _ hat p₁.state (hrelies.refl j _) x s' hans).2
          · exact Prog.wp.stable c.code hrelies.trans (hpost i c.request _ _ _)
              (hrelies.others (Ne.symm hij) hans) (ih i c hold)
      | outside hmove =>
          intro i c hget
          exact Prog.wp.stable c.code hrelies.trans (hpost i c.request _ _ _)
            (hrelies.outside hmove) (ih i c hget)

/-- What is left of a call keeps `may`, from the present state on. -/
def Keeps (S : Service I ε α κ σ) (rely : Nat → σ → σ → Prop)
    (may : κ → σ → (o : I.Op) → Except ε (I.Answer o) → σ → Prop) (p : Pool I ε α κ σ) : Prop :=
  ∀ (i : Nat) (c : Call I ε α κ), p.calls[i]? = some c →
    c.code.wp (S.answers i) (rely i) (may c.request) (fun _ _ => True) p.state

theorem Run.keeps (hrelies : Relies S rely)
    (hcode : ∀ p q, Run S admits (.idle s₀) p → admits p q →
      (S.handler q).wp (S.answers p.calls.length) (rely p.calls.length) (may q)
        (fun _ _ => True) p.state)
    (hrun : Run S admits (.idle s₀) p) : Keeps S rely may p := by
  have hkeeps : KeepsTo S rely may (fun _ _ _ _ => True) p :=
    Run.keepsTo hrelies (fun _ _ _ _ _ _ h => h) hcode hrun
  exact hkeeps

/-- The next operation of a call keeps `may`. -/
theorem Keeps.step (hkeeps : Keeps S rely may p) (hrelies : Relies S rely) {i : Nat} {q : κ}
    {o : I.Op} {k : Except ε (I.Answer o) → Prog I ε α} {x : Except ε (I.Answer o)} {s' : σ}
    (hat : p.calls[i]? = some ⟨q, .await o k⟩) (hans : S.answers i p.state o x s') :
    may q p.state o x s' :=
  (hkeeps i _ hat p.state (hrelies.refl i _) x s' hans).1

/-! ## An invariant of the state -/

/-- The service, with this known of the state whenever something happens. -/
def Service.under (S : Service I ε α κ σ) (Inv : σ → Prop) : Service I ε α κ σ where
  handler := S.handler
  answers := fun i s o x s' => S.answers i s o x s' ∧ Inv s
  outside := fun s s' => S.outside s s' ∧ Inv s

/-- **An invariant the code keeps where it holds** holds in every run: what a
call needs to know of the others to keep it may be the invariant itself. -/
theorem Run.under {Inv : σ → Prop} {post : Nat → κ → Except ε α → σ → Prop} (h₀ : Inv s₀)
    (hrelies : Relies (S.under Inv) rely)
    (hpost : ∀ i q r s s', rely i s s' → post i q r s → post i q r s')
    (hcode : ∀ p q, Run (S.under Inv) admits (.idle s₀) p → admits p q →
      (S.handler q).wp ((S.under Inv).answers p.calls.length) (rely p.calls.length)
        (fun _ _ _ s' => Inv s') (post p.calls.length q) p.state)
    (hout : ∀ {s s'}, S.outside s s' → Inv s → Inv s')
    (hrun : Run S admits (.idle s₀) p) :
    Inv p.state ∧ Run (S.under Inv) admits (.idle s₀) p := by
  induction hrun with
  | refl => exact ⟨h₀, .refl⟩
  | @tail p₁ p₂ _ hstep ih =>
      obtain ⟨hinv, hrun⟩ := ih
      cases hstep with
      | start q hq => exact ⟨hinv, hrun.tail (.start q hq)⟩
      | @resume j q o k x s' hat hans =>
          have hans' : (S.under Inv).answers j p₁.state o x s' := ⟨hans, hinv⟩
          have hkeeps : KeepsTo (S.under Inv) rely (fun _ _ _ _ s' => Inv s') post p₁ :=
            Run.keepsTo hrelies hpost hcode hrun
          exact ⟨(hkeeps j _ hat p₁.state (hrelies.refl j _) x s' hans').1,
            hrun.tail (.resume j hat hans')⟩
      | outside hmove => exact ⟨hout hmove hinv, hrun.tail (.outside ⟨hmove, hinv⟩)⟩

end Async
