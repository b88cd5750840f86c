/-
LunarysBridge.Lib.Reentrancy — contract code that hands control to others,
and the rules by which an invariant survives it.

A call of a contract is a `Code`: it ends, reverts, or makes an external
call and waits. `Exec` is what such a call may do to the state when it
ends well. While it waits the callee does anything it likes (`Callee`):
move its own assets, or call the contract again, to any depth. A callee
that fails leaves the state as it was at the call, and a call of the
contract that reverts leaves no trace at all, which is why `Exec` has no
constructor for it.

The rule every user wants is `Guarded`: once a lock is taken, a nested
call either reverts or ends at once inside a relation `R` ("what others may
do to me while I wait"). Then `Guarded.callee` gives `R` for a callee of
any depth, and a call is verified by one pass over its code, `Sat`, with
`R` assumed at every return (`Guarded.exec`, `Guarded.arrives`).
-/
import Mathlib.Logic.Function.Basic

namespace Reentrancy

variable {κ σ χ ε : Type}

/-! ## Code that calls out -/

/-- What is left of a call. `call c s k` has made the external call `c` in
state `s`; `k` is told whether it succeeded and the state it left. -/
inductive Code (σ χ ε : Type) where
  | done (s : σ)
  | revert (e : ε)
  | call (c : χ) (s : σ) (k : Bool → σ → Code σ χ ε)

/-- A contract: the code each entry point `κ` runs, what an external call
does before the callee gets control (`none`: it cannot be made), and what
the rest of the world can do by itself. -/
structure Contract (κ σ χ ε : Type) where
  entry : κ → σ → Code σ χ ε
  deliver : κ → χ → σ → Option σ
  outside : σ → σ → Prop

mutual

/-- The code, run for the entry `t`, may end in this state. -/
inductive Exec (C : Contract κ σ χ ε) : κ → Code σ χ ε → σ → Prop where
  | done {t : κ} {s : σ} : Exec C t (.done s) s
  | returned {t : κ} {c : χ} {s s₁ s₂ s' : σ} {k : Bool → σ → Code σ χ ε}
      (sent : C.deliver t c s = some s₁) (during : Callee C s₁ s₂)
      (rest : Exec C t (k true s₂) s') : Exec C t (.call c s k) s'
  | failed {t : κ} {c : χ} {s s' : σ} {k : Bool → σ → Code σ χ ε}
      (rest : Exec C t (k false s) s') : Exec C t (.call c s k) s'

/-- A callee in control may take the state from the one to the other. -/
inductive Callee (C : Contract κ σ χ ε) : σ → σ → Prop where
  | idle {s : σ} : Callee C s s
  | outside {s s₁ s₂ : σ} (move : C.outside s s₁) (rest : Callee C s₁ s₂) :
      Callee C s s₂
  | reenter {t : κ} {s s₁ s₂ : σ} (nested : Exec C t (C.entry t s) s₁)
      (rest : Callee C s₁ s₂) : Callee C s s₂

end

/-- A whole call of the entry `t` that did not revert. -/
def Commits (C : Contract κ σ χ ε) (t : κ) (s s' : σ) : Prop :=
  Exec C t (C.entry t s) s'

/-- A check that code ends behind was passed. -/
theorem exec_check {C : Contract κ σ χ ε} {t : κ} {cond : Prop} [Decidable cond] {e : ε}
    {p : Code σ χ ε} {s' : σ} (h : Exec C t (if cond then .revert e else p) s') :
    ¬ cond ∧ Exec C t p s' := by
  split at h
  · cases h
  · next hcond => exact ⟨hcond, h⟩

/-- A call whose failure is not survived was made, and returned. -/
theorem exec_call {C : Contract κ σ χ ε} {t : κ} {c : χ} {s s' : σ} {e : ε}
    {k : Bool → σ → Code σ χ ε} (hk : k false s = .revert e)
    (h : Exec C t (.call c s k) s') :
    ∃ s₁ s₂, C.deliver t c s = some s₁ ∧ Callee C s₁ s₂ ∧ Exec C t (k true s₂) s' := by
  cases h with
  | returned sent during rest => exact ⟨_, _, sent, during, rest⟩
  | failed rest =>
      rw [hk] at rest
      cases rest

/-- However its callees leave the state, the code ends with `post`. -/
def Always (post : σ → Prop) : Code σ χ ε → Prop
  | .done s => post s
  | .revert _ => True
  | .call _ _ k => ∀ ok s, Always post (k ok s)

theorem exec_of_always {C : Contract κ σ χ ε} {t : κ} {s' : σ} (post : σ → Prop) :
    ∀ p : Code σ χ ε, Exec C t p s' → Always post p → post s' := by
  intro p
  induction p with
  | done s =>
      intro h hpost
      cases h
      exact hpost
  | revert e =>
      intro h _
      cases h
  | call c s k ih =>
      intro h hpost
      cases h with
      | returned sent during rest => exact ih true _ rest (hpost true _)
      | failed rest => exact ih false _ rest (hpost false _)

/-- Running the code arrives at the external call `c` in state `s`. -/
inductive Arrives (C : Contract κ σ χ ε) (t : κ) :
    Code σ χ ε → χ → σ → Prop where
  | here {c : χ} {s : σ} {k : Bool → σ → Code σ χ ε} :
      Arrives C t (.call c s k) c s
  | returned {c c' : χ} {s s₁ s₂ s' : σ} {k : Bool → σ → Code σ χ ε}
      (sent : C.deliver t c s = some s₁) (during : Callee C s₁ s₂)
      (rest : Arrives C t (k true s₂) c' s') : Arrives C t (.call c s k) c' s'
  | failed {c c' : χ} {s s' : σ} {k : Bool → σ → Code σ χ ε}
      (rest : Arrives C t (k false s) c' s') : Arrives C t (.call c s k) c' s'

/-- A call the code arrives at lies behind its checks. -/
theorem arrives_check {C : Contract κ σ χ ε} {t : κ} {cond : Prop} [Decidable cond] {e : ε}
    {p : Code σ χ ε} {c : χ} {s' : σ}
    (h : Arrives C t (if cond then .revert e else p) c s') : ¬ cond ∧ Arrives C t p c s' := by
  split at h
  · cases h
  · next hcond => exact ⟨hcond, h⟩

/-- The external call the code makes first, and the state it is made in. -/
def firstCall : Code σ χ ε → Option (χ × σ)
  | .call c s _ => some (c, s)
  | _ => none

theorem arrives_firstCall {C : Contract κ σ χ ε} {t : κ} {c : χ} {s : σ} :
    ∀ {p : Code σ χ ε}, firstCall p = some (c, s) → Arrives C t p c s
  | .call _ _ _, rfl => .here

/-! ## Code that makes no call -/

/-- The code reverts, or ends at once inside `R`. -/
def Quiet (R : σ → σ → Prop) (s : σ) (p : Code σ χ ε) : Prop :=
  (∃ e, p = .revert e) ∨ ∃ s', p = .done s' ∧ R s s'

theorem quiet_revert {R : σ → σ → Prop} {s : σ} (e : ε) :
    Quiet R s (.revert e : Code σ χ ε) := .inl ⟨e, rfl⟩

theorem quiet_done {R : σ → σ → Prop} {s s' : σ} (h : R s s') :
    Quiet R s (.done s' : Code σ χ ε) := .inr ⟨s', rfl, h⟩

/-- A check in front of the code does no harm. -/
theorem quiet_check {R : σ → σ → Prop} {s : σ} {cond : Prop} [Decidable cond] {e : ε}
    {p : Code σ χ ε} (h : ¬ cond → Quiet R s p) : Quiet R s (if cond then .revert e else p) := by
  split
  · exact quiet_revert e
  · next hcond => exact h hcond

theorem Quiet.exec {C : Contract κ σ χ ε} {t : κ} {R : σ → σ → Prop} {s s' : σ}
    {p : Code σ χ ε} (hq : Quiet R s p) (h : Exec C t p s') : R s s' := by
  rcases hq with ⟨e, he⟩ | ⟨s₁, he, hr⟩
  · rw [he] at h
    cases h
  · rw [he] at h
    cases h
    exact hr

/-! ## The lock -/

/-- Under the lock, everything others do stays inside `R`: their own moves,
and calls of the contract, which revert or end at once. -/
structure Guarded (C : Contract κ σ χ ε) (locked : σ → Prop)
    (R : σ → σ → Prop) : Prop where
  refl : ∀ s, R s s
  trans : ∀ {s₁ s₂ s₃}, R s₁ s₂ → R s₂ s₃ → R s₁ s₃
  keeps : ∀ {s s'}, R s s' → locked s → locked s'
  outside : ∀ {s s'}, C.outside s s' → R s s'
  entry : ∀ t s, locked s →
    (∃ e, C.entry t s = .revert e) ∨ ∃ s', C.entry t s = .done s' ∧ R s s'

variable {C : Contract κ σ χ ε} {locked : σ → Prop} {R : σ → σ → Prop}

/-- A nested call made under the lock stays inside `R`. -/
theorem Guarded.nested (g : Guarded C locked R) {t : κ} {s s₁ : σ}
    (hl : locked s) (h : Exec C t (C.entry t s) s₁) : R s s₁ :=
  Quiet.exec (g.entry t s hl) h

/-- A callee that gets control under the lock stays inside `R`, however
often it calls back. -/
theorem Guarded.callee (g : Guarded C locked R) {s s' : σ} :
    Callee C s s' → locked s → R s s'
  | .idle, _ => g.refl _
  | .outside move rest, hl =>
      have hr := g.outside move
      g.trans hr (g.callee rest (g.keeps hr hl))
  | .reenter nested rest, hl =>
      have hr := g.nested hl nested
      g.trans hr (g.callee rest (g.keeps hr hl))

/-! ## One pass over the code -/

/-- The verification condition of a piece of code: every external call is
made with `mid`, with the lock taken; every end has `post`; and at every
return any state `R` allows is met. -/
def Sat (C : Contract κ σ χ ε) (t : κ) (locked : σ → Prop) (R : σ → σ → Prop)
    (mid : χ → σ → Prop) (post : σ → Prop) : Code σ χ ε → Prop
  | .done s => post s
  | .revert _ => True
  | .call c s k => mid c s ∧
      (∀ s₁, C.deliver t c s = some s₁ → locked s₁ ∧
        ∀ s₂, R s₁ s₂ → Sat C t locked R mid post (k true s₂)) ∧
      Sat C t locked R mid post (k false s)

variable {t : κ} {mid : χ → σ → Prop} {post : σ → Prop}

/-- Verified code ends in its postcondition, whoever it called. -/
theorem Guarded.exec (g : Guarded C locked R) {s' : σ} :
    ∀ p : Code σ χ ε, Exec C t p s' → Sat C t locked R mid post p → post s' := by
  intro p
  induction p with
  | done s =>
      intro h hs
      cases h
      exact hs
  | revert e =>
      intro h _
      cases h
  | call c s k ih =>
      intro h hs
      cases h with
      | returned sent during rest =>
          obtain ⟨hl, hk⟩ := hs.2.1 _ sent
          exact ih true _ rest (hk _ (g.callee during hl))
      | failed rest => exact ih false _ rest hs.2.2

/-- Every external call verified code arrives at is made with `mid`. -/
theorem Guarded.arrives (g : Guarded C locked R) {c : χ} {s' : σ} :
    ∀ p : Code σ χ ε, Arrives C t p c s' → Sat C t locked R mid post p →
      mid c s' := by
  intro p
  induction p with
  | done s =>
      intro h _
      cases h
  | revert e =>
      intro h _
      cases h
  | call c₁ s k ih =>
      intro h hs
      cases h with
      | here => exact hs.1
      | returned sent during rest =>
          obtain ⟨hl, hk⟩ := hs.2.1 _ sent
          exact ih true _ rest (hk _ (g.callee during hl))
      | failed rest => exact ih false _ rest hs.2.2

/-! ## Ways to revert -/

/-- Running the code may end in a revert with this error. -/
inductive Fails (C : Contract κ σ χ ε) (t : κ) : Code σ χ ε → ε → Prop where
  | revert {e : ε} : Fails C t (.revert e) e
  | returned {c : χ} {s s₁ s₂ : σ} {k : Bool → σ → Code σ χ ε} {e : ε}
      (sent : C.deliver t c s = some s₁) (during : Callee C s₁ s₂)
      (rest : Fails C t (k true s₂) e) : Fails C t (.call c s k) e
  | failed {c : χ} {s : σ} {k : Bool → σ → Code σ χ ε} {e : ε}
      (rest : Fails C t (k false s) e) : Fails C t (.call c s k) e

/-- The verification condition for the errors: at every return any state `R`
allows is met. -/
def FailsOnly (C : Contract κ σ χ ε) (t : κ) (locked : σ → Prop) (R : σ → σ → Prop)
    (reason : ε → Prop) : Code σ χ ε → Prop
  | .done _ => True
  | .revert e => reason e
  | .call c s k =>
      (∀ s₁, C.deliver t c s = some s₁ → locked s₁ ∧
        ∀ s₂, R s₁ s₂ → FailsOnly C t locked R reason (k true s₂)) ∧
      FailsOnly C t locked R reason (k false s)

theorem Guarded.fails (g : Guarded C locked R) {reason : ε → Prop} {e : ε} :
    ∀ p : Code σ χ ε, Fails C t p e → FailsOnly C t locked R reason p → reason e := by
  intro p
  induction p with
  | done s =>
      intro h _
      cases h
  | revert e' =>
      intro h hr
      cases h
      exact hr
  | call c s k ih =>
      intro h hr
      cases h with
      | returned sent during rest =>
          obtain ⟨hl, hk⟩ := hr.1 _ sent
          exact ih true _ rest (hk _ (g.callee during hl))
      | failed rest => exact ih false _ rest hr.2

/-! ## Callees that accept -/

/-- The run in which every callee accepts at once and does nothing else; a
call that cannot be made fails. -/
def accepting (C : Contract κ σ χ ε) (t : κ) : Code σ χ ε → Option σ
  | .done s => some s
  | .revert _ => none
  | .call c s k =>
      match C.deliver t c s with
      | some s₁ => accepting C t (k true s₁)
      | none => accepting C t (k false s)

/-- That run is one of the runs of the code. -/
theorem exec_of_accepting {s' : σ} : ∀ p : Code σ χ ε,
    accepting C t p = some s' → Exec C t p s' := by
  intro p
  induction p with
  | done s =>
      intro h
      cases h
      exact .done
  | revert e =>
      intro h
      cases h
  | call c s k ih =>
      intro h
      simp only [accepting] at h
      split at h
      · next s₁ hs => exact .returned hs .idle (ih true s₁ h)
      · exact .failed (ih false s h)

/-- The run in which every callee accepts and does what `answer` says. -/
def answering (C : Contract κ σ χ ε) (answer : χ → σ → σ) (t : κ) : Code σ χ ε → Option σ
  | .done s => some s
  | .revert _ => none
  | .call c s k =>
      match C.deliver t c s with
      | some s₁ => answering C answer t (k true (answer c s₁))
      | none => answering C answer t (k false s)

theorem exec_of_answering {answer : χ → σ → σ} (h : ∀ c s, Callee C s (answer c s)) {s' : σ} :
    ∀ p : Code σ χ ε, answering C answer t p = some s' → Exec C t p s' := by
  intro p
  induction p with
  | done s =>
      intro hs
      cases hs
      exact .done
  | revert e =>
      intro hs
      cases hs
  | call c s k ih =>
      intro hs
      simp only [answering] at hs
      split at hs
      · next s₁ hsent => exact .returned hsent (h c s₁) (ih true _ hs)
      · exact .failed (ih false s hs)

/-! ## Callees that do their worst -/

/-- Whatever the callees do, the code ends well, and with `post`. -/
def wp (C : Contract κ σ χ ε) (t : κ) (post : σ → Prop) : Code σ χ ε → Prop
  | .done s => post s
  | .revert _ => False
  | .call c s k =>
      (∀ s₁ s₂, C.deliver t c s = some s₁ → Callee C s₁ s₂ → wp C t post (k true s₂)) ∧
        wp C t post (k false s)

@[simp] theorem wp_done (s : σ) : wp C t post (.done s) ↔ post s := Iff.rfl

@[simp] theorem wp_revert (e : ε) : ¬ wp C t post (.revert e) := id

/-- Code that gives up when a callee fails is at its mercy. -/
theorem not_wp_call {c : χ} {s : σ} {k : Bool → σ → Code σ χ ε} {e : ε}
    (h : k false s = .revert e) : ¬ wp C t post (.call c s k) := by
  intro hwp
  have hfailed := hwp.2
  rw [h] at hfailed
  exact hfailed

end Reentrancy
