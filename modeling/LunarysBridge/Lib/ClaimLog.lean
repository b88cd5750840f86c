/-
LunarysBridge.Lib.ClaimLog — what can be read off the announcements about
requests that are claimed for a bond and settled.

`Standing` is where one request stands. `Event.step` says what an
announcement makes of it, and that it is not due where it stands otherwise;
`replay` is the standing after a log, if every announcement in it was due.

A strict log announces every end of a claim and pays in the token of the
request. In one that is not, a claim may be replaced, or end with the
payment, without a word.
-/
import Mathlib.Data.List.Basic

namespace ClaimLog

/-! ## Announcements and standings -/

/-- What is announced of one request. -/
inductive Event (π α τ : Type) where
  | initiated (sender : π) (token : α) (amount : Nat)
  | claimed (solver : π) (bond : Nat) (deadline : τ)
  | expired (solver : π) (slashed : Nat)
  | paid (solver : π) (token : α) (payout : Nat)
  | refunded (solver : π) (bond : Nat)
  | verified
  deriving DecidableEq

structure Claim (π τ : Type) where
  solver : π
  bond : Nat
  deadline : τ
  deriving DecidableEq

structure Request (π α τ : Type) where
  sender : π
  token : α
  amount : Nat
  paid : Bool
  claim : Option (Claim π τ)
  deriving DecidableEq

inductive Standing (π α τ : Type) where
  | unknown
  | known (r : Request π α τ)
  deriving DecidableEq

variable {π α τ : Type} [DecidableEq π] [DecidableEq α]

/-! ## Due announcements -/

/-- An announcement that is due only while the request is claimed. -/
def Request.held (r : Request π α τ) (due : Claim π τ → Bool)
    (next : Claim π τ → Request π α τ) : Option (Standing π α τ) :=
  match r.claim with
  | some c => if due c then some (.known (next c)) else none
  | none => none

def Event.step (strict : Bool) : Event π α τ → Standing π α τ → Option (Standing π α τ)
  | .initiated sender token amount, .unknown =>
      some (.known ⟨sender, token, amount, false, none⟩)
  | .claimed solver bond deadline, .known r =>
      if r.paid = false ∧ (strict = true → r.claim.isNone = true) then
        some (.known { r with claim := some ⟨solver, bond, deadline⟩ })
      else none
  | .expired solver slashed, .known r =>
      r.held (fun c => r.paid = false ∧ c.solver = solver ∧ slashed ≤ c.bond)
        fun _ => { r with claim := none }
  | .paid solver token payout, .known r =>
      r.held (fun c => r.paid = false ∧ c.solver = solver ∧ r.amount ≤ payout ∧
          (strict = true → r.token = token))
        fun c => { r with paid := true, claim := if strict then some c else none }
  | .refunded solver bond, .known r =>
      r.held (fun c => r.paid = true ∧ c.solver = solver ∧ c.bond = bond)
        fun _ => { r with claim := none }
  | .verified, .known r => some (.known r)
  | _, _ => none

/-- From one standing on. -/
def replayFrom (strict : Bool) (v : Standing π α τ) (l : List (Event π α τ)) :
    Option (Standing π α τ) :=
  l.foldlM (fun v e => e.step strict v) v

def replay (strict : Bool) (l : List (Event π α τ)) : Option (Standing π α τ) :=
  replayFrom strict .unknown l

section Replay

variable {strict : Bool} {v : Standing π α τ} {l l' : List (Event π α τ)}

@[simp] theorem replayFrom_nil : replayFrom strict v ([] : List (Event π α τ)) = some v := rfl

@[simp] theorem replayFrom_cons (e : Event π α τ) :
    replayFrom strict v (e :: l) = (e.step strict v).bind fun v' => replayFrom strict v' l := rfl

theorem replay_append : replay strict (l ++ l') =
    (replay strict l).bind fun v => replayFrom strict v l' := by
  simp [replay, replayFrom, List.foldlM_append]

/-- A log goes on from where it stands. -/
theorem replay_continues (h : replay strict l = some v) :
    replay strict (l ++ l') = replayFrom strict v l' := by
  rw [replay_append, h]
  rfl

/-- A log with an announcement that was not due stays so. -/
theorem replay_stuck (h : replay strict l = none) : replay strict (l ++ l') = none := by
  rw [replay_append, h]
  rfl

/-- Whatever is announced of a request, it is known from then on. -/
theorem step_known {e : Event π α τ} {v' : Standing π α τ} (h : e.step strict v = some v') :
    ∃ r, v' = .known r := by
  have hheld : ∀ {r : Request π α τ} {due next}, r.held due next = some v' →
      ∃ r, v' = .known r := by
    intro r due next hr
    unfold Request.held at hr
    split at hr
    · split at hr
      · exact ⟨_, (Option.some.inj hr).symm⟩
      · cases hr
    · cases hr
  cases e <;> cases v <;> simp only [Event.step] at h
  case initiated.unknown => exact ⟨_, (Option.some.inj h).symm⟩
  case claimed.known =>
      split at h
      · exact ⟨_, (Option.some.inj h).symm⟩
      · cases h
  case expired.known => exact hheld h
  case paid.known => exact hheld h
  case refunded.known => exact hheld h
  case verified.known r => exact ⟨r, (Option.some.inj h).symm⟩
  all_goals cases h

theorem replayFrom_known {r : Request π α τ} {v' : Standing π α τ}
    (h : replayFrom strict (.known r) l = some v') : ∃ r', v' = .known r' := by
  induction l generalizing r with
  | nil => exact ⟨r, (Option.some.inj h).symm⟩
  | cons e l ih =>
      obtain ⟨v₁, hstep, hrest⟩ := Option.bind_eq_some_iff.mp h
      obtain ⟨r₁, rfl⟩ := step_known hstep
      exact ih hrest

/-- A request of which something was announced in order is known. -/
theorem replay_known (hne : l ≠ []) (h : replay strict l = some v) : ∃ r, v = .known r := by
  cases l with
  | nil => exact absurd rfl hne
  | cons e l =>
      obtain ⟨v₁, hstep, hrest⟩ := Option.bind_eq_some_iff.mp h
      obtain ⟨r₁, rfl⟩ := step_known hstep
      exact replayFrom_known hrest

/-- **No request is initiated twice**: the second announcement is not due,
whatever came before it. -/
theorem replay_initiated (hne : l ≠ []) (sender : π) (token : α) (amount : Nat) :
    replay strict (l ++ [.initiated sender token amount]) = none := by
  cases h : replay strict l with
  | none => exact replay_stuck h
  | some v =>
      obtain ⟨r, rfl⟩ := replay_known hne h
      rw [replay_continues h]
      rfl

end Replay

end ClaimLog
