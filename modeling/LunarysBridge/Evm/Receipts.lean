/-
LunarysBridge.Evm.Receipts — what the contract received for each request,
next to what its settlement took from the contract.

`initiateBridge` books the amount it asked the token for, not the amount
that came, and a settlement does not look at what the token took for the
booked amount. `Receipts` runs the contract with a record of both: by how
much the contract's balance of the token grew in the transaction of the
deposit, and by how much it fell in that of the settlement. The receipts of
the open requests stay in the contract if the deposits are delivered in
full and no settlement takes more than it asks for.
-/
import LunarysBridge.Evm.Record
import LunarysBridge.Evm.Settlement

namespace LunarysBridge.Evm

variable {ch : Chain} {t : Tx ch.self} {s s' : State} {id : Nat}

/-! ## Deposits and requests -/

/-- The token and the gross amount of a deposit. -/
def Fn.gross : Fn → Option (Address × Nat)
  | .initiateBridge token amount _ _ => some (token, amount)
  | _ => none

/-- The gross amount of a request. -/
def State.gross (s : State) (id : Nat) : Nat :=
  (s.bridgeRequests id).amount + (s.bridgeRequests id).fee

theorem Fn.eq_of_gross {fn : Fn} {token : Address} {amount : Nat}
    (h : fn.gross = some (token, amount)) :
    ∃ input proof, fn = .initiateBridge token amount input proof := by
  cases fn with
  | initiateBridge token' amount' input proof =>
      cases h
      exact ⟨input, proof, rfl⟩
  | _ => cases h

/-- A deposit adds one request, open and of its token and amount. -/
theorem Book.Step.gross {home token : Address} {amount : Nat} {fn : Fn} {b b' : Book}
    (st : Book.Step home fn b b') (h : fn.gross = some (token, amount)) :
    ∃ r relayer, b' = b.deposit home fn relayer r ∧ r.token = token ∧
      r.amount + r.fee = amount ∧ r.finalized = false := by
  obtain ⟨input, proof, rfl⟩ := Fn.eq_of_gross h
  cases st with
  | deposit _ relayer r sender gross sameToken fresh =>
      exact ⟨r, relayer, rfl, sameToken, gross, fresh⟩
  | settle _ _ id settles known isOpen held intime => cases settles
  | withdraw _ _ token recipient amount withdraws => cases withdraws
  | idle _ _ unguarded => exact absurd unguarded Bool.false_ne_true

/-- A settlement ends one open request, which somebody has claimed. -/
theorem Book.Step.settlement {home : Address} {fn : Fn} {b b' : Book}
    (st : Book.Step home fn b b') (h : fn.settles = some id) :
    b' = b.settle fn id ∧ (b.bridgeRequests id).sender ≠ 0 ∧
      (b.bridgeRequests id).finalized = false ∧ (b.requestClaim id).solver ≠ 0 := by
  cases st with
  | settle _ _ i settles known isOpen held intime =>
      obtain rfl : i = id := by simpa [settles] using h
      exact ⟨rfl, known, isOpen, held⟩
  | withdraw _ _ token recipient amount withdraws =>
      rw [Fn.settles_of_withdraws withdraws] at h
      cases h
  | idle _ _ unguarded =>
      cases fn <;> first | exact absurd unguarded Bool.false_ne_true | cases h
  | _ => cases h

/-- No other operation adds or changes a request. -/
theorem Book.Step.requests {home : Address} {fn : Fn} {b b' : Book}
    (st : Book.Step home fn b b') (hgross : fn.gross = none) (hsettles : fn.settles = none) :
    b'.bridgeNonce = b.bridgeNonce ∧ b'.bridgeRequests = b.bridgeRequests := by
  cases st with
  | deposit _ relayer r sender gross sameToken fresh => cases hgross
  | settle _ _ i settles known isOpen held intime =>
      rw [settles] at hsettles
      cases hsettles
  | _ => exact ⟨rfl, rfl⟩

theorem Valid.known_of_finalized (h : Valid ch s)
    (hfinal : (s.bridgeRequests id).finalized = true) : 1 ≤ id ∧ id ≤ s.bridgeNonce :=
  (h.lifecycle.known id).mp (h.lifecycle.settled id hfinal)

theorem nonce_deploy (g : Genesis ch) (relayer initialOwner : Address)
    (h : deploy ch g relayer initialOwner = .ok s) : s.bridgeNonce = 0 := by
  unfold deploy at h
  split at h
  · cases h
  split at h
  · cases h
  cases h
  rfl

/-- What a deposit does to the requests. -/
structure MadeRequest (s s' : State) (token : Address) (amount : Nat) : Prop where
  nonce : s'.bridgeNonce = s.bridgeNonce + 1
  token : (s'.bridgeRequests (s.bridgeNonce + 1)).token = token
  gross : s'.gross (s.bridgeNonce + 1) = amount
  fresh : (s'.bridgeRequests (s.bridgeNonce + 1)).finalized = false
  others : ∀ id, id ≠ s.bridgeNonce + 1 → s'.bridgeRequests id = s.bridgeRequests id

/-- What a settlement does to them. -/
structure EndedRequest (s s' : State) (id : Nat) : Prop where
  known : 1 ≤ id ∧ id ≤ s.bridgeNonce
  isOpen : (s.bridgeRequests id).finalized = false
  nonce : s'.bridgeNonce = s.bridgeNonce
  request : s'.bridgeRequests id = { s.bridgeRequests id with finalized := true }
  others : ∀ i, i ≠ id → s'.bridgeRequests i = s.bridgeRequests i

/-- What all other steps do to them. -/
structure SameRequests (s s' : State) : Prop where
  nonce : s'.bridgeNonce = s.bridgeNonce
  requests : s'.bridgeRequests = s.bridgeRequests

theorem Valid.madeRequest (h : Valid ch s) {token : Address} {amount : Nat}
    (hgross : t.fn.gross = some (token, amount))
    (hc : Reentrancy.Commits (contract ch) t s s') : MadeRequest s s' token amount := by
  obtain ⟨r, relayer, hb, htoken, hamount, hfresh⟩ := (h.commits hc).step.gross hgross
  have hreq := congrArg Book.bridgeRequests hb
  have hnew : s'.bridgeRequests (s.bridgeNonce + 1) = r :=
    (congrFun hreq _).trans (Book.deposit_request s.book t.fn)
  refine ⟨congrArg Book.bridgeNonce hb, by rw [hnew, htoken], ?_, by rw [hnew, hfresh], ?_⟩
  · rw [State.gross, hnew, hamount]
  · intro id hne
    exact (congrFun hreq id).trans (Book.deposit_request_ne s.book t.fn hne)

theorem Valid.endedRequest (h : Valid ch s) (hsettles : t.fn.settles = some id)
    (hc : Reentrancy.Commits (contract ch) t s s') : EndedRequest s s' id := by
  obtain ⟨hb, known, isOpen, -⟩ := (h.commits hc).step.settlement hsettles
  have hreq := congrArg Book.bridgeRequests hb
  refine ⟨(h.lifecycle.known id).mp known, isOpen, congrArg Book.bridgeNonce hb, ?_, ?_⟩
  · exact (congrFun hreq id).trans (Book.settle_request s.book t.fn)
  · intro i hne
    exact (congrFun hreq i).trans (Book.settle_request_ne s.book t.fn hne)

theorem Valid.sameRequests (h : Valid ch s) (hgross : t.fn.gross = none)
    (hsettles : t.fn.settles = none) (hc : Reentrancy.Commits (contract ch) t s s') :
    SameRequests s s' := by
  obtain ⟨hnonce, hreq⟩ := (h.commits hc).step.requests hgross hsettles
  exact ⟨hnonce, hreq⟩

/-- Others touch no request. -/
theorem sameRequests_outside (h : Outside ch s s') : SameRequests s s' := by
  have hbook := (undisturbed_outside h).book
  exact ⟨congrArg Book.bridgeNonce hbook, congrArg Book.bridgeRequests hbook⟩

theorem EndedRequest.gross (h : EndedRequest s s' id) (i : Nat) : s'.gross i = s.gross i := by
  by_cases hi : i = id
  · rw [hi, State.gross, h.request]
    rfl
  · rw [State.gross, h.others i hi]
    rfl

theorem SameRequests.gross (h : SameRequests s s') (i : Nat) : s'.gross i = s.gross i := by
  rw [State.gross, h.requests]
  rfl

/-! ## Receipts -/

/-- What the contract's balance of a token grew by. -/
def grown (ch : Chain) (token : Address) (s s' : State) : Nat :=
  s'.bal token ch.self - s.bal token ch.self

/-- What it fell by. -/
def fallen (ch : Chain) (token : Address) (s s' : State) : Nat :=
  s.bal token ch.self - s'.bal token ch.self

/-- What came for each request with its deposit, what its settlement took,
and what was lost of each token otherwise. -/
structure Flows where
  received : Nat → Nat
  taken : Nat → Nat
  lost : Address → Nat

namespace Flows

def none : Flows where
  received := fun _ => 0
  taken := fun _ => 0
  lost := fun _ => 0

def deposit (fl : Flows) (ch : Chain) (id : Nat) (token : Address) (s s' : State) : Flows where
  received := Function.update fl.received id (grown ch token s s')
  taken := fl.taken
  lost := fun a => fl.lost a + fallen ch a s s'

/-- In a settlement, what fell of the token is taken by the settlement. -/
def settle (fl : Flows) (ch : Chain) (id : Nat) (token : Address) (s s' : State) : Flows where
  received := fl.received
  taken := Function.update fl.taken id (fallen ch token s s')
  lost := fun a => if a = token then fl.lost a else fl.lost a + fallen ch a s s'

def pass (fl : Flows) (ch : Chain) (s s' : State) : Flows where
  received := fl.received
  taken := fl.taken
  lost := fun a => fl.lost a + fallen ch a s s'

/-- What came for a request that is open, if it is one of the token. -/
def held (fl : Flows) (s : State) (token : Address) (id : Nat) : Nat :=
  if (s.bridgeRequests id).finalized = false ∧ (s.bridgeRequests id).token = token
  then fl.received id else 0

/-- What came for the open requests is there, but for what was lost outside
of settlements. -/
def Covered (fl : Flows) (ch : Chain) (s : State) : Prop :=
  ∀ token, ∑ id ∈ Finset.Icc 1 s.bridgeNonce, fl.held s token id ≤
    s.bal token ch.self + fl.lost token

end Flows

/-- Runs without withdrawals, with what flowed in them. `delivers` is a
condition on the amount of a deposit and what came for it, `takes` one on
the gross amount of a request and what its settlement took. -/
inductive Receipts (ch : Chain) (delivers takes : Nat → Nat → Prop) : Flows → State → Prop where
  | deployed (g : Genesis ch) (relayer initialOwner : Address) {s : State}
      (h : deploy ch g relayer initialOwner = .ok s) : Receipts ch delivers takes .none s
  | deposit {fl : Flows} {s s' : State} (before : Receipts ch delivers takes fl s)
      (t : Tx ch.self) {token : Address} {amount : Nat}
      (gross : t.fn.gross = some (token, amount))
      (commits : Reentrancy.Commits (contract ch) t s s')
      (ok : delivers amount (grown ch token s s')) :
      Receipts ch delivers takes (fl.deposit ch s'.bridgeNonce token s s') s'
  | settle {fl : Flows} {s s' : State} (before : Receipts ch delivers takes fl s)
      (t : Tx ch.self) {id : Nat} (settles : t.fn.settles = some id)
      (commits : Reentrancy.Commits (contract ch) t s s')
      (ok : takes (s.gross id) (fallen ch (s.bridgeRequests id).token s s')) :
      Receipts ch delivers takes (fl.settle ch id (s.bridgeRequests id).token s s') s'
  | tx {fl : Flows} {s s' : State} (before : Receipts ch delivers takes fl s) (t : Tx ch.self)
      (gross : t.fn.gross = none) (settles : t.fn.settles = none)
      (keeps : t.fn.withdraws = false) (commits : Reentrancy.Commits (contract ch) t s s') :
      Receipts ch delivers takes (fl.pass ch s s') s'
  | outside {fl : Flows} {s s' : State} (before : Receipts ch delivers takes fl s)
      (move : Outside ch s s') : Receipts ch delivers takes (fl.pass ch s s') s'
  | tick {fl : Flows} {s : State} (before : Receipts ch delivers takes fl s) (time : Nat)
      (later : s.now ≤ time) : Receipts ch delivers takes fl { s with now := time }

/-- Whatever comes or is taken. -/
abbrev Anything (_ _ : Nat) : Prop := True

/-- What is asked for comes, or is taken. -/
abbrev AsAsked (asked moved : Nat) : Prop := moved = asked

/-- The deposit is delivered in full. -/
abbrev InFull (amount received : Nat) : Prop := amount ≤ received

/-- The settlement takes no more than it asks for. -/
abbrev NoMore (gross taken : Nat) : Prop := taken ≤ gross

variable {delivers takes : Nat → Nat → Prop} {fl : Flows}

theorem Receipts.reachable (h : Receipts ch delivers takes fl s) : Reachable ch s := by
  induction h with
  | deployed g relayer initialOwner h => exact .deployed g relayer initialOwner h
  | deposit _ t _ commits _ ih => exact ih.step (.tx t commits)
  | settle _ t _ commits _ ih => exact ih.step (.tx t commits)
  | tx _ t _ _ _ commits ih => exact ih.step (.tx t commits)
  | outside _ move ih => exact ih.step (.outside move)
  | tick _ time later ih => exact ih.step (.tick _ time later)

/-- Every run without withdrawals is one of `Receipts`, if its deposits and
its settlements meet the two conditions. -/
theorem Untapped.receipts (h : Untapped ch s)
    (hdelivers : ∀ (t : Tx ch.self) s s' token amount, Valid ch s →
      t.fn.gross = some (token, amount) → Reentrancy.Commits (contract ch) t s s' →
        delivers amount (grown ch token s s'))
    (htakes : ∀ (t : Tx ch.self) s s' id, Valid ch s → t.fn.settles = some id →
      Reentrancy.Commits (contract ch) t s s' →
        takes (s.gross id) (fallen ch (s.bridgeRequests id).token s s')) :
    ∃ fl, Receipts ch delivers takes fl s := by
  induction h with
  | deployed g relayer initialOwner h => exact ⟨_, .deployed g relayer initialOwner h⟩
  | tx _ t keeps commits ih =>
      obtain ⟨fl, hfl⟩ := ih
      have hv := hfl.reachable.valid
      cases hgross : t.fn.gross with
      | some p => exact ⟨_, hfl.deposit t hgross commits (hdelivers t _ _ _ _ hv hgross commits)⟩
      | none =>
          cases hsettles : t.fn.settles with
          | some id => exact ⟨_, hfl.settle t hsettles commits (htakes t _ _ _ hv hsettles commits)⟩
          | none => exact ⟨_, hfl.tx t hgross hsettles keeps commits⟩
  | outside _ move ih =>
      obtain ⟨fl, hfl⟩ := ih
      exact ⟨_, hfl.outside move⟩
  | tick _ time later ih =>
      obtain ⟨fl, hfl⟩ := ih
      exact ⟨_, hfl.tick time later⟩

/-! ### One request -/

/-- If every deposit of the run meets the condition, every request does. -/
theorem Receipts.delivered (h : Receipts ch delivers takes fl s) :
    ∀ id, 1 ≤ id → id ≤ s.bridgeNonce → delivers (s.gross id) (fl.received id) := by
  induction h with
  | deployed g relayer initialOwner h =>
      intro id hpos hid
      have hnonce := nonce_deploy g relayer initialOwner h
      omega
  | @deposit fl s s' before t token amount gross commits ok ih =>
      intro id hpos hid
      have hmade := before.reachable.valid.madeRequest gross commits
      simp only [Flows.deposit, hmade.nonce]
      by_cases hnew : id = s.bridgeNonce + 1
      · rw [hnew, Function.update_self, hmade.gross]
        exact ok
      · rw [Function.update_of_ne hnew, State.gross, hmade.others id hnew]
        exact ih id hpos (by have := hmade.nonce; omega)
  | settle before t settles commits ok ih =>
      intro i hpos hi
      have hended := before.reachable.valid.endedRequest settles commits
      rw [hended.nonce] at hi
      rw [hended.gross]
      exact ih i hpos hi
  | tx before t gross settles keeps commits ih =>
      intro id hpos hid
      have hsame := before.reachable.valid.sameRequests gross settles commits
      rw [hsame.nonce] at hid
      rw [hsame.gross]
      exact ih id hpos hid
  | outside before move ih =>
      intro id hpos hid
      have hsame := sameRequests_outside move
      rw [hsame.nonce] at hid
      rw [hsame.gross]
      exact ih id hpos hid
  | tick before time later ih => exact ih

/-- Nothing is taken for an open request, and if every settlement of the run
meets the condition, every settled request does. -/
theorem Receipts.settled (h : Receipts ch delivers takes fl s) (id : Nat) :
    if (s.bridgeRequests id).finalized = true then takes (s.gross id) (fl.taken id)
    else fl.taken id = 0 := by
  induction h with
  | deployed g relayer initialOwner h =>
      have hnonce := nonce_deploy g relayer initialOwner h
      have hv := valid_deploy g relayer initialOwner h
      rw [if_neg]
      · rfl
      · intro hfinal
        have hknown := hv.known_of_finalized hfinal
        omega
  | @deposit fl s s' before t token amount gross commits ok ih =>
      have hv := before.reachable.valid
      have hmade := hv.madeRequest gross commits
      by_cases hnew : id = s.bridgeNonce + 1
      · have hopen : ¬ (s.bridgeRequests id).finalized = true := by
          intro hfinal
          have hknown := hv.known_of_finalized hfinal
          omega
        rw [if_neg hopen] at ih
        rw [if_neg (by simp [hnew, hmade.fresh])]
        exact ih
      · rw [State.gross, hmade.others id hnew]
        exact ih
  | @settle fl s s' before t i settles commits ok ih =>
      have hended := before.reachable.valid.endedRequest settles commits
      by_cases hi : id = i
      · simp only [hi, hended.gross, hended.request, if_true, Flows.settle,
          Function.update_self]
        exact ok
      · simp only [hended.gross, hended.others id hi, Flows.settle, Function.update_of_ne hi]
        exact ih
  | tx before t gross settles keeps commits ih =>
      have hsame := before.reachable.valid.sameRequests gross settles commits
      rw [hsame.gross, hsame.requests]
      exact ih
  | outside before move ih =>
      have hsame := sameRequests_outside move
      rw [hsame.gross, hsame.requests]
      exact ih
  | tick before time later ih => exact ih

/-! ### All open requests -/

/-- Over any step, what a balance grew by is what it is more by, but for
what it fell by. -/
theorem bal_add_fallen (ch : Chain) (token : Address) (s s' : State) :
    s'.bal token ch.self + fallen ch token s s' =
      s.bal token ch.self + grown ch token s s' := by
  unfold fallen grown
  omega

theorem Flows.covered_pass (h : fl.Covered ch s) (hsame : SameRequests s s') :
    (fl.pass ch s s').Covered ch s' := by
  intro token
  have hbal := bal_add_fallen ch token s s'
  have hold := h token
  have hheld : ∀ id, (fl.pass ch s s').held s' token id = fl.held s token id := by
    intro id
    simp only [held, hsame.requests]
    rfl
  have hlost : (fl.pass ch s s').lost token = fl.lost token + fallen ch token s s' := rfl
  simp only [hheld, hsame.nonce]
  omega

theorem Flows.covered_deposit {token : Address} {amount : Nat} (h : fl.Covered ch s)
    (hmade : MadeRequest s s' token amount) :
    (fl.deposit ch s'.bridgeNonce token s s').Covered ch s' := by
  intro a
  have hbal := bal_add_fallen ch a s s'
  have hold := h a
  rw [hmade.nonce]
  have hsum := Tally.sum_Icc_succ (n := s.bridgeNonce) (f := fl.held s a)
    (g := (fl.deposit ch (s.bridgeNonce + 1) token s s').held s' a) (fun id hne => by
      simp only [held, deposit, hmade.others id hne, Function.update_of_ne hne])
  have hnew : (fl.deposit ch (s.bridgeNonce + 1) token s s').held s' a (s.bridgeNonce + 1) =
      if token = a then grown ch token s s' else 0 := by
    simp only [held, deposit, hmade.fresh, hmade.token, Function.update_self, true_and]
  rw [hsum, hnew]
  simp only [deposit]
  split
  · next htoken =>
    rw [htoken]
    omega
  · omega

/-- A settlement that takes no more than came for its request leaves what
came for the others. -/
theorem Flows.covered_settle (h : fl.Covered ch s) (hended : EndedRequest s s' id)
    (hwithin : fallen ch (s.bridgeRequests id).token s s' ≤ fl.received id) :
    (fl.settle ch id (s.bridgeRequests id).token s s').Covered ch s' := by
  intro a
  have hbal := bal_add_fallen ch a s s'
  have hold := h a
  have hsum := Tally.sum_change (Finset.mem_Icc.mpr hended.known) (f := fl.held s a)
    (g := (fl.settle ch id (s.bridgeRequests id).token s s').held s' a) (fun i hne => by
      simp only [held, settle, hended.others i hne])
  have hbefore : fl.held s a id =
      if (s.bridgeRequests id).token = a then fl.received id else 0 := by
    simp only [held, hended.isOpen, true_and]
  have hafter : (fl.settle ch id (s.bridgeRequests id).token s s').held s' a id = 0 := by
    simp [held, hended.request]
  have hlost : (fl.settle ch id (s.bridgeRequests id).token s s').lost a =
      if a = (s.bridgeRequests id).token then fl.lost a
      else fl.lost a + fallen ch a s s' := rfl
  rw [hbefore, hafter] at hsum
  rw [hended.nonce, hlost]
  split
  · next htoken =>
    rw [if_pos htoken.symm] at hsum
    rw [← htoken] at hwithin
    omega
  · next htoken =>
    rw [if_neg (Ne.symm htoken)] at hsum
    omega

/-- **What came for the open requests stays there**, in runs whose deposits
are delivered in full and whose settlements take no more than they ask for. -/
theorem Receipts.covered (h : Receipts ch InFull NoMore fl s) : fl.Covered ch s := by
  induction h with
  | deployed g relayer initialOwner h =>
      intro token
      simp [nonce_deploy g relayer initialOwner h]
  | deposit before t gross commits ok ih =>
      exact Flows.covered_deposit ih (before.reachable.valid.madeRequest gross commits)
  | settle before t settles commits ok ih =>
      have hended := before.reachable.valid.endedRequest settles commits
      have hfull := before.delivered _ hended.known.1 hended.known.2
      exact Flows.covered_settle ih hended (Nat.le_trans ok hfull)
  | tx before t gross settles keeps commits ih =>
      exact Flows.covered_pass ih (before.reachable.valid.sameRequests gross settles commits)
  | outside before move ih => exact Flows.covered_pass ih (sameRequests_outside move)
  | tick before time later ih => exact ih

/-! ## Exact tokens -/

/-- An exact token is delivered in full. -/
theorem grown_of_exact (h : Valid ch s) {token : Address} {amount : Nat}
    (hexact : ch.exact token = true) (hgross : t.fn.gross = some (token, amount))
    (hc : Reentrancy.Commits (contract ch) t s s') : amount ≤ grown ch token s s' := by
  have he := h.commits hc
  obtain ⟨r, relayer, hb, htoken, hamount, -⟩ := he.step.gross hgross
  have hin : Tally.total (LogEntry.tokensIn token) s'.book.acts =
      Tally.total (LogEntry.tokensIn token) s.book.acts + amount := by
    rw [hb]
    simp [htoken, hamount]
  have hout : Tally.total (LogEntry.tokensOut ch.self token) s'.book.acts =
      Tally.total (LogEntry.tokensOut ch.self token) s.book.acts := by
    rw [hb]
    simp
  rw [tokensIn_acts, tokensIn_acts] at hin
  rw [tokensOut_acts, tokensOut_acts] at hout
  have hbefore := h.sound.tokenFlow token hexact
  have hafter := he.sound.tokenFlow token hexact
  have hdonated : Tally.total (LogEntry.tokensDonated token) s.log ≤
      Tally.total (LogEntry.tokensDonated token) s'.log :=
    Tally.total_le_of_prefix (commits_log hc)
  unfold grown
  omega

/-- The settlement of an exact token takes no more than it asks for. -/
theorem fallen_of_exact (h : Valid ch s)
    (hexact : ch.exact (s.bridgeRequests id).token = true) (hsettles : t.fn.settles = some id)
    (hc : Reentrancy.Commits (contract ch) t s s') :
    fallen ch (s.bridgeRequests id).token s s' ≤ s.gross id := by
  have he := h.commits hc
  obtain ⟨hb, -, hopen, hheld⟩ := he.step.settlement hsettles
  have hother := (h.lifecycle.held id hheld).2.2
  have hfee := h.lifecycle.escrowed id hopen
  have hin : Tally.total (LogEntry.tokensIn (s.bridgeRequests id).token) s'.book.acts =
      Tally.total (LogEntry.tokensIn (s.bridgeRequests id).token) s.book.acts := by
    rw [hb]
    simp
  have hout : Tally.total (LogEntry.tokensOut ch.self (s.bridgeRequests id).token)
      s'.book.acts = Tally.total (LogEntry.tokensOut ch.self (s.bridgeRequests id).token)
        s.book.acts + s.gross id := by
    simp only [book_claim, book_escrow, book_requests] at hother hfee
    rw [hb]
    simp [hother, hfee, Book.payout, State.gross]
  rw [tokensIn_acts, tokensIn_acts] at hin
  rw [tokensOut_acts, tokensOut_acts] at hout
  have hbefore := h.sound.tokenFlow _ hexact
  have hafter := he.sound.tokenFlow _ hexact
  have hdonated : Tally.total (LogEntry.tokensDonated (s.bridgeRequests id).token) s.log ≤
      Tally.total (LogEntry.tokensDonated (s.bridgeRequests id).token) s'.log :=
    Tally.total_le_of_prefix (commits_log hc)
  unfold fallen
  omega

/-- So where every token is exact, every run meets both conditions. -/
theorem Untapped.receipts_of_exact (h : Untapped ch s) (hexact : ∀ token, ch.exact token = true) :
    ∃ fl, Receipts ch InFull NoMore fl s :=
  h.receipts
    (fun _ _ _ _ _ hv hgross hc => grown_of_exact hv (hexact _) hgross hc)
    (fun _ _ _ _ hv hsettles hc => fallen_of_exact hv (hexact _) hsettles hc)

/-! ## Payments and receipts -/

/-- **Payments within receipts.** Every run without withdrawals has its
flows. The settlement of a request is covered by what came for it exactly
if its deposit was delivered in full, where settlements take what they ask
for, and exactly if it takes no more than it asks for, where deposits bring
what they ask for. In a run whose deposits are delivered in full and whose
settlements take no more than they ask for, every settlement is covered by
what came for its own request, and what came for the open requests of a
token stays in the contract, but for what is lost outside of settlements. -/
theorem payment_within_receipts (ch : Chain) :
    (∀ s, Untapped ch s → ∃ fl, Receipts ch Anything Anything fl s) ∧
    (∀ fl s id, Receipts ch Anything AsAsked fl s →
      (s.bridgeRequests id).finalized = true →
        (fl.taken id ≤ fl.received id ↔ InFull (s.gross id) (fl.received id))) ∧
    (∀ fl s id, Receipts ch AsAsked Anything fl s →
      (s.bridgeRequests id).finalized = true →
        (fl.taken id ≤ fl.received id ↔ NoMore (s.gross id) (fl.taken id))) ∧
    ∀ fl s, Receipts ch InFull NoMore fl s →
      (∀ id, fl.taken id ≤ fl.received id) ∧ fl.Covered ch s := by
  refine ⟨fun s h => ?_, fun fl s id h hfinal => ?_, fun fl s id h hfinal => ?_,
    fun fl s h => ⟨fun id => ?_, h.covered⟩⟩
  · exact h.receipts (fun _ _ _ _ _ _ _ _ => trivial) (fun _ _ _ _ _ _ _ => trivial)
  · have htaken := h.settled id
    rw [if_pos hfinal] at htaken
    rw [htaken]
  · obtain ⟨hpos, hid⟩ := h.reachable.valid.known_of_finalized hfinal
    rw [h.delivered id hpos hid]
  · have htaken := h.settled id
    split at htaken
    · next hfinal =>
      obtain ⟨hpos, hid⟩ := h.reachable.valid.known_of_finalized hfinal
      exact Nat.le_trans htaken (h.delivered id hpos hid)
    · rw [htaken]
      exact Nat.zero_le _

/-! ### Runs on given inputs -/

section Runs

variable (ch) (delivers takes)
variable [∀ a b, Decidable (delivers a b)] [∀ a b, Decidable (takes a b)]

/-- One call among callees that answer alike, if it meets the conditions. -/
def runCall (answer : ExtCall → State → State) (t : Tx ch.self) (r : Flows × State) :
    Option (Flows × State) := do
  guard (t.fn.withdraws = false)
  let s' ← Reentrancy.answering (contract ch) answer t (entry ch t r.2)
  match t.fn.gross, t.fn.settles with
  | some (token, amount), _ =>
      guard (delivers amount (grown ch token r.2 s'))
      return (r.1.deposit ch s'.bridgeNonce token r.2 s', s')
  | none, some id =>
      let token := (r.2.bridgeRequests id).token
      guard (takes (r.2.gross id) (fallen ch token r.2 s'))
      return (r.1.settle ch id token r.2 s', s')
  | none, none => return (r.1.pass ch r.2 s', s')

/-- The calls one after the other. -/
def runReceipts (answer : ExtCall → State → State) (ts : List (Tx ch.self))
    (r : Flows × State) : Option (Flows × State) :=
  ts.foldlM (fun r t => runCall ch delivers takes answer t r) r

variable {ch} {delivers} {takes}

theorem Receipts.runCall {answer : ExtCall → State → State} {r r' : Flows × State}
    (hanswer : ∀ x s, Reentrancy.Callee (contract ch) s (answer x s))
    (h : Receipts ch delivers takes r.1 r.2)
    (hrun : runCall ch delivers takes answer t r = some r') :
    Receipts ch delivers takes r'.1 r'.2 := by
  simp only [Evm.runCall, Option.bind_eq_bind, Option.bind_eq_some_iff] at hrun
  obtain ⟨_, hkeeps, s', hs', hrun⟩ := hrun
  have hkeeps := (Option.guard_eq_some' _).mp hkeeps
  have hcommits : Reentrancy.Commits (contract ch) t r.2 s' :=
    Reentrancy.exec_of_answering hanswer _ hs'
  split at hrun
  · next token amount hgross =>
    obtain ⟨_, hok, hr⟩ := Option.bind_eq_some_iff.mp hrun
    cases hr
    exact h.deposit t hgross hcommits ((Option.guard_eq_some' _).mp hok)
  · next id _ hsettles =>
    obtain ⟨_, hok, hr⟩ := Option.bind_eq_some_iff.mp hrun
    cases hr
    exact h.settle t hsettles hcommits ((Option.guard_eq_some' _).mp hok)
  · next hgross hsettles =>
    cases hrun
    exact h.tx t hgross hsettles hkeeps hcommits

theorem Receipts.run {answer : ExtCall → State → State}
    (hanswer : ∀ x s, Reentrancy.Callee (contract ch) s (answer x s))
    {ts : List (Tx ch.self)} : ∀ {r r'}, Receipts ch delivers takes r.1 r.2 →
      runReceipts ch delivers takes answer ts r = some r' →
        Receipts ch delivers takes r'.1 r'.2 := by
  induction ts with
  | nil =>
      intro r r' h hrun
      cases hrun
      exact h
  | cons t ts ih =>
      intro r r' h hrun
      rw [runReceipts, List.foldlM_cons] at hrun
      obtain ⟨r₁, hcall, hrest⟩ := Option.bind_eq_some_iff.mp hrun
      exact ih (h.runCall hanswer hcall) hrest

end Runs

namespace Sample

/-- No token is exact. -/
def feeChain : Chain where
  self := 1
  exact := fun _ => false
  fromExternal := fun _ input _ => some input

def feeGenesis : Genesis feeChain where
  eth := fun a => if a = 1 then 0 else 10 ^ 20
  bal := fun _ a => if a = 1 then 0 else 10 ^ 21
  now := 1000
  no_eth := rfl
  no_tokens := fun _ => rfl

/-- A token that keeps a part of what is sent to the contract, and takes
more from it than it sends, each by a number of percents. -/
def chargeFees (keeps adds : Nat) : ExtCall → State → State
  | .safeTransferFrom token sender amount, s =>
      { s with
        bal := Function.update s.bal token
          (move (s.bal token) sender 1 (amount - amount * keeps / 100)) }
  | .safeTransfer token recipient amount, s =>
      { s with
        bal := Function.update s.bal token
          (move (s.bal token) 1 recipient (amount + amount * adds / 100)) }
  | .send _ _, s => s

theorem callee_chargeFees (keeps adds : Nat) (x : ExtCall) (s : State) :
    Reentrancy.Callee (contract feeChain) s (chargeFees keeps adds x s) := by
  cases x with
  | send recipient value => exact .idle
  | safeTransfer token recipient amount =>
      exact .outside (.others s s.eth _ rfl fun _ h => absurd h Bool.false_ne_true) .idle
  | safeTransferFrom token sender amount =>
      exact .outside (.others s s.eth _ rfl fun _ h => absurd h Bool.false_ne_true) .idle

/-- Two deposits of 1 of the token, of which the first is claimed and
settled. -/
def feeRun (delivers takes : Nat → Nat → Prop) [∀ a b, Decidable (delivers a b)]
    [∀ a b, Decidable (takes a b)] (keeps adds : Nat) : Option (Flows × State) :=
  match deploy feeChain feeGenesis 2 3 with
  | .ok s => runReceipts feeChain delivers takes (chargeFees keeps adds)
      (calls ++ [call 4 0 (.initiateBridge 9 (10 ^ 18) 78 []) user_ne, settlement]) (.none, s)
  | .error _ => none

theorem receipts_feeRun {delivers takes : Nat → Nat → Prop} [∀ a b, Decidable (delivers a b)]
    [∀ a b, Decidable (takes a b)] {keeps adds : Nat} {r : Flows × State}
    (h : feeRun delivers takes keeps adds = some r) :
    Receipts feeChain delivers takes r.1 r.2 := by
  unfold feeRun at h
  split at h
  · next s₀ hd =>
    exact (Receipts.deployed feeGenesis 2 3 hd).run (callee_chargeFees keeps adds) h
  · cases h

end Sample

/-- Without fees, the first of two requests is settled out of what came for
it, and what came for the second is there. -/
theorem payment_within_receipts_settled : ∃ fl s,
    Receipts Sample.feeChain InFull NoMore fl s ∧ (s.bridgeRequests 1).finalized = true ∧
      fl.taken 1 ≤ fl.received 1 ∧ fl.held s 9 2 = 10 ^ 18 ∧ fl.Covered Sample.feeChain s := by
  have hrun : (Sample.feeRun InFull NoMore 0 0).map (fun r =>
      ((r.2.bridgeRequests 1).finalized, r.1.held r.2 9 2)) = some (true, 10 ^ 18) := by
    decide +kernel
  obtain ⟨r, hr, hvalues⟩ := Option.map_eq_some_iff.mp hrun
  obtain ⟨hfinal, hheld⟩ := Prod.mk.inj hvalues
  have hreceipts := Sample.receipts_feeRun hr
  obtain ⟨hwithin, hcovered⟩ := (payment_within_receipts Sample.feeChain).2.2.2 _ _ hreceipts
  exact ⟨_, _, hreceipts, hfinal, hwithin 1, hheld, hcovered⟩

/-- A fee of one percent, on the way in or on the way out: the settlement of
the first request takes more than came for it, which was received for the
second. -/
theorem payment_beyond_receipts :
    (¬ ∀ (ch : Chain) fl s id, Receipts ch Anything NoMore fl s →
      fl.taken id ≤ fl.received id) ∧
    ¬ ∀ (ch : Chain) fl s id, Receipts ch InFull Anything fl s →
      fl.taken id ≤ fl.received id := by
  have hkeeps : (Sample.feeRun Anything NoMore 1 0).map (fun r =>
      (r.1.received 1, r.1.taken 1, r.1.held r.2 9 2, r.2.bal 9 1)) =
        some (99 * 10 ^ 16, 10 ^ 18, 99 * 10 ^ 16, 98 * 10 ^ 16) := by decide +kernel
  have hadds : (Sample.feeRun InFull Anything 0 1).map (fun r =>
      (r.1.received 1, r.1.taken 1, r.1.held r.2 9 2, r.2.bal 9 1)) =
        some (10 ^ 18, 101 * 10 ^ 16, 10 ^ 18, 99 * 10 ^ 16) := by decide +kernel
  refine ⟨fun hall => ?_, fun hall => ?_⟩
  · obtain ⟨r, hr, hvalues⟩ := Option.map_eq_some_iff.mp hkeeps
    simp only [Prod.mk.injEq] at hvalues
    have hle := hall _ _ _ 1 (Sample.receipts_feeRun hr)
    rw [hvalues.1, hvalues.2.1] at hle
    exact absurd hle (by decide)
  · obtain ⟨r, hr, hvalues⟩ := Option.map_eq_some_iff.mp hadds
    simp only [Prod.mk.injEq] at hvalues
    have hle := hall _ _ _ 1 (Sample.receipts_feeRun hr)
    rw [hvalues.1, hvalues.2.1] at hle
    exact absurd hle (by decide)

end LunarysBridge.Evm
