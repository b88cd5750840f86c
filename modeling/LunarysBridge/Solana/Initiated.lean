/-
LunarysBridge.Solana.Initiated — what the bridge announces is what it stores.

Only deposits emit `BridgeInitiated`, each with the mint and the net amount
of the request it writes. Both stay in the request: whoever reads an event of
the bridge, at any time, reads what the request's account holds.
-/
import LunarysBridge.Solana.Lifecycle

namespace LunarysBridge.Solana

variable {rt : Runtime} {s s' : State}

/-- The entry is a `BridgeInitiated`. -/
def Entry.initiates : Entry → Bool
  | .emit (.BridgeInitiated _ _ _ _ _ _) => true
  | _ => false

theorem log_deliverTokens {acc : ReleaseSpl} {amount : UInt64}
    (h : deliverTokens rt acc amount s = .ok s') :
    s'.log = s.log ++ [.emit (.IncomingBridgeDelivered acc.recipient acc.mint amount)] := by
  obtain ⟨_, _, h⟩ := bind_ok h
  obtain ⟨_, _, h⟩ := bind_ok h
  obtain ⟨_, _, h⟩ := bind_ok h
  obtain ⟨_, _, h⟩ := bind_ok h
  obtain ⟨_, _, h⟩ := bind_ok h
  obtain ⟨s₁, h₁, h⟩ := bind_ok h
  obtain ⟨_, _, h⟩ := bind_ok h
  obtain ⟨_, _, h⟩ := bind_ok h
  obtain ⟨s₂, h₂, h⟩ := bind_ok h
  obtain ⟨_, _, hlog⟩ := frame_initAta h₁
  have ht := (tokenTransfer_ok h₂).others
  cases h
  simp only [State.emit, State.note]
  rw [ht, hlog]

theorem log_deliverTokensSol {acc : ReleaseSol} {amount : UInt64}
    (h : deliverTokensSol acc amount s = .ok s') :
    s'.log = s.log ++ [.emit (.IncomingBridgeDelivered acc.recipient nativeMint amount)] := by
  obtain ⟨a, b, s₁, s₂, hd⟩ := deliverTokensSol_delivered h
  have ht := hd.transferred.others
  have hlog := (closeIfEmpty_ok hd.closed).2.2
  rw [hd.final]
  simp only [State.emit, State.note, hlog]
  rw [ht]

/-- An instruction that initiates a request is a deposit; and of what it adds
to the log, this one event does. -/
theorem exec_initiates {i : Instruction} {e : Entry} (h : exec rt i s = .ok s')
    (he : e ∈ s'.log) (hinit : e.initiates = true) :
    e ∈ s.log ∨ ∃ payer mint storedId args cfg, Deposited payer mint storedId args s s' ∧
      s'.requests.lookup (.request payer.key args.requestId) =
        some (args.stored storedId payer.key mint cfg s.now) ∧
      e = .emit (.BridgeInitiated args.requestId payer.key mint (amountNet cfg args.amount)
        (feeU64 cfg args.amount) s.now) := by
  have hdep : ∀ {payer mint storedId args}, Deposited payer mint storedId args s s' →
      e ∈ s.log ∨ ∃ payer mint storedId args cfg, Deposited payer mint storedId args s s' ∧
        s'.requests.lookup (.request payer.key args.requestId) =
          some (args.stored storedId payer.key mint cfg s.now) ∧
        e = .emit (.BridgeInitiated args.requestId payer.key mint (amountNet cfg args.amount)
          (feeU64 cfg args.amount) s.now) := by
    intro payer mint storedId args hd
    obtain ⟨cfg, _, hreq, hlog⟩ := hd.stored
    rw [hlog, List.mem_append, List.mem_cons, List.mem_singleton] at he
    rcases he with hold | rfl | rfl
    · exact .inl hold
    · cases hinit
    · exact .inr ⟨payer, mint, storedId, args, cfg, hd, by rw [hreq, AList.lookup_insert], rfl⟩
  -- the other instructions add entries that initiate nothing
  have hold : ∀ entries, s'.log = s.log ++ entries → entries.any Entry.initiates = false →
      e ∈ s.log := by
    intro entries hlog hnone
    rw [hlog, List.mem_append] at he
    refine he.resolve_right fun hmem => ?_
    rw [List.any_eq_false] at hnone
    exact hnone e hmem hinit
  cases i with
  | initiateBridge acc args => exact hdep (initiateBridge_ok h).1
  | initiateBridgeSol acc args => exact hdep (initiateBridgeSol_ok h).1
  | claimBridge acc offset requestId solverX25519 =>
      obtain ⟨cfg, r, deadline, _, _, _, _, _, _, _, hlog, _⟩ := claimBridge_ok h
      exact .inl (hold _ hlog rfl)
  | releaseExpiredClaim acc requestId =>
      obtain ⟨cfg, r, slash, refund, _, _, _, _, _, _, _, _, _, _, hlog, _⟩ :=
        releaseExpiredClaim_ok h
      exact .inl (hold _ hlog rfl)
  | verifyAndSettleSpl acc requestId destTxHash evidenceHash evidenceUrl =>
      obtain ⟨cfg, r, payout, s₁, _, _, _, _, _, _, _, _, _, _, _, _, _, hlog, _⟩ :=
        verifyAndSettleSpl_ok h
      exact .inl (hold _ hlog rfl)
  | deliverTokens acc amount => exact .inl (hold _ (log_deliverTokens h) rfl)
  | deliverTokensSol acc amount => exact .inl (hold _ (log_deliverTokensSol h) rfl)
  | initConfig payer args =>
      refine .inl (hold [] ?_ rfl)
      obtain ⟨_, _, h⟩ := bind_ok h
      obtain ⟨_, _, h⟩ := bind_ok h
      cases h
      simp [State.debit]
  | setConfig authority c =>
      refine .inl (hold [] ?_ rfl)
      obtain ⟨cfg, _, h⟩ := bind_ok h
      obtain ⟨_, _, h⟩ := bind_ok h
      cases h
      simp

/-- Every event says what its request stores. -/
def State.Announced (s : State) : Prop :=
  ∀ requestId sender token amountAfterFee fee ts,
    .emit (.BridgeInitiated requestId sender token amountAfterFee fee ts) ∈ s.log →
    ∃ req, s.requests.lookup (.request sender requestId) = some req ∧
      req.tokenMint = token ∧ req.amountLocked = amountAfterFee

theorem announced_exec {i : Instruction} (ha : s.Announced) (h : exec rt i s = .ok s') :
    s'.Announced := by
  intro requestId sender token amountAfterFee fee ts he
  rcases exec_initiates h he rfl with hold | ⟨payer, mint, storedId, args, cfg, _, hl, heq⟩
  · obtain ⟨req, hl, htoken, hamount⟩ := ha requestId sender token amountAfterFee fee ts hold
    obtain ⟨req', hl', hchange⟩ := exec_change h hl
    have hsame := hchange.sameDeposit
    exact ⟨req', hl', hsame.tokenMint.trans htoken, hsame.amountLocked.trans hamount⟩
  · cases heq
    exact ⟨_, hl, rfl, rfl⟩

/-- **Announced is stored**, in every reachable state. -/
theorem Reachable.announced (h : Reachable rt s) : s.Announced := by
  refine h.invariant ?_ (fun i s s' ha hexec => announced_exec ha hexec) ?_
  · intro s₀ hinit requestId sender token amountAfterFee fee ts he
    rw [hinit.log] at he
    cases he
  · intro s s' ha hout requestId sender token amountAfterFee fee ts he
    rw [hout.log] at he
    rw [hout.requests]
    exact ha requestId sender token amountAfterFee fee ts he

end LunarysBridge.Solana
