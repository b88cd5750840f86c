/-
LunarysBridge.Solana.Computations — what stays on the chain, and the
computations among it.

A run keeps the deposits of all requests; the queue and the log only grow
(`Onward`). Arcium keeps an account for each computation, at an address it
derives from the offset, and accepts none under an offset that has one
(`offsetFree`). So an offset names one computation in every run.
-/
import LunarysBridge.Solana.Initiated

namespace LunarysBridge.Solana

variable {rt : Runtime} {s s' s₁ s₂ : State}

/-! ## The queue -/

/-- The offset under which an instruction queues a computation. -/
def Instruction.offset : Instruction → Option UInt64
  | .initiateBridge _ args => some args.computationOffset
  | .initiateBridgeSol _ args => some args.computationOffset
  | .claimBridge _ offset _ _ => some offset
  | _ => none

/-- There is no computation yet under the offset of the instruction. -/
def offsetFree (i : Instruction) (s : State) : Prop :=
  ∀ offset, i.offset = some offset → offset ∉ s.queue.map Computation.offset

theorem queue_initAta {payer : Signer} {wallet mint : Pubkey}
    (h : initAta rt payer wallet mint s = .ok s') : s'.queue = s.queue := by
  unfold initAta at h
  split at h
  · obtain ⟨_, _, h⟩ := bind_ok h
    cases h
    rfl
  · obtain ⟨s₁, h₁, h⟩ := bind_ok h
    cases h
    exact (frame_payRent h₁).queue

theorem queue_deliverTokens {acc : ReleaseSpl} {amount : UInt64}
    (h : deliverTokens rt acc amount s = .ok s') : s'.queue = s.queue := by
  iterate 5 obtain ⟨_, _, h⟩ := bind_ok h
  obtain ⟨s₁, h₁, h⟩ := bind_ok h
  iterate 2 obtain ⟨_, _, h⟩ := bind_ok h
  obtain ⟨s₂, h₂, h⟩ := bind_ok h
  have htransfer : s₂.queue = s₁.queue := by rw [(tokenTransfer_ok h₂).others]
  cases h
  exact htransfer.trans (queue_initAta h₁)

theorem queue_deliverTokensSol {acc : ReleaseSol} {amount : UInt64}
    (h : deliverTokensSol acc amount s = .ok s') : s'.queue = s.queue := by
  obtain ⟨a, b, s₁, s₂, hd⟩ := deliverTokensSol_delivered h
  have hclosed : s₂.queue = s₁.queue := by
    have hclose := hd.closed
    unfold closeIfEmpty at hclose
    split at hclose
    · iterate 4 obtain ⟨_, _, hclose⟩ := bind_ok hclose
      cases hclose
      exact credit_queue _ _ _
    · cases hclose
      rfl
  rw [hd.final, State.emit, State.note, hclosed, hd.transferred.others]

/-- An instruction queues the one computation that its offset is for. -/
theorem exec_queue {i : Instruction} (h : exec rt i s = .ok s') :
    ∃ cs, s'.queue = s.queue ++ cs ∧ cs.map Computation.offset = i.offset.toList := by
  have hnone : s'.queue = s.queue → i.offset = none →
      ∃ cs, s'.queue = s.queue ++ cs ∧ cs.map Computation.offset = i.offset.toList := by
    intro hqueue hoffset
    exact ⟨[], by rw [hqueue, List.append_nil], by rw [hoffset]; rfl⟩
  cases i with
  | initiateBridge acc args => exact ⟨_, (initiateBridge_ok h).1.queue, rfl⟩
  | initiateBridgeSol acc args => exact ⟨_, (initiateBridgeSol_ok h).1.queue, rfl⟩
  | claimBridge acc offset requestId solverX25519 =>
      obtain ⟨cfg, req, deadline, _, _, _, _, _, _, _, _, _, _, hqueue, _⟩ := claimBridge_ok h
      exact ⟨_, hqueue, rfl⟩
  | releaseExpiredClaim acc requestId =>
      obtain ⟨cfg, req, slash, refund, _, _, _, _, _, _, _, _, _, _, _, _, _, hqueue, _⟩ :=
        releaseExpiredClaim_ok h
      exact hnone hqueue rfl
  | verifyAndSettleSpl acc requestId destTxHash evidenceHash evidenceUrl =>
      obtain ⟨cfg, req, payout, s₁, _, _, _, _, _, _, _, _, _, _, _, _, _, _, _, _, hqueue⟩ :=
        verifyAndSettleSpl_ok h
      exact hnone hqueue rfl
  | deliverTokens acc amount => exact hnone (queue_deliverTokens h) rfl
  | deliverTokensSol acc amount => exact hnone (queue_deliverTokensSol h) rfl
  | initConfig payer args =>
      obtain ⟨_, _, h⟩ := bind_ok h
      obtain ⟨_, _, h⟩ := bind_ok h
      cases h
      exact hnone rfl rfl
  | setConfig authority c =>
      obtain ⟨_, _, h⟩ := bind_ok h
      obtain ⟨_, _, h⟩ := bind_ok h
      cases h
      exact hnone rfl rfl

/-! ## What stays -/

theorem exec_log {i : Instruction} (h : exec rt i s = .ok s') : s.log <+: s'.log := by
  have hadded : ∀ {entries}, s'.log = s.log ++ entries → s.log <+: s'.log :=
    fun hlog => hlog ▸ List.prefix_append _ _
  cases i with
  | initiateBridge acc args =>
      obtain ⟨cfg, _, _, hlog⟩ := (initiateBridge_ok h).1.stored
      exact hadded hlog
  | initiateBridgeSol acc args =>
      obtain ⟨cfg, _, _, hlog⟩ := (initiateBridgeSol_ok h).1.stored
      exact hadded hlog
  | claimBridge acc offset requestId solverX25519 =>
      obtain ⟨cfg, req, deadline, _, _, _, _, _, _, _, hlog, _⟩ := claimBridge_ok h
      exact hadded hlog
  | releaseExpiredClaim acc requestId =>
      obtain ⟨cfg, req, slash, refund, _, _, _, _, _, _, _, _, _, _, hlog, _⟩ :=
        releaseExpiredClaim_ok h
      exact hadded hlog
  | verifyAndSettleSpl acc requestId destTxHash evidenceHash evidenceUrl =>
      obtain ⟨cfg, req, payout, s₁, _, _, _, _, _, _, _, _, _, _, _, _, _, hlog, _⟩ :=
        verifyAndSettleSpl_ok h
      exact hadded hlog
  | deliverTokens acc amount => exact hadded (log_deliverTokens h)
  | deliverTokensSol acc amount => exact hadded (log_deliverTokensSol h)
  | initConfig payer args =>
      obtain ⟨_, hlog⟩ := (initConfig_ok h).1.log
      exact hadded hlog
  | setConfig authority c =>
      obtain ⟨_, hlog⟩ := (setConfig_ok h).1.log
      exact hadded hlog

/-- The chain goes on: what was deposited, queued and noted stays. -/
structure State.Onward (s s' : State) : Prop where
  deposit : ∀ addr req, s.requests.lookup addr = some req →
    ∃ req', s'.requests.lookup addr = some req' ∧ req.SameDeposit req'
  queue : s.queue <+: s'.queue
  log : s.log <+: s'.log

theorem State.Onward.refl (s : State) : s.Onward s where
  deposit _ req h := ⟨req, h, .refl req⟩
  queue := List.prefix_rfl
  log := List.prefix_rfl

theorem State.Onward.trans (h : s.Onward s₁) (h' : s₁.Onward s₂) : s.Onward s₂ where
  deposit addr req hl := by
    obtain ⟨req₁, hl₁, hsame⟩ := h.deposit addr req hl
    obtain ⟨req₂, hl₂, hsame'⟩ := h'.deposit addr req₁ hl₁
    exact ⟨req₂, hl₂, hsame.trans hsame'⟩
  queue := h.queue.trans h'.queue
  log := h.log.trans h'.log

theorem onward_exec {i : Instruction} (h : exec rt i s = .ok s') : s.Onward s' where
  deposit addr req hl := by
    obtain ⟨req', hl', hchange⟩ := exec_change h hl
    exact ⟨req', hl', hchange.sameDeposit⟩
  queue := by
    obtain ⟨cs, hqueue, _⟩ := exec_queue h
    exact hqueue ▸ List.prefix_append _ _
  log := exec_log h

theorem Run.onward {ok : Instruction → State → Prop} (hrun : Run rt ok s s') : s.Onward s' := by
  induction hrun with
  | nil => exact .refl _
  | exec _ i _ succeeds ih => exact ih.trans (onward_exec succeeds)
  | outside _ move ih =>
      refine ih.trans ⟨fun addr req hl => ⟨req, ?_, .refl req⟩, ?_, ?_⟩
      · rw [move.requests, hl]
      · exact move.queue ▸ List.prefix_rfl
      · exact move.log ▸ List.prefix_rfl

/-! ## One computation for an offset -/

/-- No two computations were queued under one offset. -/
def State.OffsetsDiffer (s : State) : Prop := (s.queue.map Computation.offset).Nodup

theorem offsetsDiffer_exec {i : Instruction} (hs : s.OffsetsDiffer) (hfree : offsetFree i s)
    (h : exec rt i s = .ok s') : s'.OffsetsDiffer := by
  obtain ⟨cs, hqueue, hoffset⟩ := exec_queue h
  unfold State.OffsetsDiffer
  rw [hqueue, List.map_append, hoffset]
  cases hi : i.offset with
  | none =>
      rw [Option.toList_none, List.append_nil]
      exact hs
  | some offset =>
      refine List.nodup_append.mpr ⟨hs, List.nodup_singleton offset, ?_⟩
      rintro a ha b hb rfl
      obtain rfl := List.mem_singleton.mp hb
      exact hfree a hi ha

theorem Run.offsetsDiffer (hs : s.OffsetsDiffer) (hrun : Run rt offsetFree s s') :
    s'.OffsetsDiffer := by
  induction hrun with
  | nil => exact hs
  | exec _ i hfree succeeds ih => exact offsetsDiffer_exec ih hfree succeeds
  | outside _ move ih =>
      unfold State.OffsetsDiffer
      rw [move.queue]
      exact ih

theorem State.OffsetsDiffer.unique (hs : s.OffsetsDiffer) {c c' : Computation}
    (h : c ∈ s.queue) (h' : c' ∈ s.queue) (hoffset : c.offset = c'.offset) : c = c' :=
  List.inj_on_of_nodup_map hs h h' hoffset

end LunarysBridge.Solana
