/-
LunarysBridge.Node.Authenticity — whether what the node pays on the EVM side
is what the bridge stored.

The lines with a marker are all printed by other programs. What the node
makes of a transaction is authentic if such a line can only repeat an event
the bridge emitted in it: where the first one is an event line, exactly then
(`monitor_authentic`).
-/
import LunarysBridge.Node.EventLines
import LunarysBridge.Solana.Initiated
import LunarysBridge.Solana.Resolution

namespace LunarysBridge.Node.Monitor

open Relayer (trim)
open SolToEvm (Env EvmPayment SolBridgeRequest Sends paymentOf)
open Solana (Event Pubkey Reachable)

variable {programId : Pubkey}

/-! ## What is paid -/

/-- The payment is for what the account of the request holds. -/
def PaysStored (env : Env) (base58 : Pubkey → String) (s : Solana.State)
    (ev : SolBridgeRequest) (p : EvmPayment) : Prop :=
  ∃ owner req evmDest, env.publicKey ev.payer = .ok owner ∧
    s.requests.lookup (.request owner (UInt64.ofNat ev.requestId.toNat)) = some req ∧
    p = paymentOf env (base58 req.tokenMint) req.amountLocked.toNat evmDest

/-- What the node makes of a transaction that the chain has at state `s`: its
event is one of the bridge, and what is paid for it, now or later, is what the
request holds. -/
def Authentic (rt : Solana.Runtime) (js : Numbers) (env : Env) (base58 : Pubkey → String)
    (s : Solana.State) (tx : SolTransaction programId) : Prop :=
  ∀ ev, onLogs js tx.logs false = some ev →
    tx.Emitted base58 ev ∧
    ∀ s', Solana.Run rt (fun _ _ => True) s s' → ∀ p, Sends env ev p →
      PaysStored env base58 s' ev p

/-- An event of the bridge is paid as its request is stored. -/
theorem paysStored_of_emitted {rt : Solana.Runtime} {env : Env} {base58 : Pubkey → String}
    {s s' : Solana.State} {tx : SolTransaction programId} {ev : SolBridgeRequest} {p : EvmPayment}
    (hreach : Reachable rt s) (hlogged : ∀ e ∈ tx.emitted, .emit e ∈ s.log)
    (hkeys : ∀ requestId sender token amountAfterFee fee ts,
      .BridgeInitiated requestId sender token amountAfterFee fee ts ∈ tx.emitted →
        env.publicKey (base58 sender) = .ok sender)
    (hev : tx.Emitted base58 ev) (hrun : Solana.Run rt (fun _ _ => True) s s')
    (hsends : Sends env ev p) : PaysStored env base58 s' ev p := by
  obtain ⟨_, hmem, requestId, sender, token, amountAfterFee, fee, ts, rfl, rfl⟩ := hev
  obtain ⟨req, hl, htoken, hamount⟩ := hreach.announced _ _ _ _ _ _ (hlogged _ hmem)
  obtain ⟨req', hl', hkept⟩ := hreach.kept hrun hl
  obtain ⟨-, evmDest, -, rfl⟩ := SolToEvm.sends_iff.mp hsends
  refine ⟨sender, req', evmDest, hkeys _ _ _ _ _ _ hmem, ?_, ?_⟩
  · have hid : UInt64.ofNat (requestId.toNat : Int).toNat = requestId := by
      rw [Int.toNat_natCast, UInt64.ofNat_toNat]
    rw [hid]
    exact hl'
  · rw [hkept.deposit.tokenMint, hkept.deposit.amountLocked, htoken, hamount]

/-! ## Lines that say nothing -/

/-- No part of the line is a JSON object. -/
def Blank (line : String) : Prop :=
  ∀ part fields, part <:+: line.toList → Json.parse part ≠ some (.obj fields)

section Text

theorem breakOn_eq_append {sep : List Char} : ∀ {s before after : List Char},
    breakOn sep s = some (before, after) → s = before ++ sep ++ after
  | [], before, after, h => by
      simp only [breakOn] at h
      split at h
      · next hsep =>
        cases h
        simp [hsep]
      · cases h
  | c :: cs, before, after, h => by
      simp only [breakOn] at h
      split at h
      · next hprefix =>
        cases h
        obtain ⟨rest, hrest⟩ := List.isPrefixOf_iff_prefix.mp hprefix
        rw [← hrest]
        simp
      · obtain ⟨⟨before', after'⟩, hbreak, heq⟩ := Option.map_eq_some_iff.mp h
        cases heq
        rw [breakOn_eq_append hbreak]
        rfl

theorem isInfix_splitSecond {sep line : String} {part : List Char}
    (h : splitSecond sep line = some part) : part <:+: line.toList := by
  obtain ⟨⟨before, after⟩, hbreak, hpart⟩ := Option.map_eq_some_iff.mp h
  have hafter : after <:+: line.toList := by
    rw [breakOn_eq_append hbreak]
    exact (List.suffix_append _ _).isInfix
  dsimp only at hpart
  split at hpart
  · next before' after' hbreak' =>
    cases hpart
    refine List.IsInfix.trans ?_ hafter
    rw [breakOn_eq_append hbreak', List.append_assoc]
    exact (List.prefix_append _ _).isInfix
  · cases hpart
    exact hafter

theorem isInfix_trim (s : List Char) : trim s <:+: s := by
  have hright : ∀ s : List Char, (s.reverse.dropWhile Relayer.isSpace).reverse <+: s := by
    intro s
    have hsuffix := List.dropWhile_suffix (l := s.reverse) Relayer.isSpace
    simpa using List.reverse_prefix.mpr hsuffix
  exact (hright _).isInfix.trans (List.dropWhile_suffix _).isInfix

theorem isInfix_fromBrace (s : List Char) : fromBrace s <:+: s := by
  unfold fromBrace
  split
  · exact (List.dropWhile_suffix _).isInfix
  · exact (List.drop_suffix _ _).isInfix

end Text

variable {js : Numbers} {line : String} {ev : SolBridgeRequest}

/-- Only an object is read as an event. -/
theorem readEvent_obj {data : Json.Value} (h : readEvent js data = some ev) :
    ∃ fields, data = .obj fields := by
  cases data with
  | obj fields => exact ⟨fields, rfl⟩
  | _ => simp [readEvent, propertyOr, property, bigIntOf?] at h

theorem format1_blank (h : Blank line) : format1 js line = none := by
  refine Option.eq_none_iff_forall_ne_some.mpr fun ev hread => ?_
  simp only [format1, Option.bind_eq_bind, Option.bind_eq_some_iff] at hread
  obtain ⟨part, hpart, data, hparse, hevent⟩ := hread
  obtain ⟨fields, rfl⟩ := readEvent_obj hevent
  have htrimmed := (isInfix_trim part).trans (isInfix_splitSecond hpart)
  split at hparse
  · exact h _ _ htrimmed hparse
  · exact h _ _ ((isInfix_fromBrace _).trans htrimmed) hparse

theorem format2_blank (h : Blank line) : format2 js line = none := by
  refine Option.eq_none_iff_forall_ne_some.mpr fun ev hread => ?_
  simp only [format2, Option.bind_eq_bind, Option.bind_eq_some_iff] at hread
  obtain ⟨part, hpart, data, hparse, hevent⟩ := hread
  obtain ⟨fields, rfl⟩ := readEvent_obj hevent
  exact h _ _ ((isInfix_trim part).trans (isInfix_splitSecond hpart)) hparse

theorem not_blank_of_declared (h : declared line = some ev) : ¬ Blank line := by
  intro hblank
  obtain ⟨before, after, data, hbreak, -, -, hparse, hprinted⟩ := declared_cases h
  have hafter : after <:+: line.toList := by
    rw [breakOn_eq_append hbreak]
    exact (List.suffix_append _ _).isInfix
  cases data with
  | obj fields => exact hblank _ fields ((isInfix_trim after).trans hafter) hparse
  | _ => simp [printed, integerField, property] at hprinted

/-! ## Logs -/

/-- The first line with the marker of format 1 is an event line or says
nothing; where it says nothing, so does the first one with that of format 2. -/
structure Regular (logs : List String) : Prop where
  first : ∀ l, firstLine marker1 logs = some l → Blank l ∨ ∃ ev, declared l = some ev
  second : (∀ l, firstLine marker1 logs = some l → Blank l) →
    ∀ l, firstLine marker2 logs = some l → Blank l

/-- The line is another program's, and the first of the log with the marker. -/
def SolTransaction.Foreign (tx : SolTransaction programId) (marker : String) (l : LogLine) :
    Prop :=
  l.program ≠ programId ∧ tx.lines.find? (fun l => includes marker l.text) = some l

/-- No program forges an event: the first event line, which another program
printed, repeats an event the bridge emitted in the transaction, its numbers
as doubles. -/
structure SolTransaction.Unforged (tx : SolTransaction programId) (base58 : Pubkey → String) :
    Prop where
  regular : Regular tx.logs
  repeats : ∀ l ev, tx.Foreign marker1 l → declared l.text = some ev →
    tx.Emitted base58 (rounded ev)

variable {logs : List String}

theorem regular_of_undisturbed (h : Undisturbed logs) : Regular logs where
  first l hfirst :=
    .inr (h l (List.mem_of_find?_eq_some hfirst) (.inl (List.find?_some hfirst)))
  second hblank l hsecond := by
    have hl := List.mem_of_find?_eq_some hsecond
    obtain ⟨ev, hdeclared⟩ := h l hl (.inr (List.find?_some hsecond))
    -- so there is a line with the first marker, and that is an event line
    cases hfirst : firstLine marker1 logs with
    | none => exact absurd (includes_declared hdeclared) (List.find?_eq_none.mp hfirst l hl)
    | some l₁ =>
        obtain ⟨ev₁, hdeclared₁⟩ := h l₁ (List.mem_of_find?_eq_some hfirst)
          (.inl (List.find?_some hfirst))
        exact absurd (hblank l₁ hfirst) (not_blank_of_declared hdeclared₁)

/-- In such a log it is the first event line that is read. -/
theorem Regular.onLogs (h : Regular logs) (hjs : js.Doubles) :
    onLogs js logs false = some ev ↔
      ∃ l ev₀, firstLine marker1 logs = some l ∧ declared l = some ev₀ ∧ ev = rounded ev₀ := by
  rw [onLogs_eq_some_iff]
  constructor
  · intro hstray
    rcases hstray with ⟨l, hfirst, hread⟩ | ⟨hnone, l, hsecond, hread⟩
    · rcases h.first l hfirst with hblank | ⟨ev₀, hdeclared⟩
      · rw [format1_blank hblank] at hread
        cases hread
      · rw [format1_declared hjs hdeclared] at hread
        exact ⟨l, ev₀, hfirst, hdeclared, (Option.some.inj hread).symm⟩
    · have hblank : ∀ l, firstLine marker1 logs = some l → Blank l := by
        intro l hfirst
        rcases h.first l hfirst with hblank | ⟨ev₀, hdeclared⟩
        · exact hblank
        · have hnone := hnone l hfirst
          rw [format1_declared hjs hdeclared] at hnone
          cases hnone
      rw [format2_blank (h.second hblank l hsecond)] at hread
      cases hread
  · rintro ⟨l, ev₀, hfirst, hdeclared, rfl⟩
    exact .inl ⟨l, hfirst, format1_declared hjs hdeclared⟩

section Unforged

variable {tx : SolTransaction programId} {base58 : Pubkey → String}

/-- The first line with the marker is another program's. -/
theorem firstLine_logs : firstLine marker1 tx.logs = some line ↔
    ∃ l, tx.Foreign marker1 l ∧ l.text = line := by
  rw [firstLine, SolTransaction.logs, List.find?_map, Option.map_eq_some_iff]
  constructor
  · rintro ⟨l, hfind, rfl⟩
    refine ⟨l, ⟨fun hprogram => ?_, hfind⟩, rfl⟩
    have hno := (tx.own l (List.mem_of_find?_eq_some hfind) hprogram).1
    exact absurd ((List.find?_some hfind).symm.trans hno) (by decide)
  · rintro ⟨l, hforeign, rfl⟩
    exact ⟨l, hforeign.2, rfl⟩

theorem unforged_iff (hjs : js.Doubles) (h : Regular tx.logs) :
    tx.Unforged base58 ↔ ∀ ev, onLogs js tx.logs false = some ev → tx.Emitted base58 ev := by
  constructor
  · intro hunforged ev hev
    obtain ⟨line, ev₀, hfirst, hdeclared, rfl⟩ := (h.onLogs hjs).mp hev
    obtain ⟨l, hforeign, rfl⟩ := firstLine_logs.mp hfirst
    exact hunforged.repeats l ev₀ hforeign hdeclared
  · intro hall
    refine ⟨h, fun l ev₀ hforeign hdeclared => hall _ ((h.onLogs hjs).mpr ?_)⟩
    exact ⟨l.text, ev₀, firstLine_logs.mpr ⟨l, hforeign, rfl⟩, hdeclared, rfl⟩

end Unforged

/-- **Authenticity.** The event the monitor makes of a transaction is the
bridge's, and paid as its request is stored, if no other program forges one;
exactly then, where the first line with a marker is an event line or says
nothing, and so where whatever has a marker is an event line. -/
theorem monitor_authentic {rt : Solana.Runtime} {js : Numbers} {env : Env}
    {base58 : Pubkey → String} {s : Solana.State} {tx : SolTransaction programId}
    (hjs : js.Doubles) (hreach : Reachable rt s) (hlogged : ∀ e ∈ tx.emitted, .emit e ∈ s.log)
    (hkeys : ∀ requestId sender token amountAfterFee fee ts,
      .BridgeInitiated requestId sender token amountAfterFee fee ts ∈ tx.emitted →
        env.publicKey (base58 sender) = .ok sender) :
    (tx.Unforged base58 → Authentic rt js env base58 s tx) ∧
    (Regular tx.logs → (Authentic rt js env base58 s tx ↔ tx.Unforged base58)) ∧
    (Undisturbed tx.logs → (Authentic rt js env base58 s tx ↔ tx.Unforged base58)) := by
  have hiff : Regular tx.logs → (Authentic rt js env base58 s tx ↔ tx.Unforged base58) := by
    intro hregular
    rw [unforged_iff hjs hregular]
    constructor
    · intro hauth ev hev
      exact (hauth ev hev).1
    · intro hemitted ev hev
      refine ⟨hemitted ev hev, fun s' hrun p hsends => ?_⟩
      exact paysStored_of_emitted hreach hlogged hkeys (hemitted ev hev) hrun hsends
  exact ⟨fun hunforged => (hiff hunforged.regular).mpr hunforged, hiff,
    fun hundisturbed => hiff (regular_of_undisturbed hundisturbed)⟩

namespace Sample

def node : Env where
  __ := SolToEvm.Sample.node
  publicKey s := if s = base58 (.key 2) then .ok (.key 2) else
    .error ⟨.Error, "Invalid public key input"⟩

/-- The event of the sample deposit, on chain. -/
def deposited : Event :=
  .BridgeInitiated 7 Solana.Sample.user.key Solana.Sample.mint 990 10 100

/-- An event line of this amount that another program prints. -/
def imitation (amountAfterFee : String) : LogLine where
  program := .key 99
  text := eventLine "7" amountAfterFee

/-- The transaction of the deposit, with an imitation of its event. -/
def depositWith (amountAfterFee : String) : SolTransaction (.key 90) where
  lines := [imitation amountAfterFee]
  emitted := [deposited]
  own l hl hprogram := by
    rw [List.mem_singleton.mp hl, imitation] at hprogram
    cases hprogram

theorem undisturbed_depositWith {amountAfterFee : String} {ev : SolBridgeRequest}
    (h : declared (eventLine "7" amountAfterFee) = some ev) :
    Undisturbed (depositWith amountAfterFee).logs := by
  intro line hline _
  rw [List.mem_singleton.mp hline]
  exact ⟨ev, h⟩

theorem publicKey_user : node.publicKey (base58 (.key 2)) = .ok (.key 2) := by
  simp [node]

theorem deposited_logged :
    (∀ e ∈ [deposited], .emit e ∈ Solana.Sample.afterDeposit.log) ∧
    ∀ requestId sender token amountAfterFee fee ts,
      .BridgeInitiated requestId sender token amountAfterFee fee ts ∈ [deposited] →
        node.publicKey (base58 sender) = .ok sender := by
  refine ⟨?_, ?_⟩
  · intro e he
    rw [List.mem_singleton.mp he]
    decide +kernel
  · intro requestId sender token amountAfterFee fee ts he
    cases List.mem_singleton.mp he
    exact publicKey_user

end Sample

/-- Another program repeats the event of the deposit. -/
theorem monitor_authentic_repeated :
    Authentic Solana.Sample.runtime.strict Sample.doubles Sample.node Sample.base58
      Solana.Sample.afterDeposit (Sample.depositWith "990") := by
  obtain ⟨hlogged, hkeys⟩ := Sample.deposited_logged
  have hdeclared := Sample.declared_samples.1
  have hundisturbed := Sample.undisturbed_depositWith hdeclared
  refine ((monitor_authentic Sample.doubles_doubles Solana.Sample.afterDeposit_reachable hlogged
    hkeys).2.2 hundisturbed).mpr ⟨regular_of_undisturbed hundisturbed, fun l ev hl hev => ?_⟩
  obtain rfl : l = Sample.imitation "990" :=
    List.mem_singleton.mp (List.mem_of_find?_eq_some hl.2)
  cases hdeclared.symm.trans hev
  rw [(rounded_eq_iff hdeclared).mpr
    ⟨Rounding.exact_of_lt (by decide), Rounding.exact_of_lt (by decide)⟩]
  exact ⟨Sample.deposited, List.mem_singleton.mpr rfl, 7, _, _, 990, 10, 100, rfl, rfl⟩

/-- What another program prints is paid: 990 are locked, 990000000 sent. -/
theorem forged_event_paid :
    (¬ ∀ (rt : Solana.Runtime) js env base58 s programId (tx : SolTransaction programId),
      js.Doubles → Reachable rt.strict s → (∀ e ∈ tx.emitted, .emit e ∈ s.log) →
      (∀ requestId sender token amountAfterFee fee ts,
        .BridgeInitiated requestId sender token amountAfterFee fee ts ∈ tx.emitted →
          env.publicKey (base58 sender) = .ok sender) →
      Authentic rt.strict js env base58 s tx) ∧
    ∃ evmDest, Sends Sample.node (Sample.eventOf 7 990000000) (.native evmDest 990000000) := by
  have hdeclared := Sample.declared_samples.2.2.2
  have hread : onLogs Sample.doubles (Sample.depositWith "990000000").logs false =
      some (Sample.eventOf 7 990000000) := by
    have hregular := regular_of_undisturbed (Sample.undisturbed_depositWith hdeclared)
    refine (hregular.onLogs Sample.doubles_doubles).mpr
      ⟨_, _, firstLine_declared hdeclared [], hdeclared, ((rounded_eq_iff hdeclared).mpr ?_).symm⟩
    exact ⟨Rounding.exact_of_lt (by decide), Rounding.exact_of_lt (by decide)⟩
  constructor
  · intro hall
    obtain ⟨hlogged, hkeys⟩ := Sample.deposited_logged
    obtain ⟨⟨e, he, _, _, _, _, _, _, heq, hsays⟩, -⟩ :=
      hall _ Sample.doubles Sample.node Sample.base58 _ _ (Sample.depositWith "990000000")
        Sample.doubles_doubles Solana.Sample.afterDeposit_reachable hlogged hkeys _ hread
    cases (List.mem_singleton.mp he).symm.trans heq
    cases hsays
  · have hproc : SolToEvm.Processable Sample.node (Sample.eventOf 7 990000000) :=
      ⟨⟨_, Sample.publicKey_user⟩, by decide, _, rfl⟩
    have hreads : SolToEvm.Readable Sample.node _ :=
      ⟨Solana.Sample.bytes32 11, ⟨0, 0, 0, 0, 0⟩, rfl, rfl⟩
    exact ⟨_, SolToEvm.sends_iff.mpr ⟨hproc, _, hreads, rfl⟩⟩

end LunarysBridge.Node.Monitor
