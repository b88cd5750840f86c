/-
LunarysBridge.Node.EventLines — what the monitor makes of the event lines of
a log.

An event line has the marker of format 1, and after it a JSON object with the
sender and the token as strings and two integers of 64 bits in decimal. The
monitor looks at the first line with the marker only, and its numbers are
doubles. It emits the events of a log, each once and as printed, if there is
at most one, on the first line, and both numbers have 53 significant bits
(`monitor_lossless_iff`).
-/
import LunarysBridge.Lib.Rounding
import LunarysBridge.Node.Monitor

namespace LunarysBridge.Node.Monitor

open Relayer (trim)
open SolToEvm (SolBridgeRequest)
open Solana (Pubkey)

/-! ## Event lines -/

/-- An integer of 64 bits, printed in decimal. -/
def decimal (literal : String) : Option Nat :=
  if literal ≠ "" ∧ literal.toList.all Char.isDigit then
    let n := Nat.ofDigitChars 10 literal.toList 0
    if n < 2 ^ 64 then some n else none
  else none

def integerField (data : Json.Value) (name : String) : Option Nat :=
  match property data name with
  | some (some (.num literal)) => decimal literal
  | _ => none

def stringField (data : Json.Value) (name : String) : Option String :=
  match property data name with
  | some (some (.str s)) => some s
  | _ => none

/-- The event that is printed in the object. -/
def printed (data : Json.Value) : Option SolBridgeRequest := do
  let requestId ← integerField data "request_id"
  let payer ← stringField data "sender"
  let mint ← stringField data "token"
  let amountAfterFee ← integerField data "amount_after_fee"
  some { requestId, payer, mint, amountAfterFee }

/-- The text after the marker, where there is one marker. -/
def afterMarker (line : String) : Option (List Char) :=
  (breakOn marker1.toList line.toList).bind fun parts =>
    if breakOn marker1.toList parts.2 = none then some parts.2 else none

/-- The event of a line in the declared format. -/
def declared (line : String) : Option SolBridgeRequest := do
  let text := trim (← afterMarker line)
  if text.head? = some '\x7b' then printed (← Json.parse text) else none

/-! ## How it is read -/

/-- The number of an integer is the nearest double. -/
def Numbers.Doubles (js : Numbers) : Prop :=
  ∀ literal n, decimal literal = some n → js.toBigInt literal = some (Rounding.round 53 n : Nat)

/-- The event with the two numbers as doubles. -/
def rounded (ev : SolBridgeRequest) : SolBridgeRequest :=
  { ev with
    requestId := (Rounding.round 53 ev.requestId.toNat : Nat)
    amountAfterFee := (Rounding.round 53 ev.amountAfterFee.toNat : Nat) }

/-- Doubles hold the numbers of the event. -/
def HasDoubles (ev : SolBridgeRequest) : Prop :=
  Rounding.Exact 53 ev.requestId.toNat ∧ Rounding.Exact 53 ev.amountAfterFee.toNat

variable {js : Numbers} {line : String} {data : Json.Value} {ev : SolBridgeRequest}

theorem bigIntOf_integerField (hjs : js.Doubles) {name : String} (other : String) {n : Nat}
    (h : integerField data name = some n) :
    (propertyOr data name other).bind (bigIntOf? js) = some (Rounding.round 53 n : Nat) := by
  unfold integerField at h
  split at h
  · next literal hfield =>
    simp only [propertyOr, hfield]
    exact hjs literal n h
  · cases h

theorem stringOf_stringField (js : Numbers) {name s : String} (other : String)
    (h : stringField data name = some s) :
    (propertyOr data name other).bind (stringOf? js) = some s := by
  unfold stringField at h
  split at h
  · next s' hfield =>
    cases h
    simp only [propertyOr, hfield]
    rfl
  · cases h

theorem readEvent_printed (hjs : js.Doubles) (h : printed data = some ev) :
    readEvent js data = some (rounded ev) := by
  simp only [printed, Option.bind_eq_bind, Option.bind_eq_some_iff] at h
  obtain ⟨requestId, hid, payer, hpayer, mint, hmint, amount, hamount, h⟩ := h
  cases h
  have hid' := bigIntOf_integerField hjs "requestId" hid
  have hpayer' := stringOf_stringField js "payer" hpayer
  have hmint' := stringOf_stringField js "mint" hmint
  have hamount' := bigIntOf_integerField hjs "amountAfterFee" hamount
  obtain ⟨_, hread₁, hread₁'⟩ := Option.bind_eq_some_iff.mp hid'
  obtain ⟨_, hread₂, hread₂'⟩ := Option.bind_eq_some_iff.mp hpayer'
  obtain ⟨_, hread₃, hread₃'⟩ := Option.bind_eq_some_iff.mp hmint'
  obtain ⟨_, hread₄, hread₄'⟩ := Option.bind_eq_some_iff.mp hamount'
  simp only [readEvent, hread₁, hread₁', hread₂, hread₂', hread₃, hread₃', hread₄, hread₄',
    Option.bind_eq_bind, Option.bind_some, rounded, Int.toNat_natCast]

/-- The text of the object, and the marker before it. -/
theorem declared_cases (h : declared line = some ev) : ∃ before after data,
    breakOn marker1.toList line.toList = some (before, after) ∧
      breakOn marker1.toList after = none ∧ (trim after).head? = some '\x7b' ∧
      Json.parse (trim after) = some data ∧ printed data = some ev := by
  simp only [declared, Option.bind_eq_bind, Option.bind_eq_some_iff] at h
  obtain ⟨after, hafter, h⟩ := h
  split at h
  · next hbrace =>
    obtain ⟨data, hparse, hprinted⟩ := Option.bind_eq_some_iff.mp h
    obtain ⟨parts, hbreak, hafter⟩ := Option.bind_eq_some_iff.mp hafter
    split at hafter
    · next honce =>
      cases hafter
      exact ⟨parts.1, parts.2, data, hbreak, honce, hbrace, hparse, hprinted⟩
    · cases hafter
  · cases h

theorem includes_declared (h : declared line = some ev) : includes marker1 line = true := by
  obtain ⟨before, after, _, hbreak, -⟩ := declared_cases h
  rw [includes, hbreak]
  rfl

/-- An event line is read, its numbers as doubles. -/
theorem format1_declared (hjs : js.Doubles) (h : declared line = some ev) :
    format1 js line = some (rounded ev) := by
  obtain ⟨before, after, data, hbreak, honce, hbrace, hparse, hprinted⟩ := declared_cases h
  have hsplit : splitSecond marker1 line = some after := by
    simp only [splitSecond, hbreak, Option.map_some, honce]
  simp only [format1, hsplit, Option.bind_eq_bind, Option.bind_some, hbrace, if_true, hparse]
  exact readEvent_printed hjs hprinted

theorem nonneg_of_declared (h : declared line = some ev) :
    0 ≤ ev.requestId ∧ 0 ≤ ev.amountAfterFee := by
  obtain ⟨_, _, data, -, -, -, -, hprinted⟩ := declared_cases h
  simp only [printed, Option.bind_eq_bind, Option.bind_eq_some_iff] at hprinted
  obtain ⟨requestId, -, _, -, _, -, amount, -, hev⟩ := hprinted
  cases hev
  exact ⟨Int.natCast_nonneg _, Int.natCast_nonneg _⟩

theorem rounded_eq_iff (h : declared line = some ev) : rounded ev = ev ↔ HasDoubles ev := by
  obtain ⟨hid, hamount⟩ := nonneg_of_declared h
  have hround : ∀ {x : Int}, 0 ≤ x →
      ((Rounding.round 53 x.toNat : Nat) = x ↔ Rounding.Exact 53 x.toNat) := by
    intro x hx
    rw [← Rounding.round_eq_iff]
    omega
  rw [HasDoubles, ← hround hid, ← hround hamount]
  constructor
  · intro heq
    exact ⟨congrArg SolBridgeRequest.requestId heq, congrArg SolBridgeRequest.amountAfterFee heq⟩
  · intro hboth
    unfold rounded
    rw [hboth.1, hboth.2]

/-! ## A whole log -/

/-- The events of a log, in order. -/
def events (logs : List String) : List SolBridgeRequest := logs.filterMap declared

/-- What the monitor emits for a successful transaction. -/
def emitted (js : Numbers) (logs : List String) : List SolBridgeRequest :=
  (onLogs js logs false).toList

def firstLine (marker : String) (logs : List String) : Option String :=
  logs.find? (includes marker)

/-- The first line with the marker is an event line, with the only event of
the log, and doubles hold its numbers. -/
def Single (logs : List String) : Prop :=
  ∃ l ev, firstLine marker1 logs = some l ∧ declared l = some ev ∧ events logs = [ev] ∧
    HasDoubles ev

/-- A line that is no event line is read as this event: the first one of
format 1, or else of format 2. -/
def Stray (js : Numbers) (logs : List String) (ev : SolBridgeRequest) : Prop :=
  (∃ l, firstLine marker1 logs = some l ∧ format1 js l = some ev) ∨
    (∀ l, firstLine marker1 logs = some l → format1 js l = none) ∧
      ∃ l, firstLine marker2 logs = some l ∧ format2 js l = some ev

/-- The first line with the marker, if any, is no event line, and what is
read in its place is the only event, or nothing where there is none. -/
def Repeated (js : Numbers) (logs : List String) : Prop :=
  (∀ l, firstLine marker1 logs = some l → declared l = none) ∧
    (events logs = [] ∧ (∀ ev, ¬ Stray js logs ev) ∨ ∃ ev, events logs = [ev] ∧ Stray js logs ev)

/-- Whatever has a marker is an event line. -/
def Undisturbed (logs : List String) : Prop :=
  ∀ l ∈ logs, includes marker1 l = true ∨ includes marker2 l = true → ∃ ev, declared l = some ev

variable {logs : List String}

theorem onLogs_eq_some_iff : onLogs js logs false = some ev ↔ Stray js logs ev := by
  simp only [onLogs, tryParseBridgeInitiated, Bool.false_eq_true, if_false, Option.or_eq_some_iff,
    Option.bind_eq_some_iff, Option.bind_eq_none_iff, Stray, firstLine]

theorem emitted_eq_iff {l : List SolBridgeRequest} : emitted js logs = l ↔
    (l = [] ∧ ∀ ev, ¬ Stray js logs ev) ∨ ∃ ev, l = [ev] ∧ Stray js logs ev := by
  simp only [← onLogs_eq_some_iff, emitted]
  cases onLogs js logs false with
  | none => simp [eq_comm]
  | some ev => simp [eq_comm]

theorem emitted_declared (hjs : js.Doubles) (hfirst : firstLine marker1 logs = some line)
    (h : declared line = some ev) : emitted js logs = [rounded ev] :=
  emitted_eq_iff.mpr (.inr ⟨_, rfl, .inl ⟨line, hfirst, format1_declared hjs h⟩⟩)

theorem firstLine_declared (h : declared line = some ev) (logs : List String) :
    firstLine marker1 (line :: logs) = some line :=
  List.find?_cons_of_pos (includes_declared h)

theorem mem_events (hfirst : firstLine marker1 logs = some line) (h : declared line = some ev) :
    ev ∈ events logs :=
  List.mem_filterMap.mpr ⟨line, List.mem_of_find?_eq_some hfirst, h⟩

/-- Where the first line with the marker is an event line. -/
theorem lossless_first (hjs : js.Doubles) (hfirst : firstLine marker1 logs = some line)
    (h : declared line = some ev) :
    emitted js logs = events logs ↔ events logs = [ev] ∧ HasDoubles ev := by
  rw [emitted_declared hjs hfirst h, ← rounded_eq_iff h]
  constructor
  · intro heq
    have hmem := mem_events hfirst h
    rw [← heq] at hmem
    have hsame : ev = rounded ev := List.mem_singleton.mp hmem
    exact ⟨by rw [← heq, ← hsame], hsame.symm⟩
  · intro hspec
    rw [hspec.1, hspec.2]

theorem lossless_iff (hjs : js.Doubles) :
    emitted js logs = events logs ↔ Single logs ∨ Repeated js logs := by
  by_cases hevent : ∃ l ev, firstLine marker1 logs = some l ∧ declared l = some ev
  · obtain ⟨l, ev, hfirst, hdeclared⟩ := hevent
    rw [lossless_first hjs hfirst hdeclared]
    constructor
    · intro hspec
      exact .inl ⟨l, ev, hfirst, hdeclared, hspec⟩
    · intro hcases
      rcases hcases with ⟨l', ev', hfirst', hdeclared', hspec⟩ | ⟨hnone, -⟩
      · obtain rfl : l = l' := Option.some.inj (hfirst.symm.trans hfirst')
        obtain rfl : ev = ev' := Option.some.inj (hdeclared.symm.trans hdeclared')
        exact hspec
      · rw [hnone l hfirst] at hdeclared
        cases hdeclared
  · have hnone : ∀ l, firstLine marker1 logs = some l → declared l = none := by
      intro l hfirst
      cases hdeclared : declared l with
      | none => rfl
      | some ev => exact absurd ⟨l, ev, hfirst, hdeclared⟩ hevent
    have hsingle : ¬ Single logs := by
      rintro ⟨l, ev, hfirst, hdeclared, -⟩
      exact hevent ⟨l, ev, hfirst, hdeclared⟩
    rw [emitted_eq_iff]
    simp only [hsingle, Repeated, false_or, and_iff_right hnone]

theorem undisturbed_iff (hjs : js.Doubles) (h : Undisturbed logs) :
    emitted js logs = events logs ↔
      (events logs).length ≤ 1 ∧ ∀ ev ∈ events logs, HasDoubles ev := by
  cases hfirst : firstLine marker1 logs with
  | none =>
      have hno : ∀ l ∈ logs, ¬ includes marker1 l = true := List.find?_eq_none.mp hfirst
      have hevents : events logs = [] := by
        refine List.filterMap_eq_nil_iff.mpr fun l hl => ?_
        cases hdeclared : declared l with
        | none => rfl
        | some ev => exact absurd (includes_declared hdeclared) (hno l hl)
      have hsecond : firstLine marker2 logs = none := by
        refine List.find?_eq_none.mpr fun l hl hmarker => ?_
        obtain ⟨ev, hdeclared⟩ := h l hl (.inr hmarker)
        exact hno l hl (includes_declared hdeclared)
      have hstray : ∀ ev, ¬ Stray js logs ev := by
        intro ev hstray
        simp [Stray, hfirst, hsecond] at hstray
      simp only [emitted_eq_iff, hevents, true_and, List.length_nil, Nat.zero_le,
        List.not_mem_nil, false_imp_iff, implies_true, iff_true]
      exact .inl hstray
  | some l =>
      obtain ⟨ev, hdeclared⟩ := h l (List.mem_of_find?_eq_some hfirst)
        (.inl (List.find?_some hfirst))
      have hmem := mem_events hfirst hdeclared
      rw [lossless_first hjs hfirst hdeclared]
      constructor
      · rintro ⟨hevents, hdoubles⟩
        rw [hevents]
        simpa using hdoubles
      · rintro ⟨hlength, hall⟩
        refine ⟨?_, hall ev hmem⟩
        obtain ⟨ev', hone⟩ := List.length_eq_one_iff.mp
          (Nat.le_antisymm hlength (List.length_pos_of_mem hmem))
        rw [hone] at hmem ⊢
        rw [List.mem_singleton.mp hmem]

/-- **Nothing is lost** of the events of a log whose lines with a marker are
event lines exactly if there is one at most, and doubles hold it. In any log
nothing is lost exactly if it has one event, on the first line with the
marker, that doubles hold, or if what is read in place of events is just
these. -/
theorem monitor_lossless_iff {js : Numbers} (hjs : js.Doubles) (logs : List String) :
    (Undisturbed logs → (emitted js logs = events logs ↔
      (events logs).length ≤ 1 ∧ ∀ ev ∈ events logs, HasDoubles ev)) ∧
    (emitted js logs = events logs ↔ Single logs ∨ Repeated js logs) :=
  ⟨undisturbed_iff hjs, lossless_iff hjs⟩

namespace Sample

/-- Integers as doubles. -/
def doubles : Numbers where
  toBigInt literal := (decimal literal).map fun n => (Rounding.round 53 n : Nat)
  toString := id

theorem doubles_doubles : doubles.Doubles := by
  intro literal n h
  simp [doubles, h]

/-- The user and the mint of the sample deposit. -/
def base58 (key : Pubkey) : String :=
  if key = .key 2 then "11111111111111111111111111111113"
  else if key = .key 10 then "1111111111111111111111111111111B"
  else ""

/-- An event line of the sample deposit, but for its request and amount. -/
def eventLine (requestId amountAfterFee : String) : String :=
  "Program log: Event: BridgeInitiated \x7b\"request_id\":" ++ requestId ++
    ",\"sender\":\"11111111111111111111111111111113\"," ++
    "\"token\":\"1111111111111111111111111111111B\"," ++
    "\"amount_after_fee\":" ++ amountAfterFee ++ ",\"fee\":10\x7d"

def eventOf (requestId amountAfterFee : Int) : SolBridgeRequest :=
  ⟨requestId, base58 (.key 2), base58 (.key 10), amountAfterFee⟩

/-- The characters of the line, a literal at a time. -/
theorem toList_eventLine (requestId amountAfterFee : String) :
    (eventLine requestId amountAfterFee).toList =
    "Program log: Event: BridgeInitiated \x7b\"request_id\":".toList ++ requestId.toList ++
      ",\"sender\":\"11111111111111111111111111111113\",".toList ++
      "\"token\":\"1111111111111111111111111111111B\",".toList ++
      "\"amount_after_fee\":".toList ++ amountAfterFee.toList ++ ",\"fee\":10\x7d".toList := by
  have happend : ∀ a b c d e f g : String, (a ++ b ++ c ++ d ++ e ++ f ++ g).toList =
      a.toList ++ b.toList ++ c.toList ++ d.toList ++ e.toList ++ f.toList ++ g.toList := by
    intro a b c d e f g
    simp only [String.toList_append]
  exact happend _ _ _ _ _ _ _

theorem declared_samples :
    declared (eventLine "7" "990") = some (eventOf 7 990) ∧
    declared (eventLine "8" "990") = some (eventOf 8 990) ∧
    declared (eventLine "9007199254740993" "990") = some (eventOf (2 ^ 53 + 1) 990) ∧
    declared (eventLine "7" "990000000") = some (eventOf 7 990000000) := by
  refine ⟨?_, ?_, ?_, ?_⟩ <;> rw [declared, afterMarker, toList_eventLine] <;> decide +kernel

theorem events_one {line : String} {ev : SolBridgeRequest} (h : declared line = some ev) :
    events [line] = [ev] :=
  List.filterMap_cons_some h

end Sample

theorem monitor_lossless_one :
    emitted Sample.doubles [Sample.eventLine "7" "990"] = [Sample.eventOf 7 990] := by
  have hdeclared := Sample.declared_samples.1
  have hevents := Sample.events_one hdeclared
  have hundisturbed : Undisturbed [Sample.eventLine "7" "990"] := by
    intro l hl _
    rw [List.mem_singleton.mp hl]
    exact ⟨_, hdeclared⟩
  have hlossless := ((monitor_lossless_iff Sample.doubles_doubles _).1 hundisturbed).mpr (by
    rw [hevents]
    refine ⟨Nat.le_refl 1, fun ev hev => ?_⟩
    rw [List.mem_singleton.mp hev]
    exact ⟨Rounding.exact_of_lt (by decide), Rounding.exact_of_lt (by decide)⟩)
  exact hlossless.trans hevents

/-- Of an id of 54 bits the last one is lost, and of two events the second. -/
theorem events_lost : Sample.doubles.Doubles ∧
    emitted Sample.doubles [Sample.eventLine "9007199254740993" "990"] ≠
      events [Sample.eventLine "9007199254740993" "990"] ∧
    emitted Sample.doubles [Sample.eventLine "7" "990", Sample.eventLine "8" "990"] ≠
      events [Sample.eventLine "7" "990", Sample.eventLine "8" "990"] := by
  obtain ⟨h₇, h₈, hlarge, -⟩ := Sample.declared_samples
  refine ⟨Sample.doubles_doubles, ?_, ?_⟩
  · rw [emitted_declared Sample.doubles_doubles (firstLine_declared hlarge []) hlarge,
      Sample.events_one hlarge]
    decide
  · have hevents : events [Sample.eventLine "7" "990", Sample.eventLine "8" "990"] =
        [Sample.eventOf 7 990, Sample.eventOf 8 990] := by
      rw [events, List.filterMap_cons_some h₇, List.filterMap_cons_some h₈, List.filterMap_nil]
    rw [emitted_declared Sample.doubles_doubles (firstLine_declared h₇ _) h₇, hevents]
    intro heq
    have hlength := congrArg List.length heq
    simp at hlength

end LunarysBridge.Node.Monitor
