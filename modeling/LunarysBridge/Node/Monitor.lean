/-
LunarysBridge.Node.Monitor — where the node's events of Solana come from.

`SolanaMonitorService` hears of every transaction that mentions the bridge
program and searches its log for a line that looks like an event. The log
holds the lines of all programs the transaction ran. The events of the bridge
are not among them in that form (`emit!` logs them in base64), so what the
monitor reads was printed by another program. `Node/EventLines.lean` and
`Node/Authenticity.lean` say what becomes of it.
-/
import LunarysBridge.Lib.Json
import LunarysBridge.Node.SolToEvm

namespace LunarysBridge.Node.Monitor

open Relayer (bigInt trim)
open SolToEvm (SolBridgeRequest)
open Solana (Event Pubkey)

/-! ## JavaScript -/

/-- What is before the first `sep`, and what is after it. -/
def breakOn (sep : List Char) : List Char → Option (List Char × List Char)
  | [] => if sep = [] then some ([], []) else none
  | c :: cs =>
      if sep.isPrefixOf (c :: cs) then some ([], (c :: cs).drop sep.length)
      else (breakOn sep cs).map fun (before, after) => (c :: before, after)

/-- `s.includes(sub)` -/
def includes (sub : String) (s : String) : Bool := (breakOn sub.toList s.toList).isSome

/-- `s.split(sep)[1]` -/
def splitSecond (sep s : String) : Option (List Char) :=
  (breakOn sep.toList s.toList).map fun (_, after) =>
    match breakOn sep.toList after with
    | some (before, _) => before
    | none => after

/-- The conversions of the number a JSON literal stands for, a double. -/
structure Numbers where
  /-- `BigInt(n)`, that throws unless `n` is whole. -/
  toBigInt : String → Option Int
  /-- `String(n)` -/
  toString : String → String

mutual

/-- `String(v)`; an object whose `toString` is no function cannot be converted. -/
def stringOf (js : Numbers) : Json.Value → Option String
  | .null => some "null"
  | .bool b => some (toString b)
  | .num literal => some (js.toString literal)
  | .str s => some s
  | .arr elems => (joined js elems).map (",".intercalate ·)
  | .obj fields => if fields.any (·.1 == "toString") then none else some "[object Object]"

/-- The elements of an array as `join` writes them. -/
def joined (js : Numbers) : List Json.Value → Option (List String)
  | [] => some []
  | .null :: elems => do some ("" :: (← joined js elems))
  | v :: elems => do some ((← stringOf js v) :: (← joined js elems))

end

/-- `String(v)`, where `v` may be undefined. -/
def stringOf? (js : Numbers) : Option Json.Value → Option String
  | none => some "undefined"
  | some v => stringOf js v

/-- `BigInt(v)`, where `v` may be undefined; `none` when it throws. -/
def bigIntOf? (js : Numbers) : Option Json.Value → Option Int
  | none => none
  | some .null => none
  | some (.bool b) => some (if b then 1 else 0)
  | some (.num literal) => js.toBigInt literal
  | some v => do (bigInt (← stringOf js v)).toOption

/-- `data.name`; `none` when it throws. Of two fields with a name the last
counts. -/
def property (data : Json.Value) (name : String) : Option (Option Json.Value) :=
  match data with
  | .null => none
  | .obj fields => some ((fields.reverse.find? (·.1 == name)).map (·.2))
  | _ => some none

/-- `data.name ?? data.other` -/
def propertyOr (data : Json.Value) (name other : String) : Option (Option Json.Value) := do
  match ← property data name with
  | none | some .null => property data other
  | some v => some (some v)

/-! ## The monitor -/

/-- The event an object stands for; `none` when a conversion throws. -/
def readEvent (js : Numbers) (data : Json.Value) : Option SolBridgeRequest := do
  let requestId ← bigIntOf? js (← propertyOr data "request_id" "requestId")
  let payer ← stringOf? js (← propertyOr data "sender" "payer")
  let mint ← stringOf? js (← propertyOr data "token" "mint")
  let amountAfterFee ← bigIntOf? js (← propertyOr data "amount_after_fee" "amountAfterFee")
  some { requestId, payer, mint, amountAfterFee }

/-- `s.slice(s.indexOf('{'))`; without a brace that is the last character. -/
def fromBrace (s : List Char) : List Char :=
  if '\x7b' ∈ s then s.dropWhile (· ≠ '\x7b') else s.drop (s.length - 1)

def marker1 : String := "Event: BridgeInitiated"

def marker2 : String := "BridgeInitiated:"

/-- Format 1, on a line that was found. -/
def format1 (js : Numbers) (line : String) : Option SolBridgeRequest := do
  let jsonPart := trim (← splitSecond marker1 line)
  let jsonStr := if jsonPart.head? = some '\x7b' then jsonPart else fromBrace jsonPart
  readEvent js (← Json.parse jsonStr)

/-- Format 2, on a line that was found. -/
def format2 (js : Numbers) (line : String) : Option SolBridgeRequest := do
  let jsonStr := trim (← splitSecond marker2 line)
  readEvent js (← Json.parse jsonStr)

def tryParseBridgeInitiated (js : Numbers) (logs : List String) : Option SolBridgeRequest :=
  ((logs.find? (includes marker1)).bind (format1 js)).or
    ((logs.find? (includes marker2)).bind (format2 js))

/-- What `start` does with a transaction: the event it emits, if any. -/
def onLogs (js : Numbers) (logs : List String) (err : Bool) : Option SolBridgeRequest :=
  if err then none else tryParseBridgeInitiated js logs

/-! ## Transactions -/

/-- A line of a log, and the program that printed it. -/
structure LogLine where
  program : Pubkey
  text : String

/-- A successful transaction that mentions the bridge program: its log, and
the events the bridge emitted in it. The bridge's own lines (its `msg!` texts,
and events in base64) have no `BridgeInitiated` in them. -/
structure SolTransaction (programId : Pubkey) where
  lines : List LogLine
  emitted : List Event
  own : ∀ l ∈ lines, l.program = programId →
    includes marker1 l.text = false ∧ includes marker2 l.text = false

variable {programId : Pubkey}

def SolTransaction.logs (tx : SolTransaction programId) : List String := tx.lines.map (·.text)

/-- The event says this, with keys in base58. -/
def Says (base58 : Pubkey → String) (e : Event) (ev : SolBridgeRequest) : Prop :=
  ∃ requestId sender token amountAfterFee fee ts,
    e = .BridgeInitiated requestId sender token amountAfterFee fee ts ∧
    ev = ⟨requestId.toNat, base58 sender, base58 token, amountAfterFee.toNat⟩

def SolTransaction.Emitted (tx : SolTransaction programId) (base58 : Pubkey → String)
    (ev : SolBridgeRequest) : Prop :=
  ∃ e ∈ tx.emitted, Says base58 e ev

end LunarysBridge.Node.Monitor
