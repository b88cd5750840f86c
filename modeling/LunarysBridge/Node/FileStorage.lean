/-
LunarysBridge.Node.FileStorage — `FileStringStorage`, a file of strings and
its copy in memory.

A call runs without a break from one `await` to the next, so what stands
between two of them is one operation here, and so is each access to the file
(it happens at one moment between its start and the return of its `await`).
The text of a write is made when the write is started (`stringify`); the
write itself comes later. `updates` and `written` are bookkeeping that the
source does not do.
-/
import LunarysBridge.Lib.Async
import Mathlib.Logic.Function.Basic

namespace LunarysBridge.Node.FileStorage

open Async

/-! ## Objects and the file -/

/-- The own properties of a `Record<string, string>`. -/
abbrev Record := String → Option String

def Record.empty : Record := fun _ => none

/-- The properties every object has from `Object.prototype`. -/
def inheritedNames : List String :=
  ["constructor", "__defineGetter__", "__defineSetter__", "hasOwnProperty", "__lookupGetter__",
    "__lookupSetter__", "isPrototypeOf", "propertyIsEnumerable", "toString", "valueOf",
    "__proto__", "toLocaleString"]

/-- `key in record` -/
def Record.hasKey (r : Record) (key : String) : Bool :=
  (r key).isSome || inheritedNames.contains key

/-- `record[key] = value` makes a property: the setter of `__proto__` drops a
string. -/
def Record.takes (r : Record) (key : String) : Bool :=
  (r key).isSome || key != "__proto__"

/-- What `getItem` returns. -/
inductive Item where
  | null
  | string (value : String)
  /-- Something of `Object.prototype`. -/
  | inherited (name : String)
  deriving DecidableEq

/-- `key in record ? record[key] : null` -/
def Record.item (r : Record) (key : String) : Item :=
  match r key with
  | some value => .string value
  | none => if inheritedNames.contains key then .inherited key else .null

/-- What a file has in it: the text of an object, or one that is none. -/
inductive Text where
  | json (record : Record)
  | other

inductive JsError where
  /-- No such file. -/
  | ENOENT
  | SyntaxError
  /-- Another error of the file system. -/
  | failed (message : String)
  deriving DecidableEq

/-- `JSON.parse` -/
def parse : Text → Except JsError Record
  | .json record => .ok record
  | .other => .error .SyntaxError

/-- The text of a write, and how many of the updates it has. -/
structure Written where
  record : Record
  updates : Nat

/-! ## The operations of a call -/

inductive Op where
  /-- `this.loaded` -/
  | loaded
  | readFile
  /-- `this.cache = record` and `this.loaded = true` -/
  | load (record : Record)
  | mkdir
  /-- `writeFile(path, JSON.stringify({}))` -/
  | writeEmpty
  | item (key : String)
  /-- `this.cache[key] = value` -/
  | assign (key value : String)
  /-- `delete this.cache[key]` if `key in this.cache`; answers whether it is. -/
  | delete (key : String)
  /-- `JSON.stringify(this.cache)` -/
  | stringify
  | writeFile (text : Written)

def Op.Answer : Op → Type
  | .loaded => Bool
  | .readFile => Text
  | .load _ => Unit
  | .mkdir => Unit
  | .writeEmpty => Unit
  | .item _ => Item
  | .assign _ _ => Unit
  | .delete _ => Bool
  | .stringify => Written
  | .writeFile _ => Unit

abbrev api : Interface := ⟨Op, Op.Answer⟩

abbrev Promise := Prog api JsError

def await (o : Op) : Promise o.Answer := @Prog.call api JsError o

/-! ## The class -/

/-- The content of the file, which is made if there is none. -/
def readOrCreate : Promise Record :=
  tryCatch
    (do
      let raw ← await .readFile
      liftM (parse raw))
    fun e => do
      if e = .ENOENT then
        await .mkdir
        await .writeEmpty
        pure .empty
      else throw e

def ensureLoaded : Promise Unit := do
  let loaded : Bool ← await .loaded
  if loaded then pure ()
  else
    let record ← readOrCreate
    await (.load record)

def persist : Promise Unit := do
  await .mkdir
  let text ← await .stringify
  await (.writeFile text)

def getItem (key : String) : Promise Item := do
  ensureLoaded
  await (.item key)

def setItem (key value : String) : Promise Unit := do
  ensureLoaded
  await (.assign key value)
  persist

def removeItem (key : String) : Promise Unit := do
  ensureLoaded
  let found : Bool ← await (.delete key)
  if found then persist else pure ()

inductive Request where
  | getItem (key : String)
  | setItem (key value : String)
  | removeItem (key : String)
  deriving DecidableEq

/-- What a call returns; `none` is `undefined`. -/
abbrev Result := Option Item

def handler : Request → Promise Result
  | .getItem key => some <$> getItem key
  | .setItem key value => do
      setItem key value
      pure none
  | .removeItem key => do
      removeItem key
      pure none

/-! ## The storage -/

/-- What a call has done to a key; `none` is its removal. -/
structure Update where
  caller : Nat
  key : String
  value : Option String
  deriving DecidableEq

structure Store where
  loaded : Bool
  cache : Record
  /-- `none` when there is no file. -/
  file : Option Text
  /-- What was done to the keys, in order. -/
  updates : List Update
  /-- How many of them the text has that was written last. -/
  written : Nat

def Store.update (s : Store) (u : Update) : Store :=
  { s with cache := Function.update s.cache u.key u.value, updates := s.updates ++ [u] }

/-- What an operation of the `i`-th call answers and does. -/
def Store.answer (i : Nat) (s : Store) : (o : Op) → Except JsError o.Answer × Store
  | .loaded => (.ok s.loaded, s)
  | .readFile =>
      (match s.file with
        | none => .error .ENOENT
        | some raw => .ok raw, s)
  | .load record => (.ok (), { s with cache := record, loaded := true })
  | .mkdir => (.ok (), s)
  | .writeEmpty =>
      (.ok (), { s with file := some (.json .empty), written := s.updates.length })
  | .item key => (.ok (s.cache.item key), s)
  | .assign key value =>
      (.ok (), if s.cache.takes key then s.update ⟨i, key, some value⟩ else s)
  | .delete key =>
      (.ok (s.cache.hasKey key), if s.cache.hasKey key then s.update ⟨i, key, none⟩ else s)
  | .stringify => (.ok ⟨s.cache, s.updates.length⟩, s)
  | .writeFile text =>
      (.ok (), { s with file := some (.json text.record), written := text.updates })

/-- An access to the file. -/
def Op.io : Op → Bool
  | .readFile | .mkdir | .writeEmpty | .writeFile _ => true
  | _ => false

/-- An access to the file may also fail, and then has done nothing. -/
def Store.Answers (i : Nat) (s : Store) (o : Op) (x : Except JsError o.Answer) (s' : Store) :
    Prop :=
  (x, s') = s.answer i o ∨ o.io = true ∧ (∃ message, x = .error (.failed message)) ∧ s' = s

/-- The calls of one storage; nobody else touches its file. -/
def service : Service api JsError Result Request Store where
  handler := handler
  answers := Store.Answers
  outside := fun _ _ => False

end LunarysBridge.Node.FileStorage
