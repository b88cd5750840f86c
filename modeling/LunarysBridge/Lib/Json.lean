/-
LunarysBridge.Lib.Json — reading JSON.

A text is cut into tokens and the tokens are put together, both by machines
that take one character, or one token, at a time (`Lexer`, `Parser`); so
reading needs no fuel. The literal of a number is kept as it stands: which
number it becomes is for those who use it.

Strings are collected as UTF-16, as escapes are. Half a surrogate pair is no
character and becomes U+FFFD.
-/
import Mathlib.Init

namespace Json

/-- A JSON value. -/
inductive Value where
  | null
  | bool (b : Bool)
  | num (literal : String)
  | str (s : String)
  | arr (elems : List Value)
  | obj (fields : List (String × Value))

inductive Token where
  | lbrace
  | rbrace
  | lbracket
  | rbracket
  | colon
  | comma
  | null
  | bool (b : Bool)
  | num (literal : String)
  | str (s : String)
  deriving DecidableEq

/-! ## Characters to tokens -/

/-- The UTF-16 code units of a character. -/
def units (c : Char) : List Nat :=
  if c.toNat < 0x10000 then [c.toNat]
  else [0xD800 + (c.toNat - 0x10000) / 0x400, 0xDC00 + (c.toNat - 0x10000) % 0x400]

def isHigh (u : Nat) : Bool := 0xD800 ≤ u && u < 0xDC00

def isLow (u : Nat) : Bool := 0xDC00 ≤ u && u < 0xE000

/-- The characters of UTF-16 code units. -/
def decode : List Nat → List Char
  | [] => []
  | [u] => [if isHigh u || isLow u then Char.ofNat 0xFFFD else Char.ofNat u]
  | u :: v :: us =>
      if isHigh u && isLow v then
        Char.ofNat (0x10000 + (u - 0xD800) * 0x400 + (v - 0xDC00)) :: decode us
      else (if isHigh u || isLow u then Char.ofNat 0xFFFD else Char.ofNat u) :: decode (v :: us)

def hexValue (c : Char) : Option Nat :=
  if c.isDigit then some (c.toNat - '0'.toNat)
  else if 'a' ≤ c ∧ c ≤ 'f' then some (c.toNat - 'a'.toNat + 10)
  else if 'A' ≤ c ∧ c ≤ 'F' then some (c.toNat - 'A'.toNat + 10)
  else none

/-- What the character after a backslash stands for. -/
def unescape : Char → Option Nat
  | '"' => some 0x22
  | '\\' => some 0x5C
  | '/' => some 0x2F
  | 'b' => some 0x8
  | 'f' => some 0xC
  | 'n' => some 0xA
  | 'r' => some 0xD
  | 't' => some 0x9
  | _ => none

/-- `-?(0|[1-9][0-9]*)(\.[0-9]+)?([eE][+-]?[0-9]+)?` -/
def isNumber (literal : List Char) : Bool :=
  let unsigned := if literal.head? = some '-' then literal.drop 1 else literal
  let whole := unsigned.takeWhile Char.isDigit
  let rest := unsigned.dropWhile Char.isDigit
  let fraction := if rest.head? = some '.' then (rest.drop 1).takeWhile Char.isDigit else ['0']
  let rest := if rest.head? = some '.' then (rest.drop 1).dropWhile Char.isDigit else rest
  let scaled := rest.head? = some 'e' || rest.head? = some 'E'
  let signed := rest.drop 1
  let exponent := if signed.head? = some '+' || signed.head? = some '-' then signed.drop 1
    else signed
  whole ≠ [] && (whole = ['0'] || whole.head? ≠ some '0') && fraction ≠ [] &&
    (if scaled then exponent ≠ [] && exponent.all Char.isDigit else rest = [])

/-- Where the lexer is; what it has of a token is in reverse. -/
inductive Lexer where
  | outside
  | inString (acc : List Nat)
  | escaped (acc : List Nat)
  /-- `left` more digits of a `\u` escape. -/
  | unicode (acc : List Nat) (left value : Nat)
  | inNumber (acc : List Char)
  | inWord (acc : List Char)

def keyword (word : List Char) : Option Token :=
  if word = "null".toList then some .null
  else if word = "true".toList then some (.bool true)
  else if word = "false".toList then some (.bool false)
  else none

def number (literal : List Char) : Option Token :=
  if isNumber literal then some (.num (String.ofList literal)) else none

def isNumberChar (c : Char) : Bool :=
  c.isDigit || c = '-' || c = '+' || c = '.' || c = 'e' || c = 'E'

/-- A character between two tokens. -/
def lexOutside (c : Char) : Option (Lexer × List Token) :=
  if c = ' ' ∨ c = '\t' ∨ c = '\n' ∨ c = '\r' then some (.outside, [])
  else if c = '"' then some (.inString [], [])
  else if c = '\x7b' then some (.outside, [.lbrace])
  else if c = '\x7d' then some (.outside, [.rbrace])
  else if c = '[' then some (.outside, [.lbracket])
  else if c = ']' then some (.outside, [.rbracket])
  else if c = ':' then some (.outside, [.colon])
  else if c = ',' then some (.outside, [.comma])
  else if c = '-' ∨ c.isDigit then some (.inNumber [c], [])
  else if c.isLower then some (.inWord [c], [])
  else none

/-- One character: the next place, and the tokens that are complete. -/
def lexChar (c : Char) : Lexer → Option (Lexer × List Token)
  | .outside => lexOutside c
  | .inString acc =>
      if c = '"' then some (.outside, [.str (String.ofList (decode acc.reverse))])
      else if c = '\\' then some (.escaped acc, [])
      else if c.toNat < 0x20 then none
      else some (.inString ((units c).reverse ++ acc), [])
  | .escaped acc =>
      if c = 'u' then some (.unicode acc 4 0, [])
      else (unescape c).map fun u => (.inString (u :: acc), [])
  | .unicode acc left value =>
      (hexValue c).map fun d =>
        if left ≤ 1 then (.inString ((value * 16 + d) :: acc), [])
        else (.unicode acc (left - 1) (value * 16 + d), [])
  | .inNumber acc =>
      if isNumberChar c then some (.inNumber (c :: acc), [])
      else do
        let t ← number acc.reverse
        let (place, ts) ← lexOutside c
        some (place, t :: ts)
  | .inWord acc =>
      if c.isLower then some (.inWord (c :: acc), [])
      else do
        let t ← keyword acc.reverse
        let (place, ts) ← lexOutside c
        some (place, t :: ts)

/-- The end of the text. -/
def lexEnd : Lexer → Option (List Token)
  | .outside => some []
  | .inNumber acc => (number acc.reverse).map fun t => [t]
  | .inWord acc => (keyword acc.reverse).map fun t => [t]
  | _ => none

def lex : Lexer → List Char → Option (List Token)
  | place, [] => lexEnd place
  | place, c :: cs => do
      let (place, ts) ← lexChar c place
      let rest ← lex place cs
      some (ts ++ rest)

/-! ## Tokens to values -/

/-- A container that is still open, its contents in reverse. -/
inductive Frame where
  | arr (elems : List Value)
  | obj (fields : List (String × Value)) (key : String)

inductive Expect where
  | value
  /-- A value, or the end of an array. -/
  | first
  /-- A key, or the end of an object. -/
  | firstKey
  | key
  | colon
  /-- A comma, or the end of the container. -/
  | next
  | done (v : Value)

abbrev Parser := List Frame × Expect

/-- A value is complete. -/
def complete (v : Value) : List Frame → Parser
  | [] => ([], .done v)
  | .arr elems :: open' => (.arr (v :: elems) :: open', .next)
  | .obj fields key :: open' => (.obj ((key, v) :: fields) key :: open', .next)

def parseValue (frames : List Frame) : Token → Option Parser
  | .null => some (complete .null frames)
  | .bool b => some (complete (.bool b) frames)
  | .num literal => some (complete (.num literal) frames)
  | .str s => some (complete (.str s) frames)
  | .lbracket => some (.arr [] :: frames, .first)
  | .lbrace => some (.obj [] "" :: frames, .firstKey)
  | _ => none

def parseKey : List Frame → Token → Option Parser
  | .obj fields _ :: frames, .str key => some (.obj fields key :: frames, .colon)
  | _, _ => none

/-- The end of the innermost container. -/
def close : List Frame → Token → Option Parser
  | .arr elems :: frames, .rbracket => some (complete (.arr elems.reverse) frames)
  | .obj fields _ :: frames, .rbrace => some (complete (.obj fields.reverse) frames)
  | _, _ => none

def parseToken (t : Token) : Parser → Option Parser
  | (frames, .value) => parseValue frames t
  | (frames, .first) => if t = .rbracket then close frames t else parseValue frames t
  | (frames, .firstKey) => if t = .rbrace then close frames t else parseKey frames t
  | (frames, .key) => parseKey frames t
  | (frames, .colon) => if t = .colon then some (frames, .value) else none
  | (frames, .next) =>
      match t, frames with
      | .comma, .arr _ :: _ => some (frames, .value)
      | .comma, .obj _ _ :: _ => some (frames, .key)
      | t, frames => close frames t
  | (_, .done _) => none

def parseTokens : Parser → List Token → Option Value
  | ([], .done v), [] => some v
  | _, [] => none
  | p, t :: ts => do parseTokens (← parseToken t p) ts

/-- `JSON.parse`; `none` is a `SyntaxError`. -/
def parse (text : List Char) : Option Value := do
  parseTokens ([], .value) (← lex .outside text)

end Json
