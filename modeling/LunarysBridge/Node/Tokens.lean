/-
LunarysBridge.Node.Tokens — the token table of the node, and how amounts go
over from one chain's units to the other's.

Decimals of a token are whole numbers. The division of big integers
truncates.
-/
import LunarysBridge.Relayer.Data

namespace LunarysBridge.Node

open Relayer (toLowerCase pow10)

/-- The decimals of the token on the two chains. -/
structure Decimals where
  evm : Int
  solana : Int
  deriving DecidableEq

structure TokenMapping where
  evmAddress : String
  solanaAddress : String
  decimals : Decimals
  deriving DecidableEq

/-- The mappings of each chain id that has any. -/
abbrev Table := Nat → Option (List TokenMapping)

namespace Table

variable (table : Table) (chainId : Nat)

/-- `getAll`, and the private `list`. -/
def getAll : List TokenMapping := (table chainId).getD []

def getTokenMapping (evmAddress : String) : Option TokenMapping :=
  if evmAddress = "" then none
  else (table.getAll chainId).find? (·.evmAddress == toLowerCase evmAddress)

end Table

/-- An amount, moved by `diff` decimals. -/
def convert (diff amount : Int) : Int :=
  if 0 < diff then amount * pow10 diff
  else if diff < 0 then amount.tdiv (pow10 (-diff))
  else amount

def convertEvmToSol (amountEvmUnits : Int) (mapping : TokenMapping) : Int :=
  convert (mapping.decimals.solana - mapping.decimals.evm) amountEvmUnits

def convertSolToEvm (amountSolUnits : Int) (mapping : TokenMapping) : Int :=
  convert (mapping.decimals.evm - mapping.decimals.solana) amountSolUnits

def isNativeToken (addr : String) : Bool :=
  toLowerCase addr = "0x0000000000000000000000000000000000000000" ||
    toLowerCase addr = "0xeeeeeeeeeeeeeeeeeeeeeeeeeeeeeeeeeeeeeeee"

def nativeEvmAddress : String := "0xeeeeeeeeeeeeeeeeeeeeeeeeeeeeeeeeeeeeeeee"

end LunarysBridge.Node
