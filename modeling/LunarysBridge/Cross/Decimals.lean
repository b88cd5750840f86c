/-
LunarysBridge.Cross.Decimals — the six conversions between the units of the
two chains.

Both processors of the node have their conversion inline, its token service
has one for each direction, and so has the relayer. They test the difference
of the decimals in different ways. On amounts that are not negative all of
them move the amount by that difference (`Scaling.scale`), and whatever is
known of scaling holds of each.
-/
import LunarysBridge.Lib.Scaling
import LunarysBridge.Node.EvmToSol

namespace LunarysBridge

open Scaling (scale)
open Relayer (TokenInfo JsError adjustToSolDecimals adjustToEvmDecimals pow10)
open Node (TokenMapping Table convert convertEvmToSol convertSolToEvm)

/-! ## The inline conversions -/

/-- `converted`, in the processor of requests on EVM. -/
def Node.EvmToSol.converted (amount : Int) (mapping : TokenMapping) : Int :=
  let diff := mapping.decimals.solana - mapping.decimals.evm
  convert diff amount

theorem Node.EvmToSol.pay_mapped {env : Setup} {req : BridgeRequest} {mapping : TokenMapping}
    {solDest : String} (hnative : Node.isNativeToken req.token = false)
    (h : env.table.getTokenMapping env.chainId req.token = some mapping) :
    pay env req solDest =
      transferSPLToken env mapping.solanaAddress solDest (converted req.amount mapping) := by
  rw [pay, hnative, h]
  rfl

/-- `converted`, in the processor of requests on Solana. -/
def Node.SolToEvm.converted (amountAfterFee : Int) (mapping : TokenMapping) : Int :=
  let diff := mapping.decimals.evm - mapping.decimals.solana
  convert diff amountAfterFee

theorem Node.SolToEvm.pay_mapped {env : Env} {ev : SolBridgeRequest} {mapping : TokenMapping}
    {evmDest : String} (h : mappingOf env ev.mint = some mapping) :
    pay env ev evmDest = (do
      let res ← transferErc20 mapping.evmAddress evmDest (converted ev.amountAfterFee mapping)
      txHashOf "ERC20 transfer failed" res) := by
  rw [pay, h]
  rfl

namespace Cross

/-! ## Each is a scaling -/

theorem convert_eq {d x : Int} (hx : 0 ≤ x) : convert d x = scale 10 d x := by
  unfold convert
  split
  · next hd => rw [Scaling.scale_of_nonneg (Int.le_of_lt hd), pow10]
  · split
    · next hd =>
      rw [Scaling.scale_of_neg hd, pow10, Int.natAbs_neg, Int.tdiv_eq_ediv_of_nonneg hx]
    · have hd : d = 0 := by omega
      rw [hd, Scaling.scale_zero]

theorem tdiv_pow10_eq {d x : Int} (hx : 0 ≤ x) :
    (if 0 ≤ d then x * pow10 d else x.tdiv (pow10 (-d))) = scale 10 d x := by
  unfold scale
  split
  · rfl
  · rw [pow10, Int.natAbs_neg, Int.tdiv_eq_ediv_of_nonneg hx]

/-- The token has the same decimals in the configuration of the node and of
the relayer. -/
def SameDecimals (mapping : TokenMapping) (info : TokenInfo) : Prop :=
  mapping.decimals = ⟨info.evm.decimals, info.sol.decimals⟩

section

variable {mapping : TokenMapping} {info : TokenInfo} {x y : Int}

theorem convertEvmToSol_eq (hx : 0 ≤ x) : convertEvmToSol x mapping =
    scale 10 (mapping.decimals.solana - mapping.decimals.evm) x :=
  convert_eq hx

theorem convertSolToEvm_eq (hx : 0 ≤ x) : convertSolToEvm x mapping =
    scale 10 (mapping.decimals.evm - mapping.decimals.solana) x :=
  convert_eq hx

theorem adjustToSolDecimals_eq (hx : 0 ≤ x) : adjustToSolDecimals x info =
    scale 10 (info.sol.decimals - info.evm.decimals) x :=
  tdiv_pow10_eq hx

theorem adjustToEvmDecimals_eq (hx : 0 ≤ x) : adjustToEvmDecimals x info =
    .ok (scale 10 (info.evm.decimals - info.sol.decimals) x) := by
  unfold adjustToEvmDecimals
  rw [if_neg (by omega)]
  exact congrArg _ (tdiv_pow10_eq hx)

theorem SameDecimals.toSol (h : SameDecimals mapping info) (hx : 0 ≤ x) :
    adjustToSolDecimals x info = convertEvmToSol x mapping := by
  rw [adjustToSolDecimals_eq hx, convertEvmToSol_eq hx, h]

theorem SameDecimals.toEvm (h : SameDecimals mapping info) (hx : 0 ≤ x) :
    adjustToEvmDecimals x info = .ok (convertSolToEvm x mapping) := by
  rw [adjustToEvmDecimals_eq hx, convertSolToEvm_eq hx, h]

theorem convertEvmToSol_back (hx : 0 ≤ x) :
    convertSolToEvm (convertEvmToSol x mapping) mapping ≤ x ∧
      (convertSolToEvm (convertEvmToSol x mapping) mapping = x ↔
        10 ^ (max 0 (mapping.decimals.evm - mapping.decimals.solana)).toNat ∣ x) := by
  have hnonneg : 0 ≤ convertEvmToSol x mapping := by
    rw [convertEvmToSol_eq hx]
    exact Scaling.scale_nonneg (by decide) hx
  rw [convertSolToEvm_eq hnonneg, convertEvmToSol_eq hx,
    ← Int.neg_sub mapping.decimals.solana mapping.decimals.evm]
  exact ⟨Scaling.back_le (by decide), Scaling.back_eq_iff (by decide)⟩

theorem convertSolToEvm_back (hx : 0 ≤ x) :
    convertEvmToSol (convertSolToEvm x mapping) mapping ≤ x ∧
      (convertEvmToSol (convertSolToEvm x mapping) mapping = x ↔
        10 ^ (max 0 (mapping.decimals.solana - mapping.decimals.evm)).toNat ∣ x) := by
  have hnonneg : 0 ≤ convertSolToEvm x mapping := by
    rw [convertSolToEvm_eq hx]
    exact Scaling.scale_nonneg (by decide) hx
  rw [convertEvmToSol_eq hnonneg, convertSolToEvm_eq hx,
    ← Int.neg_sub mapping.decimals.evm mapping.decimals.solana]
  exact ⟨Scaling.back_le (by decide), Scaling.back_eq_iff (by decide)⟩

/-- **Conversions** — for every amount that is not negative and all decimals
the three copies of each direction agree and are monotone, and an amount
converted to the other chain and back is not more than before: it is the
same exactly if nothing was rounded away. -/
theorem conversions_agree (mapping : TokenMapping) (info : TokenInfo)
    (h : SameDecimals mapping info) :
    (∀ x, 0 ≤ x →
      Node.EvmToSol.converted x mapping = convertEvmToSol x mapping ∧
      adjustToSolDecimals x info = convertEvmToSol x mapping) ∧
    (∀ x, 0 ≤ x →
      Node.SolToEvm.converted x mapping = convertSolToEvm x mapping ∧
      adjustToEvmDecimals x info = .ok (convertSolToEvm x mapping)) ∧
    (∀ x y, 0 ≤ x → x ≤ y →
      convertEvmToSol x mapping ≤ convertEvmToSol y mapping ∧
      convertSolToEvm x mapping ≤ convertSolToEvm y mapping) ∧
    (∀ x, 0 ≤ x →
      convertSolToEvm (convertEvmToSol x mapping) mapping ≤ x ∧
      (convertSolToEvm (convertEvmToSol x mapping) mapping = x ↔
        10 ^ (max 0 (mapping.decimals.evm - mapping.decimals.solana)).toNat ∣ x)) ∧
    ∀ x, 0 ≤ x →
      convertEvmToSol (convertSolToEvm x mapping) mapping ≤ x ∧
      (convertEvmToSol (convertSolToEvm x mapping) mapping = x ↔
        10 ^ (max 0 (mapping.decimals.solana - mapping.decimals.evm)).toNat ∣ x) := by
  refine ⟨fun x hx => ⟨rfl, h.toSol hx⟩, fun x hx => ⟨rfl, h.toEvm hx⟩, fun x y hx hxy => ?_,
    fun x hx => convertEvmToSol_back hx, fun x hx => convertSolToEvm_back hx⟩
  have hy : 0 ≤ y := Int.le_trans hx hxy
  rw [convertEvmToSol_eq hx, convertEvmToSol_eq hy, convertSolToEvm_eq hx, convertSolToEvm_eq hy]
  exact ⟨Scaling.scale_mono (by decide) hxy, Scaling.scale_mono (by decide) hxy⟩

end

namespace Sample

/-- A token with 18 decimals on EVM and 6 on Solana, for the node. -/
def wideMapping : TokenMapping := { Node.SolToEvm.Sample.usdc with decimals := ⟨18, 6⟩ }

/-- The same, for the relayer. -/
def wideInfo : TokenInfo where
  name := "USDC"
  evm := ⟨wideMapping.evmAddress, 18⟩
  sol := ⟨wideMapping.solanaAddress, 6⟩

end Sample

theorem conversions_agree_wide :
    Node.EvmToSol.converted 2500000000000 Sample.wideMapping = 2 ∧
    adjustToSolDecimals 2500000000000 Sample.wideInfo = 2 ∧
    adjustToEvmDecimals 2 Sample.wideInfo = .ok 2000000000000 ∧
    convertSolToEvm (convertEvmToSol 2500000000000 Sample.wideMapping) Sample.wideMapping ≤
      2500000000000 := by
  obtain ⟨hsol, hevm, -, hback, -⟩ := conversions_agree Sample.wideMapping Sample.wideInfo rfl
  have htwo : convertEvmToSol 2500000000000 Sample.wideMapping = 2 := by decide
  obtain ⟨hinline, hrelayer⟩ := hsol 2500000000000 (by decide)
  refine ⟨hinline.trans htwo, hrelayer.trans htwo, ?_, (hback _ (by decide)).1⟩
  exact (hevm 2 (by decide)).2.trans (congrArg _ (by decide))

end Cross

end LunarysBridge
