import CwInjective.Decimal

/-!
# maker 契約のデータ

`state.rs` の `State` と、`get_action` が読み書きする取引所の型。取引所の型
（`crate::exchange`）は src に無いが、field は `get_action` とテストが使う形から分かる。
`FPDecimal` から `Decimal256` への `wrap` は境界の向こう側の仕事なので、ここの型は
包み終わった値を持つ（負にならないのは型で決まる）。

設定の不変条件 `ConfigInvariant` は仕様 §3 のもの。`instantiate` はこれを検査しない
（`Maker/Contract.lean`）。
-/

namespace CwInjective

open Decimal256

/-! ## 取引所の型 -/

/-- `WrappedOrderInfo`。 -/
structure WrappedOrderInfo where
  subaccountId : String
  feeRecipient : String
  price : Decimal256
  quantity : Decimal256
  deriving DecidableEq

/-- `WrappedDerivativeLimitOrder`。`order_type` は 1 が買い、2 が売り。 -/
structure WrappedDerivativeLimitOrder where
  orderInfo : WrappedOrderInfo
  orderType : Int
  margin : Decimal256
  fillable : Decimal256
  triggerPrice : Option Decimal256
  orderHash : List UInt8
  deriving DecidableEq

/-- `WrappedPosition`。 -/
structure WrappedPosition where
  isLong : Bool
  quantity : Decimal256
  entryPrice : Decimal256
  margin : Decimal256
  deriving DecidableEq

/-- `Deposit`。`get_action` は `total_balance` だけを読む。 -/
structure Deposit where
  totalBalance : Decimal256
  deriving DecidableEq

/-- `DerivativeOrder`。新しく出す注文。 -/
structure DerivativeOrder where
  marketId : String
  subaccountId : String
  feeRecipient : String
  price : Decimal256
  quantity : Decimal256
  isBuy : Bool
  deriving DecidableEq

/-- 取り消す注文の指定（`OrderData`）。 -/
structure OrderData where
  marketId : String
  subaccountId : String
  orderHash : String
  deriving DecidableEq

/-- `SpotOrder`。 -/
structure SpotOrder where
  marketId : String
  price : Decimal256
  quantity : Decimal256
  isBuy : Bool
  deriving DecidableEq

/-- `MsgBatchUpdateOrders`。 -/
structure MsgBatchUpdateOrders where
  sender : String
  subaccountId : String
  spotMarketIdsToCancelAll : List String
  derivativeMarketIdsToCancelAll : List String
  spotOrdersToCancel : List OrderData
  derivativeOrdersToCancel : List OrderData
  spotOrdersToCreate : List SpotOrder
  derivativeOrdersToCreate : List DerivativeOrder
  deriving DecidableEq

/-- `ExchangeMsg`。`get_action` が作るのは `BatchUpdateOrders` だけである。 -/
inductive ExchangeMsg where
  | batchUpdateOrders (msg : MsgBatchUpdateOrders)
  deriving DecidableEq

/-- `WrappedGetActionResponse`。 -/
structure WrappedGetActionResponse where
  msgs : List ExchangeMsg
  deriving DecidableEq

/-! ## 契約の状態 -/

/-- `State`。`CONFIG_KEY` に保存される設定。 -/
structure State where
  marketId : String
  subaccountId : String
  feeRecipient : String
  isDeriv : Bool
  leverage : Decimal256
  orderDensity : Uint256
  maxMarketDataDelay : Int
  reservationParam : Decimal256
  spreadParam : Decimal256
  activeCapital : Decimal256
  headChgTol : Decimal256
  tailDistFromMid : Decimal256
  minTailDist : Decimal256
  lpTokenAddress : String
  deriving DecidableEq

/-- 設定の不変条件。割合はどれも `[0, 1]`（下限は型で決まる）、`leverage > 0`、`order_density ≥ 1`。 -/
structure ConfigInvariant (s : State) : Prop where
  reservationParam_le : s.reservationParam ≤ one
  spreadParam_le : s.spreadParam ≤ one
  activeCapital_le : s.activeCapital ≤ one
  headChgTol_le : s.headChgTol ≤ one
  tailDistFromMid_le : s.tailDistFromMid ≤ one
  minTailDist_le : s.minTailDist ≤ one
  leverage_pos : zero < s.leverage
  orderDensity_pos : 1 ≤ s.orderDensity.val

theorem configInvariant_iff (s : State) :
    ConfigInvariant s ↔ s.reservationParam ≤ one ∧ s.spreadParam ≤ one ∧ s.activeCapital ≤ one ∧
      s.headChgTol ≤ one ∧ s.tailDistFromMid ≤ one ∧ s.minTailDist ≤ one ∧ zero < s.leverage ∧
      1 ≤ s.orderDensity.val :=
  ⟨fun ⟨h1, h2, h3, h4, h5, h6, h7, h8⟩ => ⟨h1, h2, h3, h4, h5, h6, h7, h8⟩,
    fun ⟨h1, h2, h3, h4, h5, h6, h7, h8⟩ => ⟨h1, h2, h3, h4, h5, h6, h7, h8⟩⟩

instance (s : State) : Decidable (ConfigInvariant s) :=
  decidable_of_iff _ (configInvariant_iff s).symm

/-- 不変条件は `lp_token_address` を見ない。 -/
theorem configInvariant_lpTokenAddress (s : State) (a : String) :
    ConfigInvariant { s with lpTokenAddress := a } ↔ ConfigInvariant s := by
  simp only [configInvariant_iff]

end CwInjective
