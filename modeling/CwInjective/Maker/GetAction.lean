import CwInjective.Parse
import CwInjective.Maker.Derivative
import CwInjective.Maker.Pricing
import CwInjective.Maker.Split

/-!
# `get_action`

`GetAction` query の本体。mid price と volatility を読み、在庫の偏りから中心と head を決め、
前の block の注文と比べて head が十分動いていれば、市場の注文をすべて取り消して両側の梯子を
出し直す `MsgBatchUpdateOrders` を一つ返す。動いていなければ何も返さない。

`FPDecimal` から `Decimal256` への `wrap` と、`market` と三つの使われない引数は境界の向こう側の
仕事なので、注文・建玉・預金は包み終わった値で受け取る。保存された設定の `load().unwrap()` は
`storage` の `unwrap` である。

証明のために `get_action` を三つに分けて読む（`getAction_eq`）。

* `quoteHeads` — 偏り・中心・head（前半）
* 二つの側の `head_chg_is_gt_tol`（中ほど。注文の列はここでしか読まれない）
* `placeOrders` — tail と梯子（後半）
-/

namespace CwInjective

open Decimal256

/-! ## `create_orders` -/

/--
`create_orders`。建玉と同じ向きの側では建玉の margin を資金から引き、反対の向きの側では
建玉の量を減らす量の元にする。
-/
def createOrders (newHead newTail invVal : Decimal256) (position : Option WrappedPosition)
    (isBuy : Bool) (state : State) : Except Panic (List DerivativeOrder) := do
  let (positionQty, positionMargin) := match position with
    | some position =>
      if position.isLong = isBuy then (zero, position.margin) else (position.quantity, zero)
    | none => (zero, zero)
  let allocValForNewOrders ← getAllocBalNewOrders invVal positionMargin state.activeCapital
  createNewOrdersDeriv newHead newTail allocValForNewOrders positionQty isBuy state

/-- `create_orders` が返ったときの注文は、梯子の組み立てから来ている。 -/
theorem createOrders_eq_ok {head tail invVal : Decimal256} {position : Option WrappedPosition}
    {isBuy : Bool} {state : State} {os : List DerivativeOrder}
    (h : createOrders head tail invVal position isBuy state = .ok os) :
    ∃ alloc q, createNewOrdersDeriv head tail alloc q isBuy state = .ok os := by
  obtain ⟨alloc, -, h⟩ := bind_eq_ok.mp h
  exact ⟨alloc, _, h⟩

/-- `create_orders` の注文はその側の向きを持ち、tail が head の正しい側にあれば、その間にある。 -/
theorem createOrders_price {head tail invVal : Decimal256} {position : Option WrappedPosition}
    {isBuy : Bool} {state : State} {os : List DerivativeOrder}
    (h : createOrders head tail invVal position isBuy state = .ok os) {o : DerivativeOrder}
    (ho : o ∈ os) :
    o.isBuy = isBuy ∧ (isBuy = true → tail ≤ head → tail ≤ o.price ∧ o.price ≤ head) ∧
      (isBuy = false → head ≤ tail → head ≤ o.price ∧ o.price ≤ tail) :=
  createNewOrdersDeriv_price (createOrders_eq_ok h).choose_spec.choose_spec ho

/-- 資金の割合が 1 以下で、tail が head の正しい側にあれば、`create_orders` は溢れる以外には
落ちない。 -/
theorem createOrders_failsOnly {head tail invVal : Decimal256} {position : Option WrappedPosition}
    {isBuy : Bool} {state : State} (hc : state.activeCapital ≤ one)
    (hb : isBuy = true → tail ≤ head) (hs : isBuy = false → head ≤ tail) :
    FailsOnly Panic.IsOverflow (createOrders head tail invVal position isBuy state) := by
  unfold createOrders
  obtain ⟨alloc, halloc⟩ := getAllocBalNewOrders_ok invVal
    (match position with
      | some position =>
        if position.isLong = isBuy then (zero, position.margin) else (position.quantity, zero)
      | none => (zero, zero)).2 hc
  exact FailsOnly.bind (by rw [halloc]; exact FailsOnly.ok _) fun _ _ =>
    createNewOrdersDeriv_failsOnly hb hs

/-! ## `get_action` -/

/-- `get_action`。 -/
def getAction (storage : Option State) (contractAddress : String)
    (openOrders : List WrappedDerivativeLimitOrder) (deposit : Deposit)
    (position : Option WrappedPosition) (volatility midPrice : String) :
    Except Panic WrappedGetActionResponse := do
  let invVal := deposit.totalBalance
  let midPrice ← unwrap (Decimal256.fromStr midPrice)
  let volatility ← unwrap (Decimal256.fromStr volatility)
  let state ← unwrap storage
  let (invImbal, imbalIsLong) ← invImbalanceDeriv position invVal
  let reservationPrice ←
    reservationPrice midPrice invImbal volatility state.reservationParam imbalIsLong
  let (newBuyHead, newSellHead) ← newHeadPrices volatility reservationPrice state.spreadParam
  let (openBuys, openSells) := splitOpenOrders openOrders
  let buyChanged ← headChgIsGtTol openBuys newBuyHead state.headChgTol
  -- `||` は右辺を評価しない
  let changed ← (if buyChanged then pure true
    else headChgIsGtTol openSells newSellHead state.headChgTol)
  if changed then do
    let (newBuyTail, newSellTail) ←
      newTailPrices newBuyHead newSellHead midPrice state.tailDistFromMid state.minTailDist
    let buyOrdersToOpen ← createOrders newBuyHead newBuyTail invVal position true state
    let sellOrdersToOpen ← createOrders newSellHead newSellTail invVal position false state
    pure { msgs := [.batchUpdateOrders
      { sender := contractAddress, subaccountId := state.subaccountId,
        spotMarketIdsToCancelAll := [], derivativeMarketIdsToCancelAll := [state.marketId],
        spotOrdersToCancel := [], derivativeOrdersToCancel := [], spotOrdersToCreate := [],
        derivativeOrdersToCreate := buyOrdersToOpen ++ sellOrdersToOpen }] }
  else pure { msgs := [] }

/-- `get_action` の前半：偏り、中心、head。 -/
def quoteHeads (state : State) (invVal : Decimal256) (position : Option WrappedPosition)
    (midPrice volatility : Decimal256) : Except Panic (Decimal256 × Decimal256) := do
  let (invImbal, imbalIsLong) ← invImbalanceDeriv position invVal
  let r ← reservationPrice midPrice invImbal volatility state.reservationParam imbalIsLong
  newHeadPrices volatility r state.spreadParam

/-- `get_action` の後半：tail を決め、両側の梯子を出し直す batch を作る。 -/
def placeOrders (state : State) (contractAddress : String) (invVal : Decimal256)
    (position : Option WrappedPosition) (midPrice newBuyHead newSellHead : Decimal256) :
    Except Panic WrappedGetActionResponse := do
  let (newBuyTail, newSellTail) ←
    newTailPrices newBuyHead newSellHead midPrice state.tailDistFromMid state.minTailDist
  let buyOrdersToOpen ← createOrders newBuyHead newBuyTail invVal position true state
  let sellOrdersToOpen ← createOrders newSellHead newSellTail invVal position false state
  pure { msgs := [.batchUpdateOrders
    { sender := contractAddress, subaccountId := state.subaccountId,
      spotMarketIdsToCancelAll := [], derivativeMarketIdsToCancelAll := [state.marketId],
      spotOrdersToCancel := [], derivativeOrdersToCancel := [], spotOrdersToCreate := [],
      derivativeOrdersToCreate := buyOrdersToOpen ++ sellOrdersToOpen }] }

/-- 二つの側の判定。買い側が `true` なら売り側は見ない。 -/
def headsChanged (openOrders : List WrappedDerivativeLimitOrder)
    (newBuyHead newSellHead headChgTol : Decimal256) : Except Panic Bool := do
  let buyChanged ← headChgIsGtTol (splitOpenOrders openOrders).1 newBuyHead headChgTol
  if buyChanged then pure true
  else headChgIsGtTol (splitOpenOrders openOrders).2 newSellHead headChgTol

/-- **`get_action` を三つに分けて読む。** 注文の列は `headsChanged` にしか現れない。 -/
theorem getAction_eq (state : State) (contractAddress : String)
    (openOrders : List WrappedDerivativeLimitOrder) (deposit : Deposit)
    (position : Option WrappedPosition) (volatility midPrice : String) :
    getAction (some state) contractAddress openOrders deposit position volatility midPrice = (do
      let midPrice ← unwrap (Decimal256.fromStr midPrice)
      let volatility ← unwrap (Decimal256.fromStr volatility)
      let (newBuyHead, newSellHead) ←
        quoteHeads state deposit.totalBalance position midPrice volatility
      let changed ← headsChanged openOrders newBuyHead newSellHead state.headChgTol
      if changed then
        placeOrders state contractAddress deposit.totalBalance position midPrice newBuyHead
          newSellHead
      else pure { msgs := [] }) := by
  simp only [getAction, quoteHeads, headsChanged, unwrap_some, ok_bind, bind_assoc]
  rfl

/-! ## 判定は head の値段しか見ない -/

/-- `head_chg_is_gt_tol` が `false` を返すのは、前の head があって相対的な変化が許容幅以下の
ときだけ。 -/
theorem headChgIsGtTol_eq_false {l : List WrappedDerivativeLimitOrder} {h t : Decimal256} :
    headChgIsGtTol l h t = .ok false ↔ ∃ p, l.head?.map (·.orderInfo.price) = some p ∧
      ∃ q, divDec (subAbs p h) p = .ok q ∧ q ≤ t := by
  cases l with
  | nil => simp [headChgIsGtTol, pure, Except.pure]
  | cons o rest =>
    simp only [headChgIsGtTol, List.head?_cons, Option.map_some', Option.some.injEq,
      exists_eq_left', bind_eq_ok]
    constructor
    · rintro ⟨q, hq, h⟩
      exact ⟨q, hq, not_lt.mp (by simpa [pure, Except.pure] using h)⟩
    · rintro ⟨q, hq, h⟩
      exact ⟨q, hq, by simp [pure, Except.pure, not_lt.mpr h]⟩

/-- 判定が `false` になるのは、両側に前の head があって、どちらも許容幅以内のときだけ。 -/
theorem headsChanged_eq_false {l : List WrappedDerivativeLimitOrder} {bh sh t : Decimal256} :
    headsChanged l bh sh t = .ok false ↔
      (∃ pb, bestBid l = some pb ∧ ∃ q, divDec (subAbs pb bh) pb = .ok q ∧ q ≤ t) ∧
      (∃ ps, bestAsk l = some ps ∧ ∃ q, divDec (subAbs ps sh) ps = .ok q ∧ q ≤ t) := by
  rw [← splitOpenOrders_head_buys, ← splitOpenOrders_head_sells, ← headChgIsGtTol_eq_false,
    ← headChgIsGtTol_eq_false]
  unfold headsChanged
  rw [bind_eq_ok]
  constructor
  · rintro ⟨b, hb, h⟩
    cases b with
    | true => cases h
    | false => exact ⟨hb, h⟩
  · rintro ⟨hb, hs⟩
    exact ⟨false, hb, hs⟩

/-! ## 後半の spec -/

/-- `placeOrders` は tail を決め、両側の梯子を出し直す batch を一つだけ返す。 -/
theorem placeOrders_eq_ok {state : State} {contractAddress : String} {invVal : Decimal256}
    {position : Option WrappedPosition} {mid bh sh : Decimal256} {resp : WrappedGetActionResponse}
    (h : placeOrders state contractAddress invVal position mid bh sh = .ok resp) :
    ∃ bt st buys sells,
      newTailPrices bh sh mid state.tailDistFromMid state.minTailDist = .ok (bt, st) ∧
      createOrders bh bt invVal position true state = .ok buys ∧
      createOrders sh st invVal position false state = .ok sells ∧
      resp = { msgs := [.batchUpdateOrders
        { sender := contractAddress, subaccountId := state.subaccountId,
          spotMarketIdsToCancelAll := [], derivativeMarketIdsToCancelAll := [state.marketId],
          spotOrdersToCancel := [], derivativeOrdersToCancel := [], spotOrdersToCreate := [],
          derivativeOrdersToCreate := buys ++ sells }] } := by
  obtain ⟨⟨bt, st⟩, ht, h⟩ := bind_eq_ok.mp h
  obtain ⟨buys, hbuys, h⟩ := bind_eq_ok.mp h
  obtain ⟨sells, hsells, h⟩ := bind_eq_ok.mp h
  cases h
  exact ⟨bt, st, buys, sells, ht, hbuys, hsells, rfl⟩

end CwInjective
