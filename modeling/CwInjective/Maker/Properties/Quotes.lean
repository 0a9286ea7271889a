import CwInjective.Maker.Properties.Gate
import CwInjective.Maker.Properties.Panics

/-!
# 出す注文は自分の注文と交差しない

`get_action` が batch を返したなら、`check_tail_dist` が返っている。`check_tail_dist` の距離は
素の引き算なので、返ったなら buy tail は buy head 以下、sell tail は sell head 以上にある。
梯子はその間に並ぶので、出す買いの注文は `[buy_tail, buy_head]`、売りの注文は
`[sell_head, sell_tail]` に収まり、`buy_head ≤ sell_head` から買いが売りを越えることはない。
head が提案された tail の外に出るほど偏りが大きいときは、batch は返らない（`Panics.lean`）。

* `getAction_quotes_within_tails` — batch の注文の値段は tail と head の間にあり、交差しない
-/

namespace CwInjective

open Decimal256

/-- 注文の列が tail と head の間にあり、どの買いもどの売りを越えないこと。 -/
def QuotesWithin (bt bh sh st : Decimal256) (orders : List DerivativeOrder) : Prop :=
  (∀ o ∈ orders, (o.isBuy = true → bt ≤ o.price ∧ o.price ≤ bh) ∧
    (o.isBuy = false → sh ≤ o.price ∧ o.price ≤ st)) ∧
  ∀ b ∈ orders, ∀ s ∈ orders, b.isBuy = true → s.isBuy = false → b.price ≤ s.price

/--
**出す注文は tail と head の間にあり、交差しない。** `get_action` が batch を返したなら、
mid price と volatility が読め、head と tail が返っていて、出す買いの注文は
`[buy_tail, buy_head]`、売りの注文は `[sell_head, sell_tail]` の値段を持ち、
どの買いの値段もどの売りの値段以下である。在庫の偏りの大きさによらない。
-/
theorem getAction_quotes_within_tails {state : State} {contractAddress : String}
    {openOrders : List WrappedDerivativeLimitOrder} {deposit : Deposit}
    {position : Option WrappedPosition} {volatility midPrice : String}
    {batch : MsgBatchUpdateOrders}
    (h : getAction (some state) contractAddress openOrders deposit position volatility midPrice =
      .ok { msgs := [.batchUpdateOrders batch] }) :
    ∃ mid vol bh sh bt st, Decimal256.fromStr midPrice = some mid ∧
      Decimal256.fromStr volatility = some vol ∧
      quoteHeads state deposit.totalBalance position mid vol = .ok (bh, sh) ∧
      newTailPrices bh sh mid state.tailDistFromMid state.minTailDist = .ok (bt, st) ∧
      QuotesWithin bt bh sh st batch.derivativeOrdersToCreate := by
  obtain ⟨mid, vol, bh, sh, changed, hm, hv, hq, -, h⟩ := getAction_eq_ok.mp h
  cases changed with
  | false => cases h
  | true =>
  obtain ⟨bt, st, buys, sells, ht, hbuys, hsells, hresp⟩ := placeOrders_eq_ok h
  obtain ⟨hbt, hst⟩ := newTailPrices_around_heads ht
  have hbatch : batch.derivativeOrdersToCreate = buys ++ sells := by
    simp only [WrappedGetActionResponse.mk.injEq, List.cons.injEq, ExchangeMsg.batchUpdateOrders.injEq,
      and_true] at hresp
    rw [hresp]
  -- 両側の梯子は、それぞれの tail と head の間にある
  have hside : ∀ o ∈ buys ++ sells, (o.isBuy = true → bt ≤ o.price ∧ o.price ≤ bh) ∧
      (o.isBuy = false → sh ≤ o.price ∧ o.price ≤ st) := by
    intro o ho
    rcases List.mem_append.mp ho with ho | ho
    · obtain ⟨hbuy, hb, -⟩ := createOrders_price hbuys ho
      exact ⟨fun _ => hb rfl hbt, fun h => by simp [hbuy] at h⟩
    · obtain ⟨hsell, -, hs⟩ := createOrders_price hsells ho
      exact ⟨fun h => by simp [hsell] at h, fun _ => hs rfl hst⟩
  refine ⟨mid, vol, bh, sh, bt, st, hm, hv, hq, ht, ?_⟩
  rw [hbatch]
  refine ⟨hside, fun b hb s hs hbb hss => ?_⟩
  calc b.price ≤ bh := ((hside b hb).1 hbb).2
    _ ≤ sh := quoteHeads_le hq
    _ ≤ s.price := ((hside s hs).2 hss).1

/-- 例の設定。`spread_param = 1`、`tail_dist_from_mid = 0.05`、`min_tail_dist = 0.01`、
二段の梯子。 -/
def demoState : State :=
  { marketId := "market", subaccountId := "maker", feeRecipient := "maker", isDeriv := true,
    leverage := one, orderDensity := ⟨2, by decide⟩, maxMarketDataDelay := 0,
    reservationParam := zero, spreadParam := one, activeCapital := one, headChgTol := zero,
    tailDistFromMid := ⟨5 * 10 ^ 16, by decide⟩, minTailDist := ⟨10 ^ 16, by decide⟩,
    lpTokenAddress := "LP-Token" }

/-- 例の注文。`market` の `maker` の注文で、値段と数量は atomics で与える。 -/
def demoOrder (price quantity : Nat) (isBuy : Bool) (hp : price < uintSize)
    (hq : quantity < uintSize) : DerivativeOrder :=
  { marketId := "market", subaccountId := "maker", feeRecipient := "maker",
    price := ⟨price, hp⟩, quantity := ⟨quantity, hq⟩, isBuy }

/-- 例の batch を、出す注文の列から組んだもの。 -/
def demoBatchOf (orders : List DerivativeOrder) : MsgBatchUpdateOrders :=
  { sender := "maker", subaccountId := "maker", spotMarketIdsToCancelAll := [],
    derivativeMarketIdsToCancelAll := ["market"], spotOrdersToCancel := [],
    derivativeOrdersToCancel := [], spotOrdersToCreate := [], derivativeOrdersToCreate := orders }

/-- 例の batch。`mid_price = 100`、`volatility = 2` で head は 99 と 101、tail は 95 と 105。 -/
def demoBatch : MsgBatchUpdateOrders :=
  demoBatchOf
    [demoOrder (99 * fractional) fractional true (by decide) (by decide),
      demoOrder (95 * fractional) fractional true (by decide) (by decide),
      demoOrder (101 * fractional) 980198019801980198 false (by decide) (by decide),
      demoOrder (105 * fractional) 980198019801980198 false (by decide) (by decide)]

/-- 例の long の建玉。数量 1、建値 99、証拠金 99 で、総額 198 の口座では偏りは 0.5。 -/
def demoLongPosition : WrappedPosition :=
  { isLong := true, quantity := one, entryPrice := ⟨99 * fractional, by decide⟩,
    margin := ⟨99 * fractional, by decide⟩ }

/-- 例の設定の偏りを効かせたもの（`reservation_param = 1`）。 -/
def skewDemoState : State := { demoState with reservationParam := one }

/-- 偏りのある例の batch。中心は `100 − 0.5 × 2 × 1 = 99` に下がり、head は 98 と 100、tail は
95 と 105 のまま。買いは証拠金を引いた残り、売りは建玉の数量を梯子に分ける。 -/
def skewDemoBatch : MsgBatchUpdateOrders :=
  demoBatchOf
    [demoOrder (98 * fractional) 505102040816326530 true (by decide) (by decide),
      demoOrder (95 * fractional) 505102040816326530 true (by decide) (by decide),
      demoOrder (100 * fractional) (5 * 10 ^ 17) false (by decide) (by decide),
      demoOrder (105 * fractional) (5 * 10 ^ 17) false (by decide) (by decide)]

/-- 例：注文が無く、総額 198 の口座。建玉が無ければ、買いは 99 と 95、売りは 101 と 105 に出る。
long の偏り 0.5 を `reservation_param = 1` で効かせると head は 98 と 100 に下がるが、提案された
tail 95 と 105 の内側に留まり、買いは 98 と 95、売りは 100 と 105 に出る。どちらも交差しない。 -/
theorem getAction_quotes_within_tails_demo :
    (getAction (some demoState) "maker" [] ⟨⟨198 * fractional, by decide⟩⟩ none "2" "100" =
        .ok { msgs := [.batchUpdateOrders demoBatch] } ∧
      ∃ mid vol bh sh bt st, Decimal256.fromStr "100" = some mid ∧
        Decimal256.fromStr "2" = some vol ∧
        quoteHeads demoState ⟨198 * fractional, by decide⟩ none mid vol = .ok (bh, sh) ∧
        newTailPrices bh sh mid demoState.tailDistFromMid demoState.minTailDist = .ok (bt, st) ∧
        QuotesWithin bt bh sh st demoBatch.derivativeOrdersToCreate) ∧
    (invImbalanceDeriv (some demoLongPosition) ⟨198 * fractional, by decide⟩ =
        .ok (⟨5 * 10 ^ 17, by decide⟩, true) ∧
      quoteHeads skewDemoState ⟨198 * fractional, by decide⟩ (some demoLongPosition)
          ⟨100 * fractional, by decide⟩ ⟨2 * fractional, by decide⟩ =
        .ok (⟨98 * fractional, by decide⟩, ⟨100 * fractional, by decide⟩) ∧
      newTailPrices ⟨98 * fractional, by decide⟩ ⟨100 * fractional, by decide⟩
          ⟨100 * fractional, by decide⟩ skewDemoState.tailDistFromMid skewDemoState.minTailDist =
        .ok (⟨95 * fractional, by decide⟩, ⟨105 * fractional, by decide⟩) ∧
      getAction (some skewDemoState) "maker" [] ⟨⟨198 * fractional, by decide⟩⟩
          (some demoLongPosition) "2" "100" = .ok { msgs := [.batchUpdateOrders skewDemoBatch] } ∧
      ∃ mid vol bh sh bt st, Decimal256.fromStr "100" = some mid ∧
        Decimal256.fromStr "2" = some vol ∧
        quoteHeads skewDemoState ⟨198 * fractional, by decide⟩ (some demoLongPosition) mid vol =
          .ok (bh, sh) ∧
        newTailPrices bh sh mid skewDemoState.tailDistFromMid skewDemoState.minTailDist =
          .ok (bt, st) ∧
        QuotesWithin bt bh sh st skewDemoBatch.derivativeOrdersToCreate) :=
  have flat : getAction (some demoState) "maker" [] ⟨⟨198 * fractional, by decide⟩⟩ none "2" "100" =
      .ok { msgs := [.batchUpdateOrders demoBatch] } := by decide
  have skewed : getAction (some skewDemoState) "maker" [] ⟨⟨198 * fractional, by decide⟩⟩
      (some demoLongPosition) "2" "100" = .ok { msgs := [.batchUpdateOrders skewDemoBatch] } := by
    decide
  ⟨⟨flat, getAction_quotes_within_tails flat⟩,
    ⟨by decide, by decide, by decide, skewed, getAction_quotes_within_tails skewed⟩⟩

end CwInjective
