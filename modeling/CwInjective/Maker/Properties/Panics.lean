import CwInjective.Maker.GetAction
import CwInjective.Maker.Properties.TailPrices

/-!
# `get_action` が落ちる場所

設定が不変条件を満たしていても、`get_action` は `Ok` を返すとは限らない。引き算はどれも
`Decimal256` の素の引き算で、三か所で下に溢れうる（`UnderflowSite`）。

* `getAction_panics` — `get_action` は 0 で割らない。落ちるのは mid price か volatility の
  文字列が読めないとき、上に溢れるとき、`UnderflowSite` の三か所で下に溢れるときだけ
* `getAction_underflows` — `spread_param = 1`、`volatility = 10`、`mid_price = 1` では
  `new_head_prices` の `reservation_price − 5` が下に溢れる

`1 − tail_dist_from_mid` と `create_orders` の資金の割り当ては、不変条件の下では落ちない。
-/

namespace CwInjective

open Decimal256

/-- `get_action` の引き算が下に溢れうる三か所と、そのときの値。 -/
inductive UnderflowSite (state : State) (invVal : Decimal256) (position : Option WrappedPosition)
    (midPrice volatility : Decimal256) : Prop where
  /-- long の偏りでずらす幅が mid price を超える（`reservation_price`）。 -/
  | skewAboveMid {invImbal : Decimal256} :
    invImbalanceDeriv position invVal = .ok (invImbal, true) →
    midPrice.atomics < skewAtomics invImbal volatility state.reservationParam →
    UnderflowSite state invVal position midPrice volatility
  /-- head の片側の幅が中心を超える（`new_head_prices`）。 -/
  | halfSpreadAboveCenter {invImbal r : Decimal256} {long : Bool} :
    invImbalanceDeriv position invVal = .ok (invImbal, long) →
    reservationPrice midPrice invImbal volatility state.reservationParam long = .ok r →
    r.atomics < halfSpreadAtomics volatility state.spreadParam →
    UnderflowSite state invVal position midPrice volatility
  /-- 新しい head が、mid price から提案した tail の外にある（`check_tail_dist`）。 -/
  | headBeyondTail {bh sh : Decimal256} :
    quoteHeads state invVal position midPrice volatility = .ok (bh, sh) →
    bh.atomics < midPrice.atomics * (fractional - state.tailDistFromMid.atomics) / fractional ∨
      midPrice.atomics * (fractional + state.tailDistFromMid.atomics) / fractional < sh.atomics →
    UnderflowSite state invVal position midPrice volatility

section

variable {state : State} {invVal mid vol bh sh : Decimal256} {position : Option WrappedPosition}

/-- 前半は、上に溢れるか、最初の二か所で下に溢れる以外には落ちない。 -/
theorem quoteHeads_failsOnly (hc : ConfigInvariant state) :
    FailsOnly (fun e => e.IsOverflow ∨ (e = .subOverflow ∧ UnderflowSite state invVal position mid vol))
      (quoteHeads state invVal position mid vol) := by
  unfold quoteHeads
  refine ((invImbalanceDeriv_failsOnly _ _).mono fun _ h => .inl h).bind fun ⟨i, long⟩ hi => ?_
  refine ((reservationPrice_failsOnly (invImbalanceDeriv_le_one hi) hc.reservationParam_le).mono
    ?_).bind fun r hr => (newHeadPrices_failsOnly hc.spreadParam_le).mono ?_
  · rintro e (⟨rfl, rfl, hlt⟩ | h)
    · exact .inr ⟨rfl, .skewAboveMid hi hlt⟩
    · exact .inl h
  · rintro e (⟨rfl, hlt⟩ | h)
    · exact .inr ⟨rfl, .halfSpreadAboveCenter hi hr hlt⟩
    · exact .inl h

/-- 前半が返した head は、buy が sell を超えない。 -/
theorem quoteHeads_le (h : quoteHeads state invVal position mid vol = .ok (bh, sh)) : bh ≤ sh := by
  obtain ⟨⟨i, long⟩, -, h⟩ := bind_eq_ok.mp h
  obtain ⟨r, -, h⟩ := bind_eq_ok.mp h
  exact newHeadPrices_le h

/-- 二つの側の判定は、商が溢れる以外には落ちない。 -/
theorem headsChanged_failsOnly (l : List WrappedDerivativeLimitOrder) (t : Decimal256) :
    FailsOnly (· = .divOverflow) (headsChanged l bh sh t) :=
  (headChgIsGtTol_failsOnly _ _ _).bind fun _ _ =>
    FailsOnly.ite (fun _ => FailsOnly.ok _) fun _ => headChgIsGtTol_failsOnly _ _ _

/-- 後半は、上に溢れるか、三つ目の場所で下に溢れる以外には落ちない。 -/
theorem placeOrders_failsOnly (hc : ConfigInvariant state) (contractAddress : String)
    (hq : quoteHeads state invVal position mid vol = .ok (bh, sh)) :
    FailsOnly (fun e => e.IsOverflow ∨ (e = .subOverflow ∧ UnderflowSite state invVal position mid vol))
      (placeOrders state contractAddress invVal position mid bh sh) := by
  unfold placeOrders
  refine FailsOnly.bind ?_ fun ⟨bt, st⟩ ht => ?_
  · by_cases hin : mid.atomics * (fractional - state.tailDistFromMid.atomics) / fractional ≤ bh.atomics ∧
        sh.atomics ≤ mid.atomics * (fractional + state.tailDistFromMid.atomics) / fractional
    · exact (newTailPrices_failsOnly hc.tailDistFromMid_le hc.minTailDist_le hin.1 hin.2).mono
        fun _ h => .inl h
    · have hsite : UnderflowSite state invVal position mid vol :=
        .headBeyondTail hq (by omega)
      exact newTailPrices_failsOnly_arith.mono fun e h => h.elim (fun he => .inr ⟨he, hsite⟩) .inl
  obtain ⟨hbt, hst⟩ := newTailPrices_around_heads ht
  have hbuys : FailsOnly Panic.IsOverflow (createOrders bh bt invVal position true state) :=
    createOrders_failsOnly hc.activeCapital_le (fun _ => hbt) nofun
  have hsells : FailsOnly Panic.IsOverflow (createOrders sh st invVal position false state) :=
    createOrders_failsOnly hc.activeCapital_le nofun fun _ => hst
  exact (hbuys.mono fun _ h => .inl h).bind fun _ _ =>
    (hsells.mono fun _ h => .inl h).bind fun _ _ => FailsOnly.ok _

end

/--
**`get_action` が落ちる場所。** 設定が不変条件を満たせば、`get_action` は 0 で割らない。
落ちるのは、mid price か volatility の文字列が読めないとき、上に溢れるとき、そして
`UnderflowSite` の三か所（long の偏りが mid price を超える、head の幅が中心を超える、
head が提案された tail の外にある）で引き算が下に溢れるときだけである。
-/
theorem getAction_panics (state : State) (hc : ConfigInvariant state) (contractAddress : String)
    (openOrders : List WrappedDerivativeLimitOrder) (deposit : Deposit)
    (position : Option WrappedPosition) (volatility midPrice : String) :
    FailsOnly (fun e =>
      (e = .unwrap ∧ (Decimal256.fromStr midPrice = none ∨ Decimal256.fromStr volatility = none)) ∨
      e.IsOverflow ∨
      (e = .subOverflow ∧ ∃ mid vol, Decimal256.fromStr midPrice = some mid ∧
        Decimal256.fromStr volatility = some vol ∧
        UnderflowSite state deposit.totalBalance position mid vol))
      (getAction (some state) contractAddress openOrders deposit position volatility midPrice) := by
  rw [getAction_eq]
  cases hm : Decimal256.fromStr midPrice with
  | none => rintro e ⟨⟩; exact .inl ⟨rfl, .inl rfl⟩
  | some mid =>
  cases hv : Decimal256.fromStr volatility with
  | none => rintro e ⟨⟩; exact .inl ⟨rfl, .inr rfl⟩
  | some vol =>
  -- 下に溢れたなら、その場所は読めた mid price と volatility について言える
  have lift : ∀ e : Panic, e.IsOverflow ∨
      (e = .subOverflow ∧ UnderflowSite state deposit.totalBalance position mid vol) →
      (e = .unwrap ∧ (some mid = none ∨ some vol = none)) ∨ e.IsOverflow ∨
      (e = .subOverflow ∧ ∃ mid' vol', some mid = some mid' ∧ some vol = some vol' ∧
        UnderflowSite state deposit.totalBalance position mid' vol') := by
    rintro e (h | ⟨rfl, hs⟩)
    · exact .inr (.inl h)
    · exact .inr (.inr ⟨rfl, mid, vol, rfl, rfl, hs⟩)
  simp only [unwrap_some, ok_bind]
  refine ((quoteHeads_failsOnly hc).mono lift).bind fun ⟨bh, sh⟩ hq => ?_
  refine ((headsChanged_failsOnly _ _).mono fun _ h => .inr (.inl (.inr (.inr h)))).bind
    fun _ _ => FailsOnly.ite (fun _ => ?_) fun _ => FailsOnly.ok _
  exact (placeOrders_failsOnly hc contractAddress hq).mono lift

/-- 反例の設定。`spread_param = 1` で、ほかの割合は 0、`leverage = 1`、`order_density = 1`。 -/
def wideSpreadState : State :=
  { marketId := "", subaccountId := "", feeRecipient := "", isDeriv := true, leverage := one,
    orderDensity := ⟨1, by decide⟩, maxMarketDataDelay := 0, reservationParam := zero,
    spreadParam := one, activeCapital := zero, headChgTol := zero, tailDistFromMid := zero,
    minTailDist := zero, lpTokenAddress := "LP-Token" }

/-- この設定は不変条件を満たすので、`getAction_panics` がそのまま使える。 -/
theorem getAction_panics_wideSpread :
    ConfigInvariant wideSpreadState ∧
      FailsOnly (fun e =>
        (e = .unwrap ∧ (Decimal256.fromStr "1" = none ∨ Decimal256.fromStr "10" = none)) ∨
        e.IsOverflow ∨
        (e = .subOverflow ∧ ∃ mid vol, Decimal256.fromStr "1" = some mid ∧
          Decimal256.fromStr "10" = some vol ∧ UnderflowSite wideSpreadState zero none mid vol))
        (getAction (some wideSpreadState) "" [] ⟨zero⟩ none "10" "1") :=
  have hc : ConfigInvariant wideSpreadState := by decide
  ⟨hc, getAction_panics wideSpreadState hc "" [] ⟨zero⟩ none "10" "1"⟩

/--
**不変条件を満たす設定でも `get_action` は落ちる。** 建玉も注文も無く、`mid_price = 1`、
`volatility = 10` なら、head の片側の幅 `10 × 1 / 2 = 5` が中心 `1` を超え、
`new_head_prices` の引き算が下に溢れる。
-/
theorem getAction_underflows :
    ConfigInvariant wideSpreadState ∧
      getAction (some wideSpreadState) "" [] ⟨zero⟩ none "10" "1" = .error .subOverflow := by
  decide

end CwInjective
