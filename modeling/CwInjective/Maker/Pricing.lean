import CwInjective.Maker.Utils

/-!
# 価格の計算

`contract.rs` の四つの関数。どれも `get_action` から一度ずつ呼ばれる。

* `reservation_price` — 在庫の偏りだけ mid price をずらす
* `new_head_prices` — 中心から `volatility × spread_param / 2` ずつ離した head
* `head_chg_is_gt_tol` — 前の block の head から十分動いたか
* `new_tail_prices` — mid price から `tail_dist_from_mid` 離した tail を提案し、
  `check_tail_dist` に通す

この file では各関数の spec lemma（返る値と落ちる条件）を一つずつ置き、
`reservationPrice_monotone` を示す。
-/

namespace CwInjective

open Decimal256

/-! ## `reservation_price` -/

/-- `reservation_price`。偏りが 0 なら mid price のまま、long なら下げ、short なら上げる。 -/
def reservationPrice (midPrice invImbal volatility reservationParam : Decimal256)
    (imbalIsLong : Bool) : Except Panic Decimal256 :=
  if invImbal = zero then pure midPrice
  else do
    let scaled ← invImbal.mul volatility
    let skew ← scaled.mul reservationParam
    if imbalIsLong then midPrice.sub skew else midPrice.add skew

/-- ずらす幅 `inv_imbal * volatility * reservation_param`（切り捨ての積を二度）。 -/
def skewAtomics (invImbal volatility reservationParam : Decimal256) : Nat :=
  invImbal.atomics * volatility.atomics / fractional * reservationParam.atomics / fractional

theorem skewAtomics_mono {i₁ i₂ v₁ v₂ : Decimal256} (p : Decimal256) (hi : i₁ ≤ i₂)
    (hv : v₁ ≤ v₂) : skewAtomics i₁ v₁ p ≤ skewAtomics i₂ v₂ p := by
  unfold skewAtomics
  exact Nat.div_le_div_right (Nat.mul_le_mul_right _
    (Nat.div_le_div_right (Nat.mul_le_mul (le_def.mp hi) (le_def.mp hv))))

@[simp] theorem skewAtomics_zero (v p : Decimal256) : skewAtomics zero v p = 0 := by
  simp [skewAtomics]

/-- **`reservation_price` の spec。** 返った値は mid price から幅 `skewAtomics` だけ動いている。 -/
theorem reservationPrice_spec {mid i v p r : Decimal256} {long : Bool}
    (h : reservationPrice mid i v p long = .ok r) :
    if long then r.atomics + skewAtomics i v p = mid.atomics
    else r.atomics = mid.atomics + skewAtomics i v p := by
  unfold reservationPrice at h
  split at h
  · next hi =>
    cases h
    rw [hi, skewAtomics_zero]
    split <;> rfl
  · obtain ⟨s, hs, h⟩ := bind_eq_ok.mp h
    obtain ⟨k, hk, h⟩ := bind_eq_ok.mp h
    have hk' : k.atomics = skewAtomics i v p := by
      rw [mul_eq_ok.mp hk, mul_eq_ok.mp hs]; rfl
    cases long with
    | true =>
      obtain ⟨hle, hr⟩ := sub_eq_ok.mp h
      rw [le_def] at hle
      simp only [if_true]
      omega
    | false =>
      simp only [Bool.false_eq_true, if_false] at h ⊢
      rw [add_eq_ok.mp h, hk']

/--
**在庫の偏りは中心を単調にずらす。** 偏りが 0 なら mid price のまま返る。偏りと volatility を
大きくすると、long なら中心は下がり（mid price を超えない）、short なら上がる。
切り捨ての積を二度重ねても、二つの呼び出しがともに返る限りこの順序は崩れない。
-/
theorem reservationPrice_monotone (mid p v : Decimal256) (long : Bool) :
    reservationPrice mid zero v p long = .ok mid ∧
    ∀ {i₁ i₂ v₁ v₂ r₁ r₂ : Decimal256}, i₁ ≤ i₂ → v₁ ≤ v₂ →
      reservationPrice mid i₁ v₁ p long = .ok r₁ → reservationPrice mid i₂ v₂ p long = .ok r₂ →
      (long = true → r₂ ≤ r₁ ∧ r₁ ≤ mid) ∧ (long = false → mid ≤ r₁ ∧ r₁ ≤ r₂) := by
  refine ⟨by rw [reservationPrice, if_pos rfl]; rfl, fun hi hv h₁ h₂ => ?_⟩
  have hs := skewAtomics_mono p hi hv
  have e₁ := reservationPrice_spec h₁
  have e₂ := reservationPrice_spec h₂
  simp only [le_def]
  cases long with
  | true => simp only [if_true] at e₁ e₂; exact ⟨fun _ => ⟨by omega, by omega⟩, nofun⟩
  | false =>
    simp only [Bool.false_eq_true, if_false] at e₁ e₂
    exact ⟨nofun, fun _ => ⟨by omega, by omega⟩⟩

/-- 偏りと感度が 1 以下なら、積は溢れず、落ちるのは long で幅が mid price を超えるときと、
short で和が溢れるときだけである。 -/
theorem reservationPrice_failsOnly {mid i v p : Decimal256} {long : Bool} (hi : i ≤ one)
    (hp : p ≤ one) :
    FailsOnly (fun e => (e = .subOverflow ∧ long = true ∧ mid.atomics < skewAtomics i v p) ∨
      e.IsOverflow) (reservationPrice mid i v p long) := by
  unfold reservationPrice
  refine FailsOnly.ite (fun _ => FailsOnly.ok _) fun _ => ?_
  obtain ⟨s, hs, -⟩ := mul_of_le_one v hi
  have hs' : i.mul v = .ok s := by rw [mul_comm]; exact hs
  obtain ⟨k, hk, hk', -⟩ := mul_of_le_one s hp
  rw [hs', ok_bind, hk, ok_bind]
  have hkv : k.atomics = skewAtomics i v p := by
    rw [hk', mul_eq_ok.mp hs, Nat.mul_comm v.atomics]; rfl
  cases long with
  | true =>
    intro e he
    obtain ⟨hlt, rfl⟩ := sub_eq_error.mp he
    exact .inl ⟨rfl, rfl, by rw [← hkv]; exact hlt⟩
  | false => exact (add_failsOnly _ _).mono fun _ h => .inr h

/-! ## `new_head_prices` -/

/-- `new_head_prices`。中心から `volatility × spread_param / 2` ずつ両側に離す。 -/
def newHeadPrices (volatility reservationPrice spreadParam : Decimal256) :
    Except Panic (Decimal256 × Decimal256) := do
  let width ← volatility.mul spreadParam
  let distFromReservationPrice ← divDec width two
  let buyHead ← reservationPrice.sub distFromReservationPrice
  let sellHead ← reservationPrice.add distFromReservationPrice
  pure (buyHead, sellHead)

/-- head の片側の幅 `volatility * spread_param / 2`。 -/
def halfSpreadAtomics (volatility spreadParam : Decimal256) : Nat :=
  volatility.atomics * spreadParam.atomics / fractional / 2

/-- **`new_head_prices` の spec。** 二つの head は中心から同じ幅だけ離れている。 -/
theorem newHeadPrices_spec {v r sp bh sh : Decimal256}
    (h : newHeadPrices v r sp = .ok (bh, sh)) :
    bh.atomics + halfSpreadAtomics v sp = r.atomics ∧
      sh.atomics = r.atomics + halfSpreadAtomics v sp := by
  obtain ⟨w, hw, h⟩ := bind_eq_ok.mp h
  rw [divDec_two, ok_bind] at h
  obtain ⟨b, hb, h⟩ := bind_eq_ok.mp h
  obtain ⟨s, hs, h⟩ := bind_eq_ok.mp h
  cases h
  obtain ⟨hle, hb'⟩ := sub_eq_ok.mp hb
  rw [le_def] at hle
  have hd : halfSpreadAtomics v sp = w.atomics / 2 := by rw [mul_eq_ok.mp hw]; rfl
  refine ⟨?_, ?_⟩
  · rw [hd, hb']; exact Nat.sub_add_cancel hle
  · rw [hd, add_eq_ok.mp hs]

/-- buy head は sell head を超えない。 -/
theorem newHeadPrices_le {v r sp bh sh : Decimal256} (h : newHeadPrices v r sp = .ok (bh, sh)) :
    bh ≤ sh := by
  obtain ⟨h1, h2⟩ := newHeadPrices_spec h
  rw [le_def]; omega

/-- 感度が 1 以下なら、落ちるのは幅が中心を超えるときと、和が溢れるときだけである。 -/
theorem newHeadPrices_failsOnly {v r sp : Decimal256} (hsp : sp ≤ one) :
    FailsOnly (fun e => (e = .subOverflow ∧ r.atomics < halfSpreadAtomics v sp) ∨ e.IsOverflow)
      (newHeadPrices v r sp) := by
  obtain ⟨w, hw, hw', -⟩ := mul_of_le_one v hsp
  unfold newHeadPrices
  rw [hw, ok_bind, divDec_two, ok_bind]
  refine FailsOnly.bind ?_ fun b _ => FailsOnly.bind ((add_failsOnly _ _).mono fun _ h => .inr h)
    fun _ _ => FailsOnly.ok _
  intro e he
  obtain ⟨hlt, rfl⟩ := sub_eq_error.mp he
  exact .inl ⟨rfl, by rw [lt_def] at hlt; rw [halfSpreadAtomics, ← hw']; exact hlt⟩

/-! ## `head_chg_is_gt_tol` -/

/-- `head_chg_is_gt_tol`。前の head が無ければ変える。あれば相対的な変化を許容幅と比べる。 -/
def headChgIsGtTol (openOrders : List WrappedDerivativeLimitOrder)
    (newHead headChgTol : Decimal256) : Except Panic Bool :=
  match openOrders with
  | [] => pure true
  | o :: _ => do
    let oldHead := o.orderInfo.price
    let change ← divDec (subAbs oldHead newHead) oldHead
    pure (decide (headChgTol < change))

/-- `head_chg_is_gt_tol` は 0 で割らず、下にも溢れない。 -/
theorem headChgIsGtTol_failsOnly (l : List WrappedDerivativeLimitOrder) (h t : Decimal256) :
    FailsOnly (· = .divOverflow) (headChgIsGtTol l h t) := by
  cases l with
  | nil => exact FailsOnly.ok _
  | cons o _ => exact (divDec_failsOnly _ _).bind fun _ _ => FailsOnly.ok _

/-! ## `new_tail_prices` -/

/-- `new_tail_prices`。mid price の両側に tail を提案し、最小の幅を `check_tail_dist` で守らせる。 -/
def newTailPrices (buyHead sellHead midPrice tailDistFromMid minTailDist : Decimal256) :
    Except Panic (Decimal256 × Decimal256) := do
  let lower ← one.sub tailDistFromMid
  let proposedBuyTail ← midPrice.mul lower
  let upper ← one.add tailDistFromMid
  let proposedSellTail ← midPrice.mul upper
  checkTailDist buyHead sellHead proposedBuyTail proposedSellTail minTailDist

end CwInjective
