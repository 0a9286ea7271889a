import CwInjective.Maker.Pricing

/-!
# head の変化の判定

`head_chg_is_gt_tol` は前の head `p` と新しい head `h` の相対的な変化 `|p − h| / p` を
`div_dec` で計算し、許容幅 `t` と比べる。`div_dec` は 18 桁で切り捨て、分母が 0 なら 0 を返す。
そのため判定は有理数での `|p − h| ≤ t·p` とは一致しない。

* `headChgIsGtTol_exact` — 前の head が無ければ `true`。`p = 0` なら必ず `false`。`p > 0` なら
  `false` になるのはちょうど `|p − h| < (t + 10⁻¹⁸)·p` のときで、商が `Decimal256` に
  収まらなければ panic し、それ以外は `true`
* `headChgIsGtTol_truncates` — 境界のすぐ外と `p = 0` で、有理数の判定と食い違う
-/

namespace CwInjective

open Decimal256

/-- 値を有理数で見る。 -/
def Decimal256.toRat (d : Decimal256) : ℚ := (d.atomics : ℚ) / fractional

theorem toRat_subAbs (a b : Decimal256) : (subAbs a b).toRat = |a.toRat - b.toRat| := by
  have hS : (0 : ℚ) < fractional := by exact_mod_cast fractional_pos
  rw [toRat, toRat, toRat, ← sub_div, abs_div, abs_of_pos hS, subAbs_atomics]
  congr 1
  split
  · next h =>
    have h' := le_def.mp h
    rw [Nat.cast_sub h', abs_of_nonneg (sub_nonneg.mpr (by exact_mod_cast h'))]
  · next h =>
    have h' : a.atomics < b.atomics := lt_def.mp (not_le.mp h)
    rw [Nat.cast_sub h'.le, abs_of_neg (sub_neg.mpr (by exact_mod_cast h')), neg_sub]

/-- 切り捨てた商の比較を、有理数の比較に書き直す。 -/
theorem floor_quotient_le_iff {d p t s : Nat} (hp : 0 < p) (hs : 0 < s) :
    d * s / p ≤ t ↔ (d : ℚ) / s < ((t : ℚ) / s + 1 / s) * ((p : ℚ) / s) := by
  have hS : (0 : ℚ) < s := by exact_mod_cast hs
  rw [← Nat.lt_succ_iff, Nat.div_lt_iff_lt_mul hp, div_add_div_same, div_mul_div_comm,
    div_lt_div_iff₀ hS (mul_pos hS hS)]
  norm_cast
  rw [← Nat.mul_assoc, Nat.mul_lt_mul_right hs]

/-- 前の head があり、0 でないときの計算。 -/
theorem headChgIsGtTol_cons {o : WrappedDerivativeLimitOrder} {rest h t}
    (hp : o.orderInfo.price.atomics ≠ 0) :
    headChgIsGtTol (o :: rest) h t =
      if (subAbs o.orderInfo.price h).atomics * fractional / o.orderInfo.price.atomics < uintSize
      then .ok (decide (t.atomics <
        (subAbs o.orderInfo.price h).atomics * fractional / o.orderInfo.price.atomics))
      else .error .divOverflow := by
  simp only [headChgIsGtTol, divDec, eq_zero_iff, hp, if_false, Decimal256.div, checked]
  split <;> rfl

/-- 同じことを atomics の言葉で。`q` は切り捨てた商。 -/
theorem headChgIsGtTol_pos {o : WrappedDerivativeLimitOrder} {rest h t}
    (hp : o.orderInfo.price.atomics ≠ 0) :
    (headChgIsGtTol (o :: rest) h t = .ok false ↔
      (subAbs o.orderInfo.price h).atomics * fractional / o.orderInfo.price.atomics ≤ t.atomics) ∧
    (headChgIsGtTol (o :: rest) h t = .ok true ↔
      t.atomics < (subAbs o.orderInfo.price h).atomics * fractional / o.orderInfo.price.atomics ∧
      (subAbs o.orderInfo.price h).atomics * fractional / o.orderInfo.price.atomics < uintSize) := by
  rw [headChgIsGtTol_cons hp]
  split
  · next hq => simp [hq]
  · next hq =>
    have := t.atomics_lt
    simp only [reduceCtorEq, false_iff, not_le, not_and, not_lt]
    omega

/--
**`head_chg_is_gt_tol` が実際にする判定。** 前の head が無ければ `true`、前の head の値 `p` が
0 なら（`div_dec` の 0 の扱いで）`false`。`p > 0` なら、`false` はちょうど
`|p − h| < (t + 10⁻¹⁸)·p` のとき、`true` はそうでなく切り捨てた商が `Decimal256` に収まるとき。
-/
theorem headChgIsGtTol_exact (h t : Decimal256) (o : WrappedDerivativeLimitOrder)
    (rest : List WrappedDerivativeLimitOrder) :
    headChgIsGtTol [] h t = .ok true ∧
    (o.orderInfo.price = zero → headChgIsGtTol (o :: rest) h t = .ok false) ∧
    (zero < o.orderInfo.price →
      (headChgIsGtTol (o :: rest) h t = .ok false ↔
        |o.orderInfo.price.toRat - h.toRat| < (t.toRat + 1 / fractional) * o.orderInfo.price.toRat) ∧
      (headChgIsGtTol (o :: rest) h t = .ok true ↔
        (t.toRat + 1 / fractional) * o.orderInfo.price.toRat ≤ |o.orderInfo.price.toRat - h.toRat| ∧
        (subAbs o.orderInfo.price h).atomics * fractional / o.orderInfo.price.atomics < uintSize)) := by
  refine ⟨rfl, fun hz => ?_, fun hp => ?_⟩
  · simp only [headChgIsGtTol, divDec, hz, if_true, ok_bind]
    simp [lt_def]
    rfl
  have hp' : o.orderInfo.price.atomics ≠ 0 := Nat.pos_iff_ne_zero.mp (lt_def.mp hp)
  have e : |o.orderInfo.price.toRat - h.toRat| < (t.toRat + 1 / fractional) *
      o.orderInfo.price.toRat ↔
      (subAbs o.orderInfo.price h).atomics * fractional / o.orderInfo.price.atomics ≤ t.atomics := by
    rw [← toRat_subAbs]
    exact (floor_quotient_le_iff (Nat.pos_of_ne_zero hp') fractional_pos).symm
  obtain ⟨h1, h2⟩ := @headChgIsGtTol_pos o rest h t hp'
  exact ⟨h1.trans e.symm, h2.trans (by rw [← not_le, ← e.not, not_lt])⟩

/-- テストと同じ形の、買いの注文。 -/
def restingBuy (price : Decimal256) : WrappedDerivativeLimitOrder :=
  { orderInfo := { subaccountId := "", feeRecipient := "", price, quantity := zero },
    orderType := 1, margin := zero, fillable := zero, triggerPrice := none, orderHash := [] }

/--
**判定は有理数の `|p − h| ≤ t·p` と一致しない。** `p = 2`、`h = 2 + 10⁻¹⁸`、`t = 0` では
相対的な変化 `5·10⁻¹⁹` が 0 に切り捨てられて `false` を返すが、`|p − h| > 0 = t·p` である。
`p = 0`、`h = 1`、`t = 0` でも、`div_dec` が 0 を返すので `false` になる。
-/
theorem headChgIsGtTol_truncates :
    headChgIsGtTol [restingBuy ⟨2 * fractional, by decide⟩] ⟨2 * fractional + 1, by decide⟩ zero =
        .ok false ∧
      ¬|(⟨2 * fractional, by decide⟩ : Decimal256).toRat -
          (⟨2 * fractional + 1, by decide⟩ : Decimal256).toRat| ≤
        zero.toRat * (⟨2 * fractional, by decide⟩ : Decimal256).toRat ∧
      headChgIsGtTol [restingBuy zero] one zero = .ok false ∧
      ¬|zero.toRat - one.toRat| ≤ zero.toRat * zero.toRat := by
  refine ⟨by decide, ?_, by decide, ?_⟩ <;> norm_num [toRat, fractional]

end CwInjective
