import CwInjective.Maker.Pricing

/-!
# tail の最小幅

`new_tail_prices` は mid price から tail を提案し、`check_tail_dist` が head との距離を測って、
近すぎれば head から `min_tail_dist` 離した値に置き換える。

* `checkTailDist_around_heads` — 返った buy tail は buy head 以下、sell tail は sell head 以上
* `newTailPrices_min_spread` — 返った tail は head から `min_tail_dist` 以上離れ、head が提案の
  内側にあれば溢れる以外には落ちない
* `newTailPrices_underflows` — head が提案の外側にあると、距離の引き算が下に溢れる

距離 `(buy_head − proposed_buy_tail) / buy_head` は素の引き算なので、buy head が提案された
buy tail より下にあると下に溢れる。在庫の偏りが中心を大きく動かすと、それが起こる。
`new_tail_prices` の doc comment は、距離が最小幅を下回れば risk manager が最小幅を満たす tail を
返すと書くが、この場合は tail を返さずに panic する。
-/

namespace CwInjective

open Decimal256

variable {bh sh pbt pst m bt st : Decimal256}

/-! ## `check_tail_dist` -/

/-- `check_tail_dist` が返ったときの、途中の値。 -/
theorem checkTailDist_eq_ok (h : checkTailDist bh sh pbt pst m = .ok (bt, st)) :
    ∃ bg bd sg sd, bh.sub pbt = .ok bg ∧ divDec bg bh = .ok bd ∧
      (if bd < m then (do let f ← one.sub m; bh.mul f) else pure pbt) = .ok bt ∧
      pst.sub sh = .ok sg ∧ divDec sg sh = .ok sd ∧
      (if sd < m then (do let f ← one.add m; sh.mul f) else pure pst) = .ok st := by
  obtain ⟨bg, hbg, h⟩ := bind_eq_ok.mp h
  obtain ⟨bd, hbd, h⟩ := bind_eq_ok.mp h
  obtain ⟨b, hb, h⟩ := bind_eq_ok.mp h
  obtain ⟨sg, hsg, h⟩ := bind_eq_ok.mp h
  obtain ⟨sd, hsd, h⟩ := bind_eq_ok.mp h
  obtain ⟨s, hs, h⟩ := bind_eq_ok.mp h
  cases h
  exact ⟨bg, bd, sg, sd, hbg, hbd, hb, hsg, hsd, hs⟩

/-- 置き換えた buy tail は `buy_head × (1 − min)`。 -/
theorem buyFactor_eq {x : Decimal256} (h : (do let f ← one.sub m; bh.mul f) = .ok x) :
    m ≤ one ∧ x.atomics = bh.atomics * (fractional - m.atomics) / fractional := by
  obtain ⟨f, hf, hx⟩ := bind_eq_ok.mp h
  obtain ⟨hle, hf'⟩ := sub_eq_ok.mp hf
  exact ⟨hle, by rw [mul_eq_ok.mp hx, hf', one_atomics]⟩

/-- 置き換えた sell tail は `sell_head × (1 + min)`。 -/
theorem sellFactor_eq {x : Decimal256} (h : (do let f ← one.add m; sh.mul f) = .ok x) :
    x.atomics = sh.atomics * (fractional + m.atomics) / fractional := by
  obtain ⟨f, hf, hx⟩ := bind_eq_ok.mp h
  rw [mul_eq_ok.mp hx, add_eq_ok.mp hf, one_atomics]

/-- 提案のまま返した buy tail は、距離が `min` 以上なので head から十分離れている。 -/
theorem buyTail_le_of_dist {bg bd : Decimal256} (hbg : bh.sub pbt = .ok bg)
    (hbd : divDec bg bh = .ok bd) (hd : m ≤ bd) :
    pbt.atomics * fractional ≤ bh.atomics * (fractional - m.atomics) := by
  obtain ⟨hle, hbg'⟩ := sub_eq_ok.mp hbg
  rw [le_def] at hle hd
  rcases divDec_eq_ok.mp hbd with ⟨h0, rfl⟩ | ⟨h0, hq⟩
  · simp only [zero_atomics] at hd
    have : pbt.atomics = 0 := by omega
    simp [this]
  · have hmul : m.atomics * bh.atomics ≤ bg.atomics * fractional :=
      (Nat.le_div_iff_mul_le (Nat.pos_of_ne_zero h0)).mp (hq ▸ hd)
    rw [hbg', Nat.sub_mul] at hmul
    rw [Nat.mul_sub, Nat.mul_comm bh.atomics m.atomics]
    have : pbt.atomics * fractional ≤ bh.atomics * fractional := Nat.mul_le_mul_right _ hle
    omega

/-- 提案のまま返した sell tail も同じ。 -/
theorem sellTail_ge_of_dist {sg sd : Decimal256} (hsg : pst.sub sh = .ok sg)
    (hsd : divDec sg sh = .ok sd) (hd : m ≤ sd) :
    sh.atomics * (fractional + m.atomics) ≤ pst.atomics * fractional := by
  obtain ⟨hle, hsg'⟩ := sub_eq_ok.mp hsg
  rw [le_def] at hle hd
  rcases divDec_eq_ok.mp hsd with ⟨h0, rfl⟩ | ⟨h0, hq⟩
  · simp only [zero_atomics] at hd
    simp [h0, show m.atomics = 0 by omega]
  · have hmul : m.atomics * sh.atomics ≤ sg.atomics * fractional :=
      (Nat.le_div_iff_mul_le (Nat.pos_of_ne_zero h0)).mp (hq ▸ hd)
    rw [hsg', Nat.sub_mul] at hmul
    rw [Nat.mul_add, Nat.mul_comm sh.atomics m.atomics]
    have : sh.atomics * fractional ≤ pst.atomics * fractional := Nat.mul_le_mul_right _ hle
    omega

/-- **返った tail は head の外側にある。** buy tail は buy head 以下、sell tail は sell head 以上。 -/
theorem checkTailDist_around_heads (h : checkTailDist bh sh pbt pst m = .ok (bt, st)) :
    bt ≤ bh ∧ sh ≤ st := by
  obtain ⟨bg, bd, sg, sd, hbg, -, hb, hsg, -, hs⟩ := checkTailDist_eq_ok h
  constructor
  · split at hb
    · obtain ⟨hm, hx⟩ := buyFactor_eq hb
      rw [le_def, hx]
      exact Nat.div_le_of_le_mul (Nat.mul_comm fractional _ ▸ Nat.mul_le_mul_left _ (Nat.sub_le _ _))
    · cases hb; exact (sub_eq_ok.mp hbg).1
  · split at hs
    · rw [le_def, sellFactor_eq hs]
      exact (Nat.le_div_iff_mul_le fractional_pos).mpr (Nat.mul_le_mul_left _ (Nat.le_add_right _ _))
    · cases hs; exact (sub_eq_ok.mp hsg).1

/-- 返った tail は head から `min_tail_dist` 以上離れている（積は `Decimal256` の切り捨て）。 -/
theorem checkTailDist_min_spread (h : checkTailDist bh sh pbt pst m = .ok (bt, st)) :
    bt.atomics ≤ bh.atomics * (fractional - m.atomics) / fractional ∧
      sh.atomics * (fractional + m.atomics) / fractional ≤ st.atomics := by
  obtain ⟨bg, bd, sg, sd, hbg, hbd, hb, hsg, hsd, hs⟩ := checkTailDist_eq_ok h
  constructor
  · split at hb
    · exact (buyFactor_eq hb).2.le
    · next hd =>
      cases hb
      exact (Nat.le_div_iff_mul_le fractional_pos).mpr (buyTail_le_of_dist hbg hbd (not_lt.mp hd))
  · split at hs
    · exact (sellFactor_eq hs).ge
    · next hd =>
      cases hs
      exact Nat.div_le_of_le_mul (Nat.mul_comm fractional _ ▸ sellTail_ge_of_dist hsg hsd
        (not_lt.mp hd))

/-- head が提案の内側にあれば、`check_tail_dist` は溢れる以外には落ちない。 -/
theorem checkTailDist_failsOnly (hb : pbt ≤ bh) (hs : sh ≤ pst) (hm : m ≤ one) :
    FailsOnly Panic.IsOverflow (checkTailDist bh sh pbt pst m) := by
  obtain ⟨bg, hbg, hbg'⟩ := sub_of_le hb
  have hbgle : bg ≤ bh := by rw [le_def, hbg']; exact Nat.sub_le _ _
  obtain ⟨bd, hbd, -⟩ := divDec_of_le hbgle
  obtain ⟨f, hf, hf'⟩ := sub_of_le hm
  have hfle : f ≤ one := by rw [le_def, hf']; exact Nat.sub_le _ _
  obtain ⟨x, hx, -⟩ := mul_of_le_one bh hfle
  obtain ⟨sg, hsg, -⟩ := sub_of_le hs
  unfold checkTailDist
  rw [hbg, ok_bind, hbd, ok_bind]
  refine FailsOnly.bind (FailsOnly.ite (fun _ => ?_) fun _ => FailsOnly.ok _) fun _ _ => ?_
  · rw [hf, ok_bind, hx]; exact FailsOnly.ok _
  rw [hsg, ok_bind]
  refine FailsOnly.bind ((divDec_failsOnly _ _).mono fun _ h => .inr (.inr h)) fun _ _ => ?_
  refine FailsOnly.bind (FailsOnly.ite (fun _ => ?_) fun _ => FailsOnly.ok _) fun _ _ =>
    FailsOnly.ok _
  exact (add_failsOnly _ _).bind fun _ _ => mul_failsOnly _ _

/-- `check_tail_dist` は 0 で割らない。落ちるのは算術の panic だけである。 -/
theorem checkTailDist_failsOnly_arith : FailsOnly Panic.IsArith (checkTailDist bh sh pbt pst m) := by
  have hside : ∀ (c : Prop) [Decidable c] (x : Except Panic Decimal256) (y : Decimal256),
      FailsOnly Panic.IsArith x → FailsOnly Panic.IsArith (if c then x else pure y) :=
    fun _ _ _ _ hx => FailsOnly.ite (fun _ => hx) fun _ => FailsOnly.ok _
  unfold checkTailDist
  exact (sub_failsOnly_arith _ _).bind fun _ _ => (divDec_failsOnly_arith _ _).bind fun _ _ =>
    (hside _ _ _ ((sub_failsOnly_arith _ _).bind fun _ _ => mul_failsOnly_arith _ _)).bind
      fun _ _ => (sub_failsOnly_arith _ _).bind fun _ _ => (divDec_failsOnly_arith _ _).bind
        fun _ _ => (hside _ _ _ ((add_failsOnly_arith _ _).bind fun _ _ => mul_failsOnly_arith _ _)).bind
          fun _ _ => FailsOnly.ok _

/-! ## `new_tail_prices` -/

/-- `new_tail_prices` は 0 で割らない。落ちるのは算術の panic だけである。 -/
theorem newTailPrices_failsOnly_arith {mid t : Decimal256} :
    FailsOnly Panic.IsArith (newTailPrices bh sh mid t m) :=
  (sub_failsOnly_arith _ _).bind fun _ _ => (mul_failsOnly_arith _ _).bind fun _ _ =>
    (add_failsOnly_arith _ _).bind fun _ _ => (mul_failsOnly_arith _ _).bind fun _ _ =>
      checkTailDist_failsOnly_arith

/-- head が mid price から提案した tail の内側にあれば、`new_tail_prices` は溢れる以外には
落ちない。 -/
theorem newTailPrices_failsOnly {mid t : Decimal256} (ht : t ≤ one) (hm : m ≤ one)
    (hb : mid.atomics * (fractional - t.atomics) / fractional ≤ bh.atomics)
    (hs : sh.atomics ≤ mid.atomics * (fractional + t.atomics) / fractional) :
    FailsOnly Panic.IsOverflow (newTailPrices bh sh mid t m) := by
  obtain ⟨l, hl, hl'⟩ := sub_of_le ht
  have hlle : l ≤ one := by rw [le_def, hl']; exact Nat.sub_le _ _
  obtain ⟨p, hp, hp', -⟩ := mul_of_le_one mid hlle
  unfold newTailPrices
  rw [hl, ok_bind, hp, ok_bind]
  refine (add_failsOnly _ _).bind fun u hu => (mul_failsOnly _ _).bind fun q hq => ?_
  refine checkTailDist_failsOnly ?_ ?_ hm
  · rw [le_def, hp', hl', one_atomics]; exact hb
  · rw [le_def, mul_eq_ok.mp hq, add_eq_ok.mp hu, one_atomics]; exact hs

/-- `new_tail_prices` が返ったときの、提案された tail。 -/
theorem newTailPrices_eq_ok {mid t : Decimal256} (h : newTailPrices bh sh mid t m = .ok (bt, st)) :
    ∃ pbt pst, pbt.atomics = mid.atomics * (fractional - t.atomics) / fractional ∧
      pst.atomics = mid.atomics * (fractional + t.atomics) / fractional ∧
      checkTailDist bh sh pbt pst m = .ok (bt, st) := by
  obtain ⟨l, hl, h⟩ := bind_eq_ok.mp h
  obtain ⟨p, hp, h⟩ := bind_eq_ok.mp h
  obtain ⟨u, hu, h⟩ := bind_eq_ok.mp h
  obtain ⟨q, hq, h⟩ := bind_eq_ok.mp h
  refine ⟨p, q, ?_, ?_, h⟩
  · rw [mul_eq_ok.mp hp, (sub_eq_ok.mp hl).2, one_atomics]
  · rw [mul_eq_ok.mp hq, add_eq_ok.mp hu, one_atomics]

/-- `new_tail_prices` の返した tail も head の外側にある。 -/
theorem newTailPrices_around_heads {mid t : Decimal256}
    (h : newTailPrices bh sh mid t m = .ok (bt, st)) : bt ≤ bh ∧ sh ≤ st := by
  obtain ⟨_, _, -, -, h⟩ := newTailPrices_eq_ok h
  exact checkTailDist_around_heads h

/--
**tail は head から最小の幅だけ離れる。** 返った buy tail は `buy_head × (1 − min_tail_dist)`
以下、sell tail は `sell_head × (1 + min_tail_dist)` 以上である（積は `Decimal256` の切り捨て）。
head が mid price から提案した tail の内側にあれば、溢れる以外には落ちない。
-/
theorem newTailPrices_min_spread {mid t : Decimal256} (ht : t ≤ one) (hm : m ≤ one) :
    (∀ {bt st : Decimal256}, newTailPrices bh sh mid t m = .ok (bt, st) →
      bt.atomics ≤ bh.atomics * (fractional - m.atomics) / fractional ∧
      sh.atomics * (fractional + m.atomics) / fractional ≤ st.atomics) ∧
    (mid.atomics * (fractional - t.atomics) / fractional ≤ bh.atomics →
      sh.atomics ≤ mid.atomics * (fractional + t.atomics) / fractional →
      FailsOnly Panic.IsOverflow (newTailPrices bh sh mid t m)) := by
  refine ⟨fun h => ?_, newTailPrices_failsOnly ht hm⟩
  obtain ⟨_, _, -, -, h⟩ := newTailPrices_eq_ok h
  exact checkTailDist_min_spread h

/-- 仕様 §8 の例：`buy_head = 3999`、`sell_head = 4001`、`mid = 4000`、`tail = 0.05`、`min = 0.01`。
提案された tail は 3800 と 4200 で、head からの距離は `0.01` を超えるのでそのまま返り、
`3999 × 0.99` 以下と `4001 × 1.01` 以上に収まる。 -/
theorem newTailPrices_min_spread_example :
    (⟨5 * 10 ^ 16, by decide⟩ : Decimal256) ≤ one ∧ (⟨10 ^ 16, by decide⟩ : Decimal256) ≤ one ∧
      newTailPrices ⟨3999 * fractional, by decide⟩ ⟨4001 * fractional, by decide⟩
          ⟨4000 * fractional, by decide⟩ ⟨5 * 10 ^ 16, by decide⟩ ⟨10 ^ 16, by decide⟩ =
        .ok (⟨3800 * fractional, by decide⟩, ⟨4200 * fractional, by decide⟩) ∧
      (3800 * fractional ≤ 3999 * fractional * (fractional - 10 ^ 16) / fractional ∧
        4001 * fractional * (fractional + 10 ^ 16) / fractional ≤ 4200 * fractional) ∧
      FailsOnly Panic.IsOverflow (newTailPrices ⟨3999 * fractional, by decide⟩
        ⟨4001 * fractional, by decide⟩ ⟨4000 * fractional, by decide⟩ ⟨5 * 10 ^ 16, by decide⟩
        ⟨10 ^ 16, by decide⟩) :=
  have ht : (⟨5 * 10 ^ 16, by decide⟩ : Decimal256) ≤ one := by decide
  have hm : (⟨10 ^ 16, by decide⟩ : Decimal256) ≤ one := by decide
  have hret : newTailPrices ⟨3999 * fractional, by decide⟩ ⟨4001 * fractional, by decide⟩
      ⟨4000 * fractional, by decide⟩ ⟨5 * 10 ^ 16, by decide⟩ ⟨10 ^ 16, by decide⟩ =
      .ok (⟨3800 * fractional, by decide⟩, ⟨4200 * fractional, by decide⟩) := by decide
  ⟨ht, hm, hret, (newTailPrices_min_spread ht hm).1 hret,
    (newTailPrices_min_spread ht hm).2 (by decide) (by decide)⟩

/--
**head が提案された tail の外にあると、距離の引き算が下に溢れる。** `buy_head = sell_head = 1`、
`mid_price = 2`、`tail_dist_from_mid = min_tail_dist = 0` では提案された buy tail が 2 で、
`buy_head − proposed_buy_tail` が下に溢れる。
-/
theorem newTailPrices_underflows :
    newTailPrices one one ⟨2 * fractional, by decide⟩ zero zero = .error .subOverflow := by
  decide

end CwInjective
