import CwInjective.Maker.Utils

/-!
# 建玉の偏りと注文の梯子

`contract.rs` が `crate::derivative` から取り込む二つの関数。この file も src に無いので、
仕様 §4.3 と §4.8 の言葉から書く。`/` は `div_dec`、`−` は素の引き算である（`Maker/Utils.lean`）。

梯子は head から tail へ `order_density` 段、等しい間隔で並べる。間隔は
`|head − tail| / (order_density − 1)` で、`k` 段目は head から `k` 間隔だけ離れる。

* `ladderPrices_mem` — `k` 段目の値段は head からちょうど `k × step`
* `createNewOrdersDeriv_price` — 出す注文はどれも head と tail の間にある
* `createNewOrdersDeriv_failsOnly` — tail が head の正しい側にあれば、溢れる以外には落ちない
-/

namespace CwInjective

open Decimal256

/-! ## `inv_imbalance_deriv` -/

/--
Modelled from the spec: `derivative::inv_imbalance_deriv` は src に無い。§4.3：
建玉の量 × 建値を口座の総額で割り、1 で頭打ちにする。向きは建玉の向き。
建玉が無ければ偏りは 0（向きは使われない）。
-/
def invImbalanceDeriv (position : Option WrappedPosition) (invVal : Decimal256) :
    Except Panic (Decimal256 × Bool) :=
  match position with
  | none => pure (zero, true)
  | some p => do
    let positionValue ← p.quantity.mul p.entryPrice
    let invImbal ← divDec positionValue invVal
    pure (min invImbal one, p.isLong)

/-- 偏りは 1 以下。 -/
theorem invImbalanceDeriv_le_one {position : Option WrappedPosition} {invVal i : Decimal256}
    {long : Bool} (h : invImbalanceDeriv position invVal = .ok (i, long)) : i ≤ one := by
  cases position with
  | none => cases h; exact zero_le _
  | some p =>
    obtain ⟨_, -, h⟩ := bind_eq_ok.mp h
    obtain ⟨_, -, h⟩ := bind_eq_ok.mp h
    cases h
    exact min_le_right _ _

/-- 偏りの計算は、積か商が溢れる以外には落ちない。 -/
theorem invImbalanceDeriv_failsOnly (position : Option WrappedPosition) (invVal : Decimal256) :
    FailsOnly Panic.IsOverflow (invImbalanceDeriv position invVal) := by
  cases position with
  | none => exact FailsOnly.ok _
  | some p =>
    exact (mul_failsOnly _ _).bind fun _ _ =>
      ((divDec_failsOnly _ _).mono fun _ h => .inr (.inr h)).bind fun _ _ => FailsOnly.ok _

/-! ## 梯子の値段 -/

/-- 梯子の `k` 段目から `n` 段分の値段。`k` 段目は head から `k × step` だけ tail の側にある
（買いは下、売りは上）。 -/
def ladderPrices (isBuy : Bool) (head step : Decimal256) (k : Nat) :
    Nat → Except Panic (List Decimal256)
  | 0 => pure []
  | n + 1 => do
    let offset ← checked (k * step.atomics) .mulOverflow
    let price ← (if isBuy then head.sub offset else head.add offset)
    let rest ← ladderPrices isBuy head step (k + 1) n
    pure (price :: rest)

/-- 段の値段が head からいくつ離れているか。 -/
def LevelAt (isBuy : Bool) (head step : Decimal256) (j : Nat) (price : Decimal256) : Prop :=
  if isBuy then price.atomics + j * step.atomics = head.atomics
  else price.atomics = head.atomics + j * step.atomics

/-- 一段の値段の計算。 -/
theorem levelPrice_eq_ok {isBuy : Bool} {head step offset price : Decimal256} {j : Nat}
    (ho : checked (j * step.atomics) .mulOverflow = .ok offset)
    (hp : (if isBuy then head.sub offset else head.add offset) = .ok price) :
    LevelAt isBuy head step j price := by
  unfold LevelAt
  rw [← checked_eq_ok.mp ho]
  cases isBuy with
  | true =>
    obtain ⟨hle, hp⟩ := sub_eq_ok.mp hp
    rw [le_def] at hle
    simp only [if_true]
    omega
  | false => exact add_eq_ok.mp hp

/-- **梯子の spec。** `n` 段が返り、どの値段も `k` 段目から `k + n − 1` 段目のどれかにある。 -/
theorem ladderPrices_mem {isBuy : Bool} {head step : Decimal256} :
    ∀ {k n : Nat} {ps : List Decimal256}, ladderPrices isBuy head step k n = .ok ps →
      ps.length = n ∧ ∀ p ∈ ps, ∃ j, k ≤ j ∧ j < k + n ∧ LevelAt isBuy head step j p
  | _, 0, _, h => by cases h; exact ⟨rfl, nofun⟩
  | k, n + 1, ps, h => by
    obtain ⟨o, ho, h⟩ := bind_eq_ok.mp h
    obtain ⟨p, hp, h⟩ := bind_eq_ok.mp h
    obtain ⟨rest, hrest, h⟩ := bind_eq_ok.mp h
    cases h
    obtain ⟨hlen, hmem⟩ := ladderPrices_mem hrest
    refine ⟨by rw [List.length_cons, hlen], fun q hq => ?_⟩
    rcases List.mem_cons.mp hq with rfl | hq
    · exact ⟨k, le_rfl, by omega, levelPrice_eq_ok ho hp⟩
    · obtain ⟨j, hkj, hjn, hj⟩ := hmem q hq
      exact ⟨j, by omega, by omega, hj⟩

/-- head から 0 段目の値段は head そのもの。 -/
theorem levelAt_zero {isBuy : Bool} {head step p : Decimal256} :
    LevelAt isBuy head step 0 p ↔ p = head := by
  cases isBuy <;> simp [LevelAt, Decimal256.ext_iff]

/-- 買いの梯子は、最後の段まで head を下回らなければ、溢れる以外には落ちない。売りの梯子は
いつでも溢れる以外には落ちない。 -/
theorem ladderPrices_failsOnly {isBuy : Bool} {head step : Decimal256} :
    ∀ {k n : Nat}, (isBuy = true → ∀ j, j < k + n → j * step.atomics ≤ head.atomics) →
      FailsOnly Panic.IsOverflow (ladderPrices isBuy head step k n)
  | _, 0, _ => FailsOnly.ok _
  | k, n + 1, h => by
    refine ((checked_failsOnly _ _).mono fun _ he => .inr (.inl he)).bind fun o ho => ?_
    refine FailsOnly.bind ?_ fun _ _ => (ladderPrices_failsOnly fun hb j hj => h hb j (by omega)).bind
      fun _ _ => FailsOnly.ok _
    cases isBuy with
    | true =>
      rw [sub_of_le (le_def.mpr ((checked_eq_ok.mp ho).symm ▸ h rfl k (by omega))) |>.choose_spec.1]
      exact FailsOnly.ok _
    | false => exact add_failsOnly _ _

/-! ## `create_new_orders_deriv` -/

/--
Modelled from the spec: `derivative::create_new_orders_deriv` は src に無い。§4.8：
`order_density` 段の梯子を head から tail へ等しい間隔で並べる（1 段なら head だけ）。
一段の量は、建玉を増やす側なら `allocable_value / head / order_density`、反対側の建玉を
減らす側なら `position_qty / order_density` で、どちらも `leverage` を掛ける。
量の元が 0 なら空の梯子を返す。src の呼び出し側は組の一つ目（注文の列）だけを使うので、
ここでは注文の列だけを返す。
-/
def createNewOrdersDeriv (newHead newTail allocValForNewOrders positionQty : Decimal256)
    (isBuy : Bool) (state : State) : Except Panic (List DerivativeOrder) :=
  let basis := if positionQty = zero then allocValForNewOrders else positionQty
  if basis = zero then pure []
  else do
    let density ← checked (state.orderDensity.val * fractional) .mulOverflow
    let perLevel ← (if positionQty = zero then do
        let notional ← divDec allocValForNewOrders newHead
        divDec notional density
      else divDec positionQty density)
    let quantity ← perLevel.mul state.leverage
    let step ← (if state.orderDensity.val ≤ 1 then pure zero
      else do
        let dist ← (if isBuy then newHead.sub newTail else newTail.sub newHead)
        let gaps ← checked ((state.orderDensity.val - 1) * fractional) .mulOverflow
        divDec dist gaps)
    let prices ← ladderPrices isBuy newHead step 0 state.orderDensity.val
    pure (prices.map fun price =>
      { marketId := state.marketId, subaccountId := state.subaccountId,
        feeRecipient := state.feeRecipient, price, quantity, isBuy })

/-- 間隔を `order_density − 1` 回重ねても head と tail の距離を超えない。 -/
theorem step_mul_le {dist gaps step : Decimal256} {d : Nat} (hd : 1 < d)
    (hg : checked ((d - 1) * fractional) .mulOverflow = .ok gaps) (hs : divDec dist gaps = .ok step) :
    (d - 1) * step.atomics ≤ dist.atomics := by
  have hg' := checked_eq_ok.mp hg
  have hpos : (d - 1) * fractional ≠ 0 := Nat.mul_ne_zero (by omega) fractional_pos.ne'
  rcases divDec_eq_ok.mp hs with ⟨h0, -⟩ | ⟨-, hs'⟩
  · exact absurd (hg' ▸ h0) hpos
  · rw [hs', hg', Nat.mul_div_mul_right _ _ fractional_pos]
    exact Nat.mul_div_le _ _

/-- 間隔を `order_density` 段未満だけ重ねても、head と tail の距離を超えない。 -/
theorem offset_le_dist {head tail dist step : Decimal256} {isBuy : Bool} {d j : Nat}
    (hstep : (if d ≤ 1 then pure zero else do
        let dist ← (if isBuy then head.sub tail else tail.sub head)
        let gaps ← checked ((d - 1) * fractional) .mulOverflow
        divDec dist gaps : Except Panic Decimal256) = .ok step)
    (hdist : (if isBuy then head.sub tail else tail.sub head) = .ok dist) (hj : j < d) :
    j * step.atomics ≤ dist.atomics := by
  split at hstep
  · cases hstep; rw [zero_atomics, Nat.mul_zero]; exact Nat.zero_le _
  · obtain ⟨dist', hdist', hstep⟩ := bind_eq_ok.mp hstep
    obtain ⟨gaps, hgaps, hstep⟩ := bind_eq_ok.mp hstep
    rw [hdist] at hdist'; cases hdist'
    calc j * step.atomics ≤ (d - 1) * step.atomics := Nat.mul_le_mul_right _ (by omega)
      _ ≤ dist.atomics := step_mul_le (by omega) hgaps hstep

/-- 出す注文の組み立て。 -/
theorem createNewOrdersDeriv_eq_ok {head tail alloc q : Decimal256} {isBuy : Bool} {state : State}
    {os : List DerivativeOrder} (h : createNewOrdersDeriv head tail alloc q isBuy state = .ok os) :
    os = [] ∨ ∃ quantity step ps,
      (if state.orderDensity.val ≤ 1 then pure zero else do
        let dist ← (if isBuy then head.sub tail else tail.sub head)
        let gaps ← checked ((state.orderDensity.val - 1) * fractional) .mulOverflow
        divDec dist gaps : Except Panic Decimal256) = .ok step ∧
      ladderPrices isBuy head step 0 state.orderDensity.val = .ok ps ∧
      os = ps.map fun price =>
        { marketId := state.marketId, subaccountId := state.subaccountId,
          feeRecipient := state.feeRecipient, price, quantity, isBuy } := by
  unfold createNewOrdersDeriv at h
  dsimp only at h
  by_cases hbasis : (if q = zero then alloc else q) = zero
  · rw [if_pos hbasis] at h; cases h; exact .inl rfl
  rw [if_neg hbasis] at h
  obtain ⟨_, -, h⟩ := bind_eq_ok.mp h
  obtain ⟨_, -, h⟩ := bind_eq_ok.mp h
  obtain ⟨quantity, -, h⟩ := bind_eq_ok.mp h
  obtain ⟨step, hstep, h⟩ := bind_eq_ok.mp h
  obtain ⟨ps, hps, h⟩ := bind_eq_ok.mp h
  cases h
  exact .inr ⟨quantity, step, ps, hstep, hps, rfl⟩

/--
**注文は head と tail の間にある。** 出す注文はどれも呼ばれた側の向きを持ち、tail が head の
正しい側にあれば、買いは `[tail, head]`、売りは `[head, tail]` の値段を持つ。
-/
theorem createNewOrdersDeriv_price {head tail alloc q : Decimal256} {isBuy : Bool} {state : State}
    {os : List DerivativeOrder} (h : createNewOrdersDeriv head tail alloc q isBuy state = .ok os)
    {o : DerivativeOrder} (ho : o ∈ os) :
    o.isBuy = isBuy ∧ (isBuy = true → tail ≤ head → tail ≤ o.price ∧ o.price ≤ head) ∧
      (isBuy = false → head ≤ tail → head ≤ o.price ∧ o.price ≤ tail) := by
  rcases createNewOrdersDeriv_eq_ok h with rfl | ⟨quantity, step, ps, hstep, hps, rfl⟩
  · exact absurd ho (List.not_mem_nil _)
  obtain ⟨p, hp, rfl⟩ := List.mem_map.mp ho
  obtain ⟨j, -, hj, hlevel⟩ := (ladderPrices_mem hps).2 p hp
  refine ⟨rfl, fun hb hle => ?_, fun hb hle => ?_⟩ <;> subst hb <;>
  · -- `j` 段目の離れ具合は head と tail の距離を超えない
    obtain ⟨dist, hdist, hdist'⟩ := sub_of_le hle
    have hoff : j * step.atomics ≤ dist.atomics := offset_le_dist hstep hdist (by omega)
    simp only [LevelAt, if_true, Bool.false_eq_true, if_false] at hlevel
    simp only [le_def] at hle ⊢
    generalize j * step.atomics = off at hlevel hoff
    omega

/-- **梯子は、tail が head の正しい側にあれば、溢れる以外には落ちない。** -/
theorem createNewOrdersDeriv_failsOnly {head tail alloc q : Decimal256} {isBuy : Bool}
    {state : State} (hb : isBuy = true → tail ≤ head) (hs : isBuy = false → head ≤ tail) :
    FailsOnly Panic.IsOverflow (createNewOrdersDeriv head tail alloc q isBuy state) := by
  have hdiv : ∀ a b, FailsOnly Panic.IsOverflow (divDec a b) := fun a b =>
    (divDec_failsOnly a b).mono fun _ h => .inr (.inr h)
  have hchecked : ∀ n, FailsOnly Panic.IsOverflow (checked n .mulOverflow) := fun n =>
    (checked_failsOnly _ _).mono fun _ h => .inr (.inl h)
  unfold createNewOrdersDeriv
  dsimp only
  refine FailsOnly.ite (fun _ => FailsOnly.ok _) fun _ => ?_
  refine (hchecked _).bind fun density _ => ?_
  refine (FailsOnly.ite (fun _ => (hdiv _ _).bind fun _ _ => hdiv _ _) fun _ => hdiv _ _).bind
    fun _ _ => (mul_failsOnly _ _).bind fun _ _ => ?_
  -- 間隔の計算は、引き算が正しい向きなので溢れる以外には落ちない
  have hdist : FailsOnly Panic.IsOverflow (if isBuy then head.sub tail else tail.sub head) := by
    cases isBuy with
    | true => obtain ⟨_, hd, -⟩ := sub_of_le (hb rfl); rw [if_pos rfl, hd]; exact FailsOnly.ok _
    | false => obtain ⟨_, hd, -⟩ := sub_of_le (hs rfl); rw [if_neg nofun, hd]; exact FailsOnly.ok _
  refine FailsOnly.bind (FailsOnly.ite (fun _ => FailsOnly.ok _) fun _ =>
    hdist.bind fun _ _ => (hchecked _).bind fun _ _ => hdiv _ _) fun step hstep => ?_
  refine FailsOnly.bind (ladderPrices_failsOnly fun hbuy j hj => ?_) fun _ _ => FailsOnly.ok _
  -- 買いの梯子は tail より下に降りない
  subst hbuy
  obtain ⟨dist, hd, hd'⟩ := sub_of_le (hb rfl)
  calc j * step.atomics ≤ dist.atomics := offset_le_dist hstep hd (by omega)
    _ ≤ head.atomics := by rw [hd']; exact Nat.sub_le _ _

end CwInjective
