import CwInjective.Maker.Properties.Quotes

/-!
# 出し直しの判定と設定

`get_action` が設定のどの field を読み、`head_chg_tol` が答えをどう変え、取引所が batch を
そのまま板に載せた後の次の呼び出しが何を返すか。

* `getAction_congr` — `SameQuotes` の field と `head_chg_tol` が等しい設定には同じ答えを返す
* `getAction_ignores_flags` — `is_deriv`、`max_market_data_delay`、`lp_token_address` を
  どう変えても答えは変わらない
* `getAction_headChgTol_mono` — 許容幅を広げても、何も返さない答えは何も返さないままで、
  batch を返す答えは狭い許容幅でも同じ batch を返す
* `getAction_requote_run` — 取引所が答えに従うどの呼び出しの列でも、batch を返した後の答えは
  変わらない。両側に梯子があれば何も返さず、片側でも空なら同じ batch を毎回返す

最後の定理は梯子の最初の段が head であることを使う。梯子は仕様 §4.8 から書いたもの
（`Maker/Derivative.lean`）である。
-/

namespace CwInjective

open Decimal256

/-! ## `get_action` が読む設定 -/

/-- `get_action` が読む設定の field が等しいこと（`head_chg_tol` は別に扱う）。 -/
structure SameQuotes (s s' : State) : Prop where
  marketId : s.marketId = s'.marketId
  subaccountId : s.subaccountId = s'.subaccountId
  feeRecipient : s.feeRecipient = s'.feeRecipient
  leverage : s.leverage = s'.leverage
  orderDensity : s.orderDensity = s'.orderDensity
  reservationParam : s.reservationParam = s'.reservationParam
  spreadParam : s.spreadParam = s'.spreadParam
  activeCapital : s.activeCapital = s'.activeCapital
  tailDistFromMid : s.tailDistFromMid = s'.tailDistFromMid
  minTailDist : s.minTailDist = s'.minTailDist

section Congr

variable {s s' : State}

theorem quoteHeads_congr (h : SameQuotes s s') (invVal : Decimal256) (position : Option WrappedPosition)
    (mid vol : Decimal256) : quoteHeads s invVal position mid vol = quoteHeads s' invVal position mid vol := by
  simp only [quoteHeads, h.reservationParam, h.spreadParam]

theorem createOrders_congr (h : SameQuotes s s') (head tail invVal : Decimal256) (position : Option WrappedPosition)
    (isBuy : Bool) : createOrders head tail invVal position isBuy s =
      createOrders head tail invVal position isBuy s' := by
  simp only [createOrders, createNewOrdersDeriv, h.activeCapital, h.orderDensity, h.leverage,
    h.marketId, h.subaccountId, h.feeRecipient]

theorem placeOrders_congr (h : SameQuotes s s') (contractAddress : String) (invVal : Decimal256)
    (position : Option WrappedPosition) (mid bh sh : Decimal256) :
    placeOrders s contractAddress invVal position mid bh sh =
      placeOrders s' contractAddress invVal position mid bh sh := by
  simp only [placeOrders, createOrders_congr h, h.tailDistFromMid, h.minTailDist, h.subaccountId,
    h.marketId]

/-- **`get_action` が読む設定。** `SameQuotes` の field と `head_chg_tol` が等しい二つの設定には、
どの入力にも同じ答えを返す。 -/
theorem getAction_congr (h : SameQuotes s s') (ht : s.headChgTol = s'.headChgTol) (contractAddress : String)
    (openOrders : List WrappedDerivativeLimitOrder) (deposit : Deposit)
    (position : Option WrappedPosition) (volatility midPrice : String) :
    getAction (some s) contractAddress openOrders deposit position volatility midPrice =
      getAction (some s') contractAddress openOrders deposit position volatility midPrice := by
  simp only [getAction_eq, quoteHeads_congr h, placeOrders_congr h, ht]

end Congr

/--
**`get_action` は三つの設定を読まない。** `is_deriv`（derivative 市場で動くかどうか）、
`max_market_data_delay`（市場のデータの古さの上限）、`lp_token_address` をどう変えても、
どの入力への答えも変わらない。`is_deriv = false` でも derivative の注文を出し、市場のデータが
どれほど古くても答えは同じである。
-/
theorem getAction_ignores_flags (s : State) (isDeriv : Bool) (maxMarketDataDelay : Int)
    (lpTokenAddress contractAddress : String) (openOrders : List WrappedDerivativeLimitOrder)
    (deposit : Deposit) (position : Option WrappedPosition) (volatility midPrice : String) :
    getAction (some { s with isDeriv, maxMarketDataDelay, lpTokenAddress }) contractAddress
        openOrders deposit position volatility midPrice =
      getAction (some s) contractAddress openOrders deposit position volatility midPrice :=
  getAction_congr (by constructor <;> rfl) rfl contractAddress openOrders deposit position
    volatility midPrice

/-! ## 許容幅 -/

/-- 許容幅は判定の成否を変えない。広い許容幅で変えるなら、狭い許容幅でも変える。 -/
theorem headChgIsGtTol_tol_mono {l : List WrappedDerivativeLimitOrder} {h t t' : Decimal256}
    (htt : t ≤ t') {b : Bool} (hb : headChgIsGtTol l h t' = .ok b) :
    ∃ b', headChgIsGtTol l h t = .ok b' ∧ (b = true → b' = true) := by
  cases l with
  | nil => exact ⟨true, rfl, fun _ => rfl⟩
  | cons o rest =>
    obtain ⟨q, hq, hb⟩ := bind_eq_ok.mp hb
    cases hb
    refine ⟨decide (t < q), by simp only [headChgIsGtTol, hq, ok_bind]; rfl, fun hlt => ?_⟩
    exact decide_eq_true (lt_of_le_of_lt htt (of_decide_eq_true hlt))

/-- 二つの側の判定も許容幅に単調である。 -/
theorem headsChanged_tol_mono {l : List WrappedDerivativeLimitOrder} {bh sh t t' : Decimal256}
    (htt : t ≤ t') :
    (headsChanged l bh sh t = .ok false → headsChanged l bh sh t' = .ok false) ∧
      (headsChanged l bh sh t' = .ok true → headsChanged l bh sh t = .ok true) := by
  refine ⟨fun h => ?_, fun h => ?_⟩
  · obtain ⟨⟨pb, hpb, qb, hqb, hb⟩, ps, hps, qs, hqs, hs⟩ := headsChanged_eq_false.mp h
    exact headsChanged_eq_false.mpr ⟨⟨pb, hpb, qb, hqb, hb.trans htt⟩, ps, hps, qs, hqs, hs.trans htt⟩
  · obtain ⟨b, hb, h⟩ := bind_eq_ok.mp h
    obtain ⟨b', hb', himp⟩ := headChgIsGtTol_tol_mono htt hb
    unfold headsChanged
    rw [hb', ok_bind]
    cases b' with
    | true => rfl
    | false =>
      -- 買い側が広い許容幅で変えるなら狭い許容幅でも変えるので、ここでは売り側が決める
      cases b with
      | true => exact absurd (himp rfl) nofun
      | false =>
        obtain ⟨c, hc, himp'⟩ := headChgIsGtTol_tol_mono htt h
        rw [if_neg nofun, hc, himp' rfl]

/--
**許容幅への単調性。** `t ≤ t'` なら、ほかが同じ設定と入力について、

* 許容幅 `t` で何も返さないなら、`t'` でも何も返さない
* 許容幅 `t'` で注文を出すなら、`t` でも同じ答えを返す（出す batch は許容幅に依らない）
-/
theorem getAction_headChgTol_mono {s : State} {t t' : Decimal256} (htt : t ≤ t')
    (contractAddress : String) (openOrders : List WrappedDerivativeLimitOrder) (deposit : Deposit)
    (position : Option WrappedPosition) (volatility midPrice : String) :
    (getAction (some { s with headChgTol := t }) contractAddress openOrders deposit position
        volatility midPrice = .ok { msgs := [] } →
      getAction (some { s with headChgTol := t' }) contractAddress openOrders deposit position
        volatility midPrice = .ok { msgs := [] }) ∧
    ∀ resp : WrappedGetActionResponse, resp.msgs ≠ [] →
      getAction (some { s with headChgTol := t' }) contractAddress openOrders deposit position
          volatility midPrice = .ok resp →
        getAction (some { s with headChgTol := t }) contractAddress openOrders deposit position
          volatility midPrice = .ok resp := by
  have hsame : SameQuotes { s with headChgTol := t } { s with headChgTol := t' } := by
    constructor <;> rfl
  refine ⟨fun h => ?_, fun resp hne h => ?_⟩
  · obtain ⟨mid, vol, bh, sh, changed, hm, hv, hq, hc, h⟩ := getAction_eq_ok.mp h
    cases changed with
    | true => exact absurd rfl (placeOrders_ne_nil h)
    | false =>
      exact getAction_eq_ok.mpr ⟨mid, vol, bh, sh, false, hm, hv,
        by rw [← quoteHeads_congr hsame]; exact hq, (headsChanged_tol_mono htt).1 hc, rfl⟩
  · obtain ⟨mid, vol, bh, sh, changed, hm, hv, hq, hc, h⟩ := getAction_eq_ok.mp h
    cases changed with
    | false => cases h; exact absurd rfl hne
    | true =>
      exact getAction_eq_ok.mpr ⟨mid, vol, bh, sh, true, hm, hv,
        by rw [quoteHeads_congr hsame]; exact hq, (headsChanged_tol_mono htt).2 hc,
        by rw [placeOrders_congr hsame]; exact h⟩

/-- 例：`demoState` の許容幅を 0 から 1 に広げる。 -/
theorem getAction_headChgTol_mono_demo :
    zero ≤ one ∧
      ((getAction (some { demoState with headChgTol := zero }) "maker" [] ⟨one⟩ none "2" "100" =
          .ok { msgs := [] } →
        getAction (some { demoState with headChgTol := one }) "maker" [] ⟨one⟩ none "2" "100" =
          .ok { msgs := [] }) ∧
      ∀ resp : WrappedGetActionResponse, resp.msgs ≠ [] →
        getAction (some { demoState with headChgTol := one }) "maker" [] ⟨one⟩ none "2" "100" =
            .ok resp →
          getAction (some { demoState with headChgTol := zero }) "maker" [] ⟨one⟩ none "2" "100" =
            .ok resp) :=
  ⟨zero_le one, getAction_headChgTol_mono (zero_le one) "maker" [] ⟨one⟩ none "2" "100"⟩

/-! ## 梯子の先頭は head -/

/-- 梯子の最初の値段は `k` 段目にある。 -/
theorem ladderPrices_cons {isBuy : Bool} {head step : Decimal256} {k n : Nat}
    {ps : List Decimal256} (h : ladderPrices isBuy head step k (n + 1) = .ok ps) :
    ∃ p rest, ps = p :: rest ∧ LevelAt isBuy head step k p := by
  obtain ⟨o, ho, h⟩ := bind_eq_ok.mp h
  obtain ⟨p, hp, h⟩ := bind_eq_ok.mp h
  obtain ⟨rest, -, h⟩ := bind_eq_ok.mp h
  cases h
  exact ⟨p, rest, rfl, levelPrice_eq_ok ho hp⟩

/-- `create_orders` の梯子が空でなければ、head の値段の注文がある。 -/
theorem createOrders_head_mem {head tail invVal : Decimal256} {position : Option WrappedPosition}
    {isBuy : Bool} {state : State} {os : List DerivativeOrder}
    (h : createOrders head tail invVal position isBuy state = .ok os) (hne : os ≠ []) :
    ∃ o ∈ os, o.price = head := by
  obtain ⟨alloc, q, h⟩ := createOrders_eq_ok h
  rcases createNewOrdersDeriv_eq_ok h with rfl | ⟨quantity, step, ps, -, hps, rfl⟩
  · exact absurd rfl hne
  cases hd : state.orderDensity.val with
  | zero => rw [hd] at hps; cases hps; exact absurd rfl hne
  | succ n =>
    rw [hd] at hps
    obtain ⟨p, rest, rfl, hp⟩ := ladderPrices_cons hps
    exact ⟨_, List.mem_cons_self _ _, levelAt_zero.mp hp⟩

/-- 注文の列の値段がどれも `head` から `r` の向きにあり、空でなければ `head` の値段を含むなら、
特徴づけで決まる選び方（最高値や最安値）は `head` を選ぶ。 -/
theorem sel_map_price {r : Decimal256 → Decimal256 → Prop}
    {sel : List Decimal256 → Option Decimal256}
    (hsel : ∀ {xs a}, sel xs = some a ↔ a ∈ xs ∧ ∀ b ∈ xs, r a b) (hnil : sel [] = none)
    {os : List DerivativeOrder} {head : Decimal256} (hr : ∀ o ∈ os, r head o.price)
    (hmem : os ≠ [] → ∃ o ∈ os, o.price = head) :
    sel (os.map (·.price)) = os.head?.map fun _ => head := by
  cases os with
  | nil => exact hnil
  | cons o rest =>
    obtain ⟨o', ho', hp⟩ := hmem (List.cons_ne_nil _ _)
    refine hsel.mpr ⟨hp ▸ List.mem_map_of_mem _ ho', fun b hb => ?_⟩
    obtain ⟨o'', ho'', rfl⟩ := List.mem_map.mp hb
    exact hr o'' ho''

/-- 値段の変化が無ければ、相対的な変化は 0。 -/
theorem divDec_subAbs_self (p : Decimal256) : divDec (subAbs p p) p = .ok zero := by
  have h0 : (subAbs p p).atomics = 0 := by simp [subAbs_atomics]
  rcases Nat.eq_zero_or_pos p.atomics with hp | hp
  · exact divDec_eq_ok.mpr (.inl ⟨hp, rfl⟩)
  · exact divDec_eq_ok.mpr (.inr ⟨hp.ne', by rw [h0, Nat.zero_mul, Nat.zero_div]; rfl⟩)

/-- 前の head が新しい head と同じ値段なら変えず、前の head が無ければ変える。 -/
theorem headChgIsGtTol_of_head? {l : List WrappedDerivativeLimitOrder} {os : List DerivativeOrder}
    {h t : Decimal256} (hl : l.head?.map (·.orderInfo.price) = os.head?.map fun _ => h) :
    headChgIsGtTol l h t = .ok os.isEmpty := by
  cases l with
  | nil => cases os with
    | nil => rfl
    | cons _ _ => cases hl
  | cons o rest => cases os with
    | nil => cases hl
    | cons _ _ =>
      cases Option.some.inj hl
      simp only [headChgIsGtTol, divDec_subAbs_self, ok_bind]
      exact congrArg _ (decide_eq_false (not_lt.mpr (zero_le t)))

/-- `any` は `filter` が空でないこと。 -/
theorem any_eq_not_isEmpty_filter {α : Type} (l : List α) (p : α → Bool) :
    l.any p = !(l.filter p).isEmpty := by
  induction l with
  | nil => rfl
  | cons a rest ih => cases hp : p a <;> simp [List.filter_cons, hp, ih]

/-! ## 板に載せた後の次の呼び出し -/

/-- 板の注文の列が batch の注文をそのまま載せたもの：`order_type == 1` の値段は batch の買いの
値段の並べ替え、`== 2` の値段は売りの値段の並べ替えである。 -/
def RestsBatch (book : List WrappedDerivativeLimitOrder) (orders : List DerivativeOrder) : Prop :=
  ((book.filter (·.orderType = 1)).map (·.orderInfo.price)).Perm
      ((orders.filter (·.isBuy)).map (·.price)) ∧
    ((book.filter (·.orderType = 2)).map (·.orderInfo.price)).Perm
      ((orders.filter (!·.isBuy)).map (·.price))

instance (book : List WrappedDerivativeLimitOrder) (orders : List DerivativeOrder) :
    Decidable (RestsBatch book orders) :=
  inferInstanceAs (Decidable (_ ∧ _))

/-- 買いの梯子と売りの梯子を並べた列から、向きで二つに分けると元の梯子に戻る。 -/
theorem filter_ladders {buys sells : List DerivativeOrder} (hbuy : ∀ o ∈ buys, o.isBuy = true)
    (hsell : ∀ o ∈ sells, o.isBuy = false) :
    (buys ++ sells).filter (·.isBuy) = buys ∧ (buys ++ sells).filter (!·.isBuy) = sells := by
  constructor
  · rw [List.filter_append, List.filter_eq_self.mpr hbuy,
      List.filter_eq_nil_iff.mpr fun o ho => by simp [hsell o ho], List.append_nil]
  · rw [List.filter_append, List.filter_eq_nil_iff.mpr fun o ho => by simp [hbuy o ho],
      List.filter_eq_self.mpr fun o ho => by simp [hsell o ho], List.nil_append]

/-- 板が二つの梯子をそのまま載せていれば、それぞれの側の判定は、その側の梯子が空のときだけ
変える。買いの梯子は buy head 以下で head を含み、売りの梯子は sell head 以上で head を含む。 -/
theorem headsChanged_of_rests {book : List WrappedDerivativeLimitOrder}
    {buys sells : List DerivativeOrder} {bh sh : Decimal256}
    (hbuy : ∀ o ∈ buys, o.isBuy = true ∧ o.price ≤ bh)
    (hsell : ∀ o ∈ sells, o.isBuy = false ∧ sh ≤ o.price)
    (hbh : buys ≠ [] → ∃ o ∈ buys, o.price = bh) (hsh : sells ≠ [] → ∃ o ∈ sells, o.price = sh)
    (hrest : RestsBatch book (buys ++ sells)) (t : Decimal256) :
    headsChanged book bh sh t = .ok (buys.isEmpty || sells.isEmpty) := by
  obtain ⟨hfb, hfs⟩ := filter_ladders (fun o ho => (hbuy o ho).1) fun o ho => (hsell o ho).1
  have hbid : (splitOpenOrders book).1.head?.map (·.orderInfo.price) =
      buys.head?.map fun _ => bh := by
    rw [splitOpenOrders_head_buys, bestBid, sel_perm max?_eq_some_iff' hrest.1, hfb]
    exact sel_map_price max?_eq_some_iff' rfl (fun o ho => (hbuy o ho).2) hbh
  have hask : (splitOpenOrders book).2.head?.map (·.orderInfo.price) =
      sells.head?.map fun _ => sh := by
    rw [splitOpenOrders_head_sells, bestAsk, sel_perm min?_eq_some_iff' hrest.2, hfs]
    exact sel_map_price min?_eq_some_iff' rfl (fun o ho => (hsell o ho).2) hsh
  unfold headsChanged
  rw [headChgIsGtTol_of_head? hbid, ok_bind]
  cases buys.isEmpty
  · exact headChgIsGtTol_of_head? hask
  · rfl

/-- batch を板に載せた後の答え。batch が買いと売りの両方を持てば何も返さず、片側でも空なら
同じ batch。 -/
def requoteAnswer (batch : MsgBatchUpdateOrders) : WrappedGetActionResponse :=
  if batch.derivativeOrdersToCreate.any (·.isBuy) && batch.derivativeOrdersToCreate.any (!·.isBuy)
  then { msgs := [] } else { msgs := [.batchUpdateOrders batch] }

/-- 一回の出し直し。`get_action` が batch を返し、取引所がその注文をそのまま板に載せたなら、
同じ設定と市場の入力での次の `get_action` は `requoteAnswer` を返す。 -/
theorem getAction_rested {state : State} {contractAddress : String}
    {book₀ book₁ : List WrappedDerivativeLimitOrder} {deposit : Deposit}
    {position : Option WrappedPosition} {volatility midPrice : String}
    {batch : MsgBatchUpdateOrders}
    (h : getAction (some state) contractAddress book₀ deposit position volatility midPrice =
      .ok { msgs := [.batchUpdateOrders batch] })
    (hrest : RestsBatch book₁ batch.derivativeOrdersToCreate) :
    getAction (some state) contractAddress book₁ deposit position volatility midPrice =
      .ok (requoteAnswer batch) := by
  obtain ⟨mid, vol, bh, sh, changed, hm, hv, hq, -, h⟩ := getAction_eq_ok.mp h
  cases changed with
  | false => cases h
  | true =>
  obtain ⟨bt, st, buys, sells, ht, hbuys, hsells, hresp⟩ := placeOrders_eq_ok h
  obtain ⟨hbt, hst⟩ := newTailPrices_around_heads ht
  have hbatch : batch.derivativeOrdersToCreate = buys ++ sells := by
    simp only [WrappedGetActionResponse.mk.injEq, List.cons.injEq,
      ExchangeMsg.batchUpdateOrders.injEq, and_true] at hresp
    rw [hresp]
  -- 買いの梯子は buy head 以下、売りの梯子は sell head 以上にある
  have hbuy : ∀ o ∈ buys, o.isBuy = true ∧ o.price ≤ bh := fun o ho => by
    obtain ⟨hb, hp, -⟩ := createOrders_price hbuys ho
    exact ⟨hb, (hp rfl hbt).2⟩
  have hsell : ∀ o ∈ sells, o.isBuy = false ∧ sh ≤ o.price := fun o ho => by
    obtain ⟨hb, -, hp⟩ := createOrders_price hsells ho
    exact ⟨hb, (hp rfl hst).1⟩
  obtain ⟨hfb, hfs⟩ := filter_ladders (fun o ho => (hbuy o ho).1) fun o ho => (hsell o ho).1
  refine getAction_eq_ok.mpr ⟨mid, vol, bh, sh, _, hm, hv, hq, headsChanged_of_rests hbuy hsell
    (createOrders_head_mem hbuys) (createOrders_head_mem hsells) (hbatch ▸ hrest) _, ?_⟩
  rw [requoteAnswer, any_eq_not_isEmpty_filter, any_eq_not_isEmpty_filter, hbatch, hfb, hfs]
  cases buys.isEmpty <;> cases sells.isEmpty <;> first | rfl | exact h

/-! ## 取引所と交互に呼ぶ -/

/-- 取引所が `act` の答えに従う板の列。batch が返れば次の板はその注文をそのまま載せ、何も
返らなければ次の板は前と同じ。 -/
def FollowsActions (act : List WrappedDerivativeLimitOrder → Except Panic WrappedGetActionResponse) :
    List (List WrappedDerivativeLimitOrder) → Prop
  | book :: next :: rest =>
    (∀ batch : MsgBatchUpdateOrders, act book = .ok { msgs := [.batchUpdateOrders batch] } →
      RestsBatch next batch.derivativeOrdersToCreate) ∧
    (act book = .ok { msgs := [] } → next = book) ∧ FollowsActions act (next :: rest)
  | _ => True

section Run

variable {state : State} {contractAddress : String} {deposit : Deposit}
  {position : Option WrappedPosition} {volatility midPrice : String}

/-- `requoteAnswer` は一度返ればその後も返り続ける。何も返さなければ板は変わらず、片側だけの
batch を返せば、それを載せた板でも同じ batch を返す。 -/
theorem getAction_requoteAnswer_run {batch : MsgBatchUpdateOrders} :
    ∀ {book : List WrappedDerivativeLimitOrder} {rest : List (List WrappedDerivativeLimitOrder)},
      FollowsActions (fun b => getAction (some state) contractAddress b deposit position volatility
        midPrice) (book :: rest) →
      getAction (some state) contractAddress book deposit position volatility midPrice =
        .ok (requoteAnswer batch) →
      ∀ b ∈ rest, getAction (some state) contractAddress b deposit position volatility midPrice =
        .ok (requoteAnswer batch)
  | _, [], _, _ => nofun
  | book, next :: rest, hrun, h => by
    have hnext : getAction (some state) contractAddress next deposit position volatility midPrice =
        .ok (requoteAnswer batch) := by
      by_cases htwo : (batch.derivativeOrdersToCreate.any (·.isBuy) &&
          batch.derivativeOrdersToCreate.any (!·.isBuy)) = true
      · -- 何も返さないので板は変わらない
        have hq : requoteAnswer batch = { msgs := [] } := if_pos htwo
        rw [hq] at h ⊢
        rw [hrun.2.1 h]
        exact h
      · -- 片側だけの batch を載せた板でも同じ batch を返す
        have hb : requoteAnswer batch = { msgs := [.batchUpdateOrders batch] } := if_neg htwo
        rw [hb] at h
        exact getAction_rested h (hrun.1 batch h)
    intro b hb
    rcases List.mem_cons.mp hb with rfl | hb
    · exact hnext
    · exact getAction_requoteAnswer_run hrun.2.2 hnext b hb

/--
**出し直しの後の答えは変わらない。** 設定と市場の入力を固め、取引所が毎回 `get_action` の答えに
従う（batch を返せばその注文をそのまま板に載せ、何も返さなければ板を変えない）とする。
ある回の `get_action` が batch を返したなら、その後のどの回も同じ答えを返す。batch が買いと
売りの両方を持てば何も返さず、片側でも空なら同じ batch を毎回出し直す。許容幅の値に依らない。
-/
theorem getAction_requote_run {book : List WrappedDerivativeLimitOrder}
    {rest : List (List WrappedDerivativeLimitOrder)} {batch : MsgBatchUpdateOrders}
    (hrun : FollowsActions (fun b => getAction (some state) contractAddress b deposit position
      volatility midPrice) (book :: rest))
    (h : getAction (some state) contractAddress book deposit position volatility midPrice =
      .ok { msgs := [.batchUpdateOrders batch] }) :
    ∀ b ∈ rest, getAction (some state) contractAddress b deposit position volatility midPrice =
      .ok (requoteAnswer batch) := by
  cases rest with
  | nil => exact nofun
  | cons next rest =>
    have hnext := getAction_rested h (hrun.1 batch h)
    intro b hb
    rcases List.mem_cons.mp hb with rfl | hb
    · exact hnext
    · exact getAction_requoteAnswer_run hrun.2.2 hnext b hb

end Run

/-- 板に載った例の batch。 -/
def demoBook : List WrappedDerivativeLimitOrder :=
  let order (price : Nat) (orderType : Int) (hp : price < uintSize) : WrappedDerivativeLimitOrder :=
    { orderInfo := { subaccountId := "maker", feeRecipient := "maker", price := ⟨price, hp⟩,
                     quantity := one },
      orderType, margin := zero, fillable := one, triggerPrice := none, orderHash := [] }
  [order (101 * fractional) 2 (by decide), order (95 * fractional) 1 (by decide),
    order (105 * fractional) 2 (by decide), order (99 * fractional) 1 (by decide)]

/-- 例：空の板から始め、`demoBatch` を載せた板で二回呼ぶ。二回とも何も返さない。 -/
theorem getAction_requote_run_demo :
    FollowsActions (fun b => getAction (some demoState) "maker" b ⟨⟨198 * fractional, by decide⟩⟩
        none "2" "100") [[], demoBook, demoBook] ∧
      getAction (some demoState) "maker" [] ⟨⟨198 * fractional, by decide⟩⟩ none "2" "100" =
        .ok { msgs := [.batchUpdateOrders demoBatch] } ∧
      ∀ b ∈ [demoBook, demoBook], getAction (some demoState) "maker" b
        ⟨⟨198 * fractional, by decide⟩⟩ none "2" "100" = .ok (requoteAnswer demoBatch) :=
  have h₀ : getAction (some demoState) "maker" [] ⟨⟨198 * fractional, by decide⟩⟩ none "2" "100" =
      .ok { msgs := [.batchUpdateOrders demoBatch] } := by decide
  have hrest : RestsBatch demoBook demoBatch.derivativeOrdersToCreate := by decide
  -- 板に載せた後は何も返さない（`requoteAnswer demoBatch` は空の答え）
  have h₁ : getAction (some demoState) "maker" demoBook ⟨⟨198 * fractional, by decide⟩⟩ none "2"
      "100" = .ok { msgs := [] } :=
    (getAction_rested h₀ hrest).trans (congrArg Except.ok (by decide))
  have hrun : FollowsActions (fun b => getAction (some demoState) "maker" b
      ⟨⟨198 * fractional, by decide⟩⟩ none "2" "100") [[], demoBook, demoBook] := by
    refine ⟨fun batch hb => ?_, fun hq => ?_, fun batch hb => ?_, fun _ => rfl, trivial⟩
    · dsimp only at hb; rw [h₀] at hb; cases hb; exact hrest
    · dsimp only at hq; rw [h₀] at hq; cases hq
    · dsimp only at hb; rw [h₁] at hb; cases hb
  ⟨hrun, h₀, getAction_requote_run hrun h₀⟩

end CwInjective
