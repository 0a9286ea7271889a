import CwInjective.Maker.Contract

/-!
# `instantiate` の前

保存領域が空のうちは、どの入口も設定を作れず、成功もしない。書き込むのは `instantiate` と
id 1 の `reply` だけで、`reply` は子 contract の address を検査した後に保存された設定を
`load().unwrap()` するので、設定が無ければ panic して巻き戻る。

* `uninstantiated_calls_fail` — 空の保存領域からのどの呼び出しの列の後も保存領域は空のままで、
  `execute` と `GetAction` は panic し、`reply` は成功せず、`Config` は `not_found` を返す
-/

namespace CwInjective

section Lifecycle

variable (addrValidate : String → Except StdError String)
  (onlyOwner : String → String → Except Panic Unit)

/-- 設定が無ければ `reply` は成功しない。 -/
theorem reply_none_ne_ok (msg : Reply) (r : Response × State) :
    reply addrValidate none msg ≠ .ok (.ok r) := fun h => by
  obtain ⟨old, hold, -⟩ := reply_eq_ok addrValidate h
  cases hold

/-- 空の保存領域は、どの呼び出しの後も空のまま。 -/
theorem step_none (c : Call) : c.step addrValidate none = none := by
  cases c with
  | reply msg =>
    simp only [Call.step]
    split
    · next h => exact absurd h (reply_none_ne_ok addrValidate msg _)
    · rfl
  | execute => rfl
  | query => rfl

theorem run_none : ∀ calls : List Call, run addrValidate none calls = none
  | [] => rfl
  | c :: rest => by rw [run, step_none, run_none rest]

/-- 設定が無ければ `get_action` は panic する。mid price か volatility が読めなくても、
読めても `storage` の `unwrap` で落ちる。 -/
theorem getAction_none (contractAddress : String) (openOrders : List WrappedDerivativeLimitOrder)
    (deposit : Deposit) (position : Option WrappedPosition) (volatility midPrice : String) :
    getAction none contractAddress openOrders deposit position volatility midPrice = .error .unwrap := by
  unfold getAction
  cases Decimal256.fromStr midPrice <;> cases Decimal256.fromStr volatility <;> rfl

/--
**`instantiate` の前の呼び出し。** 空の保存領域からは、

* どの呼び出しの列の後も保存領域は空のまま
* `execute` はどの送り手のどのメッセージにも `unwrap` で panic する
* `reply` はどの id とどの address でも成功しない
* `Config` の query は `not_found` を返し、`GetAction` の query は `unwrap` で panic する
-/
theorem uninstantiated_calls_fail (calls : List Call) :
    run addrValidate none calls = none ∧
    (∀ contractAddress sender msg,
      execute onlyOwner none contractAddress sender msg = .error .unwrap) ∧
    (∀ msg r, reply addrValidate none msg ≠ .ok (.ok r)) ∧
    (∀ contractAddress, query none contractAddress .config = .ok (.error (.notFound "State"))) ∧
    (∀ contractAddress openOrders deposit position volatility midPrice,
      query none contractAddress (.getAction openOrders deposit position volatility midPrice) =
        .error .unwrap) :=
  ⟨run_none addrValidate calls, fun _ _ msg => by cases msg <;> rfl,
    reply_none_ne_ok addrValidate, fun _ => rfl,
    fun contractAddress openOrders deposit position volatility midPrice => by
      simp only [query, getAction_none, error_bind]⟩

end Lifecycle

end CwInjective
