import CwInjective.Maker.Contract

/-!
# LP token の address

`instantiate` は LP token の cw20 contract を作る submessage を出し、保存する
`lp_token_address` には仮の `"LP-Token"` を入れる。子 contract ができると id 1 の `reply` が
その address を `addr_validate` に通して書き込む。`mint_to_user` と `burn_from_user` は、その時に
保存されている address に cw20 のメッセージを送る。

* `run_lpTokenAfter` — どの呼び出しの列の後も、保存される `lp_token_address` は最後に受け入れ
  られた `reply` の address（無ければ元の値）で、ほかの field は変わらない
* `lpToken_follows_replies` — `instantiate` の後のどの呼び出しの列の後でも、成功した
  `MintToUser` / `BurnFromUser` は、最後に受け入れられた子 contract（無ければ `"LP-Token"`）
  に cw20 の `Mint` / `BurnFrom` を一つだけ送る
-/

namespace CwInjective

section LpToken

variable (addrValidate : String → Except StdError String)
  (onlyOwner : String → String → Except Panic Unit)

/-- `reply` が受け入れて書き込む子 contract の address。id が 1 で、address が読み出せて、
`addr_validate` を通るときだけある。 -/
def acceptedChild (msg : Reply) : Option String :=
  if msg.id = instantiateReplyId then
    msg.contractAddress.bind fun res => (addrValidate res).toOption
  else none

/-- 呼び出しの列の後の LP token の address。受け入れられた `reply` ごとに置き換わり、ほかの
呼び出しでは変わらない。 -/
def lpTokenAfter (addr : String) : List Call → String
  | [] => addr
  | .reply msg :: rest => lpTokenAfter ((acceptedChild addrValidate msg).getD addr) rest
  | _ :: rest => lpTokenAfter addr rest

/-- `execute` のメッセージが LP token に送る cw20 のメッセージ。 -/
def ExecuteMsg.cw20Msg : ExecuteMsg → Cw20ExecuteMsg
  | .mintToUser subaccountIdSender amount => .mint subaccountIdSender amount
  | .burnFromUser subaccountIdSender amount => .burnFrom subaccountIdSender amount

/-- `reply` の後の保存領域。受け入れられれば `lp_token_address` だけが変わり、そうでなければ
巻き戻って変わらない。 -/
theorem step_reply (s : State) (msg : Reply) :
    (Call.reply msg).step addrValidate (some s) =
      some { s with lpTokenAddress := (acceptedChild addrValidate msg).getD s.lpTokenAddress } := by
  simp only [Call.step, CwInjective.reply, acceptedChild]
  split_ifs with hid
  · unfold handleInstantiateReply
    cases hc : msg.contractAddress with
    | none => rfl
    | some res =>
      cases hv : addrValidate res <;> simp [unwrap, hv, Except.toOption, pure, Except.pure]
  · rfl

/-- **呼び出しの列の後の `lp_token_address`。** 最後に受け入れられた `reply` の address で、
無ければ元のまま。ほかの field は変わらない。 -/
theorem run_lpTokenAfter : ∀ (calls : List Call) (s : State),
    run addrValidate (some s) calls =
      some { s with lpTokenAddress := lpTokenAfter addrValidate s.lpTokenAddress calls }
  | [], _ => rfl
  | .reply msg :: rest, s => by
    rw [run, step_reply, run_lpTokenAfter rest]
    rfl
  | .execute _ _ :: rest, s => run_lpTokenAfter rest s
  | .query _ :: rest, s => run_lpTokenAfter rest s

/-- `mint_to_user` と `burn_from_user` の共通の形の spec。設定が保存されていて `only_owner` が
panic しなければ、保存された LP token の address に cw20 のメッセージを一つだけ送る。 -/
theorem sendToLpToken_eq_ok {storage : Option State} {contractAddress sender : String}
    {cw20Msg : Cw20ExecuteMsg} {resp : Response}
    (h : sendToLpToken onlyOwner storage contractAddress sender cw20Msg = .ok resp) :
    ∃ s, storage = some s ∧ onlyOwner contractAddress sender = .ok () ∧
      resp = { messages :=
        [{ msg := .execute s.lpTokenAddress cw20Msg, replyOnSuccess := none }] } := by
  obtain ⟨s, hs, h⟩ := bind_eq_ok.mp h
  obtain ⟨u, hu, h⟩ := bind_eq_ok.mp h
  cases h
  exact ⟨s, unwrap_eq_ok.mp hs, hu, rfl⟩

/-- **`execute` の spec。** 成功するのは設定が保存されていて `only_owner` が panic しないときで、
保存された LP token の address に cw20 のメッセージを一つだけ送り、`reply` は頼まない。 -/
theorem execute_eq_ok {storage : Option State} {contractAddress sender : String}
    {msg : ExecuteMsg} {resp : Response}
    (h : execute onlyOwner storage contractAddress sender msg = .ok resp) :
    ∃ s, storage = some s ∧ onlyOwner contractAddress sender = .ok () ∧
      resp = { messages :=
        [{ msg := .execute s.lpTokenAddress msg.cw20Msg, replyOnSuccess := none }] } := by
  cases msg <;> exact sendToLpToken_eq_ok onlyOwner h

/--
**LP token へのメッセージは最後に受け入れられた子 contract に届く。** `instantiate` が返した後の
どの呼び出しの列の後でも、保存領域は `instantiate` の設定の `lp_token_address` を
`lpTokenAfter "LP-Token"` に替えたものである。そこで成功した `MintToUser` / `BurnFromUser` は
`only_owner` を通っていて、その address に cw20 の `Mint` / `BurnFrom` を一つだけ送る。
子 contract の `reply` がまだ受け入れられていなければ、送り先は仮の `"LP-Token"` である。
-/
theorem lpToken_follows_replies {contractAddress : String} {msg : InstantiateMsg}
    {resp₀ : Response} {s₀ : State} (h₀ : instantiate contractAddress msg = .ok (resp₀, s₀))
    (calls : List Call) :
    run addrValidate (some s₀) calls =
        some { s₀ with lpTokenAddress := lpTokenAfter addrValidate "LP-Token" calls } ∧
      ∀ sender em resp,
        execute onlyOwner (run addrValidate (some s₀) calls) contractAddress sender em = .ok resp →
        onlyOwner contractAddress sender = .ok () ∧
          resp.messages =
            [{ msg := .execute (lpTokenAfter addrValidate "LP-Token" calls) em.cw20Msg,
               replyOnSuccess := none }] := by
  have hrun := run_lpTokenAfter addrValidate calls s₀
  rw [(instantiate_eq_ok h₀).1.lpTokenAddress] at hrun
  refine ⟨hrun, fun sender em resp h => ?_⟩
  obtain ⟨s, hs, hown, rfl⟩ := execute_eq_ok onlyOwner h
  rw [hrun] at hs
  cases hs
  exact ⟨hown, rfl⟩

end LpToken

/-- 例のメッセージ。 -/
def lpDemoMsg : InstantiateMsg :=
  { marketId := "market", subAccount := "maker", feeRecipient := "maker", isDeriv := true,
    leverage := "1", orderDensity := "1", maxMarketDataDelay := "0", reservationParam := "0",
    spreadParam := "0", activeCapital := "1", headChgTolBp := "0", tailDistFromMidBp := "0",
    minTailDistBp := "0", cw20CodeId := "7", lpName := "LP", lpSymbol := "LP", lpDecimals := "6" }

/-- そのメッセージから保存される設定。 -/
def lpDemoState : State :=
  { marketId := "market", subaccountId := "maker", feeRecipient := "maker", isDeriv := true,
    leverage := Decimal256.one, orderDensity := ⟨1, by decide⟩, maxMarketDataDelay := 0,
    reservationParam := Decimal256.zero, spreadParam := Decimal256.zero,
    activeCapital := Decimal256.one, headChgTol := Decimal256.zero,
    tailDistFromMid := Decimal256.zero, minTailDist := Decimal256.zero,
    lpTokenAddress := "LP-Token" }

/-- 例：子 contract `lp` の `reply` を受け入れた後の mint と burn は `lp` に届く。 -/
theorem lpToken_follows_replies_demo :
    instantiate "maker" lpDemoMsg =
        .ok ({ messages := [{
          msg := .instantiate none 7
            { name := "LP", symbol := "LP", decimals := 6, initialBalances := [],
              minter := "maker", cap := none } "LP-Token",
          replyOnSuccess := some instantiateReplyId }] }, lpDemoState) ∧
      run (fun a => .ok a) (some lpDemoState) [.reply ⟨1, some "lp"⟩] =
          some { lpDemoState with lpTokenAddress := "lp" } ∧
        ∀ sender em resp,
          execute (fun _ _ => .ok ()) (run (fun a => .ok a) (some lpDemoState)
            [.reply ⟨1, some "lp"⟩]) "maker" sender em = .ok resp →
          (.ok () : Except Panic Unit) = .ok () ∧
            resp.messages = [{ msg := .execute "lp" em.cw20Msg, replyOnSuccess := none }] :=
  have h₀ : instantiate "maker" lpDemoMsg =
      .ok ({ messages := [{
        msg := .instantiate none 7
          { name := "LP", symbol := "LP", decimals := 6, initialBalances := [],
            minter := "maker", cap := none } "LP-Token",
        replyOnSuccess := some instantiateReplyId }] }, lpDemoState) := by decide
  ⟨h₀, lpToken_follows_replies (fun a => .ok a) (fun _ _ => .ok ()) h₀ [.reply ⟨1, some "lp"⟩]⟩

end CwInjective
