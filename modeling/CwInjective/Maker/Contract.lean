import CwInjective.Exchange.Types
import CwInjective.Maker.GetAction

/-!
# 契約の入口

`contract.rs` の四つの入口 `instantiate`、`reply`、`execute`、`query`。保存領域は
`CONFIG_KEY` の `State` 一つで、`Option State` で表す。

一つの呼び出しは tx として原子的である。`Err` を返すか panic すれば、その呼び出しの書き込みは
すべて巻き戻る。`execute` と `query` は保存領域に書かない（`query` は `Deps` しか持たず、
`execute` の二つの handler は読むだけである）。書くのは `instantiate` と、id が 1 の `reply`
だけで、`reply` が変えるのは `lp_token_address` だけである。

`risk_management::only_owner` は src に無く、仕様も書かない。戻り値は捨てられるので、panic
するかどうかだけが意味を持つ。`deps.api.addr_validate` は chain の側の関数である。どちらも
引数にする。`parse_reply_instantiate_data` は子 contract の address を読み出せるかどうかだけを
`Reply` に持たせる。

* `run_keeps_config` — `instantiate` の後のどの呼び出しの列も、保存された `State` の
  `lp_token_address` 以外の field を変えない
* `contract_config_after_instantiate` — `instantiate` は文字列が読めないときにしか落ちず、
  数値の field がすべて読めれば必ず成功して、読んだ値を検査せずに保存する。その後の保存領域が
  不変条件を満たすのは、読んだ値が満たすときだけである
* `instantiate_accepts_out_of_range` — `reservation_param = "2"` も受け付けて保存し、その後の
  どの呼び出しの列の後も不変条件は破れたままである
-/

namespace CwInjective

open Decimal256

/-! ## メッセージ -/

/-- `InstantiateMsg`。 -/
structure InstantiateMsg where
  marketId : String
  subAccount : String
  feeRecipient : String
  isDeriv : Bool
  leverage : String
  orderDensity : String
  maxMarketDataDelay : String
  reservationParam : String
  spreadParam : String
  activeCapital : String
  headChgTolBp : String
  tailDistFromMidBp : String
  minTailDistBp : String
  cw20CodeId : String
  lpName : String
  lpSymbol : String
  lpDecimals : String
  deriving DecidableEq

/-- cw20 の `InstantiateMsg`。 -/
structure Cw20InstantiateMsg where
  name : String
  symbol : String
  decimals : Nat
  initialBalances : List (String × Nat)
  minter : String
  cap : Option Nat
  deriving DecidableEq

/-- `Cw20ExecuteMsg` のうち、この契約が送るもの。 -/
inductive Cw20ExecuteMsg where
  | mint (recipient : String) (amount : Nat)
  | burnFrom (owner : String) (amount : Nat)
  deriving DecidableEq

/-- `WasmMsg`。`funds` はどれも空なので持たない。 -/
inductive WasmMsg where
  | instantiate (admin : Option String) (codeId : Nat) (msg : Cw20InstantiateMsg) (label : String)
  | execute (contractAddr : String) (msg : Cw20ExecuteMsg)
  deriving DecidableEq

/-- `SubMsg`。`replyOnSuccess` は成功したときに `reply` へ渡す id。 -/
structure SubMsg where
  msg : WasmMsg
  replyOnSuccess : Option Nat
  deriving DecidableEq

/-- `Response`。 -/
structure Response where
  messages : List SubMsg
  deriving DecidableEq

/-- `Reply`。`contractAddress` は `parse_reply_instantiate_data` が読み出せた子 contract の
address で、読み出せなければ `none`。 -/
structure Reply where
  id : Nat
  contractAddress : Option String
  deriving DecidableEq

/-- `ExecuteMsg`。 -/
inductive ExecuteMsg where
  | mintToUser (subaccountIdSender : String) (amount : Nat)
  | burnFromUser (subaccountIdSender : String) (amount : Nat)
  deriving DecidableEq

/-- `QueryMsg`。`GetAction` の `market`、二つの perpetual の情報、`oracle_price` は
`get_action` が使わないので持たない。 -/
inductive QueryMsg where
  | config
  | getAction (openOrders : List WrappedDerivativeLimitOrder) (deposit : Deposit)
    (position : Option WrappedPosition) (volatility midPrice : String)

/-- query の答え（`to_binary` の前の値）。 -/
inductive QueryResponse where
  | config (state : State)
  | action (response : WrappedGetActionResponse)
  deriving DecidableEq

/-! ## `instantiate` -/

/-- `INSTANTIATE_REPLY_ID`。 -/
def instantiateReplyId : Nat := 1

/--
`instantiate`。メッセージの文字列を読んで `State` を作り、保存し、LP token の cw20 を作る
submessage を返す。値の範囲は検査しない。`save` と `to_binary` の `?` は、この型では
失敗しない。
-/
def instantiate (contractAddress : String) (msg : InstantiateMsg) :
    Except Panic (Response × State) := do
  let leverage ← unwrap (Decimal256.fromStr msg.leverage)
  let orderDensity ← unwrap (Uint256.fromStr msg.orderDensity)
  let maxMarketDataDelay ← unwrap (parseI64 msg.maxMarketDataDelay)
  let reservationParam ← unwrap (Decimal256.fromStr msg.reservationParam)
  let spreadParam ← unwrap (Decimal256.fromStr msg.spreadParam)
  let activeCapital ← unwrap (Decimal256.fromStr msg.activeCapital)
  let headChgTol ← bpToDec (← unwrap (Decimal256.fromStr msg.headChgTolBp))
  let tailDistFromMid ← bpToDec (← unwrap (Decimal256.fromStr msg.tailDistFromMidBp))
  let minTailDist ← bpToDec (← unwrap (Decimal256.fromStr msg.minTailDistBp))
  let state : State :=
    { marketId := msg.marketId, subaccountId := msg.subAccount, feeRecipient := msg.feeRecipient,
      isDeriv := msg.isDeriv, leverage, orderDensity, maxMarketDataDelay, reservationParam,
      spreadParam, activeCapital, headChgTol, tailDistFromMid, minTailDist,
      lpTokenAddress := "LP-Token" }
  let codeId ← unwrap (parseU64 msg.cw20CodeId)
  let decimals ← unwrap (parseU8 msg.lpDecimals)
  let cw20InstantiateMsg : Cw20InstantiateMsg :=
    { name := msg.lpName, symbol := msg.lpSymbol, decimals := decimals.toNat,
      initialBalances := [], minter := contractAddress, cap := none }
  let instantiateMessage : WasmMsg :=
    .instantiate none codeId.toNat cw20InstantiateMsg "LP-Token"
  let submessage : SubMsg := { msg := instantiateMessage, replyOnSuccess := some instantiateReplyId }
  pure ({ messages := [submessage] }, state)

section Entry

variable (addrValidate : String → Except StdError String)
  (onlyOwner : String → String → Except Panic Unit)

/-! ## `reply` -/

/-- `handle_instantiate_reply`。子 contract の address を検査して `lp_token_address` に書く。 -/
def handleInstantiateReply (storage : Option State) (msg : Reply) :
    Except Panic (Except StdError (Response × State)) := do
  let res ← unwrap msg.contractAddress
  match addrValidate res with
  | .error e => pure (.error e)
  | .ok childContract =>
    let state ← unwrap storage
    pure (.ok ({ messages := [] }, { state with lpTokenAddress := childContract }))

/-- `reply`。id が 1 でなければ `Err` を返す。 -/
def reply (storage : Option State) (msg : Reply) :
    Except Panic (Except StdError (Response × State)) :=
  if msg.id = instantiateReplyId then handleInstantiateReply addrValidate storage msg
  else pure (.error (.genericErr ("Unknown reply id: " ++ toString msg.id)))

/-! ## `execute` -/

/-- `mint_to_user` と `burn_from_user` の共通の形。設定を読み、`only_owner` を呼び、LP token の
contract に cw20 のメッセージを一つ送る。保存領域には書かない。 -/
def sendToLpToken (storage : Option State) (contractAddress sender : String)
    (cw20Msg : Cw20ExecuteMsg) : Except Panic Response := do
  let state ← unwrap storage
  let lpTokenAddress := state.lpTokenAddress
  onlyOwner contractAddress sender
  pure { messages := [{ msg := .execute lpTokenAddress cw20Msg, replyOnSuccess := none }] }

/-- `mint_to_user`。 -/
def mintToUser (storage : Option State) (contractAddress sender subaccountIdSender : String)
    (amount : Nat) : Except Panic Response :=
  sendToLpToken onlyOwner storage contractAddress sender (.mint subaccountIdSender amount)

/-- `burn_from_user`。 -/
def burnFromUser (storage : Option State) (contractAddress sender subaccountIdSender : String)
    (amount : Nat) : Except Panic Response :=
  sendToLpToken onlyOwner storage contractAddress sender (.burnFrom subaccountIdSender amount)

/-- `execute`。 -/
def execute (storage : Option State) (contractAddress sender : String) :
    ExecuteMsg → Except Panic Response
  | .mintToUser subaccountIdSender amount =>
    mintToUser onlyOwner storage contractAddress sender subaccountIdSender amount
  | .burnFromUser subaccountIdSender amount =>
    burnFromUser onlyOwner storage contractAddress sender subaccountIdSender amount

/-! ## `query` -/

/-- `query`。`Config` は保存された設定を読み、無ければ `not_found` を返す。 -/
def query (storage : Option State) (contractAddress : String) :
    QueryMsg → Except Panic (Except StdError QueryResponse)
  | .config => pure (match storage with
    | some state => .ok (.config state)
    | none => .error (.notFound "State"))
  | .getAction openOrders deposit position volatility midPrice => do
    let response ← getAction storage contractAddress openOrders deposit position volatility midPrice
    pure (.ok (.action response))

/-! ## 呼び出しの列 -/

/-- `instantiate` の後に来る呼び出し。 -/
inductive Call where
  | reply (msg : Reply)
  | execute (sender : String) (msg : ExecuteMsg)
  | query (msg : QueryMsg)

/--
一つの呼び出しの後の保存領域。`reply` が `Ok` を返せばその `State` が保存され、`Err` か
panic なら巻き戻る。`execute` と `query` は書き込みを持たないので、結果によらず変わらない。
-/
def Call.step (storage : Option State) : Call → Option State
  | .reply msg => match CwInjective.reply addrValidate storage msg with
    | .ok (.ok (_, state)) => some state
    | _ => storage
  | .execute _ _ => storage
  | .query _ => storage

/-- 呼び出しの列を順に実行した後の保存領域。 -/
def run (storage : Option State) : List Call → Option State
  | [] => storage
  | c :: rest => run (c.step addrValidate storage) rest

/-- 返事の処理が成功すれば、保存されるのは読んだ設定の `lp_token_address` を変えたもの。 -/
theorem reply_eq_ok {storage : Option State} {msg : Reply} {resp : Response} {state : State}
    (h : reply addrValidate storage msg = .ok (.ok (resp, state))) :
    ∃ old, storage = some old ∧ ∃ a, state = { old with lpTokenAddress := a } := by
  unfold reply handleInstantiateReply at h
  split at h
  · obtain ⟨res, -, h⟩ := bind_eq_ok.mp h
    split at h
    · cases h
    · obtain ⟨old, hold, h⟩ := bind_eq_ok.mp h
      cases h
      exact ⟨old, unwrap_eq_ok.mp hold, _, rfl⟩
  · cases h

/-- **一つの呼び出しは `lp_token_address` 以外の field を変えない。** -/
theorem step_keeps_config (c : Call) (s : State) :
    ∃ a, c.step addrValidate (some s) = some { s with lpTokenAddress := a } := by
  cases c with
  | reply msg =>
    simp only [Call.step]
    split
    · next state h =>
      obtain ⟨old, hold, a, rfl⟩ := reply_eq_ok addrValidate h
      cases hold
      exact ⟨a, rfl⟩
    · exact ⟨s.lpTokenAddress, rfl⟩
  | execute => exact ⟨s.lpTokenAddress, rfl⟩
  | query => exact ⟨s.lpTokenAddress, rfl⟩

/-- **呼び出しの列も `lp_token_address` 以外の field を変えない。** -/
theorem run_keeps_config : ∀ (calls : List Call) (s : State),
    ∃ a, run addrValidate (some s) calls = some { s with lpTokenAddress := a }
  | [], s => ⟨s.lpTokenAddress, rfl⟩
  | c :: rest, s => by
    obtain ⟨a, ha⟩ := step_keeps_config addrValidate c s
    obtain ⟨b, hb⟩ := run_keeps_config rest { s with lpTokenAddress := a }
    exact ⟨b, by rw [run, ha, hb]⟩

end Entry

/-! ## `instantiate` が保存する値 -/

/--
`instantiate` が保存する設定。数値の field はメッセージの文字列を読んだ値、文字列と `is_deriv`
はメッセージから写した値、`lp_token_address` は `reply` が書くまでの仮の `"LP-Token"` である。
メッセージを決めれば、これを満たす `State` は一つしかない（`StoresParsed.unique`）。値の範囲に
ついては何も言わない。
-/
structure StoresParsed (msg : InstantiateMsg) (s : State) : Prop where
  marketId : s.marketId = msg.marketId
  subaccountId : s.subaccountId = msg.subAccount
  feeRecipient : s.feeRecipient = msg.feeRecipient
  isDeriv : s.isDeriv = msg.isDeriv
  leverage : Decimal256.fromStr msg.leverage = some s.leverage
  orderDensity : Uint256.fromStr msg.orderDensity = some s.orderDensity
  maxMarketDataDelay : parseI64 msg.maxMarketDataDelay = some s.maxMarketDataDelay
  reservationParam : Decimal256.fromStr msg.reservationParam = some s.reservationParam
  spreadParam : Decimal256.fromStr msg.spreadParam = some s.spreadParam
  activeCapital : Decimal256.fromStr msg.activeCapital = some s.activeCapital
  /-- basis point の文字列を読み、`bp_to_dec` で割合にした値。下の二つも同じ。 -/
  headChgTol : ∃ bp, Decimal256.fromStr msg.headChgTolBp = some bp ∧ bpToDec bp = .ok s.headChgTol
  tailDistFromMid :
    ∃ bp, Decimal256.fromStr msg.tailDistFromMidBp = some bp ∧ bpToDec bp = .ok s.tailDistFromMid
  minTailDist :
    ∃ bp, Decimal256.fromStr msg.minTailDistBp = some bp ∧ bpToDec bp = .ok s.minTailDist
  lpTokenAddress : s.lpTokenAddress = "LP-Token"

/-- 同じメッセージから読んだ設定は一つしかない。 -/
theorem StoresParsed.unique {msg : InstantiateMsg} {s t : State} (hs : StoresParsed msg s)
    (ht : StoresParsed msg t) : s = t := by
  have read : ∀ {α : Type} {x : Option α} {a b : α}, x = some a → x = some b → a = b :=
    fun ha hb => Option.some.inj (ha.symm.trans hb)
  have readBp : ∀ {x : Option Decimal256} {a b : Decimal256},
      (∃ bp, x = some bp ∧ bpToDec bp = .ok a) → (∃ bp, x = some bp ∧ bpToDec bp = .ok b) →
      a = b := by
    rintro x a b ⟨p, hp, ha⟩ ⟨q, hq, hb⟩
    cases read hp hq
    exact Except.ok.inj (ha.symm.trans hb)
  cases s
  cases t
  simp only [State.mk.injEq]
  exact ⟨hs.marketId.trans ht.marketId.symm, hs.subaccountId.trans ht.subaccountId.symm,
    hs.feeRecipient.trans ht.feeRecipient.symm, hs.isDeriv.trans ht.isDeriv.symm,
    read hs.leverage ht.leverage, read hs.orderDensity ht.orderDensity,
    read hs.maxMarketDataDelay ht.maxMarketDataDelay, read hs.reservationParam ht.reservationParam,
    read hs.spreadParam ht.spreadParam, read hs.activeCapital ht.activeCapital,
    readBp hs.headChgTol ht.headChgTol, readBp hs.tailDistFromMid ht.tailDistFromMid,
    readBp hs.minTailDist ht.minTailDist, hs.lpTokenAddress.trans ht.lpTokenAddress.symm⟩

/-- `instantiate` が返す submessage。この contract を minter とする LP token を作り、成功すれば
id 1 の `reply` を頼む。 -/
theorem instantiate_of_parsed {contractAddress : String} {msg : InstantiateMsg} {s : State}
    {codeId decimals : Int} (hs : StoresParsed msg s) (hc : parseU64 msg.cw20CodeId = some codeId)
    (hd : parseU8 msg.lpDecimals = some decimals) :
    instantiate contractAddress msg = .ok ({ messages := [{
      msg := .instantiate none codeId.toNat
        { name := msg.lpName, symbol := msg.lpSymbol, decimals := decimals.toNat,
          initialBalances := [], minter := contractAddress, cap := none } "LP-Token",
      replyOnSuccess := some instantiateReplyId }] }, s) := by
  obtain ⟨tol, htol', htol⟩ := hs.headChgTol
  obtain ⟨tail, htail', htail⟩ := hs.tailDistFromMid
  obtain ⟨mtd, hmtd', hmtd⟩ := hs.minTailDist
  unfold instantiate
  simp only [hs.leverage, hs.orderDensity, hs.maxMarketDataDelay, hs.reservationParam,
    hs.spreadParam, hs.activeCapital, htol', htail', hmtd', hc, hd, unwrap_some, ok_bind, htol,
    htail, hmtd]
  -- 残るのは、写した field と仮の address で組んだ `State` が `s` であること
  cases s
  obtain ⟨rfl, rfl, rfl, rfl, -, -, -, -, -, -, -, -, -, rfl⟩ := hs
  rfl

/-- `instantiate` は文字列が読めないときにしか落ちない。 -/
theorem instantiate_failsOnly (contractAddress : String) (msg : InstantiateMsg) :
    FailsOnly (· = .unwrap) (instantiate contractAddress msg) := by
  have bp : ∀ d, FailsOnly (· = .unwrap) (bpToDec d) := fun d => by
    obtain ⟨c, hc, -⟩ := bpToDec_ok d
    rw [hc]; exact FailsOnly.ok _
  unfold instantiate
  exact (unwrap_failsOnly _).bind fun _ _ => (unwrap_failsOnly _).bind fun _ _ =>
    (unwrap_failsOnly _).bind fun _ _ => (unwrap_failsOnly _).bind fun _ _ =>
    (unwrap_failsOnly _).bind fun _ _ => (unwrap_failsOnly _).bind fun _ _ =>
    (unwrap_failsOnly _).bind fun _ _ => (bp _).bind fun _ _ =>
    (unwrap_failsOnly _).bind fun _ _ => (bp _).bind fun _ _ =>
    (unwrap_failsOnly _).bind fun _ _ => (bp _).bind fun _ _ =>
    (unwrap_failsOnly _).bind fun _ _ => (unwrap_failsOnly _).bind fun _ _ => FailsOnly.ok _

/-- `instantiate` が返したなら、保存する設定は読んだ値そのもので、cw20 の code id と小数の
桁数も読めている。返すのは `instantiate_of_parsed` の submessage 一つだけ。 -/
theorem instantiate_eq_ok {contractAddress : String} {msg : InstantiateMsg}
    {resp : Response} {s : State} (h : instantiate contractAddress msg = .ok (resp, s)) :
    StoresParsed msg s ∧ ∃ codeId decimals, parseU64 msg.cw20CodeId = some codeId ∧
      parseU8 msg.lpDecimals = some decimals ∧ resp = { messages := [{
        msg := .instantiate none codeId.toNat
          { name := msg.lpName, symbol := msg.lpSymbol, decimals := decimals.toNat,
            initialBalances := [], minter := contractAddress, cap := none } "LP-Token",
        replyOnSuccess := some instantiateReplyId }] } := by
  unfold instantiate at h
  obtain ⟨lev, hlev, h⟩ := bind_eq_ok.mp h
  obtain ⟨dens, hdens, h⟩ := bind_eq_ok.mp h
  obtain ⟨mdd, hmdd, h⟩ := bind_eq_ok.mp h
  obtain ⟨rp, hrp, h⟩ := bind_eq_ok.mp h
  obtain ⟨sp, hsp, h⟩ := bind_eq_ok.mp h
  obtain ⟨ac, hac, h⟩ := bind_eq_ok.mp h
  obtain ⟨tol', htol', h⟩ := bind_eq_ok.mp h
  obtain ⟨tol, htol, h⟩ := bind_eq_ok.mp h
  obtain ⟨tail', htail', h⟩ := bind_eq_ok.mp h
  obtain ⟨tail, htail, h⟩ := bind_eq_ok.mp h
  obtain ⟨mtd', hmtd', h⟩ := bind_eq_ok.mp h
  obtain ⟨mtd, hmtd, h⟩ := bind_eq_ok.mp h
  obtain ⟨codeId, hc, h⟩ := bind_eq_ok.mp h
  obtain ⟨decimals, hd, h⟩ := bind_eq_ok.mp h
  cases h
  rw [unwrap_eq_ok] at hlev hdens hmdd hrp hsp hac htol' htail' hmtd' hc hd
  exact ⟨⟨rfl, rfl, rfl, rfl, hlev, hdens, hmdd, hrp, hsp, hac, ⟨tol', htol', htol⟩,
    ⟨tail', htail', htail⟩, ⟨mtd', hmtd', hmtd⟩, rfl⟩, codeId, decimals, hc, hd, rfl⟩

/--
**`instantiate` の後の設定。** `instantiate` は文字列が読めないときにしか落ちない。数値の
field がすべて読めれば（cw20 の code id と小数の桁数も含めて）必ず成功し、保存するのは
読んだ値そのものの `State` で、範囲は検査しない。その後のどの `reply`・`execute`・`query` の列も
`lp_token_address` 以外の field を変えない。したがって保存領域の `State` が設定の不変条件を
満たすのは、メッセージから読んだ値が満たすときだけである。
-/
theorem contract_config_after_instantiate (addrValidate : String → Except StdError String)
    (contractAddress : String) (msg : InstantiateMsg) :
    FailsOnly (· = .unwrap) (instantiate contractAddress msg) ∧
    (∀ s₀, (∃ resp, instantiate contractAddress msg = .ok (resp, s₀)) ↔
      StoresParsed msg s₀ ∧ (parseU64 msg.cw20CodeId).isSome ∧ (parseU8 msg.lpDecimals).isSome) ∧
    ∀ resp s₀, instantiate contractAddress msg = .ok (resp, s₀) →
      ∀ calls : List Call, ∃ a, run addrValidate (some s₀) calls =
          some { s₀ with lpTokenAddress := a } ∧
        (ConfigInvariant { s₀ with lpTokenAddress := a } ↔ ConfigInvariant s₀) := by
  refine ⟨instantiate_failsOnly contractAddress msg, fun s₀ => ⟨?_, ?_⟩, fun _ _ _ calls =>
    (run_keeps_config addrValidate calls _).imp fun a ha => ⟨ha, configInvariant_lpTokenAddress _ a⟩⟩
  · rintro ⟨resp, h⟩
    obtain ⟨hs, codeId, decimals, hc, hd, -⟩ := instantiate_eq_ok h
    rw [hc, hd]
    exact ⟨hs, rfl, rfl⟩
  · rintro ⟨hs, hc, hd⟩
    obtain ⟨codeId, hc⟩ := Option.isSome_iff_exists.mp hc
    obtain ⟨decimals, hd⟩ := Option.isSome_iff_exists.mp hd
    exact ⟨_, instantiate_of_parsed hs hc hd⟩

/-- 範囲の外の `reservation_param = "2"` を持つメッセージ。他の field は範囲の内にある。 -/
def outOfRangeMsg : InstantiateMsg :=
  { marketId := "market", subAccount := "maker", feeRecipient := "maker", isDeriv := true,
    leverage := "1", orderDensity := "1", maxMarketDataDelay := "0", reservationParam := "2",
    spreadParam := "0", activeCapital := "1", headChgTolBp := "0", tailDistFromMidBp := "0",
    minTailDistBp := "0", cw20CodeId := "1", lpName := "LP", lpSymbol := "LP",
    lpDecimals := "6" }

/-- そのメッセージから読んだ設定。 -/
def outOfRangeState : State :=
  { marketId := "market", subaccountId := "maker", feeRecipient := "maker", isDeriv := true,
    leverage := one, orderDensity := ⟨1, by decide⟩, maxMarketDataDelay := 0,
    reservationParam := two, spreadParam := zero, activeCapital := one, headChgTol := zero,
    tailDistFromMid := zero, minTailDist := zero, lpTokenAddress := "LP-Token" }

/--
**`instantiate` は範囲の外の値も受け付ける。** `reservation_param = "2"` のメッセージで
`instantiate` は成功し、`reservation_param = 2` の `State` を保存する。これは設定の不変条件を
満たさず、その後のどの呼び出しの列の後も満たさないままである。
-/
theorem instantiate_accepts_out_of_range :
    (∃ resp, instantiate "maker" outOfRangeMsg = .ok (resp, outOfRangeState)) ∧
      ∀ calls : List Call, ∃ a, run (fun a => .ok a) (some outOfRangeState) calls =
          some { outOfRangeState with lpTokenAddress := a } ∧
        ¬ConfigInvariant { outOfRangeState with lpTokenAddress := a } := by
  obtain ⟨-, hok, hrun⟩ := contract_config_after_instantiate (fun a => .ok a) "maker" outOfRangeMsg
  have hs : StoresParsed outOfRangeMsg outOfRangeState := by constructor <;> decide
  obtain ⟨resp, h⟩ := (hok outOfRangeState).mpr ⟨hs, rfl, rfl⟩
  have hbad : ¬ConfigInvariant outOfRangeState := by decide
  exact ⟨⟨resp, h⟩, fun calls => (hrun resp _ h calls).imp fun _ ⟨hr, hiff⟩ =>
    ⟨hr, fun hc => hbad (hiff.mp hc)⟩⟩

end CwInjective
