import CwInjective.Exchange.Hash

/-!
# dummy 契約の Pyth の価格

`dummy` 契約の `execute_trigger_pyth_update`。決まった price id の `PriceAttestation` を一つ作り、
`create_relay_pyth_prices_msg` で relay のメッセージにして返す。price id は 16 進の定数を
`Hash::from_hex` で読んだもの、attestation の時刻は block の時刻の 100 ns 前である。

`PriceAttestation` と `create_relay_pyth_prices_msg` は src に無いので、ここで設定する field だけを
持たせる。`deps.api.debug` と、debug に渡す JSON の `to_string(..).unwrap()`（この型では
失敗しない）は答えに関わらないので持たない。`u64` の引き算 `nanos() - 100` は下に溢れると
panic する。

* `executeTriggerPythUpdate_eq` — block の時刻が 100 ns 未満なら panic し、それ以外は
  契約の address から、与えた価格と定数の price id を持つ attestation 一つを relay する
-/

namespace CwInjective

/-- `PythStatus` のうち、ここで使うもの。 -/
inductive PythStatus where
  | trading
  deriving DecidableEq

/-- `PriceAttestation`。 -/
structure PriceAttestation where
  productId : String
  priceId : Hash
  price : Int
  conf : Nat
  expo : Int
  emaPrice : Nat
  emaConf : Nat
  status : PythStatus
  numPublishers : Nat
  maxNumPublishers : Nat
  attestationTime : Nat
  publishTime : Nat
  deriving DecidableEq

/-- `create_relay_pyth_prices_msg(sender, price_attestations)` が作るメッセージ。 -/
structure RelayPythPricesMsg where
  sender : String
  priceAttestations : List PriceAttestation
  deriving DecidableEq

/-- 16 進で書いた mock の price id。 -/
def mockPriceIdHex : String :=
  "f9c0172ba10dfa4d19088d94f5bf61d3b54d5bd7483a322a982e1373ee8ea31b"

section Trigger

variable (charDebug : Char → String)

/--
`execute_trigger_pyth_update`。`price_id` の `Hash::from_hex(..)?` が先に評価され、次に
`attestation_time` の `nanos() - 100` が評価される。返す `Response` のメッセージの列を返す。
-/
def executeTriggerPythUpdate (contractAddress : String) (blockTimeNanos : Nat) (price : UInt32) :
    Except Panic (Except StdError (List RelayPythPricesMsg)) :=
  match Hash.fromHex charDebug (asBytes mockPriceIdHex) with
  | .error e => pure (.error e)
  | .ok priceId => do
    let attestationTime ← (if blockTimeNanos < 100 then .error .subOverflow
      else pure (blockTimeNanos - 100) : Except Panic Nat)
    let pa : PriceAttestation :=
      { productId := "MOCK_PRODUCT_ID", priceId, price := price.toNat, conf := 500, expo := -3,
        emaPrice := 1000, emaConf := 2000, status := .trading, numPublishers := 10,
        maxNumPublishers := 20, attestationTime, publishTime := blockTimeNanos }
    pure (.ok [{ sender := contractAddress, priceAttestations := [pa] }])

/-- 定数の price id は読める。読んだ `Hash` の 16 進表記は定数そのものである。 -/
theorem mockPriceId_fromHex :
    ∃ priceId, Hash.fromHex charDebug (asBytes mockPriceIdHex) = .ok priceId ∧
      priceId.toHex = mockPriceIdHex := by
  cases h : Hash.fromHex charDebug (asBytes mockPriceIdHex) with
  | error e =>
    -- 失敗しないことは `decode_to_slice` を評価して分かる
    have hd : (decodeToSlice (asBytes mockPriceIdHex) 32).toOption.isSome = true := by decide
    obtain ⟨e', hd', -⟩ := (fromHex_eq_error charDebug).mp h
    rw [hd'] at hd
    cases hd
  | ok priceId =>
    refine ⟨priceId, rfl, ?_⟩
    have hd := (fromHex_eq_ok charDebug).mp h
    have hhex : ((decodeToSlice (asBytes mockPriceIdHex) 32).map hexEncode) =
        .ok mockPriceIdHex := by decide
    rw [hd] at hhex
    exact Except.ok.inj hhex

/-- **`execute_trigger_pyth_update` の spec。** block の時刻が 100 ns 未満なら下に溢れて panic する。
それ以外は、契約の address から、与えた価格と定数の price id を持ち、block の時刻に公開され
その 100 ns 前に attest された `Trading` の attestation 一つを relay するメッセージを返す。 -/
theorem executeTriggerPythUpdate_eq (contractAddress : String) (blockTimeNanos : Nat)
    (price : UInt32) :
    ∃ priceId : Hash, priceId.toHex = mockPriceIdHex ∧
      executeTriggerPythUpdate charDebug contractAddress blockTimeNanos price =
        if blockTimeNanos < 100 then .error .subOverflow
        else .ok (.ok [{ sender := contractAddress, priceAttestations := [
          { productId := "MOCK_PRODUCT_ID", priceId, price := price.toNat, conf := 500,
            expo := -3, emaPrice := 1000, emaConf := 2000, status := .trading,
            numPublishers := 10, maxNumPublishers := 20,
            attestationTime := blockTimeNanos - 100, publishTime := blockTimeNanos }] }]) := by
  obtain ⟨priceId, h, hhex⟩ := mockPriceId_fromHex charDebug
  refine ⟨priceId, hhex, ?_⟩
  unfold executeTriggerPythUpdate
  rw [h]
  split_ifs <;> rfl

end Trigger

end CwInjective
