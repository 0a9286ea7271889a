import CwInjective.Parse

/-!
# 市場とサブアカウントの識別子

`injective-cosmwasm` の `MarketId`、`SubaccountId`、`ShortSubaccountId`。

`MarketId::new` と `SubaccountId::new` は同じ形をしている。入力が `0x` で始まり、
byte 数がちょうど 66 であることを確かめて**から**小文字にする。`Deserialize` も同じ検査の後に
`unchecked`（小文字にするだけ）を呼ぶ。この二つは文言に出る field 名しか違わないので、
本体を `newHexId` / `deserializeHexId` に一度だけ書く。`From<&str> for MarketId` は `new` の
`unwrap` で、検査に落ちると panic する。`MarketId::validate` は chain の querier に市場を
問い合わせるだけなので、querier を引数にする。

## 小文字化

`str::to_lowercase` は ASCII なら `to_ascii_lowercase`、それ以外は Unicode の表を引く。
表は src の外のデータなので引数 `lowercaseTable` にする。ASCII だけの入力について言える
ことは表に依らない（`hexIds_ascii_roundtrip`）。表が byte 数を変える文字を含むと、検査を通った
66 byte の入力から 66 byte でない識別子ができる。

## 直列化

`Serialize` は newtype の中身の文字列をそのまま書き、`Deserialize` は文字列を読んでから
上の検査をする。JSON の文字列の escape は往復で元に戻るので、ここでは中身の文字列を
そのまま渡す。
-/

namespace CwInjective

/-- `StdError` のうち、この契約が返すもの。 -/
inductive StdError where
  /-- `StdError::generic_err`。 -/
  | genericErr (msg : String)
  /-- `StdError::not_found`。保存領域に値が無い。`kind` は型の名前。 -/
  | notFound (kind : String)
  deriving DecidableEq, Repr

/-! ## Rust の文字列操作 -/

/-- `str::len`。UTF-8 の byte 数。 -/
def strLen (s : String) : Nat := (s.data.map Char.utf8Size).sum

/-- `str::starts_with("0x")`。`0x` は ASCII なので文字の列で比べてよい。 -/
def startsWith0x (s : String) : Bool := ['0', 'x'].isPrefixOf s.data

/-- `&s[k..]` の中身。`k` が文字の境界でないか長さを超えれば `none`。 -/
def dropBytes : List Char → Nat → Option (List Char)
  | l, 0 => some l
  | [], _ + 1 => none
  | c :: rest, k + 1 => if c.utf8Size ≤ k + 1 then dropBytes rest (k + 1 - c.utf8Size) else none

section Lowercase

variable (lowercaseTable : Char → List Char)

/-- `char::to_lowercase`。ASCII でなければ Unicode の表を引く。 -/
def charToLowercase (c : Char) : List Char :=
  if c.toNat < 128 then [c.toLower] else lowercaseTable c

/-- `str::to_lowercase`。 -/
def toLowercase (s : String) : String := ⟨s.data.flatMap (charToLowercase lowercaseTable)⟩

/-! ## `MarketId` と `SubaccountId` -/

/-- `MarketId::new` と `SubaccountId::new` の本体。`name` は文言に出る field 名。 -/
def newHexId (name s : String) : Except StdError String :=
  if !startsWith0x s then
    .error (.genericErr ("Invalid prefix: " ++ name ++ " must start with 0x"))
  else if strLen s ≠ 66 then
    .error (.genericErr ("Invalid length: " ++ name ++ " must be exactly 66 characters"))
  else .ok (toLowercase lowercaseTable s)

/-- 二つの `Deserialize` の本体。失敗の文言には受け取った文字列が付く。 -/
def deserializeHexId (name s : String) : Except String String :=
  if !startsWith0x s then
    .error ("Invalid prefix in deserialization: " ++ name ++ " must start with 0x, received " ++ s)
  else if strLen s ≠ 66 then
    .error ("Invalid length in deserialization: " ++ name ++
      " must be exactly 66 characters, received " ++ s)
  else .ok (toLowercase lowercaseTable s)

end Lowercase

/-- `MarketId(String)`。 -/
structure MarketId where
  val : String
  deriving DecidableEq

/-- `SubaccountId(String)`。 -/
structure SubaccountId where
  val : String
  deriving DecidableEq

/-- `ShortSubaccountId(String)`。 -/
structure ShortSubaccountId where
  val : String
  deriving DecidableEq

section Ids

variable (lowercaseTable : Char → List Char)

/-- `MarketId::new`。 -/
def MarketId.new (s : String) : Except StdError MarketId :=
  MarketId.mk <$> newHexId lowercaseTable "market_id" s

/-- `Deserialize for MarketId`。 -/
def MarketId.deserialize (s : String) : Except String MarketId :=
  MarketId.mk <$> deserializeHexId lowercaseTable "market_id" s

/-- `SubaccountId::new`。 -/
def SubaccountId.new (s : String) : Except StdError SubaccountId :=
  SubaccountId.mk <$> newHexId lowercaseTable "subaccount_id" s

/-- `Deserialize for SubaccountId`。 -/
def SubaccountId.deserialize (s : String) : Except String SubaccountId :=
  SubaccountId.mk <$> deserializeHexId lowercaseTable "subaccount_id" s

/-- `MarketId::unchecked`。検査せずに小文字にする。 -/
def MarketId.unchecked (s : String) : MarketId := ⟨toLowercase lowercaseTable s⟩

/-- `SubaccountId::unchecked`。 -/
def SubaccountId.unchecked (s : String) : SubaccountId := ⟨toLowercase lowercaseTable s⟩

/-- `From<&str> for MarketId`。`MarketId::new(s).unwrap()` なので、検査に落ちると panic する。 -/
def MarketId.ofStr (s : String) : Except Panic MarketId :=
  match MarketId.new lowercaseTable s with
  | .ok m => .ok m
  | .error _ => .error .unwrap

end Ids

/-- `MarketType`。 -/
inductive MarketType where
  | spot
  | derivative
  deriving DecidableEq

/-- `MarketId::validate`。市場の種類に応じて querier に市場を問い合わせ、見つかれば id を
そのまま返す。querier は chain の側なので引数にし、答えは捨てられるので成否だけを持たせる。 -/
def MarketId.validate (querySpotMarket queryDerivativeMarket : MarketId → Except StdError Unit)
    (m : MarketId) (marketType : MarketType) : Except StdError MarketId := do
  match marketType with
  | .spot => querySpotMarket m
  | .derivative => queryDerivativeMarket m
  pure m

/-! ## `ShortSubaccountId` -/

/-- `ShortSubaccountId::unchecked`。検査せずに包む。 -/
def ShortSubaccountId.unchecked (id : String) : ShortSubaccountId := ⟨id⟩

/-- `MAX_SHORT_SUBACCOUNT_NONCE`。 -/
def maxShortSubaccountNonce : Int := 999

/-- `ShortSubaccountId::new`。`u16` として読めて 999 以下のときだけ受ける。 -/
def ShortSubaccountId.new (id : String) : Except StdError ShortSubaccountId :=
  match parseU16 id with
  | some value =>
    if value ≤ maxShortSubaccountNonce then .ok ⟨id⟩
    else .error (.genericErr "Invalid value: ShortSubaccountId must be a number between 0-999")
  | none => .error (.genericErr "Invalid value: ShortSubaccountId must be a number between 0-999")

/-- `Deserialize for ShortSubaccountId`。 -/
def ShortSubaccountId.deserialize (id : String) : Except String ShortSubaccountId :=
  match parseU16 id with
  | some value =>
    if value ≤ maxShortSubaccountNonce then .ok ⟨id⟩
    else .error ("Invalid value in deserialization: ShortSubaccountId must be a number " ++
      "between 0-999, received " ++ id)
  | none => .error ("Invalid value in deserialization: ShortSubaccountId must be a number " ++
      "between 0-999, received " ++ id)

/--
`From<SubaccountId> for ShortSubaccountId`。最後の 3 byte を切り出して `unchecked` で包む。
`len() - 3` は 3 byte 未満なら下に溢れ、切り出しは文字の境界でなければ panic する。
-/
def ShortSubaccountId.ofSubaccountId (sub : SubaccountId) : Except Panic ShortSubaccountId :=
  if strLen sub.val < 3 then .error .subOverflow
  else match dropBytes sub.val.data (strLen sub.val - 3) with
    | some tail => .ok ⟨⟨tail⟩⟩
    | none => .error .charBoundary

end CwInjective
