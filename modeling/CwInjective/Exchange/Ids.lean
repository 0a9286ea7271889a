import CwInjective.Exchange.Types

/-!
# 識別子の入口が受けるもの

`MarketId` には `new`、`Deserialize`、`From<&str>` の三つの入口があり、`SubaccountId` には
`new` と `Deserialize` がある。どれも `0x` で始まることと 66 byte であることを確かめて、
`unchecked`（小文字にするだけ）の値を返す。違うのは失敗の形（`StdError`、文言、panic）だけである。

`ShortSubaccountId` の `new` と `Deserialize` は `u16` として読めて 999 以下の文字列を受けるが、
持つのは**読んだ値ではなく文字列そのもの**である。

* `hexIds_accept_iff` — 五つの入口は、`0x` で始まり 66 byte の文字列をちょうど受け、
  どれも `unchecked` の値を返す
* `shortSubaccountId_accept_iff` — `new` と `Deserialize` は、`+` が一つ付いてもよい
  十進の数字列で値が 999 以下のものをちょうど受け、文字列をそのまま持つ。先頭に `0` を
  いくつ足しても、`+` を足しても受けるので、一つの nonce に限りなく多くの異なる id がある
-/

namespace CwInjective

theorem map_eq_ok {ε α β : Type} {f : α → β} {x : Except ε α} {b : β} :
    f <$> x = .ok b ↔ ∃ a, x = .ok a ∧ f a = b := by
  cases x <;> simp

/-! ## `MarketId` と `SubaccountId` -/

section HexIds

variable (lowercaseTable : Char → List Char)

/-- `new` の本体が受けるもの。 -/
theorem newHexId_eq_ok {name s v : String} :
    newHexId lowercaseTable name s = .ok v ↔
      startsWith0x s = true ∧ strLen s = 66 ∧ toLowercase lowercaseTable s = v := by
  unfold newHexId
  cases startsWith0x s <;> by_cases hl : strLen s = 66 <;> simp [hl]

/-- `new` の失敗は、検査に落ちた順に、その field の名前を持つ文言を返す。 -/
theorem newHexId_eq_error {name s : String} {e : StdError} :
    newHexId lowercaseTable name s = .error e ↔
      (startsWith0x s = false ∧
        .genericErr ("Invalid prefix: " ++ name ++ " must start with 0x") = e) ∨
      (startsWith0x s = true ∧ strLen s ≠ 66 ∧
        .genericErr ("Invalid length: " ++ name ++ " must be exactly 66 characters") = e) := by
  unfold newHexId
  cases startsWith0x s <;> by_cases hl : strLen s = 66 <;> simp [hl]

/-- `Deserialize` の本体は `new` の本体と同じものを受け、同じ値を返す。 -/
theorem deserializeHexId_eq_ok {name s v : String} :
    deserializeHexId lowercaseTable name s = .ok v ↔ newHexId lowercaseTable name s = .ok v := by
  unfold deserializeHexId newHexId
  split_ifs <;> simp

/-- newtype に包んでも受けるものは変わらない。 -/
theorem map_newHexId_eq_ok {α : Type} (mk : String → α) {name s : String} {m : α} :
    mk <$> newHexId lowercaseTable name s = .ok m ↔
      startsWith0x s = true ∧ strLen s = 66 ∧ m = mk (toLowercase lowercaseTable s) := by
  rw [map_eq_ok]
  constructor
  · rintro ⟨v, hv, rfl⟩
    obtain ⟨h₁, h₂, rfl⟩ := (newHexId_eq_ok lowercaseTable).mp hv
    exact ⟨h₁, h₂, rfl⟩
  · rintro ⟨h₁, h₂, rfl⟩
    exact ⟨_, (newHexId_eq_ok lowercaseTable).mpr ⟨h₁, h₂, rfl⟩, rfl⟩

theorem map_deserializeHexId_eq_ok {α : Type} (mk : String → α) {name s : String} {m : α} :
    mk <$> deserializeHexId lowercaseTable name s = .ok m ↔
      mk <$> newHexId lowercaseTable name s = .ok m := by
  simp only [map_eq_ok, deserializeHexId_eq_ok]

/--
**識別子の入口はどれも同じものを受ける。** どの文字列とどの小文字化の表についても、
`MarketId::new`、`Deserialize for MarketId`、`From<&str> for MarketId`、`SubaccountId::new`、
`Deserialize for SubaccountId` は、`0x` で始まり 66 byte の文字列をちょうど受け、どれも
`unchecked` の値を返す。
-/
theorem hexIds_accept_iff (s : String) (m : MarketId) (a : SubaccountId) :
    (MarketId.new lowercaseTable s = .ok m ↔
      startsWith0x s = true ∧ strLen s = 66 ∧ m = MarketId.unchecked lowercaseTable s) ∧
    (MarketId.deserialize lowercaseTable s = .ok m ↔ MarketId.new lowercaseTable s = .ok m) ∧
    (MarketId.ofStr lowercaseTable s = .ok m ↔ MarketId.new lowercaseTable s = .ok m) ∧
    (SubaccountId.new lowercaseTable s = .ok a ↔
      startsWith0x s = true ∧ strLen s = 66 ∧ a = SubaccountId.unchecked lowercaseTable s) ∧
    (SubaccountId.deserialize lowercaseTable s = .ok a ↔
      SubaccountId.new lowercaseTable s = .ok a) := by
  refine ⟨map_newHexId_eq_ok lowercaseTable _, map_deserializeHexId_eq_ok lowercaseTable _, ?_,
    map_newHexId_eq_ok lowercaseTable _, map_deserializeHexId_eq_ok lowercaseTable _⟩
  unfold MarketId.ofStr
  split <;> simp_all

/-- `From<&str>` が panic するのは、`new` が断るときだけである。 -/
theorem marketId_ofStr_eq_error {s : String} {e : Panic} :
    MarketId.ofStr lowercaseTable s = .error e ↔
      e = .unwrap ∧ ∃ err, MarketId.new lowercaseTable s = .error err := by
  unfold MarketId.ofStr
  cases MarketId.new lowercaseTable s with
  | ok m => simp
  | error err => exact ⟨fun h => ⟨(Except.error.inj h).symm, err, rfl⟩, fun ⟨h, _⟩ => h ▸ rfl⟩

end HexIds

/-- `MarketId::validate` は問い合わせに成功すれば id をそのまま返し、失敗すればその `StdError`
を返す。 -/
theorem marketId_validate_eq_ok {querySpotMarket queryDerivativeMarket : MarketId → Except StdError Unit}
    {m m' : MarketId} {marketType : MarketType} :
    MarketId.validate querySpotMarket queryDerivativeMarket m marketType = .ok m' ↔
      m' = m ∧ (match marketType with
        | .spot => querySpotMarket m
        | .derivative => queryDerivativeMarket m) = .ok () := by
  unfold MarketId.validate
  cases marketType <;> cases h : querySpotMarket m <;> cases h' : queryDerivativeMarket m <;>
    simp [h, h', eq_comm, pure, Except.pure]

/-! ## `ShortSubaccountId` -/

theorem decimalDigits?_ne_nil {cs : List Char} {n : Nat} (h : decimalDigits? cs = some n) :
    cs ≠ [] ∧ ∀ c ∈ cs, c.isDigit = true := by
  unfold decimalDigits? at h
  split_ifs at h with hc
  exact ⟨hc.1, List.all_eq_true.mp hc.2⟩

/-- 先頭の `0` は値を変えない。 -/
theorem decimalDigits?_zero_cons {ds : List Char} (hds : ds ≠ []) :
    decimalDigits? ('0' :: ds) = decimalDigits? ds := by
  simp [decimalDigits?, hds]

theorem decimalDigits?_replicate_zero {ds : List Char} (hds : ds ≠ []) :
    ∀ k, decimalDigits? (List.replicate k '0' ++ ds) = decimalDigits? ds
  | 0 => rfl
  | k + 1 => by
    rw [List.replicate_succ, List.cons_append,
      decimalDigits?_zero_cons (by simp [hds]), decimalDigits?_replicate_zero hds k]

theorem inRange_eq_some {lo hi v : Int} {n : Nat} :
    (if lo ≤ (n : Int) ∧ (n : Int) ≤ hi then some (n : Int) else none) = some v ↔
      v = n ∧ lo ≤ n ∧ n ≤ hi := by
  split_ifs with h <;> simp [h, eq_comm]

/-- **符号なしの型の `from_str_radix` が受けるもの。** `+` が一つ付いてもよい十進の数字列で、
値が範囲にあるもの。 -/
theorem parseInt_unsigned_eq_some {lo hi v : Int} {cs : List Char} :
    parseInt false lo hi cs = some v ↔
      ∃ ds n, (cs = ds ∨ cs = '+' :: ds) ∧ decimalDigits? ds = some n ∧ v = n ∧ lo ≤ n ∧
        n ≤ hi := by
  constructor
  · intro h
    cases cs with
    | nil => cases h
    | cons c rest =>
      simp only [parseInt] at h
      split_ifs at h with h₁ h₂ h₃
      · cases h
      · simp only [Option.bind_eq_bind, Option.some_bind, Option.bind_eq_some, if_true,
          inRange_eq_some] at h
        obtain ⟨n, hn, hv⟩ := h
        exact ⟨rest, n, .inr (by rw [h₂]), hn, hv⟩
      · exact absurd h₃.2 nofun
      · simp only [Option.bind_eq_bind, Option.some_bind, Option.bind_eq_some, if_true,
          inRange_eq_some] at h
        obtain ⟨n, hn, hv⟩ := h
        exact ⟨c :: rest, n, .inl rfl, hn, hv⟩
  · rintro ⟨ds, n, hcs | hcs, hn, rfl, hlo, hhi⟩ <;> obtain ⟨hne, hdig⟩ := decimalDigits?_ne_nil hn
    · -- 数字で始まるので符号ではない
      obtain ⟨c, rest, rfl⟩ := List.exists_cons_of_ne_nil hne
      have hc := hdig c (List.mem_cons_self _ _)
      have hplus : c ≠ '+' := by rintro rfl; cases hc
      have hminus : c ≠ '-' := by rintro rfl; cases hc
      subst hcs
      simp only [parseInt, hplus, hminus, or_self, false_and, ↓reduceIte, Bool.false_eq_true,
        and_self, Option.bind_eq_bind, Option.some_bind, hn, hlo, hhi]
    · subst hcs
      simp only [parseInt, Char.reduceEq, or_false, hne, and_false, ↓reduceIte,
        Option.bind_eq_bind, Option.some_bind, hn, hlo, hhi, and_self]

/-- `ShortSubaccountId::new` は `u16` として読めて 999 以下の文字列を、そのまま包む。 -/
theorem shortSubaccountId_new_eq_ok {id : String} {i : ShortSubaccountId} :
    ShortSubaccountId.new id = .ok i ↔
      i = ShortSubaccountId.unchecked id ∧ ∃ v, parseU16 id = some v ∧ v ≤ maxShortSubaccountNonce := by
  unfold ShortSubaccountId.new
  cases parseU16 id with
  | none => simp
  | some v =>
    dsimp only
    split_ifs with h
    · simp only [Except.ok.injEq, ShortSubaccountId.unchecked, Option.some.injEq, exists_eq_left', h,
        and_true]
      exact eq_comm
    · simp [h]

/-- `ShortSubaccountId::new` が受けるのは、`+` が一つ付いてもよい十進の数字列で、値が 999 以下の
ものちょうどである。 -/
theorem shortSubaccountId_new_iff_digits {id : String} {i : ShortSubaccountId} :
    ShortSubaccountId.new id = .ok i ↔ i = ShortSubaccountId.unchecked id ∧
      ∃ ds n, (id.data = ds ∨ id.data = '+' :: ds) ∧ decimalDigits? ds = some n ∧ n ≤ 999 := by
  rw [shortSubaccountId_new_eq_ok, parseU16]
  simp only [parseInt_unsigned_eq_some, maxShortSubaccountNonce]
  constructor
  · rintro ⟨rfl, _, ⟨ds, n, hds, hn, rfl, -, -⟩, hle⟩
    exact ⟨rfl, ds, n, hds, hn, by exact_mod_cast hle⟩
  · rintro ⟨rfl, ds, n, hds, hn, hle⟩
    exact ⟨rfl, n, ⟨ds, n, hds, hn, rfl, by positivity, by omega⟩, by exact_mod_cast hle⟩

/-- `ShortSubaccountId::new` の失敗の文言は一つだけである。 -/
theorem shortSubaccountId_new_eq_error {id : String} {e : StdError} :
    ShortSubaccountId.new id = .error e →
      e = .genericErr "Invalid value: ShortSubaccountId must be a number between 0-999" := by
  unfold ShortSubaccountId.new
  split
  · split_ifs <;> simp_all [eq_comm]
  · simp [eq_comm]

/-- `Deserialize for ShortSubaccountId` は `new` と同じものを受け、同じ値を返す。 -/
theorem shortSubaccountId_deserialize_eq_ok {id : String} {i : ShortSubaccountId} :
    ShortSubaccountId.deserialize id = .ok i ↔ ShortSubaccountId.new id = .ok i := by
  unfold ShortSubaccountId.deserialize ShortSubaccountId.new
  split
  · split_ifs <;> simp
  · simp

/--
**`ShortSubaccountId` が受けるもの。** どの文字列についても、

* `new` が受けるのは、`+` が一つ付いてもよい十進の数字列で、値が 999 以下のものちょうどで、
  返すのは文字列をそのまま包んだ `unchecked` の値である
* `Deserialize` も同じものを受け、同じ値を返す
* 値が 999 以下の数字列の前に `0` をいくつ足しても、さらに `+` を足しても受け、それぞれ
  綴りのまま別の id になる（同じ nonce を表す id が限りなくある）
-/
theorem shortSubaccountId_accept_iff (id : String) (i : ShortSubaccountId) :
    (ShortSubaccountId.new id = .ok i ↔ i = ShortSubaccountId.unchecked id ∧
      ∃ ds n, (id.data = ds ∨ id.data = '+' :: ds) ∧ decimalDigits? ds = some n ∧ n ≤ 999) ∧
    (ShortSubaccountId.deserialize id = .ok i ↔ ShortSubaccountId.new id = .ok i) ∧
    ∀ (ds : List Char) (n : Nat), decimalDigits? ds = some n → n ≤ 999 → ∀ k : Nat,
      ShortSubaccountId.new ⟨List.replicate k '0' ++ ds⟩ =
          .ok (ShortSubaccountId.unchecked ⟨List.replicate k '0' ++ ds⟩) ∧
        ShortSubaccountId.new ⟨'+' :: (List.replicate k '0' ++ ds)⟩ =
          .ok (ShortSubaccountId.unchecked ⟨'+' :: (List.replicate k '0' ++ ds)⟩) := by
  refine ⟨shortSubaccountId_new_iff_digits, shortSubaccountId_deserialize_eq_ok, fun ds n hn hle k => ?_⟩
  have hpad := decimalDigits?_replicate_zero (decimalDigits?_ne_nil hn).1 k
  exact ⟨shortSubaccountId_new_iff_digits.mpr ⟨rfl, _, n, .inl rfl, hpad.trans hn, hle⟩,
    shortSubaccountId_new_iff_digits.mpr ⟨rfl, _, n, .inr rfl, hpad.trans hn, hle⟩⟩

end CwInjective
