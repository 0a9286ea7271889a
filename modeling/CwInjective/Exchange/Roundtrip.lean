import CwInjective.Exchange.Types

/-!
# 識別子の往復

* `hexIds_ascii_roundtrip` — ASCII だけの入力なら、検査を通った `MarketId` と `SubaccountId` は
  `0x` で始まり、66 byte で、自分の `Deserialize` を通しても変わらない
* `marketId_new_breaks_length` — Unicode の表が `Ⱥ`（2 byte）を `ⱥ`（3 byte）にするので、
  検査を通った 66 byte の入力から 67 byte の `MarketId` ができ、`Deserialize` はそれを断る
* `shortSubaccountId_of_hex_nonce` — nonce 10 の subaccount id（末尾が 16 進の `00a`）から
  作った `ShortSubaccountId` を、`ShortSubaccountId::new` 自身が断る
-/

namespace CwInjective

variable (lowercaseTable : Char → List Char)

/-! ## ASCII の文字 -/

/-- ASCII の文字についての性質は、128 個を総当たりすれば示せる。 -/
theorem ascii_forall (P : Char → Prop) (h : ∀ n ∈ List.range 128, P (Char.ofNat n))
    {c : Char} (hc : c.toNat < 128) : P c := by
  simpa using h c.toNat (List.mem_range.mpr hc)

set_option maxRecDepth 2000 in
/-- ASCII の小文字化は ASCII に閉じ、二度かけても同じで、どれも 1 byte である。 -/
theorem toLower_ascii {c : Char} (hc : c.toNat < 128) :
    c.toLower.toNat < 128 ∧ c.toLower.toLower = c.toLower ∧ c.utf8Size = 1 ∧
      c.toLower.utf8Size = 1 :=
  ascii_forall (fun c => c.toLower.toNat < 128 ∧ c.toLower.toLower = c.toLower ∧
    c.utf8Size = 1 ∧ c.toLower.utf8Size = 1) (by decide) hc

theorem charToLowercase_ascii {c : Char} (hc : c.toNat < 128) :
    charToLowercase lowercaseTable c = [c.toLower] := by
  simp [charToLowercase, hc]

theorem charToLowercase_of_not_ascii {c : Char} (hc : ¬c.toNat < 128) :
    charToLowercase lowercaseTable c = lowercaseTable c := by
  simp [charToLowercase, hc]

theorem flatMap_charToLowercase_ascii :
    ∀ {l : List Char}, (∀ c ∈ l, c.toNat < 128) →
      l.flatMap (charToLowercase lowercaseTable) = l.map Char.toLower
  | [], _ => rfl
  | c :: rest, h => by
    rw [List.flatMap_cons, charToLowercase_ascii lowercaseTable (h c (List.mem_cons_self _ _)),
      flatMap_charToLowercase_ascii fun x hx => h x (List.mem_cons_of_mem _ hx)]
    rfl

theorem strLen_ascii : ∀ {l : List Char}, (∀ c ∈ l, c.toNat < 128) → strLen ⟨l⟩ = l.length
  | [], _ => rfl
  | c :: rest, h => by
    have hc := (toLower_ascii (h c (List.mem_cons_self _ _))).2.2.1
    have ih := @strLen_ascii rest fun x hx => h x (List.mem_cons_of_mem _ hx)
    simp only [strLen, List.map_cons, List.sum_cons, List.length_cons] at ih ⊢
    omega

theorem startsWith0x_map_toLower {l : List Char} (h : startsWith0x ⟨l⟩ = true) :
    startsWith0x ⟨l.map Char.toLower⟩ = true := by
  match l with
  | [] | [_] => simp [startsWith0x, List.isPrefixOf] at h
  | a :: b :: rest =>
    simp only [startsWith0x, List.isPrefixOf, List.map_cons, Bool.and_eq_true, beq_iff_eq] at h ⊢
    obtain ⟨rfl, rfl, -⟩ := h
    decide

/-! ## 検査を通った ASCII の識別子 -/

/--
**ASCII の識別子は往復する。** 検査を通れば小文字にしたものも `0x` で始まって 66 byte あり、
`Deserialize` は同じ検査を通して同じ識別子を返す（小文字化は二度かけても同じ）。
-/
theorem newHexId_ascii {name s v : String} (hs : ∀ c ∈ s.data, c.toNat < 128)
    (h : newHexId lowercaseTable name s = .ok v) :
    startsWith0x v = true ∧ strLen v = 66 ∧ deserializeHexId lowercaseTable name v = .ok v := by
  unfold newHexId at h
  split at h
  · cases h
  split at h
  · cases h
  next hp hl =>
  cases h
  have hmap : toLowercase lowercaseTable s = ⟨s.data.map Char.toLower⟩ := by
    rw [toLowercase, flatMap_charToLowercase_ascii lowercaseTable hs]
  have hv : ∀ c ∈ s.data.map Char.toLower, c.toNat < 128 := by
    simp only [List.mem_map]
    rintro _ ⟨c, hc, rfl⟩
    exact (toLower_ascii (hs c hc)).1
  have hp' : startsWith0x ⟨s.data.map Char.toLower⟩ = true :=
    startsWith0x_map_toLower (by simpa using hp)
  have hl' : strLen ⟨s.data.map Char.toLower⟩ = 66 := by
    rw [strLen_ascii hv, List.length_map, ← strLen_ascii hs]
    simpa using hl
  refine ⟨hmap ▸ hp', hmap ▸ hl', ?_⟩
  rw [hmap, deserializeHexId, if_neg (by simp [hp']), if_neg (by simp [hl']), toLowercase,
    flatMap_charToLowercase_ascii lowercaseTable hv, List.map_map]
  congr 2
  exact List.map_congr_left fun c hc => (toLower_ascii (hs c hc)).2.1

/-- newtype の構成子 `mk` で包んでも往復する。`val` はその中身。 -/
theorem map_newHexId_ascii {α : Type} {mk : String → α} {val : α → String}
    (hval : ∀ v, val (mk v) = v) {name s : String} (hs : ∀ c ∈ s.data, c.toNat < 128) {m : α}
    (h : mk <$> newHexId lowercaseTable name s = .ok m) :
    startsWith0x (val m) = true ∧ strLen (val m) = 66 ∧
      mk <$> deserializeHexId lowercaseTable name (val m) = .ok m := by
  cases hv : newHexId lowercaseTable name s with
  | error e => rw [hv] at h; cases h
  | ok v =>
    rw [hv] at h
    cases h
    obtain ⟨h1, h2, h3⟩ := newHexId_ascii lowercaseTable hs hv
    rw [hval, h3]
    exact ⟨h1, h2, rfl⟩

/--
**ASCII の `MarketId` と `SubaccountId` は往復する。** ASCII だけの文字列を `new` が受けたなら、
できた識別子は `0x` で始まって 66 byte あり、その直列化を `Deserialize` に通すと同じ識別子が
返る。Unicode の表には依らない。
-/
theorem hexIds_ascii_roundtrip {s : String} (hs : ∀ c ∈ s.data, c.toNat < 128) :
    (∀ m, MarketId.new lowercaseTable s = .ok m →
      startsWith0x m.val = true ∧ strLen m.val = 66 ∧
        MarketId.deserialize lowercaseTable m.val = .ok m) ∧
    (∀ a, SubaccountId.new lowercaseTable s = .ok a →
      startsWith0x a.val = true ∧ strLen a.val = 66 ∧
        SubaccountId.deserialize lowercaseTable a.val = .ok a) :=
  ⟨fun _ h => map_newHexId_ascii lowercaseTable (fun _ => rfl) hs h,
    fun _ h => map_newHexId_ascii lowercaseTable (fun _ => rfl) hs h⟩

/-- 大文字の 16 進で書いた、66 byte の識別子。 -/
def upperHexId : String := ⟨'0' :: 'x' :: List.replicate 64 'A'⟩

/-- `upperHexId` は ASCII なので、小文字の `0xaa…a` になって往復する。 -/
theorem hexIds_ascii_roundtrip_upperHexId :
    (∀ c ∈ upperHexId.data, c.toNat < 128) ∧
      (∀ m, MarketId.new (fun c => [c]) upperHexId = .ok m →
        startsWith0x m.val = true ∧ strLen m.val = 66 ∧
          MarketId.deserialize (fun c => [c]) m.val = .ok m) ∧
      (∀ a, SubaccountId.new (fun c => [c]) upperHexId = .ok a →
        startsWith0x a.val = true ∧ strLen a.val = 66 ∧
          SubaccountId.deserialize (fun c => [c]) a.val = .ok a) :=
  have hs : ∀ c ∈ upperHexId.data, c.toNat < 128 := by decide
  ⟨hs, hexIds_ascii_roundtrip _ hs⟩

/-! ## 表が byte 数を変える文字 -/

/-- `0x` の次に `Ⱥ`（U+023A、2 byte）、その後に 62 個の `0`。全部で 66 byte。 -/
def capitalAStrokeId : String := ⟨'0' :: 'x' :: Char.ofNat 0x23A :: List.replicate 62 '0'⟩

/-- `capitalAStrokeId` を小文字にしたもの。`ⱥ`（U+2C65）は 3 byte なので 67 byte。 -/
def smallAStrokeId : String := ⟨'0' :: 'x' :: Char.ofNat 0x2C65 :: List.replicate 62 '0'⟩

theorem toLowercase_capitalAStrokeId
    (h : lowercaseTable (Char.ofNat 0x23A) = [Char.ofNat 0x2C65]) :
    toLowercase lowercaseTable capitalAStrokeId = smallAStrokeId := by
  have hz : ∀ c ∈ List.replicate 62 '0', c.toNat < 128 := by
    intro c hc; rw [List.eq_of_mem_replicate hc]; decide
  simp only [toLowercase, capitalAStrokeId, smallAStrokeId, List.flatMap_cons,
    flatMap_charToLowercase_ascii lowercaseTable hz,
    charToLowercase_ascii lowercaseTable (show '0'.toNat < 128 by decide),
    charToLowercase_ascii lowercaseTable (show 'x'.toNat < 128 by decide),
    charToLowercase_of_not_ascii lowercaseTable (show ¬(Char.ofNat 0x23A).toNat < 128 by decide), h]
  decide

/--
**検査の後に小文字にするので、66 byte でない `MarketId` ができる。** 表が `Ⱥ` を `ⱥ` に写す
（Unicode の写像がそうである）とき、`MarketId::new` は 66 byte の `capitalAStrokeId` を受け、
67 byte の識別子を返す。それを直列化して読み戻すと、`Deserialize` は長さで断る。
-/
theorem marketId_new_breaks_length
    (h : lowercaseTable (Char.ofNat 0x23A) = [Char.ofNat 0x2C65]) :
    MarketId.new lowercaseTable capitalAStrokeId = .ok ⟨smallAStrokeId⟩ ∧
      strLen smallAStrokeId = 67 ∧
      MarketId.deserialize lowercaseTable smallAStrokeId = .error
        ("Invalid length in deserialization: market_id must be exactly 66 characters, " ++
          "received " ++ smallAStrokeId) := by
  have hl : toLowercase lowercaseTable capitalAStrokeId = smallAStrokeId :=
    toLowercase_capitalAStrokeId lowercaseTable h
  refine ⟨?_, by decide, ?_⟩
  · simp only [MarketId.new, newHexId, hl, show startsWith0x capitalAStrokeId = true by decide,
      show strLen capitalAStrokeId = 66 by decide]
    rfl
  · simp only [MarketId.deserialize, deserializeHexId,
      show startsWith0x smallAStrokeId = true by decide, show strLen smallAStrokeId = 67 by decide]
    rfl

/-- Unicode の表のうち、`Ⱥ` を `ⱥ` に写す一行だけを持つ表。 -/
def aStrokeTable (c : Char) : List Char :=
  if c = Char.ofNat 0x23A then [Char.ofNat 0x2C65] else [c]

/-- その表で仮定が満たされ、`MarketId::new` が 67 byte の識別子を返す。 -/
theorem marketId_new_breaks_length_instance :
    aStrokeTable (Char.ofNat 0x23A) = [Char.ofNat 0x2C65] ∧
      MarketId.new aStrokeTable capitalAStrokeId = .ok ⟨smallAStrokeId⟩ ∧
      strLen smallAStrokeId = 67 ∧
      MarketId.deserialize aStrokeTable smallAStrokeId = .error
        ("Invalid length in deserialization: market_id must be exactly 66 characters, " ++
          "received " ++ smallAStrokeId) :=
  ⟨rfl, marketId_new_breaks_length aStrokeTable rfl⟩

/-! ## 16 進の nonce -/

/-- nonce 10 の subaccount id。末尾 24 桁の 16 進が nonce で、最後の 3 文字は `00a`。 -/
def nonceTenSubaccountId : String :=
  ⟨'0' :: 'x' :: List.replicate 61 '0' ++ ['0', '0', 'a']⟩

/--
**`From<SubaccountId>` は `ShortSubaccountId::new` の断る値を作る。** 最後の 3 文字を十進の
数として扱うが、subaccount id の nonce は 16 進で書かれる。`nonceTenSubaccountId` は
`SubaccountId::new` を通り、`From` は panic せずに `00a` を返し、`ShortSubaccountId::new` と
その `Deserialize` は `00a` を断る。
-/
theorem shortSubaccountId_of_hex_nonce :
    SubaccountId.new lowercaseTable nonceTenSubaccountId = .ok ⟨nonceTenSubaccountId⟩ ∧
      ShortSubaccountId.ofSubaccountId ⟨nonceTenSubaccountId⟩ = .ok ⟨"00a"⟩ ∧
      ShortSubaccountId.new "00a" = .error
        (.genericErr "Invalid value: ShortSubaccountId must be a number between 0-999") ∧
      ShortSubaccountId.deserialize "00a" = .error
        ("Invalid value in deserialization: ShortSubaccountId must be a number between 0-999, " ++
          "received 00a") := by
  have hs : ∀ c ∈ nonceTenSubaccountId.data, c.toNat < 128 := by decide
  have hl : toLowercase lowercaseTable nonceTenSubaccountId = nonceTenSubaccountId := by
    rw [toLowercase, flatMap_charToLowercase_ascii lowercaseTable hs]
    decide
  refine ⟨?_, by decide, by decide, by decide⟩
  simp only [SubaccountId.new, newHexId, hl, show startsWith0x nonceTenSubaccountId = true by decide,
    show strLen nonceTenSubaccountId = 66 by decide]
  rfl

end CwInjective
