import CwInjective.Exchange.Roundtrip

/-!
# `Hash` の 16 進表記

`injective-cosmwasm` の `Hash([u8; 32])`。`to_hex` は `hex::encode`（小文字の 16 進）で書き、
`from_hex` は `hex::decode_to_slice` で 32 byte の配列に読み戻す。`hex` crate は src に無いので、
その二つの関数はここで書く。`decode_to_slice` は長さを確かめて**から**二文字ずつ読み、最初に
16 進の数字でない byte に出会ったところで、その位置を付けて断る。失敗の文言で文字を `{:?}` で
書く部分は Rust の `char` の書式なので、引数 `charDebug` にする。

* `hash_hex_roundtrip` — `to_hex` した文字列を `from_hex` に通すと元の `Hash` に戻る。
  `from_hex` が受けるのはちょうど 64 個の 16 進の数字で、返した `Hash` を `to_hex` すると
  入力を ASCII の小文字にしたものになる
* `hash_fromHex_error` — `from_hex` が断るのは、長さが奇数のとき、64 でないとき、最初の
  16 進でない byte のところで、文言はその理由と位置を言う
* `hash_display_hexIds` — `Display` した `Hash` は、そのまま `MarketId` と `SubaccountId` になる
-/

namespace CwInjective

/-- `Hash([u8; 32])`。32 byte であることは型が持つ。 -/
structure Hash where
  bytes : List UInt8
  length_eq : bytes.length = 32
  deriving DecidableEq

/-- `str::as_bytes`。文字列の UTF-8 の byte 列。 -/
def asBytes (s : String) : List UInt8 := s.toUTF8.data.toList

/-! ## `hex::encode` -/

/-- `hex` crate の `HEX_CHARS_LOWER`。 -/
def hexCharsLower : Array Char :=
  #['0', '1', '2', '3', '4', '5', '6', '7', '8', '9', 'a', 'b', 'c', 'd', 'e', 'f']

/-- 一 byte を上位の 4 bit、下位の 4 bit の順に二文字で書く。 -/
def byteToHex (b : UInt8) : List Char :=
  [hexCharsLower[b.toNat / 16]!, hexCharsLower[b.toNat % 16]!]

/-- `hex::encode`。 -/
def hexEncode (data : List UInt8) : String := ⟨data.flatMap byteToHex⟩

/-- `Hash::to_hex`。 -/
def Hash.toHex (h : Hash) : String := hexEncode h.bytes

/-- `Display for Hash`。 -/
def Hash.display (h : Hash) : String := "0x" ++ h.toHex

/-! ## `hex::decode_to_slice` -/

/-- `hex::FromHexError`。 -/
inductive FromHexError where
  /-- 16 進の数字でない文字。`index` は入力の中の位置。 -/
  | invalidHexCharacter (c : Char) (index : Nat)
  /-- 長さが奇数。 -/
  | oddLength
  /-- 長さが出力の 2 倍でない。 -/
  | invalidStringLength
  deriving DecidableEq, Repr

/-- `hex` crate の `val`。`A`–`F`、`a`–`f`、`0`–`9` の値を返し、ほかの byte は位置を付けて断る。 -/
def hexVal (c : UInt8) (idx : Nat) : Except FromHexError UInt8 :=
  if 0x41 ≤ c ∧ c ≤ 0x46 then .ok (c - 0x41 + 10)
  else if 0x61 ≤ c ∧ c ≤ 0x66 then .ok (c - 0x61 + 10)
  else if 0x30 ≤ c ∧ c ≤ 0x39 then .ok (c - 0x30)
  else .error (.invalidHexCharacter (Char.ofNat c.toNat) idx)

/-- `decode_to_slice` の繰り返し。`idx` 文字目と次の文字から一 byte を読み、上位の桁から
読んで先に落ちた方を返す。 -/
def decodePairs : List UInt8 → Nat → Except FromHexError (List UInt8)
  | hi :: lo :: rest, idx => do
    let high ← hexVal hi idx
    let low ← hexVal lo (idx + 1)
    let bytes ← decodePairs rest (idx + 2)
    pure ((high <<< 4 ||| low) :: bytes)
  | _, _ => pure []

/-- `hex::decode_to_slice`。長さが奇数か、出力の長さの 2 倍でなければ読まずに断る。 -/
def decodeToSlice (data : List UInt8) (outLen : Nat) : Except FromHexError (List UInt8) :=
  if data.length % 2 ≠ 0 then .error .oddLength
  else if data.length / 2 ≠ outLen then .error .invalidStringLength
  else decodePairs data 0

theorem decodePairs_length :
    ∀ {data : List UInt8} {idx : Nat} {out : List UInt8},
      decodePairs data idx = .ok out → out.length = data.length / 2
  | [], _, _, h | [_], _, _, h => by cases h; simp
  | _ :: _ :: rest, _, _, h => by
    obtain ⟨_, -, h⟩ := bind_eq_ok.mp h
    obtain ⟨_, -, h⟩ := bind_eq_ok.mp h
    obtain ⟨bytes, hb, h⟩ := bind_eq_ok.mp h
    cases h
    simp only [List.length_cons, decodePairs_length hb]
    omega

/-- 読めたなら、出力の長さは頼んだ長さ。 -/
theorem decodeToSlice_length {data out : List UInt8} {outLen : Nat}
    (h : decodeToSlice data outLen = .ok out) : out.length = outLen := by
  unfold decodeToSlice at h
  split at h
  · cases h
  split at h
  · cases h
  next hlen => rw [decodePairs_length h]; exact of_not_not hlen

theorem decodeToSlice_eq_ok {data out : List UInt8} {outLen : Nat} :
    decodeToSlice data outLen = .ok out ↔
      data.length = 2 * outLen ∧ decodePairs data 0 = .ok out := by
  unfold decodeToSlice
  split_ifs with h₁ h₂
  · exact ⟨nofun, fun ⟨h, _⟩ => absurd h (by omega)⟩
  · exact ⟨nofun, fun ⟨h, _⟩ => absurd h (by omega)⟩
  · exact ⟨fun h => ⟨by omega, h⟩, fun h => h.2⟩

section FromHex

variable (charDebug : Char → String)

/-- `Display for FromHexError`。文字は `{:?}` で書き、その書き方は `charDebug` にする。 -/
def FromHexError.toString : FromHexError → String
  | .invalidHexCharacter c index =>
    "Invalid character " ++ charDebug c ++ " at position " ++ Nat.repr index
  | .oddLength => "Odd number of digits"
  | .invalidStringLength => "Invalid string length"

/-- `Hash::from_hex`。32 byte の配列に `decode_to_slice` で読み、失敗は `generic_err` にする。 -/
def Hash.fromHex (s : List UInt8) : Except StdError Hash :=
  match h : decodeToSlice s 32 with
  | .ok bytes => .ok ⟨bytes, decodeToSlice_length h⟩
  | .error e => .error (.genericErr (e.toString charDebug))

theorem fromHex_eq_ok {s : List UInt8} {h : Hash} :
    Hash.fromHex charDebug s = .ok h ↔ decodeToSlice s 32 = .ok h.bytes := by
  unfold Hash.fromHex
  split
  · next bytes hd =>
    simp only [hd, Except.ok.injEq]
    constructor
    · rintro rfl; rfl
    · intro e; cases h; cases e; rfl
  · next e hd => simp [hd]

theorem fromHex_eq_error {s : List UInt8} {err : StdError} :
    Hash.fromHex charDebug s = .error err ↔
      ∃ e, decodeToSlice s 32 = .error e ∧ err = .genericErr (e.toString charDebug) := by
  unfold Hash.fromHex
  split
  · next bytes hd => simp [hd]
  · next e hd => simp [hd, eq_comm]

end FromHex

/-! ## 16 進の数字 -/

/-- `u8::to_ascii_lowercase`。`A`–`Z` を小文字にし、ほかの byte はそのまま。 -/
def asciiLower (c : UInt8) : UInt8 := if 0x41 ≤ c ∧ c ≤ 0x5A then c + 0x20 else c

/-- 小文字の 16 進の数字 `d` の byte。 -/
def hexDigitByte (d : Nat) : UInt8 := (hexCharsLower[d]!).toNat.toUInt8

/-- 16 進の数字の byte：ASCII の小文字にすると、小文字の 16 進の数字になる。 -/
def isHexDigit (c : UInt8) : Bool := (List.range 16).any fun d => hexDigitByte d = asciiLower c

/-- `to_hex` の byte 列：各 byte の上位と下位の桁の数字。 -/
def hexDigitBytes (data : List UInt8) : List UInt8 :=
  data.flatMap fun b => [hexDigitByte (b.toNat / 16), hexDigitByte (b.toNat % 16)]

theorem UInt8.le_iff_toNat_le {a b : UInt8} : a ≤ b ↔ a.toNat ≤ b.toNat := .rfl

theorem hexDigitByte_toNat {d : Nat} (hd : d < 16) :
    (hexDigitByte d).toNat = if d < 10 then 0x30 + d else 0x57 + d := by
  rcases d with _ | _ | _ | _ | _ | _ | _ | _ | _ | _ | _ | _ | _ | _ | _ | _ | d
  all_goals first | rfl | omega

/-- 数字の文字は ASCII なので、UTF-8 では自分の byte 一つになる。 -/
theorem utf8EncodeChar_hexCharsLower (d : Nat) :
    String.utf8EncodeChar hexCharsLower[d]! = [hexDigitByte d] := by
  rcases d with _ | _ | _ | _ | _ | _ | _ | _ | _ | _ | _ | _ | _ | _ | _ | _ | d
  all_goals rfl

/-- 小文字の数字 `d` は `val` で `d` と読まれる。位置には依らない。 -/
theorem hexVal_hexDigitByte {d : Nat} (hd : d < 16) (idx : Nat) :
    hexVal (hexDigitByte d) idx = .ok (UInt8.ofNat d) := by
  rcases d with _ | _ | _ | _ | _ | _ | _ | _ | _ | _ | _ | _ | _ | _ | _ | _ | d
  all_goals first | rfl | omega

theorem asciiLower_toNat (c : UInt8) :
    (asciiLower c).toNat = if 65 ≤ c.toNat ∧ c.toNat ≤ 90 then c.toNat + 32 else c.toNat := by
  have hc := c.toNat_lt_size
  unfold asciiLower
  split_ifs <;>
    simp only [UInt8.le_iff_toNat_le, UInt8.toNat_ofNat, UInt8.toNat_add, UInt8.size] at * <;> omega

/-- `val` の三つの範囲を数で書く。 -/
theorem hexVal_toNat {c v : UInt8} {idx : Nat} (h : hexVal c idx = .ok v) :
    65 ≤ c.toNat ∧ c.toNat ≤ 70 ∧ v.toNat = c.toNat - 55 ∨
      97 ≤ c.toNat ∧ c.toNat ≤ 102 ∧ v.toNat = c.toNat - 87 ∨
      48 ≤ c.toNat ∧ c.toNat ≤ 57 ∧ v.toNat = c.toNat - 48 := by
  have hc : c.toNat < 256 := c.toNat_lt_size
  unfold hexVal at h
  split_ifs at h with hA hB hC <;> cases h
  · have h₁ : 65 ≤ c.toNat := hA.1
    refine .inl ⟨h₁, hA.2, ?_⟩
    rw [UInt8.toNat_add, UInt8.toNat_sub_of_le _ _ hA.1]
    exact show (c.toNat - 65 + 10) % 256 = c.toNat - 55 by omega
  · have h₁ : 97 ≤ c.toNat := hB.1
    refine .inr (.inl ⟨h₁, hB.2, ?_⟩)
    rw [UInt8.toNat_add, UInt8.toNat_sub_of_le _ _ hB.1]
    exact show (c.toNat - 97 + 10) % 256 = c.toNat - 87 by omega
  · exact .inr (.inr ⟨hC.1, hC.2, UInt8.toNat_sub_of_le _ _ hC.1⟩)

/-- **`val` の spec。** 読める byte は、ASCII の小文字にするとその値の小文字の数字になる。 -/
theorem hexVal_eq_ok {c v : UInt8} {idx : Nat} (h : hexVal c idx = .ok v) :
    v.toNat < 16 ∧ hexDigitByte v.toNat = asciiLower c := by
  have hv := hexVal_toNat h
  have hlt : v.toNat < 16 := by omega
  refine ⟨hlt, UInt8.toNat.inj ?_⟩
  rw [hexDigitByte_toNat hlt, asciiLower_toNat]
  split_ifs <;> omega

/-- 16 進の数字の byte は `val` で読める。 -/
theorem hexVal_of_isHexDigit {c : UInt8} (hc : isHexDigit c = true) (idx : Nat) :
    ∃ v, hexVal c idx = .ok v := by
  obtain ⟨d, hd, heq⟩ := List.any_eq_true.mp hc
  have hd := List.mem_range.mp hd
  -- `c` を小文字にした byte は数字 `d` なので、`c` は `val` の三つの範囲のどれかにある
  have h := congrArg UInt8.toNat (of_decide_eq_true heq)
  rw [hexDigitByte_toNat hd, asciiLower_toNat] at h
  have hlt := c.toNat_lt_size
  unfold hexVal
  split_ifs with hA hB hC
  · exact ⟨_, rfl⟩
  · exact ⟨_, rfl⟩
  · exact ⟨_, rfl⟩
  · simp only [UInt8.le_iff_toNat_le, UInt8.toNat_ofNat, UInt8.size] at hA hB hC hlt
    split_ifs at h <;> omega

/-- 読めた byte は 16 進の数字。 -/
theorem isHexDigit_of_hexVal {c v : UInt8} {idx : Nat} (h : hexVal c idx = .ok v) :
    isHexDigit c = true :=
  List.any_eq_true.mpr ⟨_, List.mem_range.mpr (hexVal_eq_ok h).1, decide_eq_true (hexVal_eq_ok h).2⟩

/-- **`val` が断るのは 16 進の数字でない byte だけで、その byte と位置を言う。** -/
theorem hexVal_eq_error {c : UInt8} {idx : Nat} {e : FromHexError} :
    hexVal c idx = .error e ↔
      isHexDigit c = false ∧ e = .invalidHexCharacter (Char.ofNat c.toNat) idx := by
  have herr : ∀ e', hexVal c idx = .error e' →
      e' = .invalidHexCharacter (Char.ofNat c.toNat) idx := fun e' h => by
    unfold hexVal at h
    split_ifs at h
    cases h
    rfl
  constructor
  · intro h
    refine ⟨Bool.eq_false_iff.mpr fun hc => ?_, herr e h⟩
    obtain ⟨v, hv⟩ := hexVal_of_isHexDigit hc idx
    rw [hv] at h
    cases h
  · rintro ⟨hc, rfl⟩
    cases h : hexVal c idx with
    | ok v => rw [isHexDigit_of_hexVal h] at hc; cases hc
    | error e => rw [herr e h]

/-- 上位と下位の桁を合わせた byte。 -/
theorem shiftLeft_or_toNat {h l : UInt8} (hh : h.toNat < 16) (hl : l.toNat < 16) :
    ((h <<< 4) ||| l).toNat = 16 * h.toNat + l.toNat := by
  show ((h.toBitVec <<< ((4 : UInt8) % 8).toBitVec) ||| l.toBitVec).toNat = _
  rw [BitVec.toNat_or, BitVec.shiftLeft_eq', BitVec.toNat_shiftLeft]
  show (h.toNat <<< 4 % 2 ^ 8 ||| l.toNat) = _
  rw [Nat.shiftLeft_eq, Nat.mod_eq_of_lt (by omega), Nat.mul_comm, ← Nat.mul_add_lt_is_or hl]

/-! ## 往復 -/

/-- `to_hex` の UTF-8 の byte 列は、各 byte の二つの桁の数字。 -/
theorem asBytes_hexEncode (data : List UInt8) : asBytes (hexEncode data) = hexDigitBytes data := by
  induction data with
  | nil => rfl
  | cons b rest ih =>
    simp only [asBytes, hexEncode, String.toUTF8, hexDigitBytes, List.flatMap_cons, byteToHex,
      List.cons_append, List.nil_append, utf8EncodeChar_hexCharsLower] at ih ⊢
    rw [ih]

/-- **`to_hex` の数字は読み戻せる。** -/
theorem decodePairs_hexDigitBytes :
    ∀ (data : List UInt8) (idx : Nat), decodePairs (hexDigitBytes data) idx = .ok data
  | [], _ => rfl
  | b :: rest, idx => by
    have hb := b.toNat_lt_size
    have hhi : b.toNat / 16 < 16 := by simp only [UInt8.size] at hb; omega
    have hlo : b.toNat % 16 < 16 := Nat.mod_lt _ (by omega)
    -- 二つの桁を合わせると元の byte に戻る
    have hbyte : UInt8.ofNat (b.toNat / 16) <<< 4 ||| UInt8.ofNat (b.toNat % 16) = b := by
      have h₁ : (UInt8.ofNat (b.toNat / 16)).toNat = b.toNat / 16 :=
        UInt8.toNat_ofNat_of_lt (by simp only [UInt8.size]; omega)
      have h₂ : (UInt8.ofNat (b.toNat % 16)).toNat = b.toNat % 16 :=
        UInt8.toNat_ofNat_of_lt (by simp only [UInt8.size]; omega)
      apply UInt8.toNat.inj
      rw [shiftLeft_or_toNat (by rw [h₁]; exact hhi) (by rw [h₂]; exact hlo), h₁, h₂]
      omega
    show decodePairs (hexDigitByte (b.toNat / 16) :: hexDigitByte (b.toNat % 16) ::
      hexDigitBytes rest) idx = _
    simp only [decodePairs, hexVal_hexDigitByte hhi, hexVal_hexDigitByte hlo, ok_bind,
      decodePairs_hexDigitBytes rest, hbyte]
    rfl

/-- **読めた byte 列を書き直すと、入力を ASCII の小文字にしたものになる。** -/
theorem hexDigitBytes_of_decodePairs :
    ∀ {data : List UInt8} {idx : Nat} {out : List UInt8},
      decodePairs data idx = .ok out → data.length % 2 = 0 → hexDigitBytes out = data.map asciiLower
  | [], _, _, h, _ => by cases h; rfl
  | [_], _, _, _, hlen => by simp at hlen
  | hi :: lo :: rest, idx, out, h, hlen => by
    obtain ⟨high, hh, h⟩ := bind_eq_ok.mp h
    obtain ⟨low, hl, h⟩ := bind_eq_ok.mp h
    obtain ⟨bytes, hb, h⟩ := bind_eq_ok.mp h
    cases h
    obtain ⟨hhlt, hhd⟩ := hexVal_eq_ok hh
    obtain ⟨hllt, hld⟩ := hexVal_eq_ok hl
    have hbyte := shiftLeft_or_toNat hhlt hllt
    have ih := hexDigitBytes_of_decodePairs hb (by simp only [List.length_cons] at hlen; omega)
    simp only [hexDigitBytes, List.flatMap_cons, List.map_cons] at ih ⊢
    rw [hbyte, show (16 * high.toNat + low.toNat) / 16 = high.toNat by omega,
      show (16 * high.toNat + low.toNat) % 16 = low.toNat by omega, hhd, hld, ih]
    rfl

/-- 16 進の数字だけの偶数長の列は読める。 -/
theorem decodePairs_of_isHexDigit :
    ∀ {data : List UInt8} (idx : Nat), (∀ c ∈ data, isHexDigit c = true) →
      ∃ out, decodePairs data idx = .ok out
  | [], _, _ | [_], _, _ => ⟨[], rfl⟩
  | hi :: lo :: rest, idx, h => by
    obtain ⟨high, hh⟩ := hexVal_of_isHexDigit (h hi (by simp)) idx
    obtain ⟨low, hl⟩ := hexVal_of_isHexDigit (h lo (by simp)) (idx + 1)
    obtain ⟨bytes, hb⟩ := decodePairs_of_isHexDigit (idx + 2) fun c hc =>
      h c (List.mem_cons_of_mem _ (List.mem_cons_of_mem _ hc))
    exact ⟨_, by simp only [decodePairs, hh, hl, hb, ok_bind]; rfl⟩

/-- 読めた列はどれも 16 進の数字。 -/
theorem isHexDigit_of_decodePairs :
    ∀ {data : List UInt8} {idx : Nat} {out : List UInt8},
      decodePairs data idx = .ok out → data.length % 2 = 0 → ∀ c ∈ data, isHexDigit c = true
  | [], _, _, _, _ => nofun
  | [_], _, _, _, hlen => by simp at hlen
  | hi :: lo :: rest, idx, out, h, hlen => by
    obtain ⟨high, hh, h⟩ := bind_eq_ok.mp h
    obtain ⟨low, hl, h⟩ := bind_eq_ok.mp h
    obtain ⟨bytes, hb, -⟩ := bind_eq_ok.mp h
    intro c hc
    rcases List.mem_cons.mp hc with rfl | hc
    · exact isHexDigit_of_hexVal hh
    rcases List.mem_cons.mp hc with rfl | hc
    · exact isHexDigit_of_hexVal hl
    exact isHexDigit_of_decodePairs hb (by simp only [List.length_cons] at hlen; omega) c hc

/-- **`decode_to_slice` の繰り返しが断るのは、最初の 16 進でない byte のところ。** -/
theorem decodePairs_eq_error :
    ∀ {data : List UInt8} {idx : Nat} {e : FromHexError}, decodePairs data idx = .error e →
      ∃ pre c post, data = pre ++ c :: post ∧ (∀ d ∈ pre, isHexDigit d = true) ∧
        isHexDigit c = false ∧ e = .invalidHexCharacter (Char.ofNat c.toNat) (idx + pre.length)
  | [], _, _, h | [_], _, _, h => by cases h
  | hi :: lo :: rest, idx, e, h => by
    rcases bind_eq_error.mp h with hh | ⟨high, hh, h⟩
    · obtain ⟨hc, rfl⟩ := hexVal_eq_error.mp hh
      exact ⟨[], hi, lo :: rest, rfl, nofun, hc, rfl⟩
    rcases bind_eq_error.mp h with hl | ⟨low, hl, h⟩
    · obtain ⟨hc, rfl⟩ := hexVal_eq_error.mp hl
      exact ⟨[hi], lo, rest, rfl, by simpa using isHexDigit_of_hexVal hh, hc, rfl⟩
    rcases bind_eq_error.mp h with hr | ⟨_, -, h⟩
    · obtain ⟨pre, c, post, rfl, hpre, hc, rfl⟩ := decodePairs_eq_error hr
      refine ⟨hi :: lo :: pre, c, post, rfl, ?_, hc, ?_⟩
      · simp only [List.mem_cons, forall_eq_or_imp]
        exact ⟨isHexDigit_of_hexVal hh, isHexDigit_of_hexVal hl, hpre⟩
      · simp only [List.length_cons]
        congr 1
        omega
    · cases h

/-- 最初の 16 進でない byte は一つに決まる。 -/
theorem firstNonHex_unique :
    ∀ {pre pre' post post' : List UInt8} {c c' : UInt8}, pre ++ c :: post = pre' ++ c' :: post' →
      (∀ d ∈ pre, isHexDigit d = true) → isHexDigit c = false →
      (∀ d ∈ pre', isHexDigit d = true) → isHexDigit c' = false → pre = pre' ∧ c = c'
  | [], [], _, _, _, _, h, _, _, _, _ => ⟨rfl, (List.cons.inj h).1⟩
  | [], d' :: _, _, _, _, _, h, _, hc, hpre', _ => by
    cases (List.cons.inj h).1
    rw [hpre' _ (List.mem_cons_self _ _)] at hc
    cases hc
  | d :: _, [], _, _, _, _, h, hpre, _, _, hc' => by
    cases (List.cons.inj h).1
    rw [hpre _ (List.mem_cons_self _ _)] at hc'
    cases hc'
  | d :: pre, d' :: pre', _, _, _, _, h, hpre, hc, hpre', hc' => by
    simp only [List.cons_append, List.cons.injEq] at h
    obtain ⟨rfl, h⟩ := h
    obtain ⟨rfl, rfl⟩ := firstNonHex_unique h (fun x hx => hpre x (List.mem_cons_of_mem _ hx)) hc
      (fun x hx => hpre' x (List.mem_cons_of_mem _ hx)) hc'
    exact ⟨rfl, rfl⟩

theorem hexDigitBytes_length (data : List UInt8) :
    (hexDigitBytes data).length = 2 * data.length := by
  induction data with
  | nil => rfl
  | cons b rest ih =>
    simp only [hexDigitBytes, List.flatMap_cons, List.length_append, List.length_cons,
      List.length_nil] at ih ⊢
    omega

/-- 書いた数字の列から元の byte 列は一つに決まる。 -/
theorem hexDigitBytes_injective {a b : List UInt8} (h : hexDigitBytes a = hexDigitBytes b) :
    a = b := by
  have ha := decodePairs_hexDigitBytes a 0
  rw [h, decodePairs_hexDigitBytes b 0] at ha
  cases ha
  rfl

/-! ## `Hash::from_hex` と `Hash::to_hex` -/

section Hex

variable (charDebug : Char → String)

/--
**`Hash` の 16 進表記は往復する。** `to_hex` した文字列の byte を `from_hex` に通すと元の
`Hash` に戻る。`from_hex` が受けるのは、ちょうど 64 個の 16 進の数字（大文字でも小文字でも
よい）の列で、返した `Hash` を `to_hex` すると入力を ASCII の小文字にしたものになる。
-/
theorem hash_hex_roundtrip :
    (∀ h : Hash, Hash.fromHex charDebug (asBytes h.toHex) = .ok h) ∧
    ∀ (s : List UInt8) (h : Hash), Hash.fromHex charDebug s = .ok h ↔
      s.length = 64 ∧ (∀ c ∈ s, isHexDigit c = true) ∧ asBytes h.toHex = s.map asciiLower := by
  refine ⟨fun h => ?_, fun s h => ?_⟩
  · rw [fromHex_eq_ok, Hash.toHex, asBytes_hexEncode, decodeToSlice_eq_ok, hexDigitBytes_length,
      h.length_eq]
    exact ⟨rfl, decodePairs_hexDigitBytes _ 0⟩
  rw [fromHex_eq_ok, decodeToSlice_eq_ok, Hash.toHex, asBytes_hexEncode]
  constructor
  · rintro ⟨hlen, hd⟩
    have heven : s.length % 2 = 0 := by omega
    exact ⟨hlen, isHexDigit_of_decodePairs hd heven, hexDigitBytes_of_decodePairs hd heven⟩
  · rintro ⟨hlen, hs, hbytes⟩
    obtain ⟨out, hd⟩ := decodePairs_of_isHexDigit 0 hs
    -- 読めた byte 列を書き直すと `h` の数字の列になるので、`h` の byte 列そのもの
    have hout : out = h.bytes := hexDigitBytes_injective
      ((hexDigitBytes_of_decodePairs hd (by omega)).trans hbytes.symm)
    exact ⟨hlen, hout ▸ hd⟩

/--
**`from_hex` が断る理由。** 長さが奇数なら `Odd number of digits`、偶数で 64 でなければ
`Invalid string length`、64 なら最初の 16 進でない byte `c` とその位置 `i` を言う
`Invalid character {c:?} at position {i}`。どれも `generic_err` で返り、ほかの理由では断らない。
-/
theorem hash_fromHex_error (s : List UInt8) (err : StdError) :
    Hash.fromHex charDebug s = .error err ↔
      (s.length % 2 = 1 ∧ err = .genericErr "Odd number of digits") ∨
      (s.length % 2 = 0 ∧ s.length ≠ 64 ∧ err = .genericErr "Invalid string length") ∨
      (s.length = 64 ∧ ∃ pre c post, s = pre ++ c :: post ∧ (∀ d ∈ pre, isHexDigit d = true) ∧
        isHexDigit c = false ∧
        err = .genericErr ("Invalid character " ++ charDebug (Char.ofNat c.toNat) ++
          " at position " ++ Nat.repr pre.length)) := by
  rw [fromHex_eq_error]
  unfold decodeToSlice
  split_ifs with hodd hlen
  · -- 長さが奇数
    refine ⟨fun ⟨e, he, herr⟩ => .inl ⟨by omega, by cases he; exact herr⟩, ?_⟩
    rintro (⟨-, rfl⟩ | ⟨h, -⟩ | ⟨h, -⟩)
    · exact ⟨_, rfl, rfl⟩
    all_goals omega
  · -- 長さが 64 でない
    refine ⟨fun ⟨e, he, herr⟩ => .inr (.inl ⟨by omega, by omega, by cases he; exact herr⟩), ?_⟩
    rintro (⟨h, -⟩ | ⟨-, -, rfl⟩ | ⟨h, -⟩)
    · omega
    · exact ⟨_, rfl, rfl⟩
    · omega
  -- 長さが 64 なら、最初の 16 進でない byte で断る
  have hlen : s.length = 64 := by omega
  constructor
  · rintro ⟨e, he, rfl⟩
    obtain ⟨pre, c, post, hs, hpre, hc, rfl⟩ := decodePairs_eq_error he
    exact .inr (.inr ⟨hlen, pre, c, post, hs, hpre, hc, by rw [Nat.zero_add]; rfl⟩)
  rintro (⟨h, -⟩ | ⟨-, h, -⟩ | ⟨-, pre, c, post, hs, hpre, hc, rfl⟩)
  · omega
  · exact absurd hlen h
  cases hd : decodePairs s 0 with
  | ok out =>
    have := isHexDigit_of_decodePairs hd (by omega) c (by simp [hs])
    rw [hc] at this
    cases this
  | error e =>
    obtain ⟨pre', c', post', hs', hpre', hc', rfl⟩ := decodePairs_eq_error hd
    obtain ⟨rfl, rfl⟩ := firstNonHex_unique (hs.symm.trans hs') hpre hc hpre' hc'
    exact ⟨_, rfl, by rw [Nat.zero_add]; rfl⟩

end Hex

/-! ## `Display` と識別子 -/

theorem display_data (h : Hash) : h.display.data = '0' :: 'x' :: h.bytes.flatMap byteToHex := rfl

/-- 小文字の 16 進の数字は ASCII で、小文字にしても変わらない。 -/
theorem hexCharsLower_ascii {d : Nat} (hd : d < 16) :
    (hexCharsLower[d]!).toNat < 128 ∧ (hexCharsLower[d]!).toLower = hexCharsLower[d]! := by
  rcases d with _ | _ | _ | _ | _ | _ | _ | _ | _ | _ | _ | _ | _ | _ | _ | _ | d
  all_goals first | decide | omega

theorem length_flatMap_byteToHex (data : List UInt8) :
    (data.flatMap byteToHex).length = 2 * data.length := by
  induction data with
  | nil => rfl
  | cons b rest ih =>
    simp only [List.flatMap_cons, List.length_append, byteToHex, List.length_cons, List.length_nil,
      ih]
    omega

section Display

variable (lowercaseTable : Char → List Char)

/-- `Display` した `Hash` は識別子の検査を通り、小文字化でも変わらない。 -/
theorem newHexId_display (name : String) (h : Hash) :
    newHexId lowercaseTable name h.display = .ok h.display := by
  -- `Display` の文字はどれも ASCII で、小文字にしても変わらない
  have hchars : ∀ c ∈ h.display.data, c.toNat < 128 ∧ c.toLower = c := by
    rw [display_data]
    intro c hc
    simp only [List.mem_cons, List.mem_flatMap, byteToHex, List.mem_singleton,
      List.not_mem_nil, or_false] at hc
    have hb : ∀ b : UInt8, b.toNat / 16 < 16 := fun b => by
      have := b.toNat_lt_size
      simp only [UInt8.size] at this
      omega
    rcases hc with rfl | rfl | ⟨b, -, rfl | rfl⟩
    · decide
    · decide
    · exact hexCharsLower_ascii (hb b)
    · exact hexCharsLower_ascii (Nat.mod_lt _ (by omega))
  have hpre : startsWith0x h.display = true := by simp [startsWith0x, display_data, List.isPrefixOf]
  have hlen : strLen h.display = 66 := by
    rw [strLen_ascii fun c hc => (hchars c hc).1, display_data, List.length_cons, List.length_cons,
      length_flatMap_byteToHex, h.length_eq]
  have hlower : toLowercase lowercaseTable h.display = h.display := by
    rw [toLowercase, flatMap_charToLowercase_ascii lowercaseTable fun c hc => (hchars c hc).1,
      List.map_congr_left fun c hc => (hchars c hc).2, List.map_id']
  unfold newHexId
  rw [if_neg (by rw [hpre]; decide), if_neg (by rw [hlen]; decide), hlower]

/--
**`Display` した `Hash` はそのまま識別子になる。** `0x` と 64 個の小文字の 16 進の数字は、
Unicode の表によらず `MarketId::new` と `SubaccountId::new` の検査を通り、小文字化でも
変わらないので、できる識別子は `Display` の文字列そのものである。
-/
theorem hash_display_hexIds (h : Hash) :
    MarketId.new lowercaseTable h.display = .ok ⟨h.display⟩ ∧
      SubaccountId.new lowercaseTable h.display = .ok ⟨h.display⟩ := by
  simp only [MarketId.new, SubaccountId.new, newHexId_display]
  exact ⟨rfl, rfl⟩

end Display

end CwInjective
