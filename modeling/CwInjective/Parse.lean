import CwInjective.Decimal

/-!
# 文字列から数へ

契約が `unwrap` で使う三つの parser。どれもライブラリ側の関数で、失敗の文言は
`unwrap` の panic に呑まれるので `Option` で返す。

* `Uint256::from_str` — 空でない十進の数字列で、`2^256` 未満
* `Decimal256::from_str` — `整数部` か `整数部.小数部`。小数部は 18 桁まで、丸めない
* `str::parse::<i64 | u64 | u8 | u16>` — 先頭の `+`（符号付きなら `-` も）を許す

`Uint256` と `Decimal256` は cosmwasm-std 1.3 より前のもの（src が使う `cosmwasm_storage` の
`singleton` と同じ 1.x 系）に合わせる。そこでは `Uint256::from_str` は `U256::from_dec_str` に
そのまま渡すので、先頭の `+` は数字でないとして断られ、`Decimal256::from_str` の整数部も同じ。
-/

namespace CwInjective

/-- 空でなく、十進の数字だけからなる列の値。 -/
def decimalDigits? (cs : List Char) : Option Nat :=
  if cs ≠ [] ∧ cs.all Char.isDigit then
    some (cs.foldl (fun n c => 10 * n + (c.toNat - '0'.toNat)) 0)
  else none

/-- `Option` の `unwrap`。`None` なら panic する。 -/
def unwrap {α : Type} : Option α → Except Panic α
  | some a => .ok a
  | none => .error .unwrap

@[simp] theorem unwrap_some {α : Type} (a : α) : unwrap (some a) = .ok a := rfl

theorem unwrap_eq_ok {α : Type} {x : Option α} {a : α} : unwrap x = .ok a ↔ x = some a := by
  cases x <;> simp [unwrap]

theorem unwrap_failsOnly {α : Type} (x : Option α) : FailsOnly (· = .unwrap) (unwrap x) := by
  intro e h
  cases x <;> cases h
  rfl

/-- `Uint256::from_str`。空の文字列は `U256::from_dec_str` に渡す前に断る。 -/
def Uint256.fromStr (s : String) : Option Uint256 := do
  let n ← decimalDigits? s.data
  if h : n < uintSize then some ⟨n, h⟩ else none

/-- `str::split(sep)`。区切りの間の列を、空のものも含めてすべて返す。 -/
def splitOn (sep : Char) (acc : List Char) : List Char → List (List Char)
  | [] => [acc.reverse]
  | c :: rest => if c = sep then acc.reverse :: splitOn sep [] rest else splitOn sep (c :: acc) rest

/-- atomics が表せれば値にする。 -/
def Decimal256.ofAtomics? (n : Nat) : Option Decimal256 :=
  if h : n < uintSize then some ⟨n, h⟩ else none

/--
`Decimal256::from_str`。`.` で区切り、整数部と小数部をそれぞれ `Uint256` として読む。
小数部が 18 桁を超えると断る（0 でも丸めない）。区切りが二つ以上あっても断る。
-/
def Decimal256.fromStr (input : String) : Option Decimal256 :=
  match splitOn '.' [] input.data with
  | [whole] => do
    let w ← Uint256.fromStr ⟨whole⟩
    Decimal256.ofAtomics? (w.val * fractional)
  | [whole, frac] => do
    let w ← Uint256.fromStr ⟨whole⟩
    let f ← Uint256.fromStr ⟨frac⟩
    if frac.length ≤ 18 then
      Decimal256.ofAtomics? (w.val * fractional + f.val * 10 ^ (18 - frac.length))
    else none
  | _ => none

theorem fromStr_two : Decimal256.fromStr "2" = some Decimal256.two := by decide

example : Decimal256.fromStr "0.01" = some ⟨10 ^ 16, by decide⟩ := by decide
example : Decimal256.fromStr "1.5.3" = none ∧ Decimal256.fromStr ".5" = none ∧
    Decimal256.fromStr "1." = none := by decide

/--
`from_str_radix(src, 10)`。`signed` は型が符号付きかどうか、`[lo, hi]` は型の範囲。
符号だけの文字列は断り、符号なしの型では `-` は数字でない文字として断る。
-/
def parseInt (signed : Bool) (lo hi : Int) : List Char → Option Int
  | [] => none
  | c :: rest =>
    let unsigned : Option (Bool × List Char) :=
      if (c = '+' ∨ c = '-') ∧ rest = [] then none
      else if c = '+' then some (true, rest)
      else if c = '-' ∧ signed = true then some (false, rest)
      else some (true, c :: rest)
    do
      let (positive, digits) ← unsigned
      let n ← decimalDigits? digits
      let v : Int := if positive then n else -n
      if lo ≤ v ∧ v ≤ hi then some v else none

/-- `str::parse::<i64>`。 -/
def parseI64 (s : String) : Option Int := parseInt true (-2 ^ 63) (2 ^ 63 - 1) s.data

/-- `str::parse::<u64>`。 -/
def parseU64 (s : String) : Option Int := parseInt false 0 (2 ^ 64 - 1) s.data

/-- `str::parse::<u8>`。 -/
def parseU8 (s : String) : Option Int := parseInt false 0 (2 ^ 8 - 1) s.data

/-- `str::parse::<u16>`。 -/
def parseU16 (s : String) : Option Int := parseInt false 0 (2 ^ 16 - 1) s.data

example : parseU16 "007" = some 7 ∧ parseU16 "+12" = some 12 ∧ parseU16 "00a" = none ∧
    parseU16 "-1" = none ∧ parseI64 "-1" = some (-1) := by decide

end CwInjective
