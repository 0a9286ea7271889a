import Mathlib

/-!
# `Decimal256` と `Uint256`

cosmwasm-std の固定小数点数。値は `10^18` を 1 とする自然数（atomics）で、`2^256` 未満に限る。
範囲を出る演算は Rust では panic し、ここでは `Except Panic` の `error` で表す。

* `sub` — 下に溢れると `subOverflow`
* `add` — `2^256` に届くと `addOverflow`
* `mul` — `a * b / 10^18` を切り捨てる。届くと `mulOverflow`
* `div` — `a * 10^18 / b` を切り捨てる。`b = 0` なら `divByZero`、届くと `divOverflow`

panic の種類を分けておくのは、`get_action` について「0 では割らない」「下に溢れるのは
どこか」を言うためである。
-/

namespace CwInjective

/-- Rust 側の panic。 -/
inductive Panic where
  /-- `attempt to subtract with overflow` -/
  | subOverflow
  /-- `attempt to add with overflow` -/
  | addOverflow
  /-- `attempt to multiply with overflow` -/
  | mulOverflow
  /-- `Division failed - denominator must not be zero` -/
  | divByZero
  /-- `Division failed - multiplication overflow` -/
  | divOverflow
  /-- `unwrap` が `Err` か `None` を受けた。 -/
  | unwrap
  /-- 文字列の切り出しで、byte index が文字の境界にない（または長さを超えた）。 -/
  | charBoundary
  deriving DecidableEq, Repr

/-- 結果を `decide` で比べられるように。 -/
instance decEqExcept {ε α : Type} [DecidableEq ε] [DecidableEq α] : DecidableEq (Except ε α)
  | .ok a, .ok b => decidable_of_iff (a = b) ⟨fun h => h ▸ rfl, fun h => by cases h; rfl⟩
  | .error a, .error b => decidable_of_iff (a = b) ⟨fun h => h ▸ rfl, fun h => by cases h; rfl⟩
  | .ok _, .error _ => isFalse nofun
  | .error _, .ok _ => isFalse nofun

/-- 上に溢れた panic。 -/
def Panic.IsOverflow (e : Panic) : Prop :=
  e = .addOverflow ∨ e = .mulOverflow ∨ e = .divOverflow

/-- 算術の panic。下に溢れるか、上に溢れるか（0 で割るのは含めない）。 -/
def Panic.IsArith (e : Panic) : Prop :=
  e = .subOverflow ∨ e.IsOverflow

/-- 256 bit で表せる数の個数。 -/
def uintSize : Nat := 2 ^ 256

/-- `Decimal256::DECIMAL_FRACTIONAL`。 -/
def fractional : Nat := 10 ^ 18

theorem fractional_pos : 0 < fractional := by decide

theorem fractional_lt_uintSize : 2 * fractional < uintSize := by decide

/-- `cosmwasm_std::Uint256`。 -/
structure Uint256 where
  val : Nat
  val_lt : val < uintSize
  deriving DecidableEq

/-- `cosmwasm_std::Decimal256`。 -/
@[ext]
structure Decimal256 where
  atomics : Nat
  atomics_lt : atomics < uintSize
  deriving DecidableEq

namespace Decimal256

theorem atomics_injective : Function.Injective atomics := fun _ _ h => Decimal256.ext h

/-- 大小は atomics で比べる。 -/
instance : LinearOrder Decimal256 := LinearOrder.lift' atomics atomics_injective

theorem le_def {a b : Decimal256} : a ≤ b ↔ a.atomics ≤ b.atomics := Iff.rfl

theorem lt_def {a b : Decimal256} : a < b ↔ a.atomics < b.atomics := Iff.rfl

def zero : Decimal256 := ⟨0, by decide⟩

/-- `Decimal256::one()`。 -/
def one : Decimal256 := ⟨fractional, by decide⟩

/-- `Decimal::from_str("2").unwrap()`。`fromStr_two` が両者の一致を言う。 -/
def two : Decimal256 := ⟨2 * fractional, fractional_lt_uintSize⟩

@[simp] theorem zero_atomics : zero.atomics = 0 := rfl
@[simp] theorem one_atomics : one.atomics = fractional := rfl
@[simp] theorem two_atomics : two.atomics = 2 * fractional := rfl

theorem eq_zero_iff {a : Decimal256} : a = zero ↔ a.atomics = 0 := by
  constructor
  · rintro rfl; rfl
  · intro h; exact Decimal256.ext h

theorem zero_le (a : Decimal256) : zero ≤ a := Nat.zero_le _

/-! ## 範囲の検査 -/

/-- `n` が表せれば値にし、表せなければ `e` で落ちる。 -/
def checked (n : Nat) (e : Panic) : Except Panic Decimal256 :=
  if h : n < uintSize then .ok ⟨n, h⟩ else .error e

theorem checked_eq_ok {n : Nat} {e : Panic} {d : Decimal256} :
    checked n e = .ok d ↔ d.atomics = n := by
  unfold checked
  split
  · constructor
    · intro he; cases he; rfl
    · intro he; cases d; subst he; rfl
  · next h =>
    constructor
    · intro he; cases he
    · intro he; exact absurd (he ▸ d.atomics_lt) h

theorem checked_eq_error {n : Nat} {e e' : Panic} :
    checked n e = .error e' ↔ uintSize ≤ n ∧ e' = e := by
  unfold checked
  split
  · next h =>
    constructor
    · intro he; cases he
    · rintro ⟨h', -⟩; exact absurd h (Nat.not_lt.mpr h')
  · next h =>
    constructor
    · intro he; cases he; exact ⟨Nat.not_lt.mp h, rfl⟩
    · rintro ⟨-, rfl⟩; rfl

theorem checked_of_lt {n : Nat} {e : Panic} (h : n < uintSize) : checked n e = .ok ⟨n, h⟩ := by
  simp [checked, h]

/-! ## 四則 -/

/-- `Sub for Decimal256`。 -/
def sub (a b : Decimal256) : Except Panic Decimal256 :=
  if h : b.atomics ≤ a.atomics then .ok ⟨a.atomics - b.atomics, by have := a.atomics_lt; omega⟩
  else .error .subOverflow

/-- `Add for Decimal256`。 -/
def add (a b : Decimal256) : Except Panic Decimal256 :=
  checked (a.atomics + b.atomics) .addOverflow

/-- `Mul for Decimal256`。積を `10^18` で割って切り捨てる。 -/
def mul (a b : Decimal256) : Except Panic Decimal256 :=
  checked (a.atomics * b.atomics / fractional) .mulOverflow

/-- `Div for Decimal256`（`checked_from_ratio` 経由）。 -/
def div (a b : Decimal256) : Except Panic Decimal256 :=
  if b.atomics = 0 then .error .divByZero
  else checked (a.atomics * fractional / b.atomics) .divOverflow

theorem sub_eq_ok {a b c : Decimal256} :
    a.sub b = .ok c ↔ b ≤ a ∧ c.atomics = a.atomics - b.atomics := by
  unfold sub
  split
  · next h =>
    constructor
    · intro e; cases e; exact ⟨h, rfl⟩
    · rintro ⟨-, e⟩; cases c; subst e; rfl
  · next h =>
    constructor
    · intro he; cases he
    · rintro ⟨h', -⟩; exact absurd h' h

theorem sub_eq_error {a b : Decimal256} {e : Panic} :
    a.sub b = .error e ↔ a < b ∧ e = .subOverflow := by
  unfold sub
  split
  · next h =>
    constructor
    · intro he; cases he
    · rintro ⟨h', -⟩; exact absurd h (Nat.not_le.mpr h')
  · next h =>
    constructor
    · intro he; cases he; exact ⟨Nat.not_le.mp h, rfl⟩
    · rintro ⟨-, rfl⟩; rfl

theorem sub_of_le {a b : Decimal256} (h : b ≤ a) :
    ∃ c, a.sub b = .ok c ∧ c.atomics = a.atomics - b.atomics := by
  unfold sub
  rw [dif_pos (le_def.mp h)]
  exact ⟨_, rfl, rfl⟩

theorem add_eq_ok {a b c : Decimal256} : a.add b = .ok c ↔ c.atomics = a.atomics + b.atomics :=
  checked_eq_ok

theorem mul_eq_ok {a b c : Decimal256} :
    a.mul b = .ok c ↔ c.atomics = a.atomics * b.atomics / fractional :=
  checked_eq_ok

theorem div_eq_ok {a b c : Decimal256} :
    a.div b = .ok c ↔ b.atomics ≠ 0 ∧ c.atomics = a.atomics * fractional / b.atomics := by
  unfold div
  split
  · next h => simp [h]
  · next h => rw [checked_eq_ok]; simp [h]

theorem mul_comm (a b : Decimal256) : a.mul b = b.mul a := by
  simp only [mul, Nat.mul_comm]

/-- 1 以下の数を掛けても大きくならないので、溢れない。 -/
theorem mul_of_le_one (a : Decimal256) {b : Decimal256} (hb : b ≤ one) :
    ∃ c, a.mul b = .ok c ∧ c.atomics = a.atomics * b.atomics / fractional ∧ c ≤ a := by
  have hle : a.atomics * b.atomics / fractional ≤ a.atomics :=
    calc a.atomics * b.atomics / fractional
        ≤ a.atomics * fractional / fractional := Nat.div_le_div_right (Nat.mul_le_mul_left _ hb)
      _ = a.atomics := Nat.mul_div_cancel _ fractional_pos
  have hlt : a.atomics * b.atomics / fractional < uintSize := Nat.lt_of_le_of_lt hle a.atomics_lt
  exact ⟨_, checked_of_lt hlt, rfl, hle⟩

end Decimal256

/-! ## `Except` の bind -/

section Bind

variable {ε α β : Type} {x : Except ε α} {f : α → Except ε β}

@[simp] theorem ok_bind (a : α) (f : α → Except ε β) : (Except.ok a >>= f) = f a := rfl

@[simp] theorem error_bind (e : ε) (f : α → Except ε β) :
    (Except.error e >>= f) = .error e := rfl

theorem bind_eq_ok {b : β} : x >>= f = .ok b ↔ ∃ a, x = .ok a ∧ f a = .ok b := by
  cases x <;> simp

theorem bind_eq_error {e : ε} :
    x >>= f = .error e ↔ x = .error e ∨ ∃ a, x = .ok a ∧ f a = .error e := by
  cases x <;> simp

end Bind

/-! ## 落ちうる panic -/

section FailsOnly

variable {α β : Type} {x : Except Panic α} {f : α → Except Panic β}

/-- `x` が落ちるなら、その panic は `p` を満たす。 -/
def FailsOnly (p : Panic → Prop) (x : Except Panic α) : Prop :=
  ∀ e, x = .error e → p e

theorem FailsOnly.ok {p : Panic → Prop} (a : α) : FailsOnly p (Except.ok a) :=
  fun _ h => by cases h

theorem FailsOnly.bind {p : Panic → Prop} (hx : FailsOnly p x)
    (hf : ∀ a, x = .ok a → FailsOnly p (f a)) : FailsOnly p (x >>= f) := by
  intro e he
  rcases bind_eq_error.mp he with h | ⟨a, ha, h⟩
  · exact hx e h
  · exact hf a ha e h

theorem FailsOnly.mono {p q : Panic → Prop} (h : ∀ e, p e → q e) (hx : FailsOnly p x) :
    FailsOnly q x :=
  fun e he => h e (hx e he)

theorem FailsOnly.ite {p : Panic → Prop} {c : Prop} [Decidable c] {y z : Except Panic α}
    (hy : c → FailsOnly p y) (hz : ¬c → FailsOnly p z) : FailsOnly p (if c then y else z) := by
  split
  · exact hy ‹_›
  · exact hz ‹_›

end FailsOnly

namespace Decimal256

/-! ## 各演算が落ちうる panic -/

theorem checked_failsOnly (n : Nat) (e : Panic) : FailsOnly (· = e) (checked n e) :=
  fun _ h => (checked_eq_error.mp h).2

theorem sub_failsOnly (a b : Decimal256) : FailsOnly (· = .subOverflow) (a.sub b) :=
  fun _ h => (sub_eq_error.mp h).2

theorem add_failsOnly (a b : Decimal256) : FailsOnly Panic.IsOverflow (a.add b) :=
  (checked_failsOnly _ _).mono fun _ h => .inl h

theorem mul_failsOnly (a b : Decimal256) : FailsOnly Panic.IsOverflow (a.mul b) :=
  (checked_failsOnly _ _).mono fun _ h => .inr (.inl h)

theorem sub_failsOnly_arith (a b : Decimal256) : FailsOnly Panic.IsArith (a.sub b) :=
  (sub_failsOnly a b).mono fun _ h => .inl h

theorem add_failsOnly_arith (a b : Decimal256) : FailsOnly Panic.IsArith (a.add b) :=
  (add_failsOnly a b).mono fun _ h => .inr h

theorem mul_failsOnly_arith (a b : Decimal256) : FailsOnly Panic.IsArith (a.mul b) :=
  (mul_failsOnly a b).mono fun _ h => .inr h

end Decimal256

end CwInjective
