import CwInjective.Maker.State

/-!
# 注文の振り分け

`split_open_orders` は前の block の注文を買い（`order_type == 1`）と売り（`== 2`）に分け、
買いは値段の高い順、売りは安い順に並べる。どちらも index 0 が前の head になる。

Rust の `slice::sort_by` は stable な sort で、stable な sort の結果は一つに決まる
（`stableSorted_unique`）。ここでは同じく stable な `List.mergeSort` で書く。

* `splitOpenOrders_stable` — 買いはちょうど `order_type == 1` の注文を値段の高い順に stable に
  並べたもの、売りはちょうど `order_type == 2` の注文を安い順に並べたもの
* `splitOpenOrders_head_buys` / `splitOpenOrders_head_sells` — 先頭の値段は最も高い買い値と
  最も安い売り値
-/

namespace CwInjective

open Decimal256

instance : Std.Antisymm (fun a b : Decimal256 => a ≤ b) := ⟨le_antisymm⟩

/-- `split_open_orders`。 -/
def splitOpenOrders (openOrders : List WrappedDerivativeLimitOrder) :
    List WrappedDerivativeLimitOrder × List WrappedDerivativeLimitOrder :=
  if openOrders.length > 0 then
    let buyOrders := openOrders.filter (·.orderType = 1)
    let sellOrders := openOrders.filter (·.orderType = 2)
    (buyOrders.mergeSort fun a b => b.orderInfo.price ≤ a.orderInfo.price,
      sellOrders.mergeSort fun a b => a.orderInfo.price ≤ b.orderInfo.price)
  else ([], [])

/-! ## stable な sort -/

/--
`l'` は `l` を値段について `r` の向きに stable に並べたもの。並べ替えであり、`r` で並び、
同じ値段の注文どうしは `l` での順を保つ。
-/
structure StableSorted (r : Decimal256 → Decimal256 → Prop) (l l' : List WrappedDerivativeLimitOrder) :
    Prop where
  perm : l'.Perm l
  sorted : l'.Pairwise fun a b => r a.orderInfo.price b.orderInfo.price
  stable : ∀ p, l'.filter (·.orderInfo.price = p) = l.filter (·.orderInfo.price = p)

/-- 値段ごとの部分列が同じ二つの列は、同じ注文を持つ。 -/
theorem mem_of_filter_price_eq {x : WrappedDerivativeLimitOrder} {l₁ l₂ : List WrappedDerivativeLimitOrder}
    (hx : x ∈ l₁) (hf : ∀ p, l₁.filter (·.orderInfo.price = p) = l₂.filter (·.orderInfo.price = p)) :
    x ∈ l₂ :=
  (List.mem_filter.mp (hf _ ▸ List.mem_filter.mpr ⟨hx, decide_eq_true rfl⟩)).1

/-- **stable な sort の結果は一つに決まる。** 並びが `r` に従い、値段ごとの部分列が同じなら、
二つの列は等しい。 -/
theorem stableSorted_unique {r : Decimal256 → Decimal256 → Prop}
    (anti : ∀ x y, r x y → r y x → x = y) :
    ∀ {l₁ l₂ : List WrappedDerivativeLimitOrder},
      l₁.Pairwise (fun a b => r a.orderInfo.price b.orderInfo.price) →
      l₂.Pairwise (fun a b => r a.orderInfo.price b.orderInfo.price) →
      (∀ p, l₁.filter (·.orderInfo.price = p) = l₂.filter (·.orderInfo.price = p)) → l₁ = l₂
  | [], [], _, _, _ => rfl
  | [], b :: _, _, _, hf => by simpa using hf b.orderInfo.price
  | a :: _, [], _, _, hf => by simpa using hf a.orderInfo.price
  | a :: t₁, b :: t₂, h₁, h₂, hf => by
    rw [List.pairwise_cons] at h₁ h₂
    -- 先頭どうしは互いに相手の列にあるので、`r` で挟まれて同じ値段になる
    have hprice : a.orderInfo.price = b.orderInfo.price := by
      rcases List.mem_cons.mp (mem_of_filter_price_eq (List.mem_cons_self b t₂) fun p => (hf p).symm)
        with hb | hb
      · rw [hb]
      rcases List.mem_cons.mp (mem_of_filter_price_eq (List.mem_cons_self a t₁) hf) with ha | ha
      · rw [ha]
      exact anti _ _ (h₁.1 b hb) (h₂.1 a ha)
    -- その値段の部分列の先頭なので、同じ注文である
    have hab := hf a.orderInfo.price
    simp only [List.filter_cons, hprice, decide_True, if_true, List.cons.injEq] at hab
    have hab := hab.1
    subst hab
    refine congrArg _ (stableSorted_unique anti h₁.2 h₂.2 fun p => ?_)
    have := hf p
    by_cases hp : a.orderInfo.price = p <;> simpa [List.filter_cons, hp] using this

/-- stable な sort は、同じ値段の注文どうしの順を変えない。 -/
theorem mergeSort_filter_price {le : WrappedDerivativeLimitOrder → WrappedDerivativeLimitOrder → Bool}
    (trans : ∀ a b c, le a b → le b c → le a c) (total : ∀ a b, le a b || le b a)
    (refl : ∀ a b, a.orderInfo.price = b.orderInfo.price → le a b)
    (l : List WrappedDerivativeLimitOrder) (p : Decimal256) :
    (l.mergeSort le).filter (·.orderInfo.price = p) = l.filter (·.orderInfo.price = p) := by
  have hc : (l.filter (·.orderInfo.price = p)).Pairwise fun a b => le a b := by
    refine List.pairwise_of_forall_mem_list fun a ha b hb => refl a b ?_
    rw [of_decide_eq_true (List.mem_filter.mp ha).2, of_decide_eq_true (List.mem_filter.mp hb).2]
  have hsub := (List.sublist_mergeSort trans total hc (List.filter_sublist l)).filter
    (·.orderInfo.price = p)
  simp only [List.filter_filter, Bool.and_self] at hsub
  exact (hsub.eq_of_length ((List.mergeSort_perm l le).filter _).length_eq.symm).symm

/-- `List.mergeSort` は値段について stable に並べる。 -/
theorem stableSorted_mergeSort (r : Decimal256 → Decimal256 → Prop) [DecidableRel r]
    (trans : ∀ x y z, r x y → r y z → r x z) (total : ∀ x y, r x y ∨ r y x) (refl : ∀ x, r x x)
    (l : List WrappedDerivativeLimitOrder) :
    StableSorted r l (l.mergeSort fun a b => r a.orderInfo.price b.orderInfo.price) := by
  generalize hle : (fun a b : WrappedDerivativeLimitOrder =>
    decide (r a.orderInfo.price b.orderInfo.price)) = le
  have hle' : ∀ a b, le a b = true ↔ r a.orderInfo.price b.orderInfo.price := fun a b => by
    rw [← hle]; exact decide_eq_true_iff
  have htrans : ∀ a b c, le a b → le b c → le a c := fun a b c h₁ h₂ =>
    (hle' a c).2 (trans _ _ _ ((hle' a b).1 h₁) ((hle' b c).1 h₂))
  have htotal : ∀ a b, le a b || le b a := fun a b => by
    rcases total a.orderInfo.price b.orderInfo.price with h | h <;> simp [(hle' _ _).2 h]
  exact ⟨List.mergeSort_perm _ _,
    (List.sorted_mergeSort htrans htotal l).imp fun h => (hle' _ _).1 h,
    mergeSort_filter_price htrans htotal (fun a b h => (hle' a b).2 (by rw [h]; exact refl _)) l⟩

/-! ## `split_open_orders` -/

/-- 注文が無いときの分岐も、空の列を sort したものと同じ。 -/
theorem splitOpenOrders_eq (l : List WrappedDerivativeLimitOrder) :
    splitOpenOrders l =
      ((l.filter (·.orderType = 1)).mergeSort fun a b => b.orderInfo.price ≤ a.orderInfo.price,
        (l.filter (·.orderType = 2)).mergeSort fun a b => a.orderInfo.price ≤ b.orderInfo.price) := by
  unfold splitOpenOrders
  split
  · rfl
  · next h => simp [List.eq_nil_of_length_eq_zero (Nat.eq_zero_of_not_pos h)]

/--
**買いと売りへの振り分け。** 買いはちょうど `order_type == 1` の注文を値段の高い順に、
売りはちょうど `order_type == 2` の注文を安い順に、どちらも stable に並べたものである。
注文は失われも重なりもせず、ほかの種類の注文は捨てられ、同じ値段の注文は入力の順を保つ。
そのような並べ方は一つしかない。
-/
theorem splitOpenOrders_stable (l : List WrappedDerivativeLimitOrder) :
    StableSorted (· ≥ ·) (l.filter (·.orderType = 1)) (splitOpenOrders l).1 ∧
    StableSorted (· ≤ ·) (l.filter (·.orderType = 2)) (splitOpenOrders l).2 ∧
    (∀ l', StableSorted (· ≥ ·) (l.filter (·.orderType = 1)) l' → l' = (splitOpenOrders l).1) ∧
    (∀ l', StableSorted (· ≤ ·) (l.filter (·.orderType = 2)) l' → l' = (splitOpenOrders l).2) := by
  rw [splitOpenOrders_eq]
  have hb : StableSorted (· ≥ ·) (l.filter (·.orderType = 1)) _ :=
    stableSorted_mergeSort (· ≥ ·) (fun _ _ _ h₁ h₂ => le_trans h₂ h₁) (fun x y => le_total y x)
      le_refl _
  have hs : StableSorted (· ≤ ·) (l.filter (·.orderType = 2)) _ :=
    stableSorted_mergeSort (· ≤ ·) (fun _ _ _ => le_trans) le_total le_refl _
  refine ⟨hb, hs, fun l' h => ?_, fun l' h => ?_⟩
  · exact stableSorted_unique (fun _ _ h₁ h₂ => le_antisymm h₂ h₁) h.sorted hb.sorted
      fun p => (h.stable p).trans (hb.stable p).symm
  · exact stableSorted_unique (fun _ _ => le_antisymm) h.sorted hs.sorted
      fun p => (h.stable p).trans (hs.stable p).symm

/-! ## 最良の買い値と売り値 -/

/-- `order_type == 1` の注文の中で最も高い値段。無ければ `none`。 -/
def bestBid (l : List WrappedDerivativeLimitOrder) : Option Decimal256 :=
  ((l.filter (·.orderType = 1)).map (·.orderInfo.price)).max?

/-- `order_type == 2` の注文の中で最も安い値段。無ければ `none`。 -/
def bestAsk (l : List WrappedDerivativeLimitOrder) : Option Decimal256 :=
  ((l.filter (·.orderType = 2)).map (·.orderInfo.price)).min?

theorem max?_eq_some_iff' {xs : List Decimal256} {a : Decimal256} :
    xs.max? = some a ↔ a ∈ xs ∧ ∀ b ∈ xs, b ≤ a :=
  List.max?_eq_some_iff le_refl (fun a b => max_choice a b) (fun _ _ _ => max_le_iff)

theorem min?_eq_some_iff' {xs : List Decimal256} {a : Decimal256} :
    xs.min? = some a ↔ a ∈ xs ∧ ∀ b ∈ xs, a ≤ b :=
  List.min?_eq_some_iff le_refl (fun a b => min_choice a b) (fun _ _ _ => le_min_iff)

/-- 先頭の値段は、`r` で並んだ列の「最も `r` の手前にある」値段。 -/
theorem head?_price_of_sorted (r : Decimal256 → Decimal256 → Prop) (refl : ∀ x, r x x)
    {sel : List Decimal256 → Option Decimal256}
    (hsel : ∀ {xs a}, sel xs = some a ↔ a ∈ xs ∧ ∀ b ∈ xs, r a b) (hnil : sel [] = none)
    {l l' : List WrappedDerivativeLimitOrder} (h : StableSorted r l l') :
    l'.head?.map (·.orderInfo.price) = sel (l.map (·.orderInfo.price)) := by
  cases hl : l' with
  | nil =>
    rw [hl] at h
    rw [List.eq_nil_of_length_eq_zero h.perm.length_eq.symm]
    exact hnil.symm
  | cons x rest =>
    rw [hl] at h
    rw [List.head?_cons, Option.map_some']
    refine (hsel.mpr ⟨List.mem_map_of_mem (·.orderInfo.price)
      (h.perm.subset (List.mem_cons_self _ _)), ?_⟩).symm
    intro b hb
    obtain ⟨y, hy, rfl⟩ := List.mem_map.mp hb
    rcases List.mem_cons.mp (h.perm.symm.subset hy) with rfl | hy
    · exact refl _
    · exact (List.pairwise_cons.mp h.sorted).1 y hy

/-- 買いの先頭の値段は最も高い買い値。 -/
theorem splitOpenOrders_head_buys (l : List WrappedDerivativeLimitOrder) :
    (splitOpenOrders l).1.head?.map (·.orderInfo.price) = bestBid l :=
  head?_price_of_sorted (· ≥ ·) le_refl max?_eq_some_iff' rfl (splitOpenOrders_stable l).1

/-- 売りの先頭の値段は最も安い売り値。 -/
theorem splitOpenOrders_head_sells (l : List WrappedDerivativeLimitOrder) :
    (splitOpenOrders l).2.head?.map (·.orderInfo.price) = bestAsk l :=
  head?_price_of_sorted (· ≤ ·) le_refl min?_eq_some_iff' rfl (splitOpenOrders_stable l).2.1

/-- 特徴づけで決まる選び方は、並べ替えで変わらない。 -/
theorem sel_perm {r : Decimal256 → Decimal256 → Prop} {sel : List Decimal256 → Option Decimal256}
    (hsel : ∀ {xs a}, sel xs = some a ↔ a ∈ xs ∧ ∀ b ∈ xs, r a b) {xs ys : List Decimal256}
    (h : xs.Perm ys) : sel xs = sel ys :=
  Option.ext fun a => by simp only [Option.mem_def, hsel, h.mem_iff]

end CwInjective
