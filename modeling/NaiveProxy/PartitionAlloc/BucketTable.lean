import NaiveProxy.PartitionAlloc.Constants

/-!
# `BucketIndexLookup`'s two tables, and what their loops compute

`InitBucketSizes` fills `bucket_sizes_` with eight linear steps per order; the
constructor then fills `bucket_index_lookup_` order by order, pointing every
bucketed entry at the next bucket whose size is a multiple of `kSmallestBucket`
(the `while` loop skips the pseudo-buckets of the finest orders).

Both loops are kept as the `constexpr` code runs them, with their accumulators.
Their closed forms are stated through `positionSize p`, the size a position `p =
8 * order + j` of the lookup table stands for:

    bucketSizes_getElem?       bucket_sizes_[i] = positionSize (8 * kMinBucketedOrder + i)
    bucketIndexLookup_getElem? bucket_index_lookup_[p] = tableEntry p     (p ≤ 8 * (kBitsPerSizeT + 1))

`positionSize` is strictly increasing from position 32 on (`positionSize_lt`), which
is where every bucketed order starts.
-/

namespace PartitionAlloc

/-! ## The loops -/

/-- The size position `p` of `bucket_index_lookup_` stands for: step `p % 8` of
order `p / 8`, each step `2 ^ (order - 4)` wide. -/
def positionSize (p : Nat) : Nat := (8 + p % 8) * 2 ^ (p / 8 - 4)

/-- The inner loop of `InitBucketSizes`: `count` more sizes, `current_increment`
apart; the sizes written so far and `current_size`. -/
def initOrderSizes (currentIncrement : Nat) : Nat → List Nat × Nat → List Nat × Nat
  | 0, acc => acc
  | count + 1, (sizes, currentSize) =>
    initOrderSizes currentIncrement count (sizes ++ [currentSize], currentSize + currentIncrement)

/-- The outer loop of `InitBucketSizes`: `count` more orders, with
`current_increment <<= 1` after each. -/
def initBucketSizesLoop : Nat → List Nat × Nat × Nat → List Nat
  | 0, (sizes, _, _) => sizes
  | count + 1, (sizes, currentSize, currentIncrement) =>
    let inner := initOrderSizes currentIncrement kNumBucketsPerOrder (sizes, currentSize)
    initBucketSizesLoop count (inner.1, inner.2, currentIncrement <<< 1)

/-- `while (bucket_sizes_[valid_bucket_index] % kSmallestBucket) valid_bucket_index++;`,
walking the sizes from `valid_bucket_index` on. -/
def skipPseudoBuckets (smallest : Nat) : List Nat → Nat → Nat
  | [], index => index
  | size :: rest, index =>
    if size % smallest = 0 then index else skipPseudoBuckets smallest rest (index + 1)

namespace BucketConstants

variable (c : BucketConstants)

/-- `bucket_sizes_` after `InitBucketSizes`. -/
def bucketSizes : List Nat :=
  initBucketSizesLoop c.kNumBucketedOrders
    ([], c.kSmallestBucket, c.kSmallestBucket >>> kNumBucketsPerOrderBits)

/-- The `valid_bucket_index` the skip loop reaches from `bucket_index`. -/
def validBucketIndex (bucketIndex : Nat) : Nat :=
  skipPseudoBuckets c.kSmallestBucket (c.bucketSizes.drop bucketIndex) bucketIndex

/-- The constructor's inner loop for one `order`: `count` more entries of
`bucket_index_lookup_`, and `bucket_index`. -/
def fillOrder (order : Nat) : Nat → List Nat × Nat → List Nat × Nat
  | 0, acc => acc
  | count + 1, (entries, bucketIndex) =>
    if order < c.kMinBucketedOrder then
      fillOrder order count (entries ++ [0], bucketIndex)
    else if kMaxBucketedOrder < order then
      fillOrder order count (entries ++ [c.kNumBuckets], bucketIndex)
    else
      fillOrder order count (entries ++ [c.validBucketIndex bucketIndex], bucketIndex + 1)

/-- The constructor's outer loop: `count` more orders from `order`. -/
def fillOrders : Nat → Nat → List Nat × Nat → List Nat
  | 0, _, (entries, _) => entries
  | count + 1, order, acc => fillOrders count (order + 1) (c.fillOrder order kNumBucketsPerOrder acc)

/-- `bucket_index_lookup_`: the orders `0 ..= kBitsPerSizeT`, then the sentinel
entry that `malloc(-1)` reaches. -/
def bucketIndexLookup : List Nat :=
  c.fillOrders (c.kBitsPerSizeT + 1) 0 ([], 0) ++ [c.kNumBuckets]

/-! ## Closed forms -/

/-- `bucket_sizes_[i]`. -/
def bucketSize (i : Nat) : Nat := positionSize (8 * c.kMinBucketedOrder + i)

/-- The entry the constructor writes at position `p`. -/
def tableEntry (p : Nat) : Nat :=
  if p / 8 < c.kMinBucketedOrder then 0
  else if kMaxBucketedOrder < p / 8 then c.kNumBuckets
  else c.validBucketIndex (p - 8 * c.kMinBucketedOrder)

end BucketConstants

theorem positionSize_eight_mul_add {o j : Nat} (ho : 4 ≤ o) (hj : j < 8) :
    positionSize (8 * o + j) = (8 + j) * 2 ^ (o - 4) := by
  simp only [positionSize]
  congr 2 <;> omega

/-- Step `q` of order `o`, for `8 ≤ q ≤ 16`: step 16 is the first of the next order. -/
theorem positionSize_step {o q : Nat} (ho : 4 ≤ o) (hq : 8 ≤ q) (hq' : q ≤ 16) :
    positionSize (8 * (o - 1) + q) = q * 2 ^ (o - 4) := by
  rcases Nat.lt_or_ge q 16 with h | h
  · rw [show 8 * (o - 1) + q = 8 * o + (q - 8) by omega, positionSize_eight_mul_add ho (by omega)]
    congr 1
    omega
  · rw [show 8 * (o - 1) + q = 8 * (o + 1) + 0 by omega,
      positionSize_eight_mul_add (by omega) (by omega), show o + 1 - 4 = o - 4 + 1 by omega,
      Nat.pow_succ, show q = 16 by omega]
    omega

theorem positionSize_lt_succ {p : Nat} (hp : 32 ≤ p) : positionSize p < positionSize (p + 1) := by
  have h := positionSize_eight_mul_add (o := p / 8) (j := p % 8) (by omega) (Nat.mod_lt _ (by omega))
  rw [Nat.div_add_mod] at h
  rcases Nat.lt_or_ge (p % 8) 7 with hj | hj
  · have h' := positionSize_eight_mul_add (o := p / 8) (j := p % 8 + 1) (by omega) (by omega)
    rw [← Nat.add_assoc, Nat.div_add_mod] at h'
    rw [h, h']
    exact Nat.mul_lt_mul_of_pos_right (by omega) (Nat.two_pow_pos _)
  · have h' := positionSize_eight_mul_add (o := p / 8 + 1) (j := 0) (by omega) (by omega)
    rw [show 8 * (p / 8 + 1) + 0 = p + 1 by omega, show p / 8 + 1 - 4 = p / 8 - 4 + 1 by omega,
      Nat.pow_succ] at h'
    rw [h, h', show p % 8 = 7 by omega]
    have := Nat.two_pow_pos (p / 8 - 4)
    omega

theorem positionSize_lt {p q : Nat} (hp : 32 ≤ p) (hpq : p < q) :
    positionSize p < positionSize q := by
  induction q with
  | zero => omega
  | succ q ih =>
    rcases Nat.lt_or_ge p q with h | h
    · exact Nat.lt_trans (ih h) (positionSize_lt_succ (by omega))
    · rw [show p = q by omega]
      exact positionSize_lt_succ (by omega)

theorem positionSize_le {p q : Nat} (hp : 32 ≤ p) (hpq : p ≤ q) :
    positionSize p ≤ positionSize q := by
  rcases Nat.lt_or_ge p q with h | h
  · exact Nat.le_of_lt (positionSize_lt hp h)
  · rw [show p = q by omega]

theorem initOrderSizes_eq (inc count : Nat) (sizes : List Nat) (size : Nat) :
    initOrderSizes inc count (sizes, size) =
      (sizes ++ (List.range count).map (fun j => size + j * inc), size + count * inc) := by
  induction count generalizing sizes size with
  | zero => simp [initOrderSizes]
  | succ count ih =>
    rw [initOrderSizes, ih, List.range_succ_eq_map]
    simp only [List.map_cons, List.map_map, List.append_assoc, List.singleton_append,
      Prod.mk.injEq, Nat.zero_mul, Nat.add_zero]
    refine ⟨?_, by rw [Nat.succ_mul]; omega⟩
    congr 2
    refine List.map_congr_left fun j _ => ?_
    simp only [Function.comp, Nat.succ_mul]
    omega

/-- The outer loop of `InitBucketSizes` from order `kMinBucketedOrder + k`, where
`current_size` is eight increments. -/
theorem initBucketSizesLoop_eq (m : Nat) (hm : 4 ≤ m) (count k : Nat) (sizes : List Nat) :
    initBucketSizesLoop count (sizes, 8 * 2 ^ (m - 4 + k), 2 ^ (m - 4 + k)) =
      sizes ++ (List.range (8 * count)).map (fun i => positionSize (8 * (m + k) + i)) := by
  induction count generalizing sizes k with
  | zero => simp [initBucketSizesLoop]
  | succ count ih =>
    have hinc : 2 ^ (m - 4 + k) <<< 1 = 2 ^ (m - 4 + (k + 1)) := by
      rw [Nat.shiftLeft_eq, Nat.pow_one, ← Nat.add_assoc, Nat.pow_succ]
    have hsize : 8 * 2 ^ (m - 4 + k) + 8 * 2 ^ (m - 4 + k) = 8 * 2 ^ (m - 4 + (k + 1)) := by
      rw [← Nat.add_assoc, Nat.pow_succ]
      omega
    simp only [initBucketSizesLoop, initOrderSizes_eq, kNumBucketsPerOrder_eq, hinc, hsize, ih,
      show 8 * (count + 1) = 8 + 8 * count by omega, List.range_add, List.map_append,
      List.map_map, List.append_assoc]
    congr 2
    · refine List.map_congr_left fun j hj => ?_
      rw [positionSize_eight_mul_add (by omega) (List.mem_range.1 hj),
        show m + k - 4 = m - 4 + k by omega, Nat.add_mul]
    · refine List.map_congr_left fun i _ => ?_
      simp only [Function.comp]
      congr 1
      omega

/-- The skip loop over the sizes `f a, f (a + 1), …, f (a + n - 1)` stops at the
first multiple of `s`, or one past the end. -/
theorem skipPseudoBuckets_range' (s : Nat) (f : Nat → Nat) (n a : Nat) :
    a ≤ skipPseudoBuckets s ((List.range' a n).map f) a ∧
    skipPseudoBuckets s ((List.range' a n).map f) a ≤ a + n ∧
    (∀ m, a ≤ m → m < skipPseudoBuckets s ((List.range' a n).map f) a → f m % s ≠ 0) ∧
    (skipPseudoBuckets s ((List.range' a n).map f) a < a + n →
      f (skipPseudoBuckets s ((List.range' a n).map f) a) % s = 0) := by
  induction n generalizing a with
  | zero =>
    exact ⟨Nat.le_refl a, Nat.le_add_right a 0, fun m h1 h2 => absurd h2 (Nat.not_lt.2 h1),
      fun h => absurd h (Nat.lt_irrefl a)⟩
  | succ n ih =>
    rw [List.range'_succ, List.map_cons, skipPseudoBuckets]
    split
    · exact ⟨Nat.le_refl a, by omega, fun m h1 h2 => absurd h2 (by omega), fun _ => ‹_›⟩
    · obtain ⟨h1, h2, h3, h4⟩ := ih (a + 1)
      refine ⟨by omega, by omega, fun m hm hmr => ?_, fun h => h4 (by omega)⟩
      rcases Nat.eq_or_lt_of_le hm with rfl | hm
      · assumption
      · exact h3 m hm hmr

namespace BucketConstants

variable (c : BucketConstants)

theorem bucketSizes_eq :
    c.bucketSizes = (List.range c.kNumBuckets).map c.bucketSize := by
  have h4 := c.four_le_min
  have hs : c.kSmallestBucket = 8 * 2 ^ (c.kMinBucketedOrder - 4 + 0) := by
    rw [kSmallestBucket_eq, show c.kMinBucketedOrder - 1 = c.kMinBucketedOrder - 4 + 0 + 3 by omega,
      Nat.pow_add, Nat.mul_comm]
  have hi : c.kSmallestBucket >>> kNumBucketsPerOrderBits = 2 ^ (c.kMinBucketedOrder - 4 + 0) := by
    rw [hs, Nat.shiftRight_eq_div_pow, kNumBucketsPerOrderBits_eq]
    omega
  rw [bucketSizes, hi, hs, initBucketSizesLoop_eq _ h4, List.nil_append, kNumBuckets,
    kNumBucketsPerOrder_eq, Nat.mul_comm c.kNumBucketedOrders 8]
  rfl

@[simp] theorem length_bucketSizes : c.bucketSizes.length = c.kNumBuckets := by
  simp [bucketSizes_eq]

theorem bucketSizes_getElem? (i : Nat) :
    c.bucketSizes[i]? = if i < c.kNumBuckets then some (c.bucketSize i) else none := by
  rw [bucketSizes_eq]
  split
  · simp [*]
  · simp only [List.getElem?_map, Option.map_eq_none', List.getElem?_eq_none_iff,
      List.length_range]
    omega

theorem bucketSize_lt {i k : Nat} (h : i < k) : c.bucketSize i < c.bucketSize k :=
  positionSize_lt (by have := c.four_le_min; omega) (by omega)

theorem bucketSize_le {i k : Nat} (h : i ≤ k) : c.bucketSize i ≤ c.bucketSize k :=
  positionSize_le (by have := c.four_le_min; omega) (by omega)

theorem bucketSize_zero : c.bucketSize 0 = c.kSmallestBucket := by
  rw [bucketSize, Nat.add_zero, show 8 * c.kMinBucketedOrder = 8 * c.kMinBucketedOrder + 0 by rfl,
    positionSize_eight_mul_add c.four_le_min (by omega), kSmallestBucket_eq,
    show c.kMinBucketedOrder - 1 = 3 + (c.kMinBucketedOrder - 4) by have := c.four_le_min; omega,
    Nat.pow_add]

theorem drop_bucketSizes (g : Nat) :
    c.bucketSizes.drop g = (List.range' g (c.kNumBuckets - g)).map c.bucketSize := by
  refine List.ext_getElem? fun k => ?_
  rw [List.getElem?_drop, bucketSizes_getElem?, List.getElem?_map]
  by_cases h : k < c.kNumBuckets - g
  · rw [List.getElem?_range' _ _ h, if_pos (by omega)]
    simp
  · rw [if_neg (by omega), (List.getElem?_eq_none_iff).2 (by simp; omega)]
    rfl

theorem kSmallestBucket_dvd_positionSize {p : Nat} (hp : 8 * (c.kMinBucketedOrder + 3) ≤ p) :
    c.kSmallestBucket ∣ positionSize p := by
  rw [kSmallestBucket_eq, positionSize]
  exact Nat.dvd_trans (Nat.pow_dvd_pow 2 (by omega)) (Nat.dvd_mul_left _ _)

theorem kSmallestBucket_dvd_last : c.kSmallestBucket ∣ c.bucketSize (c.kNumBuckets - 1) := by
  apply kSmallestBucket_dvd_positionSize
  have := c.min_le_seventeen
  have := c.kNumBuckets_eq
  omega

/-- The skip loop from a bucket `g` stops at the first bucket at or after `g` whose
size is a multiple of `kSmallestBucket`, inside the table. -/
theorem validBucketIndex_spec {g : Nat} (hg : g < c.kNumBuckets) :
    g ≤ c.validBucketIndex g ∧ c.validBucketIndex g < c.kNumBuckets ∧
    c.kSmallestBucket ∣ c.bucketSize (c.validBucketIndex g) ∧
    ∀ m, g ≤ m → m < c.validBucketIndex g → ¬ c.kSmallestBucket ∣ c.bucketSize m := by
  have := skipPseudoBuckets_range' c.kSmallestBucket c.bucketSize (c.kNumBuckets - g) g
  rw [← drop_bucketSizes, ← validBucketIndex, Nat.add_sub_cancel' (Nat.le_of_lt hg)] at this
  obtain ⟨h1, h2, h3, h4⟩ := this
  have hlt : c.validBucketIndex g < c.kNumBuckets := by
    refine Nat.lt_of_le_of_ne h2 fun heq => ?_
    exact h3 (c.kNumBuckets - 1) (by omega) (by omega)
      (Nat.mod_eq_zero_of_dvd c.kSmallestBucket_dvd_last)
  exact ⟨h1, hlt, Nat.dvd_of_mod_eq_zero (h4 hlt),
    fun m hm hmr hd => h3 m hm hmr (Nat.mod_eq_zero_of_dvd hd)⟩

theorem fillOrder_eq (o count : Nat) (entries : List Nat) (bi : Nat) :
    c.fillOrder o count (entries, bi) =
      (entries ++ (List.range count).map (fun j =>
          if o < c.kMinBucketedOrder then 0
          else if kMaxBucketedOrder < o then c.kNumBuckets
          else c.validBucketIndex (bi + j)),
        bi + if c.kMinBucketedOrder ≤ o ∧ o ≤ kMaxBucketedOrder then count else 0) := by
  induction count generalizing entries bi with
  | zero => simp [fillOrder]
  | succ count ih =>
    rw [fillOrder, List.range_succ_eq_map, List.map_cons, List.map_map]
    by_cases h1 : o < c.kMinBucketedOrder
    · have hb : ¬(c.kMinBucketedOrder ≤ o ∧ o ≤ kMaxBucketedOrder) := fun h => by omega
      rw [if_pos h1, ih]
      simp only [if_neg hb, if_pos h1, List.append_assoc, List.singleton_append]
      rfl
    · by_cases h2 : kMaxBucketedOrder < o
      · have hb : ¬(c.kMinBucketedOrder ≤ o ∧ o ≤ kMaxBucketedOrder) := fun h => by omega
        rw [if_neg h1, if_pos h2, ih]
        simp only [if_neg hb, if_neg h1, if_pos h2, List.append_assoc, List.singleton_append]
        rfl
      · have hb : c.kMinBucketedOrder ≤ o ∧ o ≤ kMaxBucketedOrder := ⟨by omega, by omega⟩
        rw [if_neg h1, if_neg h2, ih]
        simp only [if_pos hb, if_neg h1, if_neg h2, Function.comp, List.append_assoc,
          List.singleton_append, Nat.add_zero, Prod.mk.injEq]
        refine ⟨?_, by omega⟩
        congr 2
        exact List.map_congr_left fun j _ => by congr 1; omega

/-- The constructor's outer loop from `order` on, with `bucket_index` as the loop
leaves it at the start of that order. -/
theorem fillOrders_eq (count o : Nat) (entries : List Nat) :
    c.fillOrders count o (entries, 8 * (min o 21 - c.kMinBucketedOrder)) =
      entries ++ (List.range (8 * count)).map (fun p => c.tableEntry (8 * o + p)) := by
  induction count generalizing o entries with
  | zero => simp [fillOrders]
  | succ count ih =>
    have hbi : 8 * (min o 21 - c.kMinBucketedOrder) +
        (if c.kMinBucketedOrder ≤ o ∧ o ≤ kMaxBucketedOrder then kNumBucketsPerOrder else 0) =
        8 * (min (o + 1) 21 - c.kMinBucketedOrder) := by
      simp only [kMaxBucketedOrder_eq, kNumBucketsPerOrder_eq]
      split <;> omega
    rw [fillOrders, fillOrder_eq, hbi, ih, show 8 * (count + 1) = 8 + 8 * count by omega,
      List.range_add, List.map_append, List.map_map, List.append_assoc]
    congr 2
    · refine List.map_congr_left fun j hj => ?_
      have hj : j < 8 := List.mem_range.1 hj
      simp only [tableEntry, kMaxBucketedOrder_eq, show (8 * o + j) / 8 = o by omega]
      split_ifs
      · rfl
      · rfl
      · congr 1
        omega
    · refine List.map_congr_left fun p _ => ?_
      simp only [Function.comp]
      congr 1
      omega

theorem bucketIndexLookup_getElem? {p : Nat} (hp : p ≤ 8 * (c.kBitsPerSizeT + 1)) :
    c.bucketIndexLookup[p]? = some (c.tableEntry p) := by
  have h := c.fillOrders_eq (c.kBitsPerSizeT + 1) 0 []
  rw [show 8 * (min 0 21 - c.kMinBucketedOrder) = 0 by omega, List.nil_append] at h
  rw [bucketIndexLookup, h]
  rcases Nat.lt_or_ge p (8 * (c.kBitsPerSizeT + 1)) with hlt | hge
  · rw [List.getElem?_append_left (by simpa using hlt)]
    simp [hlt]
  · rw [List.getElem?_append_right (by simp; omega)]
    have := c.twenty_lt_bits
    have := c.min_le_seventeen
    simp only [List.length_map, List.length_range, show p - 8 * (c.kBitsPerSizeT + 1) = 0 by omega,
      List.getElem?_cons_zero, tableEntry, kMaxBucketedOrder_eq, Option.some.injEq]
    rw [if_neg (by omega), if_pos (by omega)]

end BucketConstants

end PartitionAlloc
