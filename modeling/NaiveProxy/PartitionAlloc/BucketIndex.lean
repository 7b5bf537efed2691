import NaiveProxy.PartitionAlloc.BucketTable

/-!
# `BucketIndexLookup::GetIndex`: the bucket a size goes to

`getIndex` reads `kOrderIndexShift`, `kOrderSubIndexMask` and
`bucket_index_lookup_` as the code does, each read `none` when it would be out of
bounds. For a size of bit length `order ≥ 4` the code reads position

    8 * order + (three bits after the top one) + (1 if any lower bit is set)

which is the ceiling of the size on the grid of steps (`lookupPosition_ceil`):
`positionSize` of it is the least grid size at or above the request. With the
closed form of the table this gives

    sizeToBucketIndex_spec   in bounds for every size_t; the sentinel exactly above
                             kMaxBucketed; otherwise the least bucket of aligned size
                             that holds the request; monotone in the size
    getIndex_waste           from 8 * kSmallestBucket on, less than 1/8 is wasted
-/

namespace PartitionAlloc

/-- `OrderIndexShift(order)`: the shift that brings the three bits after the top
bit of a size of this order to the bottom. -/
def orderIndexShift (order : Nat) : Nat :=
  if order < kNumBucketsPerOrderBits + 1 then 0 else order - (kNumBucketsPerOrderBits + 1)

/-- The table position `GetIndex` reads for a size `n`. -/
def lookupPosition (n : Nat) : Nat :=
  8 * Nat.size n + n / 2 ^ (Nat.size n - 4) % 8 +
    (if n % 2 ^ (Nat.size n - 4) = 0 then 0 else 1)

namespace BucketConstants

variable (c : BucketConstants)

/-- `OrderSubIndexMask(order)`: the bits below those three. At `order ==
kBitsPerSizeT` the code shifts `size_t(-1)` instead of `1 << order`. -/
def orderSubIndexMask (order : Nat) : Nat :=
  if order = c.kBitsPerSizeT then (2 ^ c.kBitsPerSizeT - 1) >>> (kNumBucketsPerOrderBits + 1)
  else ((1 <<< order) - 1) >>> (kNumBucketsPerOrderBits + 1)

def kOrderIndexShift : List Nat := (List.range (c.kBitsPerSizeT + 1)).map orderIndexShift

def kOrderSubIndexMask : List Nat := (List.range (c.kBitsPerSizeT + 1)).map c.orderSubIndexMask

/-- `BucketIndexLookup::GetIndex`; `none` if a read leaves its array. -/
def getIndex (size : Nat) : Option Nat := do
  let order := c.kBitsPerSizeT - countLeadingZeroBits c.kBitsPerSizeT size
  let orderIndex := (size >>> (← c.kOrderIndexShift[order]?)) &&& (kNumBucketsPerOrder - 1)
  let subOrderIndex := size &&& (← c.kOrderSubIndexMask[order]?)
  c.bucketIndexLookup[(order <<< kNumBucketsPerOrderBits) + orderIndex +
    (if subOrderIndex = 0 then 0 else 1)]?

/-- `PartitionRoot::SizeToBucketIndex`. -/
def sizeToBucketIndex (size : Nat) : Option Nat := c.getIndex size

/-- Bucket `i` is one whose size is a multiple of `kSmallestBucket` and at least
`n`, and no other such bucket is smaller. -/
def IsLeastAlignedBucket (n i : Nat) : Prop :=
  ∃ size, c.bucketSizes[i]? = some size ∧ c.kSmallestBucket ∣ size ∧ n ≤ size ∧
    ∀ (k size' : Nat), c.bucketSizes[k]? = some size' → c.kSmallestBucket ∣ size' → n ≤ size' →
      size ≤ size'

end BucketConstants

/-! ## The position read -/

theorem orderIndexShift_eq (order : Nat) : orderIndexShift order = order - 4 := by
  simp only [orderIndexShift, kNumBucketsPerOrderBits_eq]
  split <;> omega

theorem two_pow_sub_four_mul {o : Nat} (ho : 4 ≤ o) : 2 ^ o = 16 * 2 ^ (o - 4) := by
  rw [show o = o - 4 + 4 by omega, Nat.pow_add, Nat.mul_comm, Nat.add_sub_cancel]

theorem BucketConstants.orderSubIndexMask_eq (c : BucketConstants) (order : Nat) :
    c.orderSubIndexMask order = 2 ^ (order - 4) - 1 := by
  have hmask : (2 ^ order - 1) >>> (kNumBucketsPerOrderBits + 1) = 2 ^ (order - 4) - 1 := by
    rw [Nat.shiftRight_eq_div_pow, kNumBucketsPerOrderBits_eq]
    rcases Nat.lt_or_ge order 4 with h | h
    · have : 2 ^ order ≤ 2 ^ 3 := Nat.pow_le_pow_right (by omega) (by omega)
      rw [show order - 4 = 0 by omega]
      simp only [Nat.pow_zero]
      omega
    · rw [two_pow_sub_four_mul h]
      have := Nat.two_pow_pos (order - 4)
      omega
  simp only [BucketConstants.orderSubIndexMask, Nat.one_shiftLeft]
  split <;> [subst order; skip] <;> exact hmask

/-- `GetIndex` reads the table at `lookupPosition`, and every read is in bounds. -/
theorem BucketConstants.getIndex_eq (c : BucketConstants) {n : Nat}
    (hn : n < 2 ^ c.kBitsPerSizeT) : c.getIndex n = some (c.tableEntry (lookupPosition n)) := by
  have hsize : Nat.size n ≤ c.kBitsPerSizeT := Nat.size_le.2 hn
  have hshift : c.kOrderIndexShift[Nat.size n]? = some (Nat.size n - 4) := by
    simp [BucketConstants.kOrderIndexShift, List.getElem?_range (Nat.lt_succ_of_le hsize),
      orderIndexShift_eq]
  have hmask : c.kOrderSubIndexMask[Nat.size n]? = some (2 ^ (Nat.size n - 4) - 1) := by
    simp [BucketConstants.kOrderSubIndexMask, List.getElem?_range (Nat.lt_succ_of_le hsize),
      c.orderSubIndexMask_eq]
  have hpos : lookupPosition n ≤ 8 * (c.kBitsPerSizeT + 1) := by
    simp only [lookupPosition]
    have := Nat.mod_lt (n / 2 ^ (Nat.size n - 4)) (show 0 < 8 by omega)
    split <;> omega
  simp only [BucketConstants.getIndex, width_sub_countLeadingZeroBits hn, hshift, hmask,
    Option.bind_eq_bind, Option.some_bind, kNumBucketsPerOrder_eq, kNumBucketsPerOrderBits_eq,
    Nat.shiftRight_eq_div_pow, Nat.and_pow_two_sub_one_eq_mod, Nat.shiftLeft_eq]
  rw [show (8 : Nat) - 1 = 2 ^ 3 - 1 from rfl, Nat.and_pow_two_sub_one_eq_mod,
    show Nat.size n * 2 ^ 3 = 8 * Nat.size n by rw [Nat.mul_comm]; rfl]
  exact c.bucketIndexLookup_getElem? hpos

theorem lookupPosition_of_lt_eight {n : Nat} (hn : n < 8) : lookupPosition n / 8 ≤ 3 := by
  have hs : Nat.size n ≤ 3 := Nat.size_le.2 hn
  have ht : 2 ^ (Nat.size n - 4) = 1 := by rw [show Nat.size n - 4 = 0 by omega]; rfl
  simp only [lookupPosition, ht, Nat.div_one, Nat.mod_one]
  rw [if_pos trivial]
  omega

/-- For `n ≥ 8` the position read is the ceiling of `n` on the grid: its size is
the least step `≥ n`, less than one step `2 ^ (order - 4)` above it. -/
theorem lookupPosition_ceil {n : Nat} (hn : 8 ≤ n) :
    4 ≤ Nat.size n ∧ 8 * 2 ^ (Nat.size n - 4) ≤ n ∧
    n ≤ positionSize (lookupPosition n) ∧
    positionSize (lookupPosition n) < n + 2 ^ (Nat.size n - 4) ∧
    (33 ≤ lookupPosition n → positionSize (lookupPosition n - 1) < n) := by
  have ho : 4 ≤ Nat.size n := Nat.lt_size.2 (by omega)
  have hlow : 8 * 2 ^ (Nat.size n - 4) ≤ n := by
    have := two_pow_size_pred_le (show 0 < n by omega)
    rwa [show Nat.size n - 1 = Nat.size n - 4 + 3 by omega, Nat.pow_add, Nat.mul_comm] at this
  have hhigh : n < 16 * 2 ^ (Nat.size n - 4) := two_pow_sub_four_mul ho ▸ Nat.lt_size_self n
  refine ⟨ho, hlow, ?_⟩
  unfold lookupPosition
  generalize Nat.size n = o at *
  generalize ht : 2 ^ (o - 4) = t at *
  have htpos : 0 < t := ht ▸ Nat.two_pow_pos _
  have hq8 : 8 ≤ n / t := (Nat.le_div_iff_mul_le htpos).2 (by omega)
  have hq16 : n / t < 16 := (Nat.div_lt_iff_lt_mul htpos).2 (by omega)
  have hdm := Nat.div_add_mod n t
  have hmod := Nat.mod_lt n htpos
  generalize n / t = q at *
  generalize n % t = r at *
  subst hdm
  -- the position is step `q + b` of order `o`
  obtain ⟨b, hb, hb01⟩ : ∃ b, (if r = 0 then 0 else 1) = b ∧ ((r = 0 ∧ b = 0) ∨ (0 < r ∧ b = 1)) := by
    split <;> exact ⟨_, rfl, by omega⟩
  rw [hb, show 8 * o + q % 8 + b = 8 * (o - 1) + (q + b) by omega,
    positionSize_step ho (by omega) (by omega), ht, Nat.add_mul, Nat.mul_comm q t]
  refine ⟨?_, ?_, fun h33 => ?_⟩
  · rcases hb01 with ⟨rfl, rfl⟩ | ⟨hr, rfl⟩ <;> omega
  · rcases hb01 with ⟨rfl, rfl⟩ | ⟨hr, rfl⟩ <;> omega
  · rcases Nat.lt_or_ge 8 (q + b) with hgt | hle
    · rw [show 8 * (o - 1) + (q + b) - 1 = 8 * (o - 1) + (q + b - 1) by omega,
        positionSize_step ho (by omega) (by omega), ht, Nat.sub_mul, Nat.add_mul, Nat.one_mul,
        Nat.mul_comm q t]
      rcases hb01 with ⟨rfl, rfl⟩ | ⟨hr, rfl⟩ <;> omega
    · -- step 8 of order `o` is step 16 of order `o - 1`
      obtain ⟨rfl, rfl⟩ : q = 8 ∧ b = 0 := by omega
      rw [show 8 * (o - 1) + (8 + 0) - 1 = 8 * (o - 1 - 1) + 15 by omega,
        positionSize_step (show 4 ≤ o - 1 by omega) (by omega) (by omega)]
      have h2 : t = 2 * 2 ^ (o - 1 - 4) := by
        rw [← ht, show o - 4 = o - 1 - 4 + 1 by omega, Nat.pow_succ, Nat.mul_comm]
      omega

/-! ## The bucket it returns -/

namespace BucketConstants

variable (c : BucketConstants)

theorem tableEntry_of_lt {p : Nat} (h : p / 8 < c.kMinBucketedOrder) : c.tableEntry p = 0 := by
  simp [tableEntry, h]

theorem tableEntry_of_gt {p : Nat} (h : kMaxBucketedOrder < p / 8) :
    c.tableEntry p = c.kNumBuckets := by
  have := c.min_le_seventeen
  simp only [tableEntry, kMaxBucketedOrder_eq] at h ⊢
  rw [if_neg (by omega), if_pos h]

theorem tableEntry_of_bucketed {p : Nat} (h1 : c.kMinBucketedOrder ≤ p / 8)
    (h2 : p / 8 ≤ kMaxBucketedOrder) :
    c.tableEntry p = c.validBucketIndex (p - 8 * c.kMinBucketedOrder) := by
  simp only [tableEntry] at h2 ⊢
  rw [if_neg (by omega), if_neg (by omega)]

theorem bucketSizes_getElem?_of_lt {i : Nat} (h : i < c.kNumBuckets) :
    c.bucketSizes[i]? = some (c.bucketSize i) := by
  rw [bucketSizes_getElem?, if_pos h]

/-- The least-aligned property from the smallest index of size `≥ n` on: a bucket
of size `≥ n` is at or after `g`, and the skip loop from `g` stops at the first
aligned one. -/
theorem isLeastAlignedBucket_validBucketIndex {n g : Nat} (hg : g < c.kNumBuckets)
    (hge : n ≤ c.bucketSize g) (hlt : ∀ k, k < g → c.bucketSize k < n) :
    c.IsLeastAlignedBucket n (c.validBucketIndex g) := by
  obtain ⟨h1, h2, h3, h4⟩ := c.validBucketIndex_spec hg
  refine ⟨_, c.bucketSizes_getElem?_of_lt h2, h3,
    Nat.le_trans hge (c.bucketSize_le h1), fun k size' hk hd hn => ?_⟩
  rw [bucketSizes_getElem?] at hk
  split at hk
  · cases hk
    refine c.bucketSize_le (Nat.le_of_not_lt fun hki => ?_)
    rcases Nat.lt_or_ge k g with hkg | hkg
    · exact absurd hn (Nat.not_le.2 (hlt k hkg))
    · exact h4 k hkg hki hd
  · cases hk

theorem getIndex_spec (n : Nat) (hn : n < 2 ^ c.kBitsPerSizeT) :
    ∃ i, c.getIndex n = some i ∧ (i = c.kNumBuckets ↔ kMaxBucketed < n) ∧
      (n ≤ kMaxBucketed → c.IsLeastAlignedBucket n i) := by
  have h4 := c.four_le_min
  have h17 := c.min_le_seventeen
  have hK := c.kNumBuckets_eq
  have hmax : positionSize 167 = kMaxBucketed := rfl
  have hp8 : 8 * Nat.size n ≤ lookupPosition n := by simp only [lookupPosition]; omega
  refine ⟨_, c.getIndex_eq hn, ?_⟩
  rcases Nat.lt_or_ge (lookupPosition n / 8) c.kMinBucketedOrder with hlo | hlo
  · -- orders below the buckets: bucket 0
    have hs : n < c.kSmallestBucket := by
      rw [kSmallestBucket_eq]
      exact Nat.lt_of_lt_of_le (Nat.lt_size_self n) (Nat.pow_le_pow_right (by omega) (by omega))
    have hS : c.kSmallestBucket ≤ 2 ^ 16 := by
      rw [kSmallestBucket_eq]; exact Nat.pow_le_pow_right (by omega) (by omega)
    rw [c.tableEntry_of_lt hlo]
    refine ⟨⟨fun h => by omega, fun h => by simp only [kMaxBucketed_eq] at h; omega⟩, fun _ => ?_⟩
    refine ⟨_, c.bucketSizes_getElem?_of_lt (by omega), c.bucketSize_zero ▸ Nat.dvd_refl _,
      by rw [bucketSize_zero]; omega, fun k size' hk _ _ => ?_⟩
    rw [bucketSizes_getElem?] at hk
    split at hk
    · cases hk; exact c.bucketSize_le (Nat.zero_le k)
    · cases hk
  · have h8 : 8 ≤ n := Nat.le_of_not_lt fun h => by
      have := lookupPosition_of_lt_eight h; omega
    obtain ⟨-, -, hle, -, hpred⟩ := lookupPosition_ceil h8
    generalize lookupPosition n = p at hlo hle hpred hp8 ⊢
    rcases Nat.lt_or_ge kMaxBucketedOrder (p / 8) with hhi | hhi
    · -- above the top order: the sentinel
      rw [c.tableEntry_of_gt hhi]
      simp only [kMaxBucketedOrder_eq] at hhi
      have : positionSize 167 ≤ positionSize (p - 1) := positionSize_le (by omega) (by omega)
      have := hpred (by omega)
      exact ⟨⟨fun _ => by omega, fun _ => rfl⟩, fun h => absurd h (by omega)⟩
    · -- a bucketed order: the skip loop from the ceiling position
      have hg : p - 8 * c.kMinBucketedOrder < c.kNumBuckets := by
        simp only [kMaxBucketedOrder_eq] at hhi; omega
      rw [c.tableEntry_of_bucketed hlo hhi]
      have hlt := (c.validBucketIndex_spec hg).2.1
      have hbound : n ≤ kMaxBucketed := by
        simp only [kMaxBucketedOrder_eq] at hhi
        rw [← hmax]; exact Nat.le_trans hle (positionSize_le (by omega) (by omega))
      have hsz : c.bucketSize (p - 8 * c.kMinBucketedOrder) = positionSize p := by
        simp only [bucketSize]; congr 1; omega
      refine ⟨⟨fun h => by omega, fun h => absurd hbound (by omega)⟩, fun _ => ?_⟩
      refine c.isLeastAlignedBucket_validBucketIndex hg (hsz ▸ hle) fun k hk => ?_
      exact Nat.lt_of_le_of_lt (positionSize_le (by omega) (by omega)) (hpred (by omega))

theorem getIndex_lt_or_eq (n : Nat) (hn : n < 2 ^ c.kBitsPerSizeT) :
    ∃ i, c.getIndex n = some i ∧ i ≤ c.kNumBuckets := by
  obtain ⟨i, hi, heq, hleast⟩ := c.getIndex_spec n hn
  refine ⟨i, hi, ?_⟩
  rcases Nat.lt_or_ge kMaxBucketed n with h | h
  · exact Nat.le_of_eq (heq.2 h)
  · obtain ⟨size, hs, -⟩ := hleast h
    rw [bucketSizes_getElem?] at hs
    split at hs
    · omega
    · cases hs

theorem kMaxBucketed_lt_two_pow : kMaxBucketed < 2 ^ c.kBitsPerSizeT := by
  have : 2 ^ 21 ≤ 2 ^ c.kBitsPerSizeT := Nat.pow_le_pow_right (by omega) c.twenty_lt_bits
  have : (2 : Nat) ^ 21 = 2097152 := by decide
  simp only [kMaxBucketed_eq]
  omega

theorem bucketSize_le_kMaxBucketed {i : Nat} (hi : i < c.kNumBuckets) :
    c.bucketSize i ≤ kMaxBucketed := by
  have := c.min_le_seventeen
  have := c.kNumBuckets_eq
  show positionSize _ ≤ positionSize 167
  exact positionSize_le (by have := c.four_le_min; omega) (by omega)

theorem getIndex_bucketed {n : Nat} (hn : n ≤ kMaxBucketed) :
    ∃ i, c.getIndex n = some i ∧ i < c.kNumBuckets ∧ c.kSmallestBucket ∣ c.bucketSize i ∧
      n ≤ c.bucketSize i ∧ ∀ k, k < c.kNumBuckets → c.kSmallestBucket ∣ c.bucketSize k →
        n ≤ c.bucketSize k → i ≤ k := by
  obtain ⟨i, hi, -, hleast⟩ := c.getIndex_spec n (Nat.lt_of_le_of_lt hn c.kMaxBucketed_lt_two_pow)
  obtain ⟨size, hs, hd, hle, hmin⟩ := hleast hn
  rw [bucketSizes_getElem?] at hs
  split at hs
  · cases hs
    refine ⟨i, hi, ‹_›, hd, hle, fun k hk hdk hlek => Nat.le_of_not_lt fun hki => ?_⟩
    exact absurd (hmin k _ (c.bucketSizes_getElem?_of_lt hk) hdk hlek)
      (Nat.not_le.2 (c.bucketSize_lt hki))
  · cases hs

theorem getIndex_bucketSize {i : Nat} (hi : i < c.kNumBuckets)
    (hd : c.kSmallestBucket ∣ c.bucketSize i) : c.getIndex (c.bucketSize i) = some i := by
  obtain ⟨j, hj, hjK, hdj, hle, hmin⟩ := c.getIndex_bucketed (c.bucketSize_le_kMaxBucketed hi)
  rw [hj, Nat.le_antisymm (hmin i hi hd (Nat.le_refl _))
    (Nat.le_of_not_lt fun h => absurd hle (Nat.not_le.2 (c.bucketSize_lt h)))]

theorem getIndex_of_gt {x : Nat} (h : kMaxBucketed < x) (hx : x < 2 ^ c.kBitsPerSizeT) :
    c.getIndex x = some c.kNumBuckets := by
  obtain ⟨i, hi, heq, -⟩ := c.getIndex_spec x hx
  rw [hi, heq.2 h]

/-- The bucket a size goes to: the size is served from a table entry in bounds,
the sentinel is returned exactly above `kMaxBucketed`, a bucketed size gets the
least bucket of aligned size that holds it, and the index grows with the size. -/
theorem sizeToBucketIndex_spec :
    (∀ n, n < 2 ^ c.kBitsPerSizeT → ∃ i, c.sizeToBucketIndex n = some i ∧
      (i = c.kNumBuckets ↔ kMaxBucketed < n) ∧ (n ≤ kMaxBucketed → c.IsLeastAlignedBucket n i)) ∧
    (∀ n₁ n₂, n₁ ≤ n₂ → n₂ < 2 ^ c.kBitsPerSizeT →
      ∃ i₁ i₂, c.sizeToBucketIndex n₁ = some i₁ ∧ c.sizeToBucketIndex n₂ = some i₂ ∧ i₁ ≤ i₂) := by
  refine ⟨c.getIndex_spec, fun n₁ n₂ h12 hn₂ => ?_⟩
  obtain ⟨i₁, h₁, hle₁⟩ := c.getIndex_lt_or_eq n₁ (by omega)
  obtain ⟨i₂, h₂, heq₂, hleast₂⟩ := c.getIndex_spec n₂ hn₂
  refine ⟨i₁, i₂, h₁, h₂, ?_⟩
  rcases Nat.lt_or_ge kMaxBucketed n₂ with h | h
  · rw [heq₂.2 h]; exact hle₁
  · obtain ⟨s₂, hs₂, hd₂, hn₂', -⟩ := hleast₂ h
    obtain ⟨i₁', h₁', -, hleast₁⟩ := c.getIndex_spec n₁ (by omega)
    rw [h₁] at h₁'
    cases h₁'
    obtain ⟨s₁, hs₁, -, -, hmin⟩ := hleast₁ (by omega)
    have hs : s₁ ≤ s₂ := hmin i₂ s₂ hs₂ hd₂ (by omega)
    rw [bucketSizes_getElem?] at hs₁ hs₂
    split at hs₁ <;> split at hs₂ <;> cases hs₁ <;> cases hs₂
    exact Nat.le_of_not_lt fun hlt => absurd hs (Nat.not_le.2 (c.bucketSize_lt hlt))

/-- From `kSmallestBucket * kNumBucketsPerOrder` on every step of the grid is
aligned, so the bucket is the ceiling step itself: it holds the request and wastes
under `1/8` of it. -/
theorem getIndex_waste (n : Nat) (h1 : c.kSmallestBucket * kNumBucketsPerOrder ≤ n)
    (h2 : n ≤ kMaxBucketed) :
    ∃ i size, c.getIndex n = some i ∧ c.bucketSizes[i]? = some size ∧ n ≤ size ∧
      kNumBucketsPerOrder * (size - n) < n := by
  have h4 := c.four_le_min
  have h17 := c.min_le_seventeen
  have hK := c.kNumBuckets_eq
  have hS : c.kSmallestBucket * kNumBucketsPerOrder = 2 ^ (c.kMinBucketedOrder + 2) := by
    rw [kSmallestBucket_eq, kNumBucketsPerOrder_eq, show c.kMinBucketedOrder + 2 =
      c.kMinBucketedOrder - 1 + 3 by omega, Nat.pow_add]
  have hn : n < 2 ^ c.kBitsPerSizeT := Nat.lt_of_le_of_lt h2 c.kMaxBucketed_lt_two_pow
  rw [hS] at h1
  have h8 : 8 ≤ n := by
    have : 2 ^ 3 ≤ 2 ^ (c.kMinBucketedOrder + 2) := Nat.pow_le_pow_right (by omega) (by omega)
    exact Nat.le_trans this h1
  have hsize : c.kMinBucketedOrder + 2 < Nat.size n := Nat.lt_size.2 h1
  have hp : 8 * (c.kMinBucketedOrder + 3) ≤ lookupPosition n := by
    simp only [lookupPosition]; omega
  obtain ⟨-, hlow, hle, hlt, -⟩ := lookupPosition_ceil h8
  obtain ⟨i, hi, heq, -⟩ := c.getIndex_spec n hn
  rw [c.getIndex_eq hn, Option.some.injEq] at hi
  subst hi
  rw [c.getIndex_eq hn]
  generalize lookupPosition n = p at hp hle hlt heq ⊢
  have hbk : p / 8 ≤ kMaxBucketedOrder := Nat.le_of_not_lt fun h => by
    rw [c.tableEntry_of_gt h] at heq
    exact absurd (heq.1 rfl) (by omega)
  simp only [kMaxBucketedOrder_eq] at hbk
  have hg : p - 8 * c.kMinBucketedOrder < c.kNumBuckets := by omega
  have hsz : c.bucketSize (p - 8 * c.kMinBucketedOrder) = positionSize p := by
    simp only [bucketSize]; congr 1; omega
  have hi' : c.tableEntry p = p - 8 * c.kMinBucketedOrder := by
    rw [c.tableEntry_of_bucketed (by omega) (by simpa using hbk)]
    obtain ⟨hge, -, -, hskip⟩ := c.validBucketIndex_spec hg
    refine Nat.le_antisymm (Nat.le_of_not_lt fun hlt' => hskip _ (Nat.le_refl _) hlt' ?_) hge
    rw [hsz]
    exact c.kSmallestBucket_dvd_positionSize hp
  refine ⟨_, _, rfl, by rw [hi', c.bucketSizes_getElem?_of_lt hg, hsz], hle, ?_⟩
  simp only [kNumBucketsPerOrder_eq]
  omega

theorem getIndex_waste_two_hundred :
    bucketConstants64.kSmallestBucket * kNumBucketsPerOrder ≤ 200 ∧ 200 ≤ kMaxBucketed ∧
    ∃ i size, bucketConstants64.getIndex 200 = some i ∧
      bucketConstants64.bucketSizes[i]? = some size ∧ 200 ≤ size ∧ kNumBucketsPerOrder * (size - 200) < 200 :=
  ⟨by decide, by decide, getIndex_waste bucketConstants64 200 (by decide) (by decide)⟩

end BucketConstants

end PartitionAlloc
