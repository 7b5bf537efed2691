import NaiveProxy.PartitionAlloc.Bits

/-!
# Build constants: the bucket grid and the page sizes

`partition_alloc_constants.h` and `page_allocator_constants.h` are not in `src/`.
What `src/` fixes of them is taken as it stands: `static_assert(kMaxBucketed ==
983040)` and the `(kBitsPerSizeT + 1) * kNumBucketsPerOrder + 1` entries of
`bucket_index_lookup_` pin `kNumBucketsPerOrderBits = 3` and `kMaxBucketedOrder =
20`; the width of `size_t` and `kMinBucketedOrder` (which sets `kSmallestBucket =
kAlignment`, 8 or 16) are left as parameters, bound by the relations the lookup
table's constructor needs to stay inside its arrays.

The page sizes are parameters too, each carrying the checks
`PartitionAllocGlobalInit` makes before any partition exists.
-/

namespace PartitionAlloc

/-- `kNumBucketsPerOrderBits`: every power-of-two order is cut into eight steps. -/
def kNumBucketsPerOrderBits : Nat := 3

def kNumBucketsPerOrder : Nat := 1 <<< kNumBucketsPerOrderBits

/-- The largest bucketed order, `[512 KiB, 1 MiB)`. -/
def kMaxBucketedOrder : Nat := 20

/-- The spacing of the eight steps of the top order. -/
def kMaxBucketSpacing : Nat := 1 <<< (kMaxBucketedOrder - 1 - kNumBucketsPerOrderBits)

/-- The largest bucketed size: the last step of the top order. -/
def kMaxBucketed : Nat :=
  (1 <<< (kMaxBucketedOrder - 1)) + (kNumBucketsPerOrder - 1) * kMaxBucketSpacing

@[simp] theorem kNumBucketsPerOrderBits_eq : kNumBucketsPerOrderBits = 3 := rfl
@[simp] theorem kNumBucketsPerOrder_eq : kNumBucketsPerOrder = 8 := rfl
@[simp] theorem kMaxBucketedOrder_eq : kMaxBucketedOrder = 20 := rfl
@[simp] theorem kMaxBucketed_eq : kMaxBucketed = 983040 := rfl

/-- The two build-dependent constants of the bucket grid: the width of `size_t` and
the finest bucketed order. The relations are the ones the lookup table's
`constexpr` constructor needs: the finest order still steps by at least one byte,
the top order has no pseudo-buckets (so the skip loop ends inside
`bucket_sizes_`), and every bucketed order is an order of some `size_t`. -/
structure BucketConstants where
  kBitsPerSizeT : Nat
  kMinBucketedOrder : Nat
  bits_lt_min : kNumBucketsPerOrderBits < kMinBucketedOrder
  min_add_bits_le_max : kMinBucketedOrder + kNumBucketsPerOrderBits ≤ kMaxBucketedOrder
  max_lt_bits : kMaxBucketedOrder < kBitsPerSizeT

namespace BucketConstants

variable (c : BucketConstants)

def kNumBucketedOrders : Nat := kMaxBucketedOrder - c.kMinBucketedOrder + 1

def kNumBuckets : Nat := c.kNumBucketedOrders * kNumBucketsPerOrder

/-- `kSmallestBucket = 1 << (kMinBucketedOrder - 1)`, which is `kAlignment`. -/
def kSmallestBucket : Nat := 1 <<< (c.kMinBucketedOrder - 1)

theorem four_le_min : 4 ≤ c.kMinBucketedOrder := c.bits_lt_min

theorem min_le_seventeen : c.kMinBucketedOrder ≤ 17 := by
  have := c.min_add_bits_le_max
  simp only [kNumBucketsPerOrderBits_eq, kMaxBucketedOrder_eq] at this
  omega

theorem twenty_lt_bits : 20 < c.kBitsPerSizeT := c.max_lt_bits

theorem kNumBuckets_eq : c.kNumBuckets = 8 * (21 - c.kMinBucketedOrder) := by
  simp only [kNumBuckets, kNumBucketedOrders, kNumBucketsPerOrder_eq, kMaxBucketedOrder_eq]
  have := c.min_le_seventeen
  omega

theorem kSmallestBucket_eq : c.kSmallestBucket = 2 ^ (c.kMinBucketedOrder - 1) :=
  Nat.one_shiftLeft _

end BucketConstants

/-- 64-bit builds: `kAlignment = 16`, so buckets start at order 5. -/
def bucketConstants64 : BucketConstants := ⟨64, 5, by decide, by decide, by decide⟩

/-- 32-bit builds: `kAlignment = 8`, so buckets start at order 4. -/
def bucketConstants32 : BucketConstants := ⟨32, 4, by decide, by decide, by decide⟩

example : bucketConstants64.kNumBuckets = 128 ∧ bucketConstants64.kSmallestBucket = 16 := by
  decide

/-- The page sizes (`SystemPageSize()`, `PartitionPageSize()`, `kSuperPageSize`,
`PageAllocationGranularity()`, `kPageMetadataSize`) and `MaxDirectMapped()` of a
build whose `size_t` has `width` bits, with the checks `PartitionAllocGlobalInit`
makes on them. The bound on `MaxDirectMapped()` is computed in `size_t`, as the code
computes it; the other checks are read in unbounded arithmetic. The header defines
the super page and the granularity by their shifts, the granularity being a whole
number of system pages, and `MaxDirectMapped()` as a whole number of system pages. -/
structure PageConstants (width : Nat) where
  systemPageSize : Nat
  partitionPageSize : Nat
  superPageSize : Nat
  pageAllocationGranularity : Nat
  pageMetadataSize : Nat
  maxDirectMapped : Nat
  /-- "SystemPageSize() must be power of 2" -/
  systemPageSize_pow : ∃ k, systemPageSize = 2 ^ k
  /-- "ok super page size" -/
  superPageSize_ge : 4 * partitionPageSize ≤ superPageSize
  /-- "ok super page multiple" -/
  superPageSize_dvd : partitionPageSize ∣ superPageSize
  /-- "ok partition page size" -/
  partitionPageSize_ge : 4 * systemPageSize ≤ partitionPageSize
  /-- "ok partition page multiple" -/
  partitionPageSize_dvd : systemPageSize ∣ partitionPageSize
  /-- "page metadata fits in hole" -/
  metadata_fits : pageMetadataSize * (superPageSize / partitionPageSize) ≤ systemPageSize
  /-- "maximum direct mapped allocation": `(1UL << 31) + PageAllocationGranularity()`
  is a `size_t` sum, so it wraps at `2 ^ width`. -/
  maxDirectMapped_le : maxDirectMapped ≤ (2 ^ 31 + pageAllocationGranularity) % 2 ^ width
  systemPageSize_dvd_maxDirectMapped : systemPageSize ∣ maxDirectMapped
  superPageSize_pow : ∃ k, superPageSize = 2 ^ k
  pageAllocationGranularity_pow : ∃ k, pageAllocationGranularity = systemPageSize * 2 ^ k

namespace PageConstants

variable {width : Nat} (pc : PageConstants width)

theorem maxDirectMapped_lt : pc.maxDirectMapped < 2 ^ width :=
  Nat.lt_of_le_of_lt pc.maxDirectMapped_le (Nat.mod_lt _ (Nat.two_pow_pos width))

theorem systemPageSize_pos : 0 < pc.systemPageSize := by
  obtain ⟨k, hk⟩ := pc.systemPageSize_pow
  exact hk ▸ Nat.two_pow_pos k

theorem partitionPageSize_pos : 0 < pc.partitionPageSize := by
  have := pc.systemPageSize_pos
  have := pc.partitionPageSize_ge
  omega

theorem systemPageSize_dvd_superPageSize : pc.systemPageSize ∣ pc.superPageSize :=
  Nat.dvd_trans pc.partitionPageSize_dvd pc.superPageSize_dvd

theorem systemPageSize_dvd_pageAllocationGranularity :
    pc.systemPageSize ∣ pc.pageAllocationGranularity := by
  obtain ⟨k, hk⟩ := pc.pageAllocationGranularity_pow
  exact hk ▸ Nat.dvd_mul_right _ _

end PageConstants

end PartitionAlloc
