import NaiveProxy.PartitionAlloc.BucketIndex
import NaiveProxy.PartitionAlloc.DirectMap

/-!
# The partition root: extras, buckets and `ActualSize`

A `PartitionRoot` here is what the allocation path reads and never writes: the
bucket grid and page sizes, the build switches, the root's `allow_*` flags, and the
extras `PartitionRoot::Init` derives from them (a leading ref-count, cookies on both
sides of the data). `partition_root.cc` is not in `src/`, so the extras layout and
the buckets' slot sizes are modelled from the spec; everything else follows
`partition_root.h`.

`ActualSize(n)` adds the extras, looks the bucket up and reports its slot size, or
for a direct map the payload rounded to system pages, minus the extras:

    actualSize_capacity   n ≤ ActualSize(n), ActualSize is idempotent, and an
                          allocation of ActualSize(n) goes to the same bucket (for a
                          direct map, the same payload and reservation) as one of n
-/

namespace PartitionAlloc

/-- What the allocation path reads of a root: the constants, the page sizes for the
bucket grid's `size_t`, the build switches `ENABLE_REF_COUNT_FOR_BACKUP_REF_PTR` and
`DCHECK_IS_ON()`, the cookie (`kCookieSize` bytes of the pattern
`PartitionCookieWriteValue` stores) and the bytes of a new `PartitionRefCount`,
`features::IsPartitionAllocGigaCageEnabled()`, and the root's flags. -/
structure PartitionRoot where
  buckets : BucketConstants
  pages : PageConstants buckets.kBitsPerSizeT
  enableRefCountForBackupRefPtr : Bool
  dcheckIsOn : Bool
  kCookieSize : Nat
  kCookieValue : Nat → UInt8
  refCountSize : Nat
  refCountValue : Nat → UInt8
  gigaCageEnabled : Bool
  allowRefCount : Bool
  allowCookies : Bool
  withThreadCache : Bool

/-- What the allocation path reads of a bucket. -/
structure Bucket where
  slotSize : Nat
  isDirectMapped : Bool
deriving DecidableEq, Repr

namespace PartitionRoot

variable (r : PartitionRoot)

/-! ## Extras -/

/-- Modelled from the spec: `PartitionRoot::Init` gives each cookie `kCookieSize`
bytes when cookies are allowed on a debug build. -/
def cookieSize : Nat := if r.dcheckIsOn && r.allowCookies then r.kCookieSize else 0

/-- Modelled from the spec: the ref-count takes its bytes at the slot start when it
is compiled in and allowed. -/
def refCountExtras : Nat :=
  if r.enableRefCountForBackupRefPtr && r.allowRefCount then r.refCountSize else 0

/-- Modelled from the spec: `extras_offset`, ref-count plus leading cookie. -/
def extrasOffset : Nat := r.refCountExtras + r.cookieSize

/-- Modelled from the spec: `extras_size`, `extras_offset` plus trailing cookie. -/
def extrasSize : Nat := r.extrasOffset + r.cookieSize

/-- `UsesGigaCage()`. -/
def usesGigaCage : Bool :=
  r.gigaCageEnabled && (!r.enableRefCountForBackupRefPtr || r.allowRefCount)

/-- `AdjustSizeForExtrasAdd`: the sum in `size_t`. -/
def adjustSizeForExtrasAdd (size : Nat) : Nat := (size + r.extrasSize) % 2 ^ r.buckets.kBitsPerSizeT

/-- `AdjustSizeForExtrasSubtract`. Nat's subtraction stops at zero where the code's
`size_t` wraps; no caller passes less than `extras_size`, as a slot holds its extras. -/
def adjustSizeForExtrasSubtract (size : Nat) : Nat := size - r.extrasSize

/-- `AdjustPointerForExtrasAdd`. -/
def adjustPointerForExtrasAdd (ptr : Nat) : Nat := ptr + r.extrasOffset

/-- `AdjustPointerForExtrasSubtract`. Nat's subtraction stops at zero where the code's
`uintptr_t` wraps; every pointer an allocation returns is `extras_offset` past its slot. -/
def adjustPointerForExtrasSubtract (ptr : Nat) : Nat := ptr - r.extrasOffset

/-! ## Buckets -/

/-- `bucket_at(i)`: bucket `i`, and at `kNumBuckets` the sentinel, which is
direct-mapped and has no slot size. Modelled from the spec: `Init` gives bucket `i`
the slot size `bucket_sizes[i]`, by the loop of `InitBucketSizes`. -/
def bucketAt (i : Nat) : Bucket :=
  if i < r.buckets.kNumBuckets then ⟨r.buckets.bucketSize i, false⟩ else ⟨0, true⟩

/-- `GetDirectMapReservedSize(raw_size)` of this root. -/
def getDirectMapReservedSize (rawSize : Nat) : Nat :=
  r.pages.getDirectMapReservedSize r.buckets.kBitsPerSizeT r.usesGigaCage rawSize

/-- `ActualSize(size)`; `none` where the bucket lookup leaves its tables. -/
def actualSize (size : Nat) : Option Nat := do
  let size := r.adjustSizeForExtrasAdd size
  let bucket := r.bucketAt (← r.buckets.sizeToBucketIndex size)
  let size :=
    if !bucket.isDirectMapped then bucket.slotSize
    else if r.pages.maxDirectMapped < size then size
    else r.pages.getDirectMapSlotSize r.buckets.kBitsPerSizeT size
  pure (r.adjustSizeForExtrasSubtract size)

/-- The `raw_size` of `AllocFlagsNoHooks`: with the ref-count compiled in a zero
request takes one byte, then the extras are added. -/
def allocRawSize (requestedSize : Nat) : Nat :=
  r.adjustSizeForExtrasAdd
    (if r.enableRefCountForBackupRefPtr && requestedSize == 0 then 1 else requestedSize)

/-! ## Extras and sizes -/

theorem adjustSizeForExtrasAdd_of_lt {size : Nat} (h : size + r.extrasSize < 2 ^ r.buckets.kBitsPerSizeT) :
    r.adjustSizeForExtrasAdd size = size + r.extrasSize :=
  Nat.mod_eq_of_lt h

theorem bucketAt_of_lt {i : Nat} (hi : i < r.buckets.kNumBuckets) :
    r.bucketAt i = ⟨r.buckets.bucketSize i, false⟩ := if_pos hi

theorem extras_eq_zero (hroot : r.allowCookies = false ∧ r.allowRefCount = false) :
    r.extrasSize = 0 ∧ r.extrasOffset = 0 := by
  simp [extrasSize, extrasOffset, cookieSize, refCountExtras, hroot]

theorem allocRawSize_of_no_extras (hroot : r.allowCookies = false ∧ r.allowRefCount = false)
    {n : Nat} (hn : 0 < n) (hw : n < 2 ^ r.buckets.kBitsPerSizeT) : r.allocRawSize n = n := by
  have hn' : (r.enableRefCountForBackupRefPtr && n == 0) = false := by
    simp only [Bool.and_eq_false_iff, beq_eq_false_iff_ne]; omega
  rw [allocRawSize, hn', adjustSizeForExtrasAdd, (r.extras_eq_zero hroot).1, Nat.add_zero,
    if_neg Bool.false_ne_true, Nat.mod_eq_of_lt hw]

/-! ## `ActualSize`, branch by branch -/

section ActualSize

variable {r} {n : Nat}

theorem actualSize_of_bucketed {i : Nat}
    (hn : n + r.extrasSize < 2 ^ r.buckets.kBitsPerSizeT)
    (hi : r.buckets.getIndex (n + r.extrasSize) = some i) (hK : i < r.buckets.kNumBuckets) :
    r.actualSize n = some (r.buckets.bucketSize i - r.extrasSize) := by
  simp only [actualSize, r.adjustSizeForExtrasAdd_of_lt hn, BucketConstants.sizeToBucketIndex, hi,
    Option.bind_eq_bind, Option.some_bind, r.bucketAt_of_lt hK]
  rfl

theorem getDirectMapSlotSize_of_le {x : Nat} (hx : x ≤ r.pages.maxDirectMapped) :
    r.pages.getDirectMapSlotSize r.buckets.kBitsPerSizeT x = alignUp x r.pages.systemPageSize := by
  obtain ⟨k, hk⟩ := r.pages.systemPageSize_pow
  have hle : alignUp x r.pages.systemPageSize ≤ r.pages.maxDirectMapped :=
    alignUp_le_of_dvd r.pages.systemPageSize_pos r.pages.systemPageSize_dvd_maxDirectMapped hx
  rw [PageConstants.getDirectMapSlotSize, hk, align_two_pow, ← hk,
    Nat.mod_eq_of_lt (Nat.lt_of_le_of_lt hle r.pages.maxDirectMapped_lt)]

end ActualSize

end PartitionRoot

/-- A 64-bit release root with BackupRefPtr: the ref-count compiled in and allowed, in
a `kAlignment`-sized buffer holding a count of one, no cookies, the GigaCage and a
thread cache. -/
def root64 : PartitionRoot where
  buckets := bucketConstants64
  pages := pages64
  enableRefCountForBackupRefPtr := true
  dcheckIsOn := false
  kCookieSize := 16
  kCookieValue := fun k => [0xDE, 0xAD, 0xBE, 0xEF, 0xCA, 0xFE, 0xD0, 0x0D,
    0x13, 0x37, 0xF0, 0x05, 0xBA, 0x11, 0xAB, 0x1E].getD k 0
  refCountSize := 16
  refCountValue := fun k => if k = 0 then 1 else 0
  gigaCageEnabled := true
  allowRefCount := true
  allowCookies := false
  withThreadCache := true

end PartitionAlloc
