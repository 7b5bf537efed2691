import NaiveProxy.PartitionAlloc.Alloc

/-!
# From a pointer back to its root: `FromSlotSpan`, `FromSuperPage`, `FromPointerInNormalBucketPool`

Every super page starts with a metadata area: the extent entry, whose `root` field
names the owning `PartitionRoot`, and after it one descriptor per partition page.
`FromSlotSpan` masks a descriptor's address down to its system page, which is the
metadata area's start; `FromPointerInNormalBucketPool` masks a payload pointer down
to its super page and reads the extent entry through `FromSuperPage`, which on a
debug build checks the root's `inverted_self` the way `IsValidSlotSpan` does.

`partition_page.h` is not in `src/`, so where the metadata area of a super page lies
is a parameter (`SuperPageMemory.partitionSuperPageToMetadataArea`); the results ask
only that it be system-page aligned. The static lookups read a root's build
constants (the page sizes, the word width, `DCHECK_IS_ON()`) and nothing else of it.

    fromPointerInNormalBucketPool_eq_fromSlotSpan
        for every descriptor of a super page and every address in it, FromSlotSpan
        reads the super page's extent entry, and FromPointerInNormalBucketPool
        returns that same root, behind the DCHECK that IsValidSlotSpan states

It rests on `metadata_fits` (the descriptors stay in the metadata area's system
page) and on `and_bitwiseNot_of_mem_block` (a mask clears exactly the offset bits).
-/

namespace PartitionAlloc

namespace PageConstants

variable {width : Nat} (pc : PageConstants width)

/-- `NumPartitionPagesPerSuperPage()`. -/
def numPartitionPagesPerSuperPage : Nat := pc.superPageSize / pc.partitionPageSize

theorem mul_pageMetadataSize_lt {i : Nat} (hi : i < pc.numPartitionPagesPerSuperPage) :
    i * pc.pageMetadataSize < pc.systemPageSize := by
  have hfit : (i + 1) * pc.pageMetadataSize ≤ pc.systemPageSize :=
    Nat.le_trans (Nat.mul_le_mul_right _ hi) (Nat.mul_comm _ pc.pageMetadataSize ▸ pc.metadata_fits)
  rcases Nat.eq_zero_or_pos pc.pageMetadataSize with h0 | hpos
  · rw [h0, Nat.mul_zero]
    exact pc.systemPageSize_pos
  · rw [Nat.succ_mul] at hfit
    omega

end PageConstants

/-- What the lookups read besides the root's constants: where a super page's metadata
area lies (`PartitionSuperPageToMetadataArea`), the `root` field of the extent entry at
each address, and the `inverted_self` field of the root at each address. -/
structure SuperPageMemory where
  partitionSuperPageToMetadataArea : Nat → Nat
  extentRoot : Nat → Nat
  invertedSelf : Nat → Nat

namespace PartitionRoot

variable (r : PartitionRoot) (mem : SuperPageMemory)

/-- `SystemPageBaseMask()`: `~SystemPageOffsetMask()`, the offset mask being
`SystemPageSize() - 1`. -/
def systemPageBaseMask : Nat := bitwiseNot r.buckets.kBitsPerSizeT (r.pages.systemPageSize - 1)

/-- `kSuperPageBaseMask`: `~kSuperPageOffsetMask`, the offset mask being
`kSuperPageSize - 1`. -/
def kSuperPageBaseMask : Nat := bitwiseNot r.buckets.kBitsPerSizeT (r.pages.superPageSize - 1)

/-- `root->inverted_self == ~reinterpret_cast<uintptr_t>(root)`. -/
def rootIsValid (root : Nat) : Bool :=
  mem.invertedSelf root == bitwiseNot r.buckets.kBitsPerSizeT root

/-- `FromSlotSpan(slot_span)`: the root of the extent entry at the start of the slot
span descriptor's system page. -/
def fromSlotSpan (slotSpan : Nat) : Nat :=
  mem.extentRoot (slotSpan &&& r.systemPageBaseMask)

/-- `IsValidSlotSpan(slot_span)`. -/
def isValidSlotSpan (slotSpan : Nat) : Bool :=
  r.rootIsValid mem (r.fromSlotSpan mem slotSpan)

/-- The `PA_DCHECK` of `FromSuperPage`. -/
def invertedSelfCheckFailed : Crash :=
  .checkFailed "root->inverted_self == ~reinterpret_cast<uintptr_t>(root)"

/-- `FromSuperPage(super_page)`: the root of the extent entry at the start of the
super page's metadata area, checked on a debug build. -/
def fromSuperPage (superPage : Nat) : Except Crash Nat :=
  let root := mem.extentRoot (mem.partitionSuperPageToMetadataArea superPage)
  if r.dcheckIsOn && !r.rootIsValid mem root then throw invertedSelfCheckFailed else pure root

/-- `FromPointerInNormalBucketPool(ptr)`: `FromSuperPage` of the pointer's super page. -/
def fromPointerInNormalBucketPool (ptr : Nat) : Except Crash Nat :=
  r.fromSuperPage mem (ptr &&& r.kSuperPageBaseMask)

/-- Modelled from the spec: the descriptor of partition page `i` of a super page sits
`i * kPageMetadataSize` bytes into the super page's metadata area. -/
def partitionPageMetadata (superPage i : Nat) : Nat :=
  mem.partitionSuperPageToMetadataArea superPage + i * r.pages.pageMetadataSize

/-! ## Lemmas -/

variable {r mem}

theorem partitionPageMetadata_and_systemPageBaseMask {superPage i : Nat}
    (hmeta : r.pages.systemPageSize ∣ mem.partitionSuperPageToMetadataArea superPage)
    (hmetaw : mem.partitionSuperPageToMetadataArea superPage < 2 ^ r.buckets.kBitsPerSizeT)
    (hi : i < r.pages.numPartitionPagesPerSuperPage) :
    r.partitionPageMetadata mem superPage i &&& r.systemPageBaseMask =
      mem.partitionSuperPageToMetadataArea superPage := by
  obtain ⟨k, hk⟩ := r.pages.systemPageSize_pow
  have hlt := r.pages.mul_pageMetadataSize_lt hi
  rw [hk] at hmeta hlt
  rw [systemPageBaseMask, hk, partitionPageMetadata]
  exact and_bitwiseNot_of_mem_block hmeta hmetaw (Nat.le_add_right _ _) (Nat.add_lt_add_left hlt _)

theorem and_kSuperPageBaseMask {superPage ptr : Nat} (hsuper : r.pages.superPageSize ∣ superPage)
    (hlo : superPage ≤ ptr) (hhi : ptr < superPage + r.pages.superPageSize)
    (hptr : ptr < 2 ^ r.buckets.kBitsPerSizeT) :
    ptr &&& r.kSuperPageBaseMask = superPage := by
  obtain ⟨k, hk⟩ := r.pages.superPageSize_pow
  rw [hk] at hsuper hhi
  rw [kSuperPageBaseMask, hk]
  exact and_bitwiseNot_of_mem_block hsuper (Nat.lt_of_le_of_lt hlo hptr) hlo hhi

/-- Descriptor `i` of a super page and any address in it lead to the same root: the
descriptor's `FromSlotSpan` reads the super page's extent entry, and
`FromPointerInNormalBucketPool` returns that root, or on a debug build crashes
exactly when `IsValidSlotSpan` of the descriptor fails. -/
theorem fromPointerInNormalBucketPool_eq_fromSlotSpan {superPage i ptr : Nat}
    (hsuper : r.pages.superPageSize ∣ superPage)
    (hmeta : r.pages.systemPageSize ∣ mem.partitionSuperPageToMetadataArea superPage)
    (hmetaw : mem.partitionSuperPageToMetadataArea superPage < 2 ^ r.buckets.kBitsPerSizeT)
    (hi : i < r.pages.numPartitionPagesPerSuperPage)
    (hlo : superPage ≤ ptr) (hhi : ptr < superPage + r.pages.superPageSize)
    (hptr : ptr < 2 ^ r.buckets.kBitsPerSizeT) :
    r.fromSlotSpan mem (r.partitionPageMetadata mem superPage i) =
        mem.extentRoot (mem.partitionSuperPageToMetadataArea superPage) ∧
      r.fromPointerInNormalBucketPool mem ptr =
        if r.dcheckIsOn && !r.isValidSlotSpan mem (r.partitionPageMetadata mem superPage i) then
          throw invertedSelfCheckFailed
        else pure (r.fromSlotSpan mem (r.partitionPageMetadata mem superPage i)) := by
  have hslot : r.fromSlotSpan mem (r.partitionPageMetadata mem superPage i) =
      mem.extentRoot (mem.partitionSuperPageToMetadataArea superPage) := by
    rw [fromSlotSpan, partitionPageMetadata_and_systemPageBaseMask hmeta hmetaw hi]
  refine ⟨hslot, ?_⟩
  rw [fromPointerInNormalBucketPool, and_kSuperPageBaseMask hsuper hlo hhi hptr, isValidSlotSpan, hslot]
  rfl

end PartitionRoot

/-- Metadata one system page into each super page, every extent entry naming the root
at 4 GiB, and every root's `inverted_self` right. -/
def rootAtFourGibibytes : SuperPageMemory where
  partitionSuperPageToMetadataArea superPage := superPage + 4096
  extentRoot _ := 2 ^ 32
  invertedSelf root := bitwiseNot 64 root

theorem fromPointerInNormalBucketPool_eq_fromSlotSpan_second_super_page :
    root64.pages.superPageSize ∣ 2 ^ 21 ∧
      root64.pages.systemPageSize ∣ rootAtFourGibibytes.partitionSuperPageToMetadataArea (2 ^ 21) ∧
      rootAtFourGibibytes.partitionSuperPageToMetadataArea (2 ^ 21) < 2 ^ root64.buckets.kBitsPerSizeT ∧
      3 < root64.pages.numPartitionPagesPerSuperPage ∧ 2 ^ 21 ≤ 2 ^ 21 + 12345 ∧
      2 ^ 21 + 12345 < 2 ^ 21 + root64.pages.superPageSize ∧
      2 ^ 21 + 12345 < 2 ^ root64.buckets.kBitsPerSizeT ∧
      (root64.fromSlotSpan rootAtFourGibibytes (root64.partitionPageMetadata rootAtFourGibibytes (2 ^ 21) 3) =
          rootAtFourGibibytes.extentRoot (rootAtFourGibibytes.partitionSuperPageToMetadataArea (2 ^ 21)) ∧
        root64.fromPointerInNormalBucketPool rootAtFourGibibytes (2 ^ 21 + 12345) =
          if root64.dcheckIsOn &&
              !root64.isValidSlotSpan rootAtFourGibibytes (root64.partitionPageMetadata rootAtFourGibibytes (2 ^ 21) 3) then
            throw PartitionRoot.invertedSelfCheckFailed
          else pure (root64.fromSlotSpan rootAtFourGibibytes
            (root64.partitionPageMetadata rootAtFourGibibytes (2 ^ 21) 3))) :=
  ⟨by decide, by decide, by decide, by decide, by decide, by decide, by decide,
    PartitionRoot.fromPointerInNormalBucketPool_eq_fromSlotSpan (by decide) (by decide) (by decide) (by decide)
      (by decide) (by decide) (by decide)⟩

end PartitionAlloc
