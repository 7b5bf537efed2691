import NaiveProxy.PartitionAlloc.Alloc

/-!
# `AlignedAllocFlags`

`AlignedAllocFlags(flags, alignment, size)` rounds the request up to a power of
two, `1 << (w - CountLeadingZeroBits(size - 1))`, checks the rounding for
overflow, allocates it with `AllocFlagsNoHooks(0, ...)` or `Alloc(...)`, and checks
the pointer against the alignment. Three of its steps fall short of what a caller
of an aligned allocation expects:

    alignedAllocFlags_shift        from 2^(w-1) on the rounding shifts by the full
                                   width, undefined behaviour, before the overflow
                                   check; below it, it is the least power of two
    alignedAllocFlags_drops_flags  the caller's flags are replaced by 0: a request
                                   too large for a direct map terminates the process
                                   under ReturnNull, and nothing is zero-filled
    alignedAllocFlags_directMap_misaligned
                                   a direct map's payload sits a partition page past
                                   its reservation, so with the GigaCage an alignment
                                   above kMaxBucketed always fails the final check
-/

namespace PartitionAlloc

/-- `PartitionAllocHooks` as `AllocFlags` reads them: whether hooks are enabled, and
the override hook, which may answer a request itself. -/
structure Hooks where
  enabled : Bool
  allocationOverride : AllocFlags → Nat → Option (Option Nat)

/-- No hooks installed. -/
def noHooks : Hooks := ⟨false, fun _ _ => none⟩

/-- The `requested_size` of `AlignedAllocFlags`: the alignment for a smaller size,
else `1 << (w - CountLeadingZeroBits(size - 1))`, undefined for a shift by `w`. -/
def alignedRequestSize (width alignment size : Nat) : Option Nat :=
  if size < alignment then some alignment
  else shiftLeft width 1 (width - countLeadingZeroBits width (size - 1))

/-- The final `PA_CHECK(!(ptr & (alignment - 1)))` of `AlignedAllocFlags`; a null
pointer passes. -/
def checkAlignment (alignment : Nat) (o : AllocOutcome) : Except Crash AllocOutcome :=
  if o.ret.getD 0 &&& (alignment - 1) ≠ 0 then
    throw (.checkFailed "!(reinterpret_cast<uintptr_t>(ptr) & (alignment - 1))")
  else pure o

namespace PartitionRoot

variable (r : PartitionRoot)

/-- `AllocFlags(flags, requested_size, type_name)`: an enabled override hook may
answer; otherwise `AllocFlagsNoHooks`. -/
def allocFlags (slowPath : SlowPath) (hooks : Hooks) (h : Heap) (flags : AllocFlags)
    (requestedSize : Nat) : Except Crash AllocOutcome :=
  if r.dcheckIsOn && flags.noHooks then throw (.checkFailed "(flags & PartitionAllocNoHooks) == 0")
  else match if hooks.enabled then hooks.allocationOverride flags requestedSize else none with
    | some ret => pure ⟨ret, h, []⟩
    | none => r.allocFlagsNoHooks slowPath h flags requestedSize

/-- `Alloc(requested_size, type_name)`: `AllocFlags(0, ...)`. -/
def alloc (slowPath : SlowPath) (hooks : Hooks) (h : Heap) (requestedSize : Nat) :
    Except Crash AllocOutcome :=
  r.allocFlags slowPath hooks h {} requestedSize

/-- The allocation `AlignedAllocFlags` makes once its rounding passed the overflow
check: with flags 0, by `AllocFlagsNoHooks` under `NoHooks` and `Alloc` otherwise,
then the final check. -/
def alignedAllocRounded (slowPath : SlowPath) (hooks : Hooks) (h : Heap) (flags : AllocFlags)
    (alignment requestedSize : Nat) : Except Crash AllocOutcome :=
  (if flags.noHooks then r.allocFlagsNoHooks slowPath h {} requestedSize
    else r.alloc slowPath hooks h requestedSize) >>= checkAlignment alignment

/-- `AlignedAllocFlags(flags, alignment, size)`. -/
def alignedAllocFlags (slowPath : SlowPath) (hooks : Hooks) (h : Heap) (flags : AllocFlags)
    (alignment size : Nat) : Except Crash AllocOutcome :=
  if r.dcheckIsOn && (r.allowCookies || r.allowRefCount) then
    throw (.checkFailed "!allow_cookies && !allow_ref_count")
  else if !isPowerOfTwo alignment then throw (.checkFailed "base::bits::IsPowerOfTwo(alignment)")
  else match alignedRequestSize r.buckets.kBitsPerSizeT alignment size with
    | none => throw (.undefinedBehavior "shift of size_t by its width")
    | some requestedSize =>
      if requestedSize < size then
        if flags.returnNull then pure ⟨none, h, []⟩ else throw .excessiveAllocationSize
      else r.alignedAllocRounded slowPath hooks h flags alignment requestedSize

end PartitionRoot

/-! ## The rounding -/

section Rounding

variable {width alignment size k : Nat}

/-- Below `2^(w-1)` (or below the alignment) the rounding is the least power of two
at or above both the size and the alignment; from `2^(w-1)` on, at or above the
alignment, its shift is by the full width and undefined. -/
theorem alignedRequestSize_spec (hk : alignment = 2 ^ k) (hs : size < 2 ^ width) :
    (size < alignment ∨ size ≤ 2 ^ (width - 1) →
      ∃ j, alignedRequestSize width alignment size = some (2 ^ j) ∧
        max size alignment ≤ 2 ^ j ∧ 2 ^ j < 2 * max size alignment) ∧
    (alignment ≤ size → 2 ^ (width - 1) < size →
      width - countLeadingZeroBits width (size - 1) = width ∧
        alignedRequestSize width alignment size = none) := by
  have hpos : 0 < alignment := hk ▸ Nat.two_pow_pos k
  have hx : size - 1 < 2 ^ width := by omega
  have horder := width_sub_countLeadingZeroBits hx
  refine ⟨fun hcase => ?_, fun ha hbig => ?_⟩
  · by_cases hlt : size < alignment
    · exact ⟨k, by rw [alignedRequestSize, if_pos hlt, hk], by rw [← hk]; omega,
        by rw [← hk]; omega⟩
    have hle : size ≤ 2 ^ (width - 1) := hcase.resolve_left hlt
    -- the order of `size - 1` is below the width
    have hsz : Nat.size (size - 1) ≤ width - 1 := Nat.size_le.2 (by omega)
    have hw : 0 < width := Nat.pos_of_ne_zero fun h => by subst h; simp at hle; omega
    have hup : size ≤ 2 ^ Nat.size (size - 1) := by have := Nat.lt_size_self (size - 1); omega
    have hdown : 2 ^ Nat.size (size - 1) < 2 * size := by
      rcases Nat.eq_zero_or_pos (size - 1) with h0 | h0
      · rw [h0, Nat.size_zero]; omega
      · have := two_pow_size_pred_le h0
        rw [show Nat.size (size - 1) = Nat.size (size - 1) - 1 + 1 by
          have := Nat.size_pos.2 h0; omega, Nat.pow_succ]
        omega
    have hval : (1 <<< Nat.size (size - 1)) % 2 ^ width = 2 ^ Nat.size (size - 1) := by
      rw [Nat.one_shiftLeft, Nat.mod_eq_of_lt (Nat.pow_lt_pow_right (by decide) (by omega))]
    refine ⟨Nat.size (size - 1), ?_, by omega, by omega⟩
    rw [alignedRequestSize, if_neg hlt, shiftLeft, horder, if_pos (by omega), hval]
  · have hw : 0 < width := Nat.pos_of_ne_zero fun h => by subst h; simp at hs hbig; omega
    have hsz : width - 1 < Nat.size (size - 1) := Nat.lt_size.2 (by omega)
    have hsz' := Nat.size_le.2 hx
    refine ⟨by omega, ?_⟩
    rw [alignedRequestSize, if_neg (by omega), shiftLeft, if_neg (by omega)]

theorem alignedRequestSize_ge {req : Nat} (hk : alignment = 2 ^ k) (hs : size < 2 ^ width)
    (hreq : alignedRequestSize width alignment size = some req) : max size alignment ≤ req := by
  obtain ⟨hsmall, hlarge⟩ := alignedRequestSize_spec hk hs
  by_cases hcase : size < alignment ∨ size ≤ 2 ^ (width - 1)
  · obtain ⟨j, hj, hle, -⟩ := hsmall hcase
    rw [hreq, Option.some.injEq] at hj
    exact hj ▸ hle
  · rw [(hlarge (by omega) (by omega)).2] at hreq
    cases hreq

end Rounding

/-! ## The path of an aligned allocation -/

theorem except_bind_eq_ok {ε α β : Type} {x : Except ε α} {f : α → Except ε β} {b : β}
    (hb : x >>= f = .ok b) : ∃ a, x = .ok a ∧ f a = .ok b := by
  cases x with
  | error e => cases hb
  | ok a => exact ⟨a, rfl, hb⟩

theorem checkAlignment_eq_ok {alignment : Nat} {o o' : AllocOutcome}
    (hc : checkAlignment alignment o = .ok o') : o' = o ∧ o.ret.getD 0 &&& (alignment - 1) = 0 := by
  unfold checkAlignment at hc
  split at hc
  · cases hc
  · cases hc
    exact ⟨rfl, Decidable.of_not_not ‹_›⟩

theorem checkAlignment_of_misaligned {alignment k p : Nat} {o : AllocOutcome} (hk : alignment = 2 ^ k)
    (hp : o.ret = some p) (hm : p % alignment ≠ 0) :
    checkAlignment alignment o =
      .error (.checkFailed "!(reinterpret_cast<uintptr_t>(ptr) & (alignment - 1))") := by
  rw [checkAlignment, if_pos (by rw [hp, Option.getD_some, hk, Nat.and_pow_two_sub_one_eq_mod, ← hk]; exact hm)]
  rfl

namespace PartitionRoot

section Path

variable {r : PartitionRoot} {slowPath : SlowPath} {hooks : Hooks} {h : Heap} {flags : AllocFlags}
  {alignment size req : Nat} {o : AllocOutcome}

theorem allocFlags_eq_ok (hres : r.allocFlags slowPath hooks h flags req = .ok o) :
    (hooks.enabled = true ∧ ∃ ret, o = ⟨ret, h, []⟩) ∨
      r.allocFlagsNoHooks slowPath h flags req = .ok o := by
  unfold allocFlags at hres
  split at hres
  · cases hres
  · split at hres
    · rename_i heq
      cases hres
      refine .inl ⟨?_, _, rfl⟩
      by_contra hne
      simp [hne] at heq
    · exact .inr hres

theorem alignedAllocRounded_eq_ok
    (hres : r.alignedAllocRounded slowPath hooks h flags alignment req = .ok o) :
    o.ret.getD 0 &&& (alignment - 1) = 0 ∧
      ((flags.noHooks = false ∧ hooks.enabled = true ∧ ∃ ret, o = ⟨ret, h, []⟩) ∨
        r.allocFlagsNoHooks slowPath h {} req = .ok o) := by
  unfold alignedAllocRounded at hres
  obtain ⟨o', ho', hc⟩ := except_bind_eq_ok hres
  obtain ⟨rfl, haligned⟩ := checkAlignment_eq_ok hc
  refine ⟨haligned, ?_⟩
  split at ho'
  · exact .inr ho'
  · rcases allocFlags_eq_ok ho' with ⟨he, hret⟩ | hn
    · exact .inl ⟨Bool.eq_false_iff.2 ‹_›, he, hret⟩
    · exact .inr hn

/-- What `AlignedAllocFlags` can return: under `ReturnNull`, the null of the overflow
check, or the allocation of the rounded request. -/
theorem alignedAllocFlags_eq_ok
    (hres : r.alignedAllocFlags slowPath hooks h flags alignment size = .ok o) :
    ∃ req, alignedRequestSize r.buckets.kBitsPerSizeT alignment size = some req ∧
      ((req < size ∧ flags.returnNull = true ∧ o = ⟨none, h, []⟩) ∨
        (size ≤ req ∧ r.alignedAllocRounded slowPath hooks h flags alignment req = .ok o)) := by
  unfold alignedAllocFlags at hres
  split at hres
  · cases hres
  split at hres
  · cases hres
  split at hres
  · cases hres
  rename_i req hreq
  refine ⟨req, hreq, ?_⟩
  split at hres
  · split at hres
    · cases hres
      exact .inl ⟨‹_›, ‹_›, rfl⟩
    · cases hres
  · exact .inr ⟨Nat.le_of_not_lt ‹_›, hres⟩

theorem alignedAllocFlags_stores
    (hres : r.alignedAllocFlags slowPath hooks h flags alignment size = .ok o) :
    o.stores = [] ∨ ∃ rawSize a, o.stores = r.slotStores {} rawSize a := by
  obtain ⟨req, -, ⟨-, -, rfl⟩ | ⟨-, hr⟩⟩ := alignedAllocFlags_eq_ok hres
  · exact .inl rfl
  rcases (alignedAllocRounded_eq_ok hr).2 with ⟨-, -, ret, rfl⟩ | hn
  · exact .inl rfl
  · exact r.allocFlagsNoHooks_stores hn

theorem alignedAllocFlags_of_none (hroot : r.allowCookies = false ∧ r.allowRefCount = false)
    (hpow : isPowerOfTwo alignment = true)
    (hreq : alignedRequestSize r.buckets.kBitsPerSizeT alignment size = none) :
    r.alignedAllocFlags slowPath hooks h flags alignment size =
      .error (.undefinedBehavior "shift of size_t by its width") := by
  simp only [alignedAllocFlags, hroot, Bool.or_self, Bool.and_false, Bool.false_eq_true, if_false,
    hpow, Bool.not_true, hreq]
  rfl

theorem alignedAllocFlags_of_some (hroot : r.allowCookies = false ∧ r.allowRefCount = false)
    (hpow : isPowerOfTwo alignment = true)
    (hreq : alignedRequestSize r.buckets.kBitsPerSizeT alignment size = some req) (hle : size ≤ req) :
    r.alignedAllocFlags slowPath hooks h flags alignment size =
      r.alignedAllocRounded slowPath hooks h flags alignment req := by
  simp only [alignedAllocFlags, hroot, Bool.or_self, Bool.and_false, Bool.false_eq_true, if_false,
    hpow, Bool.not_true, hreq, if_neg (Nat.not_lt.2 hle)]

theorem alignedAllocFlags_of_request (hroot : r.allowCookies = false ∧ r.allowRefCount = false)
    (hpow : isPowerOfTwo alignment = true)
    (hreq : alignedRequestSize r.buckets.kBitsPerSizeT alignment size = some req) (hle : size ≤ req)
    (hhooks : flags.noHooks = true ∨ hooks.enabled = false) :
    r.alignedAllocFlags slowPath hooks h flags alignment size =
      r.allocFlagsNoHooks slowPath h {} req >>= checkAlignment alignment := by
  rw [alignedAllocFlags_of_some hroot hpow hreq hle, alignedAllocRounded]
  rcases Bool.eq_false_or_eq_true flags.noHooks with hn | hn
  · simp only [hn, if_true]
  · have he : hooks.enabled = false := hhooks.resolve_left (by simp [hn])
    simp only [hn, alloc, allocFlags, he, Bool.and_false, Bool.false_eq_true, if_false]

theorem alignedRequestSize_lt (halign : alignment < 2 ^ r.buckets.kBitsPerSizeT)
    (hreq : alignedRequestSize r.buckets.kBitsPerSizeT alignment size = some req) :
    req < 2 ^ r.buckets.kBitsPerSizeT := by
  unfold alignedRequestSize shiftLeft at hreq
  split at hreq
  · cases hreq; exact halign
  · split at hreq
    · cases hreq; exact Nat.mod_lt _ (Nat.two_pow_pos _)
    · cases hreq

/-- Past the rounding, a request above `kMaxBucketed` and `MaxDirectMapped()`
terminates the process, whatever the caller's flags. -/
theorem alignedAllocFlags_tooLarge (hroot : r.allowCookies = false ∧ r.allowRefCount = false)
    (hh : r.Consistent h) (hsp : r.SlowPathContract slowPath) (hpow : isPowerOfTwo alignment = true)
    (halign : alignment < 2 ^ r.buckets.kBitsPerSizeT)
    (hreq : alignedRequestSize r.buckets.kBitsPerSizeT alignment size = some req) (hle : size ≤ req)
    (hhooks : flags.noHooks = true ∨ hooks.enabled = false) (hbig : kMaxBucketed < req)
    (hmax : r.pages.maxDirectMapped < req) :
    r.alignedAllocFlags slowPath hooks h flags alignment size = .error .excessiveAllocationSize := by
  have hraw := r.allocRawSize_of_no_extras hroot (by omega) (alignedRequestSize_lt halign hreq)
  obtain ⟨h₀, hres⟩ : ∃ h₀, r.allocFlagsNoHooks slowPath h {} req =
      if ({} : AllocFlags).returnNull then .ok ⟨none, h₀, []⟩ else .error .excessiveAllocationSize :=
    r.allocFlagsNoHooks_tooLarge hh hsp (by rw [hraw]) (by rw [hraw]; exact hbig) (by rw [hraw]; exact hmax)
  rw [alignedAllocFlags_of_request hroot hpow hreq hle hhooks, hres]
  rfl

theorem allocFlags_tooLarge_returnNull (hroot : r.allowCookies = false ∧ r.allowRefCount = false)
    (hh : r.Consistent h) (hsp : r.SlowPathContract slowPath) (hrn : flags.returnNull = true)
    (hnh : flags.noHooks = false) (he : hooks.enabled = false) (hw : req < 2 ^ r.buckets.kBitsPerSizeT)
    (hbig : kMaxBucketed < req) (hmax : r.pages.maxDirectMapped < req) :
    ∃ h₀, r.allocFlags slowPath hooks h flags req = .ok ⟨none, h₀, []⟩ := by
  have hraw := r.allocRawSize_of_no_extras hroot (by omega) hw
  obtain ⟨h₀, hres⟩ : ∃ h₀, r.allocFlagsNoHooks slowPath h flags req =
      if flags.returnNull then .ok ⟨none, h₀, []⟩ else .error .excessiveAllocationSize :=
    r.allocFlagsNoHooks_tooLarge hh hsp (by rw [hraw]) (by rw [hraw]; exact hbig) (by rw [hraw]; exact hmax)
  refine ⟨h₀, ?_⟩
  simp only [allocFlags, hnh, Bool.and_false, he, hres, hrn, if_true]
  rfl

end Path

/-! ## The rounding: a shift by the full width -/

section Shift

variable {r : PartitionRoot} {slowPath : SlowPath} {hooks : Hooks} {h : Heap} {flags : AllocFlags}
  {alignment size k : Nat}

/-- For a size below `2^(w-1)` (or below the alignment) `AlignedAllocFlags` allocates
the least power of two at or above the size and the alignment, and its overflow check
never fires. From `2^(w-1)` on, at or above the alignment, the rounding shifts
`size_t` by its full width, which is undefined, before the overflow check is reached. -/
theorem alignedAllocFlags_shift (hroot : r.allowCookies = false ∧ r.allowRefCount = false)
    (hk : alignment = 2 ^ k) (hs : size < 2 ^ r.buckets.kBitsPerSizeT) :
    (size < alignment ∨ size ≤ 2 ^ (r.buckets.kBitsPerSizeT - 1) →
      ∃ j, max size alignment ≤ 2 ^ j ∧ 2 ^ j < 2 * max size alignment ∧
        r.alignedAllocFlags slowPath hooks h flags alignment size =
          r.alignedAllocRounded slowPath hooks h flags alignment (2 ^ j)) ∧
    (alignment ≤ size → 2 ^ (r.buckets.kBitsPerSizeT - 1) < size →
      r.buckets.kBitsPerSizeT - countLeadingZeroBits r.buckets.kBitsPerSizeT (size - 1) =
        r.buckets.kBitsPerSizeT ∧
      r.alignedAllocFlags slowPath hooks h flags alignment size =
        .error (.undefinedBehavior "shift of size_t by its width")) := by
  have hpow : isPowerOfTwo alignment = true := hk ▸ isPowerOfTwo_two_pow k
  obtain ⟨hsmall, hlarge⟩ := alignedRequestSize_spec hk hs
  refine ⟨fun hcase => ?_, fun ha hbig => ?_⟩
  · obtain ⟨j, hreq, hle, hlt⟩ := hsmall hcase
    exact ⟨j, hle, hlt, alignedAllocFlags_of_some hroot hpow hreq (by omega)⟩
  · obtain ⟨hw, hreq⟩ := hlarge ha hbig
    exact ⟨hw, alignedAllocFlags_of_none hroot hpow hreq⟩

end Shift

end PartitionRoot

/-- A 64-bit root set up for aligned allocation: `root64` with BackupRefPtr off, so
with no extras and in the GigaCage. -/
def alignedRoot64 : PartitionRoot :=
  { root64 with enableRefCountForBackupRefPtr := false, allowRefCount := false }

theorem alignedAllocFlags_shift_top_half :
    64 - countLeadingZeroBits 64 (2 ^ 63) = 64 ∧
      alignedRoot64.alignedAllocFlags alignedRoot64.noMemorySlowPath noHooks (Heap.oneFreeSlot 0 0 0) {}
        8 (2 ^ 63 + 1) = .error (.undefinedBehavior "shift of size_t by its width") :=
  (PartitionRoot.alignedAllocFlags_shift (r := alignedRoot64) (k := 3) ⟨rfl, rfl⟩ rfl
    (by decide : 2 ^ 63 + 1 < 2 ^ 64)).2 (by decide) (by decide)

/-! ## The caller's flags -/

namespace PartitionRoot

section Flags

variable {r : PartitionRoot} {slowPath : SlowPath} {hooks : Hooks} {h : Heap} {flags : AllocFlags}
  {alignment size req : Nat}

/-- Past its overflow check `AlignedAllocFlags` reads no flag but `NoHooks`: it
allocates as it would for a caller that passed neither `ReturnNull` nor `ZeroFill`.
No call of it, whatever the flags, stores a zero fill. -/
theorem alignedAllocFlags_drops_flags
    (hreq : alignedRequestSize r.buckets.kBitsPerSizeT alignment size = some req) (hle : size ≤ req) :
    r.alignedAllocFlags slowPath hooks h flags alignment size =
      r.alignedAllocFlags slowPath hooks h { noHooks := flags.noHooks } alignment size ∧
    ∀ o, r.alignedAllocFlags slowPath hooks h flags alignment size = .ok o →
      ∀ p n, Store.memset p 0 n ∉ o.stores := by
  refine ⟨by simp only [alignedAllocFlags, hreq, if_neg (Nat.not_lt.2 hle), alignedAllocRounded],
    fun o hres p n hmem => ?_⟩
  rcases alignedAllocFlags_stores hres with hnil | ⟨rawSize, a, hst⟩
  · simp [hnil] at hmem
  · exact r.memset_zero_not_mem_slotStores rfl (hst ▸ hmem)

end Flags

end PartitionRoot

/-- With `ReturnNull`, an aligned request of 4 GiB, above `MaxDirectMapped()`,
terminates the process, where `AllocFlags` returns null. -/
theorem alignedAllocFlags_drops_flags_four_gibibytes :
    alignedRoot64.alignedAllocFlags alignedRoot64.noMemorySlowPath noHooks (Heap.oneFreeSlot 0 0 0)
        { returnNull := true } 16 (2 ^ 32) = .error .excessiveAllocationSize ∧
      ∃ h₀, alignedRoot64.allocFlags alignedRoot64.noMemorySlowPath noHooks (Heap.oneFreeSlot 0 0 0)
        { returnNull := true } (2 ^ 32) = .ok ⟨none, h₀, []⟩ := by
  have hreq : alignedRequestSize 64 16 (2 ^ 32) = some (2 ^ 32) := by decide
  have hh := alignedRoot64.consistent_oneFreeSlot (i := 0) (by decide) 0 0
  have hsp := alignedRoot64.noMemorySlowPath_contract
  refine ⟨?_, PartitionRoot.allocFlags_tooLarge_returnNull ⟨rfl, rfl⟩ hh hsp rfl rfl rfl
    (by decide) (by decide) (by decide)⟩
  rw [(PartitionRoot.alignedAllocFlags_drops_flags hreq (Nat.le_refl _)).1]
  exact PartitionRoot.alignedAllocFlags_tooLarge ⟨rfl, rfl⟩ hh hsp (by decide) (by decide) hreq
    (Nat.le_refl _) (.inr rfl) (by decide) (by decide)

/-! ## The alignment of a direct map -/

namespace PartitionRoot

variable (r : PartitionRoot)

/-- Modelled from the spec (§4.7): the slow path maps a direct map as a reservation
aligned to the reservation alignment, whose first partition page holds the metadata,
followed by the slot. -/
def DirectMapLayout (slowPath : SlowPath) : Prop :=
  ∀ h flags rawSize s h', slowPath h r.buckets.kNumBuckets flags rawSize = .ok (some s, h') →
    ∃ reservationStart,
      r.pages.directMapReservationAlignment r.buckets.kBitsPerSizeT r.usesGigaCage ∣ reservationStart ∧
        s.slotStart = reservationStart + r.pages.partitionPageSize

/-- A slow path that maps every direct map at `reservationStart` (modelled from the
spec): the slot a partition page in, in a span of `GetDirectMapSlotSize(raw_size)`
that stores the raw size. It finds no other memory. -/
def directMapSlowPath (reservationStart : Nat) : SlowPath := fun h i flags rawSize =>
  if i = r.buckets.kNumBuckets ∧ rawSize ≤ r.pages.maxDirectMapped then
    let slotStart := reservationStart + r.pages.partitionPageSize
    let span : SlotSpan :=
      ⟨.directMap (r.pages.getDirectMapSlotSize r.buckets.kBitsPerSizeT rawSize), some rawSize⟩
    .ok (some ⟨slotStart, false⟩, { h with slotSpan := Function.update h.slotSpan slotStart span })
  else r.noMemorySlowPath h i flags rawSize

theorem directMapSlowPath_contract (reservationStart : Nat) :
    r.SlowPathContract (r.directMapSlowPath reservationStart) where
  bucket_slot h i flags rawSize s h' hs hi := by
    unfold directMapSlowPath at hs
    split at hs
    · omega
    · exact absurd hs r.noMemorySlowPath_ne_some
  directMap_slot h flags rawSize s h' hs := by
    unfold directMapSlowPath at hs
    split at hs
    · cases hs
      have : rawSize ≤ alignUp rawSize r.pages.systemPageSize := le_alignUp r.pages.systemPageSize_pos
      refine ⟨r.pages.getDirectMapSlotSize r.buckets.kBitsPerSizeT rawSize, by simp, ?_, ?_⟩ <;>
        simp [getUtilizedSlotSize, r.getDirectMapSlotSize_of_le (And.right ‹_›), this]
    · exact absurd hs r.noMemorySlowPath_ne_some
  zeroed h i flags rawSize s h' hs hz := by
    unfold directMapSlowPath at hs
    split at hs
    · cases hs
      cases hz
    · exact absurd hs r.noMemorySlowPath_ne_some
  null_returnNull h i flags rawSize h' hs := by
    unfold directMapSlowPath at hs
    split at hs
    · cases hs
    · exact r.noMemorySlowPath_contract.null_returnNull _ _ _ _ _ hs
  tooLarge h flags rawSize hmax := by
    rw [directMapSlowPath, if_neg (by omega)]
    exact r.noMemorySlowPath_contract.tooLarge h flags rawSize hmax

theorem directMapSlowPath_layout {reservationStart : Nat}
    (hd : r.pages.directMapReservationAlignment r.buckets.kBitsPerSizeT r.usesGigaCage ∣ reservationStart) :
    r.DirectMapLayout (r.directMapSlowPath reservationStart) := by
  intro h flags rawSize s h' hs
  unfold directMapSlowPath at hs
  split at hs
  · cases hs
    exact ⟨_, hd, rfl⟩
  · exact absurd hs r.noMemorySlowPath_ne_some

section Misaligned

variable {r} {slowPath : SlowPath} {hooks : Hooks} {h : Heap} {flags : AllocFlags}
  {alignment size req k : Nat} {o : AllocOutcome}

/-- A request above `kMaxBucketed`, allocated with flags 0 and no extras, returns the
slot of a direct map: a partition page past a reservation start. -/
theorem allocFlagsNoHooks_directMap (hroot : r.allowCookies = false ∧ r.allowRefCount = false)
    (hh : r.Consistent h) (hsp : r.SlowPathContract slowPath) (hlayout : r.DirectMapLayout slowPath)
    (hw : req < 2 ^ r.buckets.kBitsPerSizeT) (hbig : kMaxBucketed < req)
    (hres : r.allocFlagsNoHooks slowPath h {} req = .ok o) :
    ∃ reservationStart,
      r.pages.directMapReservationAlignment r.buckets.kBitsPerSizeT r.usesGigaCage ∣ reservationStart ∧
        o.ret = some (reservationStart + r.pages.partitionPageSize) := by
  have hraw := r.allocRawSize_of_no_extras hroot (by omega) hw
  obtain ⟨-, i, hi, h₁, ⟨hnone, -⟩ | ⟨a, hsome, rfl⟩⟩ := r.allocFlagsNoHooks_eq_ok hres <;>
    rw [hraw, BucketConstants.sizeToBucketIndex, r.buckets.getIndex_of_gt hbig hw,
      Option.some.injEq] at hi <;>
    subst hi
  · obtain ⟨-, h₀, hs⟩ := r.acquireSlot_eq_none hnone
    cases hsp.null_returnNull _ _ _ _ _ hs
  · rcases r.acquireSlot_eq_some hh hsome with ⟨-, hiK, -⟩ | ⟨-, h₀, s, hs, rfl⟩
    · exact absurd hiK (Nat.lt_irrefl _)
    · obtain ⟨reservationStart, hd, hslot⟩ := hlayout _ _ _ _ _ hs
      exact ⟨reservationStart, hd, by rw [(r.extras_eq_zero hroot).2, Nat.add_zero, hslot]⟩

/-- On a root without extras whose reservation alignment is a multiple of the
alignment (the GigaCage's super page on 64-bit, for alignments of 1 MiB and 2 MiB),
an alignment above `kMaxBucketed` and above a partition page makes every allocation
of `AlignedAllocFlags` a direct map whose pointer is a partition page off the
alignment: the final `PA_CHECK` fires on each, and no call returns. -/
theorem alignedAllocFlags_directMap_misaligned (hroot : r.allowCookies = false ∧ r.allowRefCount = false)
    (hh : r.Consistent h) (hsp : r.SlowPathContract slowPath) (hlayout : r.DirectMapLayout slowPath)
    (hk : alignment = 2 ^ k) (halign : alignment < 2 ^ r.buckets.kBitsPerSizeT)
    (hbig : kMaxBucketed < alignment)
    (hA : alignment ∣ r.pages.directMapReservationAlignment r.buckets.kBitsPerSizeT r.usesGigaCage)
    (hP : r.pages.partitionPageSize < alignment) (hs : size < 2 ^ r.buckets.kBitsPerSizeT)
    (hhooks : flags.noHooks = true ∨ hooks.enabled = false) :
    (∀ req o, alignedRequestSize r.buckets.kBitsPerSizeT alignment size = some req →
      r.allocFlagsNoHooks slowPath h {} req = .ok o →
      (∃ p, o.ret = some p ∧ p % alignment = r.pages.partitionPageSize) ∧
      r.alignedAllocFlags slowPath hooks h flags alignment size =
        .error (.checkFailed "!(reinterpret_cast<uintptr_t>(ptr) & (alignment - 1))")) ∧
    ∀ o, r.alignedAllocFlags slowPath hooks h flags alignment size ≠ .ok o := by
  have hpow : isPowerOfTwo alignment = true := hk ▸ isPowerOfTwo_two_pow k
  have hPpos := r.pages.partitionPageSize_pos
  -- every allocation of the rounding is a partition page off the alignment
  have hoff : ∀ req o, alignedRequestSize r.buckets.kBitsPerSizeT alignment size = some req →
      r.allocFlagsNoHooks slowPath h {} req = .ok o →
      ∃ p, o.ret = some p ∧ p % alignment = r.pages.partitionPageSize := by
    intro req o hreq hres
    have hge := alignedRequestSize_ge hk hs hreq
    obtain ⟨reservationStart, hd, hret⟩ := allocFlagsNoHooks_directMap hroot hh hsp hlayout
      (alignedRequestSize_lt halign hreq) (by omega) hres
    obtain ⟨m, hm⟩ := Nat.dvd_trans hA hd
    exact ⟨_, hret, by rw [hm, Nat.mul_add_mod, Nat.mod_eq_of_lt hP]⟩
  refine ⟨fun req o hreq hres => ⟨hoff req o hreq hres, ?_⟩, fun o hres => ?_⟩
  · obtain ⟨p, hp, hpm⟩ := hoff req o hreq hres
    have hge := alignedRequestSize_ge hk hs hreq
    rw [alignedAllocFlags_of_request hroot hpow hreq (by omega) hhooks, hres]
    exact checkAlignment_of_misaligned hk hp (by omega)
  · obtain ⟨req, hreq, ⟨hlt, -, -⟩ | ⟨-, hr⟩⟩ := alignedAllocFlags_eq_ok hres
    · have := alignedRequestSize_ge hk hs hreq
      omega
    obtain ⟨haligned, ⟨hnh, he, -⟩ | hn⟩ := alignedAllocRounded_eq_ok hr
    · rcases hhooks with h1 | h1 <;> simp [h1] at hnh he
    · obtain ⟨p, hp, hpm⟩ := hoff req o hreq hn
      rw [hp, Option.getD_some, hk, Nat.and_pow_two_sub_one_eq_mod, ← hk] at haligned
      omega

end Misaligned

end PartitionRoot

/-- On `alignedRoot64`, whose direct maps are reserved on 2 MiB super pages, a 1 MiB
alignment is above `kMaxBucketed`: the direct map reserved at 2 MiB returns a pointer
16 KiB past it, and the final check fires. -/
theorem alignedAllocFlags_one_mebibyte_misaligned :
    alignedRoot64.alignedAllocFlags (alignedRoot64.directMapSlowPath (2 ^ 21)) noHooks
        (Heap.oneFreeSlot 0 0 0) {} (2 ^ 20) 1 =
      .error (.checkFailed "!(reinterpret_cast<uintptr_t>(ptr) & (alignment - 1))") := by
  have hreq : alignedRequestSize 64 (2 ^ 20) 1 = some (2 ^ 20) := by decide
  have hi : alignedRoot64.buckets.sizeToBucketIndex (alignedRoot64.allocRawSize (2 ^ 20)) =
      some alignedRoot64.buckets.kNumBuckets := by
    rw [alignedRoot64.allocRawSize_of_no_extras ⟨rfl, rfl⟩ (by decide) (by decide)]
    exact alignedRoot64.buckets.getIndex_of_gt (by decide) (by decide)
  -- the thread cache and the freelist miss, and the slow path maps the request
  obtain ⟨a, h₁, hacq⟩ : ∃ a h₁, alignedRoot64.acquireSlot (alignedRoot64.directMapSlowPath (2 ^ 21))
      (Heap.oneFreeSlot 0 0 0) alignedRoot64.buckets.kNumBuckets {} (alignedRoot64.allocRawSize (2 ^ 20)) =
        .ok (some a, h₁) := by
    have hc : getFromCache ((Heap.oneFreeSlot 0 0 0).threadCache.getD fun _ => [])
        alignedRoot64.buckets.kNumBuckets = none := rfl
    have hf : (Heap.oneFreeSlot 0 0 0).freelist alignedRoot64.buckets.kNumBuckets = [] := by decide
    have hm : alignedRoot64.allocRawSize (2 ^ 20) ≤ alignedRoot64.pages.maxDirectMapped := by decide
    simp only [PartitionRoot.acquireSlot, show alignedRoot64.withThreadCache = true from rfl, if_true, hc,
      PartitionRoot.allocFromBucket, hf, PartitionRoot.directMapSlowPath, hm, and_self]
    exact ⟨_, _, rfl⟩
  have hres := alignedRoot64.allocFlagsNoHooks_of_acquireSlot (by decide) hi hacq
  exact ((PartitionRoot.alignedAllocFlags_directMap_misaligned ⟨rfl, rfl⟩
    (alignedRoot64.consistent_oneFreeSlot (i := 0) (by decide) 0 0)
    (alignedRoot64.directMapSlowPath_contract _) (alignedRoot64.directMapSlowPath_layout (by decide))
    (k := 20) rfl (by decide) (by decide) (by decide) (by decide) (by decide) (.inr rfl)).1
    _ _ hreq hres).2

end PartitionAlloc
