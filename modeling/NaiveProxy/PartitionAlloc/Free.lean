import NaiveProxy.PartitionAlloc.SlotBytes

/-!
# `FreeNoHooks`: the cookie check, the ref-count, and where a slot goes

The deallocation flow of `partition_root.h` in the order its comment gives: check the
cookies around the data, deal with the ref-count, shift the pointer to the slot
start, then hand the slot to the thread cache if it takes it, else to its span under
the lock. Before that, `FreeNoHooks` hands a slot of a normal bucket to PCScan's
quarantine when the root scans. A slot whose ref-count still holds a reference is
zapped with `kQuarantinedByte` and kept; the ref-count gives it back later through
`PartitionAllocFreeForRefCounting`.

The ref-count, the thread cache, `SlotSpanMetadata::Free` and PCScan live in files
`src/` does not have; they are the parameters `FreeCallees`. A free ends in one of the
`FreeFate`s. Then:

    freeNoHooksImmediate_cookies   a pointer from AllocFlagsNoHooks is freed without
                                   a cookie crash exactly when the bytes of both
                                   cookies are as the allocation left them
    freeNoHooksImmediate_stillReferenced_zaps
                                   a free that another reference outlives keeps the
                                   slot off every free list and fills its usable
                                   bytes with kQuarantinedByte
-/

namespace PartitionAlloc

/-- `kFreedByte` of `partition_alloc_constants.h` (not in `src/`). -/
def kFreedByte : UInt8 := 0xCD

/-- `kQuarantinedByte` of `partition_alloc_constants.h` (not in `src/`). -/
def kQuarantinedByte : UInt8 := 0xEF

/-- `PCScanMode`. -/
inductive PCScanMode
  | kNonScannable
  | kDisabled
  | kEnabled
deriving DecidableEq, Repr

namespace PCScanMode

/-- `IsScannable()`. -/
def isScannable (mode : PCScanMode) : Bool := mode != .kNonScannable

/-- `IsScanEnabled()`. -/
def isScanEnabled (mode : PCScanMode) : Bool := mode == .kEnabled

/-- `EnablePCScan()` on a root that is `thread_safe` or not; registering the root is
PCScan's. -/
def enablePCScan (threadSafe : Bool) (mode : PCScanMode) : Except Crash PCScanMode :=
  if !threadSafe then throw (.checkFailed "thread_safe")
  else if !mode.isScannable then throw (.checkFailed "IsScannable()")
  else if mode.isScanEnabled then pure mode
  else pure .kEnabled

end PCScanMode

/-- Where a free leaves the slot. -/
inductive FreeFate
  /-- `ptr` is null. -/
  | nothing
  /-- `PCScan::MoveToQuarantine` took it. -/
  | quarantined
  /-- `ReleaseFromAllocator()` left a reference, and the free stops. -/
  | stillReferenced
  /-- `MaybePutInCache` took it. -/
  | threadCache
  /-- `SlotSpanMetadata::Free` took it under the lock. -/
  | slotSpan
deriving DecidableEq, Repr

/-- What the free path calls in files `src/` does not have. -/
structure FreeCallees where
  /-- `PartitionRefCount::HasOneRef()` of the ref-count at a slot start. -/
  hasOneRef : (Nat → UInt8) → (slotStart : Nat) → Bool
  /-- `PartitionRefCount::ReleaseFromAllocator()`: whether no reference is left, and
  memory with the allocator's reference released. -/
  releaseFromAllocator : (Nat → UInt8) → (slotStart : Nat) → Bool × (Nat → UInt8)
  /-- `ThreadCache::MaybePutInCache(ptr, bucket_index)`: the heap with the slot taken,
  or `none` where it returns false. -/
  maybePutInCache : Heap → (ptr bucketIndex : Nat) → Option Heap
  /-- `SlotSpanMetadata::Free(ptr)`, then the deferred unmap it returns. -/
  slotSpanFree : Heap → (ptr : Nat) → Heap
  /-- `PCScan::MoveToQuarantine(ptr, slot_span)`. -/
  moveToQuarantine : Heap → (ptr : Nat) → Heap

namespace PartitionRoot

variable (r : PartitionRoot) (callees : FreeCallees)

/-! ## Cookies -/

/-- Modelled from the spec: the `kCookieSize` bytes at `p` hold the cookie pattern. -/
def cookieIntact (memory : Nat → UInt8) (p : Nat) : Bool :=
  (List.range r.kCookieSize).all fun i => memory (p + i) == r.kCookieValue i

/-- The `PA_DCHECK` of `PartitionCookieCheckValue` (`partition_cookie.h`, not in `src/`). -/
def cookieMismatch : Crash := .checkFailed "*cookie_ptr == kCookieValue[i]"

/-- `PartitionCookieCheckValue(p)`. -/
def partitionCookieCheckValue (memory : Nat → UInt8) (p : Nat) : Except Crash Unit :=
  if r.cookieIntact memory p then pure () else throw cookieMismatch

/-- The `DCHECK_IS_ON()` block of `FreeNoHooksImmediate`: with cookies allowed, the
cookie before `ptr` and the one after the usable size. -/
def checkCookies (memory : Nat → UInt8) (ptr usableSize : Nat) : Except Crash Unit :=
  if r.dcheckIsOn && r.allowCookies then do
    r.partitionCookieCheckValue memory (ptr - r.kCookieSize)
    r.partitionCookieCheckValue memory (ptr + usableSize)
  else pure ()

/-! ## The free path -/

/-- The `ENABLE_REF_COUNT_FOR_BACKUP_REF_PTR` block: in a root with the ref-count, for a
slot of a normal bucket, zap the usable size with `kQuarantinedByte` unless this is the
last reference, then release the allocator's reference. Whether the free goes on, and
memory after. -/
def releaseRefCount (memory : Nat → UInt8) (ptr slotStart usableSize : Nat) (directMapped : Bool) :
    Bool × (Nat → UInt8) :=
  if r.enableRefCountForBackupRefPtr && r.allowRefCount && !directMapped then
    callees.releaseFromAllocator
      (if callees.hasOneRef memory slotStart then memory
        else r.applyStore (.memset ptr kQuarantinedByte usableSize) memory)
      slotStart
  else (true, memory)

/-- The stores once the pointer is at the slot start: on a debug build `kFreedByte`
over the utilized slot; else with `ZERO_RANDOMLY_ON_FREE`, when `RandomPeriod()`
fires, zeros over the utilized slot of a normal bucket. -/
def freedSlotStores (zeroRandomly : Bool) (slotStart utilizedSlotSize : Nat) (directMapped : Bool) :
    List Store :=
  if r.dcheckIsOn then [.memset slotStart kFreedByte utilizedSlotSize]
  else if zeroRandomly && !directMapped then [.memset slotStart 0 utilizedSlotSize]
  else []

/-- `RawFreeWithThreadCache(ptr, slot_span)`: a slot of a normal bucket goes to the
thread's cache if the root has one, the cache exists and takes the slot; otherwise
`RawFree`. -/
def rawFreeWithThreadCache (h : Heap) (ptr : Nat) (span : SlotSpan) : FreeFate × Heap :=
  let cached : Option Heap :=
    if r.withThreadCache && !(r.spanBucketAt span.bucket).isDirectMapped then
      match span.bucket, h.threadCache with
      | .bucket bucketIndex, some _ => callees.maybePutInCache h ptr bucketIndex
      | _, _ => none
    else none
  match cached with
  | some h => (.threadCache, h)
  | none => (.slotSpan, callees.slotSpanFree h ptr)

/-- `FreeNoHooksImmediate(ptr, slot_span)` past the cookie check, the span looked up by
the slot start. -/
def freeAfterCookies (zeroRandomly : Bool) (h : Heap) (ptr : Nat) : FreeFate × Heap :=
  let slotStart := r.adjustPointerForExtrasSubtract ptr
  let span := h.slotSpan slotStart
  let utilizedSlotSize := r.getUtilizedSlotSize span
  let directMapped := (r.spanBucketAt span.bucket).isDirectMapped
  let released := r.releaseRefCount callees h.memory ptr slotStart
    (r.adjustSizeForExtrasSubtract utilizedSlotSize) directMapped
  if released.1 then
    let memory := r.applyStores (r.freedSlotStores zeroRandomly slotStart utilizedSlotSize directMapped) released.2
    r.rawFreeWithThreadCache callees { h with memory } slotStart span
  else (.stillReferenced, { h with memory := released.2 })

/-- `FreeNoHooksImmediate(ptr, slot_span)`: the cookie check with the usable size, then
the rest. -/
def freeNoHooksImmediate (zeroRandomly : Bool) (h : Heap) (ptr : Nat) : Except Crash (FreeFate × Heap) := do
  r.checkCookies h.memory ptr (r.getUsableSize h ptr)
  pure (r.freeAfterCookies callees zeroRandomly h ptr)

/-- `FreeNoHooks(ptr)`: nothing for null; a slot of a normal bucket of a scanning root
goes to the quarantine; else `FreeNoHooksImmediate`. -/
def freeNoHooks (pcscanMode : PCScanMode) (zeroRandomly : Bool) (h : Heap) (ptr : Nat) :
    Except Crash (FreeFate × Heap) :=
  if ptr = 0 then pure (.nothing, h)
  else if pcscanMode.isScanEnabled &&
      !(r.spanBucketAt (h.slotSpan (r.adjustPointerForExtrasSubtract ptr)).bucket).isDirectMapped then
    pure (.quarantined, callees.moveToQuarantine h ptr)
  else r.freeNoHooksImmediate callees zeroRandomly h ptr

/-- `PartitionAllocFreeForRefCounting(slot_start)`, called when the last reference to a
slot the allocator released goes: on a debug build the root must allow the ref-count
and the slot is set to `kFreedByte`; then `RawFreeWithThreadCache`. The root is the
slot's own (`FromSlotSpan`), and a root without a thread-safe lock has no thread
cache, so both branches on `is_thread_safe` are the one call. -/
def partitionAllocFreeForRefCounting (h : Heap) (slotStart : Nat) : Except Crash (FreeFate × Heap) :=
  if r.dcheckIsOn && !r.allowRefCount then throw (.checkFailed "root->allow_ref_count")
  else
    let span := h.slotSpan slotStart
    let stores := if r.dcheckIsOn then [Store.memset slotStart kFreedByte (r.getUtilizedSlotSize span)] else []
    pure (r.rawFreeWithThreadCache callees { h with memory := r.applyStores stores h.memory } slotStart span)

/-! ## Lemmas -/

variable {r callees}

theorem cookieIntact_iff {memory : Nat → UInt8} {p : Nat} :
    r.cookieIntact memory p = true ↔ ∀ i < r.kCookieSize, memory (p + i) = r.kCookieValue i := by
  simp [cookieIntact]

theorem checkCookies_eq_ok_iff {memory : Nat → UInt8} {ptr usableSize : Nat} :
    r.checkCookies memory ptr usableSize = .ok () ↔
      ((r.dcheckIsOn && r.allowCookies) = true →
        r.cookieIntact memory (ptr - r.kCookieSize) = true ∧ r.cookieIntact memory (ptr + usableSize) = true) := by
  unfold checkCookies partitionCookieCheckValue
  by_cases hon : (r.dcheckIsOn && r.allowCookies) = true
  · rw [if_pos hon]
    by_cases h1 : r.cookieIntact memory (ptr - r.kCookieSize) = true <;>
      by_cases h2 : r.cookieIntact memory (ptr + usableSize) = true <;>
      simp [h1, h2, hon, throw, throwThe, MonadExceptOf.throw, bind, Except.bind, pure, Except.pure]
  · rw [if_neg hon]
    exact ⟨fun _ hon' => absurd hon' hon, fun _ => rfl⟩

theorem freeNoHooksImmediate_eq_ok_iff {zeroRandomly : Bool} {h : Heap} {ptr : Nat} {out : FreeFate × Heap} :
    r.freeNoHooksImmediate callees zeroRandomly h ptr = .ok out ↔
      r.checkCookies h.memory ptr (r.getUsableSize h ptr) = .ok () ∧
        out = r.freeAfterCookies callees zeroRandomly h ptr := by
  unfold freeNoHooksImmediate
  rcases r.checkCookies h.memory ptr (r.getUsableSize h ptr) with e | ⟨⟩
  · exact ⟨nofun, fun ⟨h, _⟩ => nomatch h⟩
  · exact ⟨fun hok => ⟨rfl, (Except.ok.inj hok).symm⟩, fun ⟨_, hout⟩ => hout ▸ rfl⟩

/-! ## Cookies on free -/

/-- On a debug build with cookies, a pointer from `AllocFlagsNoHooks` is freed without
a crash exactly when the program left the bytes of both cookies as the allocation
wrote them, whatever it wrote elsewhere; without cookies it is always freed. -/
theorem freeNoHooksImmediate_cookies {slowPath : SlowPath} {h h₁ : Heap} {flags : AllocFlags}
    {n p : Nat} {stores : List Store} (hh : r.Consistent h)
    (hres : r.allocFlagsNoHooks slowPath h flags n = .ok ⟨some p, h₁, stores⟩)
    (memory : Nat → UInt8) (zeroRandomly : Bool) :
    (∃ out, r.freeNoHooksImmediate callees zeroRandomly { h₁ with memory } p = .ok out) ↔
      ((r.dcheckIsOn && r.allowCookies) = true → ∀ i < r.kCookieSize,
        memory (p - r.kCookieSize + i) = h₁.memory (p - r.kCookieSize + i) ∧
          memory (p + r.getUsableSize h₁ p + i) = h₁.memory (p + r.getUsableSize h₁ p + i)) := by
  obtain ⟨-, j, -, h₀, ⟨-, hc⟩ | ⟨a, hacq, hc⟩⟩ := r.allocFlagsNoHooks_eq_ok hres
  · cases hc
  cases hc
  have husable : ∀ memory, r.getUsableSize { h₀ with memory } (a.slotStart + r.extrasOffset) =
      r.adjustSizeForExtrasSubtract a.utilizedSlotSize := fun _ => by
    rw [getUsableSize, adjustPointerForExtrasSubtract, Nat.add_sub_cancel, ← r.acquireSlot_utilized hh hacq]
  simp only [freeNoHooksImmediate_eq_ok_iff, exists_and_left, exists_eq, and_true, checkCookies_eq_ok_iff,
    cookieIntact_iff]
  rw [husable, husable]
  refine imp_congr_right fun hon => ?_
  have hw := fun i hi => r.slotStores_cookies hon flags (r.allocRawSize n) a h₀.memory (i := i) hi
  simp only [adjustPointerForExtrasAdd] at hw
  exact ⟨fun ⟨h1, h2⟩ i hi => ⟨(h1 i hi).trans (hw i hi).1.symm, (h2 i hi).trans (hw i hi).2.symm⟩,
    fun hm => ⟨fun i hi => (hm i hi).1.trans (hw i hi).1, fun i hi => (hm i hi).2.trans (hw i hi).2⟩⟩

/-! ## Frees that leave a reference -/

theorem rawFreeWithThreadCache_fate (h : Heap) (ptr : Nat) (span : SlotSpan) :
    (r.rawFreeWithThreadCache callees h ptr span).1 = .threadCache ∨
      (r.rawFreeWithThreadCache callees h ptr span).1 = .slotSpan := by
  dsimp only [rawFreeWithThreadCache]
  split <;> simp

theorem rawFreeWithThreadCache_eq (h : Heap) (ptr : Nat) (span : SlotSpan) :
    (∃ i h', callees.maybePutInCache h ptr i = some h' ∧
      r.rawFreeWithThreadCache callees h ptr span = (.threadCache, h')) ∨
    r.rawFreeWithThreadCache callees h ptr span = (.slotSpan, callees.slotSpanFree h ptr) := by
  simp only [rawFreeWithThreadCache]
  split
  · rename_i h' hcached
    split at hcached
    · split at hcached
      · exact .inl ⟨_, h', hcached, rfl⟩
      · cases hcached
    · cases hcached
  · exact .inr rfl

/-- A free that stops short of the free lists is one where the allocator's reference
was not the last: only the memory changes, to what the ref-count block leaves. -/
theorem freeAfterCookies_stillReferenced {zeroRandomly : Bool} {h h' : Heap} {ptr : Nat}
    (hout : r.freeAfterCookies callees zeroRandomly h ptr = (.stillReferenced, h')) :
    (r.releaseRefCount callees h.memory ptr (r.adjustPointerForExtrasSubtract ptr) (r.getUsableSize h ptr)
        (r.spanBucketAt (h.slotSpan (r.adjustPointerForExtrasSubtract ptr)).bucket).isDirectMapped).1 = false ∧
      h' = { h with memory := (r.releaseRefCount callees h.memory ptr (r.adjustPointerForExtrasSubtract ptr)
        (r.getUsableSize h ptr) (r.spanBucketAt (h.slotSpan (r.adjustPointerForExtrasSubtract ptr)).bucket).isDirectMapped).2 } := by
  dsimp only [freeAfterCookies] at hout
  split at hout
  · rcases rawFreeWithThreadCache_fate _ _ _ with hfate | hfate <;> rw [hout] at hfate <;> cases hfate
  · rename_i hkept
    cases hout
    exact ⟨Bool.eq_false_iff.2 hkept, rfl⟩

/-- Past the cookie check, a free that another reference outlives leaves
`kQuarantinedByte` in every byte of the usable size and changes only memory, given that
`HasOneRef()` means the release leaves no reference and that the release writes nothing
past the ref-count's bytes. -/
theorem freeAfterCookies_zaps
    (hone : ∀ memory slotStart, callees.hasOneRef memory slotStart = true →
      (callees.releaseFromAllocator memory slotStart).1 = true)
    (hrelease : ∀ memory slotStart a, slotStart + r.refCountSize ≤ a →
      (callees.releaseFromAllocator memory slotStart).2 a = memory a)
    {zeroRandomly : Bool} {h h' : Heap} {ptr : Nat} (hptr : r.extrasOffset ≤ ptr)
    (hout : r.freeAfterCookies callees zeroRandomly h ptr = (.stillReferenced, h')) :
    (∀ i < r.getUsableSize h ptr, h'.memory (ptr + i) = kQuarantinedByte) ∧
      h'.threadCache = h.threadCache ∧ h'.freelist = h.freelist ∧ h'.slotSpan = h.slotSpan := by
  obtain ⟨hkept, rfl⟩ := freeAfterCookies_stillReferenced hout
  refine ⟨fun i hi => ?_, rfl, rfl, rfl⟩
  unfold releaseRefCount at hkept ⊢
  split at hkept
  · rename_i hon
    have hzap : callees.hasOneRef h.memory (r.adjustPointerForExtrasSubtract ptr) = false := by
      by_contra hone'
      rw [Bool.not_eq_false] at hone'
      rw [if_pos hone', hone _ _ hone'] at hkept
      cases hkept
    -- the ref-count's bytes end where the cookie, then the data, begin
    have hrc : r.refCountExtras = r.refCountSize := if_pos (by simp_all)
    have hoff : r.extrasOffset = r.refCountExtras + r.cookieSize := rfl
    rw [if_pos hon, if_neg (by simp [hzap])]
    dsimp only
    rw [hrelease _ _ _ (by simp only [adjustPointerForExtrasSubtract]; omega)]
    simp only [applyStore, Store.start, storeLength, storeByte]
    rw [if_pos (by omega)]
  · cases hkept

/-- With the ref-count on, a free that another reference outlives keeps the slot out of
the thread cache, the free lists and the spans, and leaves `kQuarantinedByte` in every
byte of its usable size, so that a dangling pointer reads no old data. This needs of
the ref-count (`partition_ref_count.h`, not in `src/`) that `HasOneRef()` means the
release leaves no reference, and that the release writes nothing past the ref-count's
bytes. -/
theorem freeNoHooksImmediate_stillReferenced_zaps
    (hone : ∀ memory slotStart, callees.hasOneRef memory slotStart = true →
      (callees.releaseFromAllocator memory slotStart).1 = true)
    (hrelease : ∀ memory slotStart a, slotStart + r.refCountSize ≤ a →
      (callees.releaseFromAllocator memory slotStart).2 a = memory a)
    {zeroRandomly : Bool} {h h' : Heap} {ptr : Nat} (hptr : r.extrasOffset ≤ ptr)
    (hfree : r.freeNoHooksImmediate callees zeroRandomly h ptr = .ok (.stillReferenced, h')) :
    (∀ i < r.getUsableSize h ptr, h'.memory (ptr + i) = kQuarantinedByte) ∧
      h'.threadCache = h.threadCache ∧ h'.freelist = h.freelist ∧ h'.slotSpan = h.slotSpan := by
  obtain ⟨-, hout⟩ := freeNoHooksImmediate_eq_ok_iff.1 hfree
  exact freeAfterCookies_zaps hone hrelease hptr hout.symm

/-! ## Instances -/

variable (r)

/-- Callees with no state of their own: the ref-count holds only the allocator's
reference, the thread cache and the span put a freed slot of a root bucket at the
front of its bin or freelist, and PCScan keeps the slot aside. -/
def pushCallees : FreeCallees where
  hasOneRef _ _ := true
  releaseFromAllocator memory _ := (true, memory)
  maybePutInCache h ptr i :=
    if i < r.buckets.kNumBuckets ∧ h.slotSpan ptr = ⟨.bucket i, none⟩ then
      some { h with threadCache := h.threadCache.map fun bins => Function.update bins i (ptr :: bins i) }
    else none
  slotSpanFree h ptr :=
    match h.slotSpan ptr with
    | ⟨.bucket i, none⟩ =>
      if i < r.buckets.kNumBuckets then { h with freelist := Function.update h.freelist i (ptr :: h.freelist i) }
      else h
    | _ => h
  moveToQuarantine h _ := h

end PartitionRoot

/-- A 64-bit debug root with cookies, without the ref-count or a thread cache. -/
def debugRoot64 : PartitionRoot :=
  { root64 with
    enableRefCountForBackupRefPtr := false
    dcheckIsOn := true
    allowRefCount := false
    allowCookies := true
    withThreadCache := false }

theorem freeNoHooksImmediate_cookies_ninety_six :
    ∃ h₁ p stores, debugRoot64.Consistent (Heap.oneFreeSlot 24 65536 0) ∧
      debugRoot64.allocFlagsNoHooks debugRoot64.noMemorySlowPath (Heap.oneFreeSlot 24 65536 0) {} 96 =
        .ok ⟨some p, h₁, stores⟩ ∧
      ((∃ out, debugRoot64.freeNoHooksImmediate debugRoot64.pushCallees false { h₁ with memory := h₁.memory } p =
          .ok out) ↔
        ((debugRoot64.dcheckIsOn && debugRoot64.allowCookies) = true → ∀ i < debugRoot64.kCookieSize,
          h₁.memory (p - debugRoot64.kCookieSize + i) = h₁.memory (p - debugRoot64.kCookieSize + i) ∧
            h₁.memory (p + debugRoot64.getUsableSize h₁ p + i) = h₁.memory (p + debugRoot64.getUsableSize h₁ p + i))) := by
  have hraw : debugRoot64.allocRawSize 96 = debugRoot64.buckets.bucketSize 24 := by decide
  have hi : debugRoot64.buckets.sizeToBucketIndex (debugRoot64.allocRawSize 96) = some 24 := by
    rw [hraw]
    exact debugRoot64.buckets.getIndex_bucketSize (by decide) (by decide)
  have hh := debugRoot64.consistent_oneFreeSlot (i := 24) (by decide) 65536 0
  obtain ⟨a, h₁, hacq⟩ : ∃ a h₁, debugRoot64.acquireSlot debugRoot64.noMemorySlowPath
      (Heap.oneFreeSlot 24 65536 0) 24 {} (debugRoot64.allocRawSize 96) = .ok (some a, h₁) :=
    debugRoot64.acquireSlot_of_fastPath (.inr (by simp [Heap.oneFreeSlot]))
  have hres := debugRoot64.allocFlagsNoHooks_of_acquireSlot (by rw [hraw]; decide) hi hacq
  exact ⟨_, _, _, hh, hres, PartitionRoot.freeNoHooksImmediate_cookies hh hres _ _⟩

/-- The ref-count of a slot that another `raw_ptr` still points to. -/
def sharedRefCallees : FreeCallees :=
  { root64.pushCallees with
    hasOneRef := fun _ _ => false
    releaseFromAllocator := fun memory _ => (false, memory) }

/-- Free the slot of a root with the ref-count while a second reference holds it. -/
theorem freeNoHooksImmediate_stillReferenced_zaps_shared :
    ∃ h', root64.freeNoHooksImmediate sharedRefCallees false (Heap.oneFreeSlot 24 65536 0)
        (65536 + root64.extrasOffset) = .ok (.stillReferenced, h') ∧
      (∀ i < root64.getUsableSize (Heap.oneFreeSlot 24 65536 0) (65536 + root64.extrasOffset),
        h'.memory (65536 + root64.extrasOffset + i) = kQuarantinedByte) ∧
      h'.threadCache = (Heap.oneFreeSlot 24 65536 0).threadCache ∧
      h'.freelist = (Heap.oneFreeSlot 24 65536 0).freelist ∧ h'.slotSpan = (Heap.oneFreeSlot 24 65536 0).slotSpan := by
  obtain ⟨h', hfree⟩ : ∃ h', root64.freeNoHooksImmediate sharedRefCallees false (Heap.oneFreeSlot 24 65536 0)
      (65536 + root64.extrasOffset) = .ok (.stillReferenced, h') := ⟨_, rfl⟩
  exact ⟨h', hfree, PartitionRoot.freeNoHooksImmediate_stillReferenced_zaps (by intro _ _ hone; cases hone)
    (fun _ _ _ _ => rfl) (Nat.le_add_left _ _) hfree⟩

end PartitionAlloc
