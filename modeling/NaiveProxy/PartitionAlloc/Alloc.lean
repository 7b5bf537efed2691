import NaiveProxy.PartitionAlloc.Root

/-!
# `AllocFlagsNoHooks`: the slot an allocation gets and what it stores there

The allocation flow of `partition_root.h` in the three steps its comment names:
the raw size (`allocRawSize`); a slot from the thread cache, the active span's
freelist or the slow path (`acquireSlot`); and the stores of step 3 into the slot
(`slotStores`): the cookies, the fill and the ref-count. An `AllocOutcome` carries
those stores along with the pointer and the heap, so that what a call writes can
be stated.

The thread cache and the slow path live in files `src/` does not have. A thread
cache is a bin of free slot starts per bucket (modelled from the spec); the slow
path is a parameter, held to the contract `SlowPathContract` its callers rely on.
A heap is `Consistent` when every free slot its freelists and bins hold lies in a
span of that bucket. Then:

    allocFlagsNoHooks_slot       a request served from a normal bucket's free slot
                                 gets a slot that holds the raw size; the pointer
                                 and its usable size lie in it, and every store
                                 stays in it
    allocFlagsNoHooks_refCount   with the ref-count on, one is constructed exactly
                                 for a slot whose bucket is not direct-mapped, which
                                 is exactly when `FreeNoHooksImmediate` releases it
-/

namespace PartitionAlloc

/-- The bits of `flags` the allocation path tests: `PartitionAllocReturnNull`,
`PartitionAllocZeroFill` and `PartitionAllocNoHooks`. The literal `0` is `{}`. -/
structure AllocFlags where
  returnNull : Bool := false
  zeroFill : Bool := false
  noHooks : Bool := false
deriving DecidableEq, Repr

/-- How a call ends the process instead of returning. -/
inductive Crash
  /-- A `PA_CHECK` (or on debug builds a `PA_DCHECK`) of this condition fails. -/
  | checkFailed (condition : String)
  /-- `PartitionExcessiveAllocationSize`: a request above `MaxDirectMapped()`. -/
  | excessiveAllocationSize
  /-- `OutOfMemory`: the system has no memory for the request. -/
  | outOfMemory
  /-- Undefined behaviour of the C++ code. -/
  | undefinedBehavior (what : String)
  /-- A read past the end of a lookup table, which `getIndex_spec` rules out. -/
  | outOfBounds
deriving DecidableEq, Repr

/-- The bucket of a slot span: one of the root's buckets, or a direct map's own
bucket with its slot size. -/
inductive SpanBucket
  | bucket (index : Nat)
  | directMap (slotSize : Nat)
deriving DecidableEq, Repr

/-- What `SlotSpan::FromPointer` finds for a slot: the span's bucket, and the raw
size the span stores when `CanStoreRawSize()`. -/
structure SlotSpan where
  bucket : SpanBucket
  rawSize : Option Nat
deriving DecidableEq, Repr

/-- The state an allocation reads and changes: `ThreadCache::Get()` (none until the
thread's cache is created), each bucket's active-span freelist head first, the span
metadata of each slot start, memory, and the starts of the slots provisioned so far,
which the span metadata records and the slow path (not in `src/`) extends. -/
structure Heap where
  threadCache : Option (Nat → List Nat)
  freelist : Nat → List Nat
  slotSpan : Nat → SlotSpan
  memory : Nat → UInt8
  provisioned : List Nat

/-- What `SlowPathAlloc` returns besides the heap: the slot and `is_already_zeroed`. -/
structure SlowPathSlot where
  slotStart : Nat
  isAlreadyZeroed : Bool
deriving DecidableEq, Repr

/-- `PartitionBucket::SlowPathAlloc(root, flags, raw_size, &is_already_zeroed)` of the
bucket at an index (in `partition_bucket.cc`, not in `src/`): a slot or null, with
the heap after it, or a crash. -/
def SlowPath : Type :=
  Heap → (bucketIndex : Nat) → AllocFlags → (rawSize : Nat) → Except Crash (Option SlowPathSlot × Heap)

/-- A store of step 3. -/
inductive Store
  /-- `PartitionCookieWriteValue(p)`. -/
  | cookie (p : Nat)
  /-- `memset(p, value, length)`. -/
  | memset (p : Nat) (value : UInt8) (length : Nat)
  /-- `new (PartitionRefCountPointer(slot_start)) PartitionRefCount()`. -/
  | refCount (slotStart : Nat)
deriving DecidableEq, Repr

def Store.start : Store → Nat
  | cookie p => p
  | memset p _ _ => p
  | refCount slotStart => slotStart

/-- The slot of step 2: its start, `utilized_slot_size` and `is_already_zeroed`. -/
structure Acquired where
  slotStart : Nat
  utilizedSlotSize : Nat
  isAlreadyZeroed : Bool
deriving DecidableEq, Repr

/-- What an allocation returns, the heap after it and the stores it made. -/
structure AllocOutcome where
  ret : Option Nat
  heap : Heap
  stores : List Store

/-- `kUninitializedByte` of `partition_alloc_constants.h` (not in `src/`). -/
def kUninitializedByte : UInt8 := 0xAB

/-- Modelled from the spec: `ThreadCache::GetFromCache(bucket_index, &slot_size)` pops
the bin's head; the bins outside the cache's range are empty. -/
def getFromCache (bins : Nat → List Nat) (bucketIndex : Nat) : Option (Nat × (Nat → List Nat)) :=
  match bins bucketIndex with
  | [] => none
  | slot :: rest => some (slot, Function.update bins bucketIndex rest)

/-- A heap with one free slot, `slot`, on bucket `i`'s freelist, and every byte
`byte`. -/
def Heap.oneFreeSlot (i slot : Nat) (byte : UInt8) : Heap where
  threadCache := none
  freelist := fun j => if j = i then [slot] else []
  slotSpan := fun _ => ⟨.bucket i, none⟩
  memory := fun _ => byte
  provisioned := [slot]

/-- The heap before the first allocation: no thread cache, no slot provisioned, and
every byte `byte`. -/
def Heap.empty (byte : UInt8) : Heap where
  threadCache := none
  freelist := fun _ => []
  slotSpan := fun _ => ⟨.bucket 0, none⟩
  memory := fun _ => byte
  provisioned := []

/-- The heap after the slow path carves a slot at `slotStart` in `span`. -/
def Heap.carve (h : Heap) (slotStart : Nat) (span : SlotSpan) : Heap :=
  { h with slotSpan := Function.update h.slotSpan slotStart span, provisioned := slotStart :: h.provisioned }

namespace PartitionRoot

variable (r : PartitionRoot)

/-! ## Stores and memory -/

def storeLength : Store → Nat
  | .cookie _ => r.kCookieSize
  | .memset _ _ length => length
  | .refCount _ => r.refCountSize

def storeByte : Store → Nat → UInt8
  | .cookie _ => r.kCookieValue
  | .memset _ value _ => fun _ => value
  | .refCount _ => r.refCountValue

/-- Memory after one store. -/
def applyStore (s : Store) (memory : Nat → UInt8) : Nat → UInt8 := fun a =>
  if s.start ≤ a ∧ a < s.start + r.storeLength s then r.storeByte s (a - s.start) else memory a

/-- Memory after the stores, in order. -/
def applyStores (stores : List Store) (memory : Nat → UInt8) : Nat → UInt8 :=
  stores.foldl (fun m s => r.applyStore s m) memory

/-! ## The allocation path -/

/-- The bucket a span's metadata points to. -/
def spanBucketAt : SpanBucket → Bucket
  | .bucket i => r.bucketAt i
  | .directMap slotSize => ⟨slotSize, true⟩

/-- `GetUtilizedSlotSize()`: the raw size the span stores, else its slot size. -/
def getUtilizedSlotSize (span : SlotSpan) : Nat :=
  span.rawSize.getD (r.spanBucketAt span.bucket).slotSize

/-- The bytes of a slot in a span: the slot size of its bucket. -/
def spanSlotSize (span : SlotSpan) : Nat := (r.spanBucketAt span.bucket).slotSize

/-- `AllocFromBucket`, under the lock of `RawAlloc`: the head of the active span's
freelist, else the slow path. -/
def allocFromBucket (slowPath : SlowPath) (h : Heap) (bucketIndex : Nat) (flags : AllocFlags)
    (rawSize : Nat) : Except Crash (Option Acquired × Heap) :=
  match h.freelist bucketIndex with
  | slot :: rest =>
    pure (some ⟨slot, (r.bucketAt bucketIndex).slotSize, false⟩,
      { h with freelist := Function.update h.freelist bucketIndex rest })
  | [] => do
    let (slot, h) ← slowPath h bucketIndex flags rawSize
    pure (slot.map fun s => ⟨s.slotStart, r.getUtilizedSlotSize (h.slotSpan s.slotStart),
      s.isAlreadyZeroed⟩, h)

/-- Step 2: the thread cache (created on first use) if the root has one, else
`RawAlloc`. -/
def acquireSlot (slowPath : SlowPath) (h : Heap) (bucketIndex : Nat) (flags : AllocFlags)
    (rawSize : Nat) : Except Crash (Option Acquired × Heap) :=
  if r.withThreadCache then
    let bins := h.threadCache.getD fun _ => []
    match getFromCache bins bucketIndex with
    | some (slot, bins) =>
      pure (some ⟨slot, (r.bucketAt bucketIndex).slotSize, false⟩, { h with threadCache := some bins })
    | none => r.allocFromBucket slowPath { h with threadCache := some bins } bucketIndex flags rawSize
  else r.allocFromBucket slowPath h bucketIndex flags rawSize

/-- Step 3: on debug builds the two cookies, then the fill (`kUninitializedByte` on
debug builds, zeros for `ZeroFill` unless already zero), then the ref-count of a
slot whose raw size is bucketed. -/
def slotStores (flags : AllocFlags) (rawSize : Nat) (a : Acquired) : List Store :=
  let usableSize := r.adjustSizeForExtrasSubtract a.utilizedSlotSize
  let ret := r.adjustPointerForExtrasAdd a.slotStart
  (if r.dcheckIsOn && r.allowCookies then
    [.cookie (ret - r.kCookieSize), .cookie (ret + usableSize)] else []) ++
  (if !flags.zeroFill then
    (if r.dcheckIsOn then [.memset ret kUninitializedByte usableSize] else [])
  else if !a.isAlreadyZeroed then [.memset ret 0 usableSize] else []) ++
  (if r.enableRefCountForBackupRefPtr && r.allowRefCount && !(decide (kMaxBucketed < rawSize)) then
    [.refCount a.slotStart] else [])

/-- `AllocFlagsNoHooks(flags, requested_size)`. -/
def allocFlagsNoHooks (slowPath : SlowPath) (h : Heap) (flags : AllocFlags) (requestedSize : Nat) :
    Except Crash AllocOutcome := do
  let rawSize := r.allocRawSize requestedSize
  if rawSize < requestedSize then throw (.checkFailed "raw_size >= requested_size")
  let some bucketIndex := r.buckets.sizeToBucketIndex rawSize | throw .outOfBounds
  match ← r.acquireSlot slowPath h bucketIndex flags rawSize with
  | (none, h) => pure ⟨none, h, []⟩
  | (some a, h) =>
    let stores := r.slotStores flags rawSize a
    pure ⟨some (r.adjustPointerForExtrasAdd a.slotStart),
      { h with memory := r.applyStores stores h.memory }, stores⟩

/-- `GetUsableSize(ptr)`: the utilized size of the slot's span, less the extras (the
span looked up by the slot start). -/
def getUsableSize (h : Heap) (ptr : Nat) : Nat :=
  r.adjustSizeForExtrasSubtract (r.getUtilizedSlotSize (h.slotSpan (r.adjustPointerForExtrasSubtract ptr)))

/-- Whether `FreeNoHooksImmediate(ptr)` reads and releases the ref-count at the slot
start: with the ref-count on, for a slot whose bucket is not direct-mapped. -/
def freeReleasesRefCount (h : Heap) (ptr : Nat) : Bool :=
  r.enableRefCountForBackupRefPtr && r.allowRefCount &&
    !(r.spanBucketAt (h.slotSpan (r.adjustPointerForExtrasSubtract ptr)).bucket).isDirectMapped

/-! ## The heap invariant and the slow path's contract -/

/-- Every free slot of a freelist or a thread-cache bin lies in a span of that bucket
that stores no raw size, and the bucket is one of the root's. -/
def Consistent (h : Heap) : Prop :=
  (∀ i s, s ∈ h.freelist i → i < r.buckets.kNumBuckets ∧ h.slotSpan s = ⟨.bucket i, none⟩) ∧
  ∀ bins, h.threadCache = some bins → ∀ i s, s ∈ bins i →
    i < r.buckets.kNumBuckets ∧ h.slotSpan s = ⟨.bucket i, none⟩

/-- Bucket `i` is served without the slow path: from a bin of the thread cache, or the
active span's freelist. -/
def FastPath (h : Heap) (i : Nat) : Prop :=
  (r.withThreadCache = true ∧ ∃ bins, h.threadCache = some bins ∧ bins i ≠ []) ∨ h.freelist i ≠ []

/-- What the callers of `SlowPathAlloc` rely on, modelled from the spec's slow path
and failure semantics: a slot of a root bucket lies in a span of that bucket and its
utilized size holds the raw size within the slot; a slot for the sentinel is a
direct map holding the raw size; it is zero where it says so; it is null only under
`ReturnNull`; and above `MaxDirectMapped()` the direct map is refused. -/
structure SlowPathContract (slowPath : SlowPath) : Prop where
  bucket_slot : ∀ h i flags rawSize s h', slowPath h i flags rawSize = .ok (some s, h') →
    i < r.buckets.kNumBuckets → (h'.slotSpan s.slotStart).bucket = .bucket i ∧
      rawSize ≤ r.getUtilizedSlotSize (h'.slotSpan s.slotStart) ∧
      r.getUtilizedSlotSize (h'.slotSpan s.slotStart) ≤ r.buckets.bucketSize i
  directMap_slot : ∀ h flags rawSize s h',
    slowPath h r.buckets.kNumBuckets flags rawSize = .ok (some s, h') →
    ∃ slotSize, (h'.slotSpan s.slotStart).bucket = .directMap slotSize ∧
      rawSize ≤ r.getUtilizedSlotSize (h'.slotSpan s.slotStart) ∧
      r.getUtilizedSlotSize (h'.slotSpan s.slotStart) ≤ slotSize
  zeroed : ∀ h i flags rawSize s h', slowPath h i flags rawSize = .ok (some s, h') →
    s.isAlreadyZeroed = true → ∀ k, k < r.getUtilizedSlotSize (h'.slotSpan s.slotStart) →
      h'.memory (s.slotStart + k) = 0
  null_returnNull : ∀ h i flags rawSize h', slowPath h i flags rawSize = .ok (none, h') →
    flags.returnNull = true
  tooLarge : ∀ h flags rawSize, r.pages.maxDirectMapped < rawSize →
    slowPath h r.buckets.kNumBuckets flags rawSize =
      if flags.returnNull then .ok (none, h) else .error .excessiveAllocationSize

/-! ## Memory after stores -/

@[simp] theorem applyStores_nil (memory : Nat → UInt8) : r.applyStores [] memory = memory := rfl

@[simp] theorem applyStores_cons (s : Store) (stores : List Store) (memory : Nat → UInt8) :
    r.applyStores (s :: stores) memory = r.applyStores stores (r.applyStore s memory) := rfl

theorem applyStores_of_outside {stores : List Store} {memory : Nat → UInt8} {a : Nat}
    (h : ∀ s ∈ stores, a < s.start ∨ s.start + r.storeLength s ≤ a) :
    r.applyStores stores memory a = memory a := by
  induction stores generalizing memory with
  | nil => rfl
  | cons s rest ih =>
    have hs := h s (List.mem_cons_self _ _)
    rw [applyStores_cons, ih fun t ht => h t (List.mem_cons_of_mem _ ht), applyStore,
      if_neg (by omega)]

theorem slotStores_within {flags : AllocFlags} {rawSize slotSize : Nat} {a : Acquired}
    (hE : r.extrasSize ≤ a.utilizedSlotSize) (hT : a.utilizedSlotSize ≤ slotSize) :
    ∀ s ∈ r.slotStores flags rawSize a,
      a.slotStart ≤ s.start ∧ s.start + r.storeLength s ≤ a.slotStart + slotSize := by
  have hE' : r.extrasSize = r.refCountExtras + r.cookieSize + r.cookieSize := rfl
  intro s hs
  simp only [slotStores, List.mem_append] at hs
  rcases hs with (hs | hs) | hs
  · -- the cookies, on either side of the usable region
    split at hs
    · have hc : r.cookieSize = r.kCookieSize := if_pos ‹_›
      simp only [List.mem_cons, List.mem_singleton, List.not_mem_nil, or_false] at hs
      rcases hs with rfl | rfl <;>
        simp only [Store.start, storeLength, adjustPointerForExtrasAdd, adjustSizeForExtrasSubtract,
          extrasOffset] <;> omega
    · cases hs
  · -- the fill of the usable region
    have hfill : ∀ v, s = .memset (r.adjustPointerForExtrasAdd a.slotStart) v
        (r.adjustSizeForExtrasSubtract a.utilizedSlotSize) →
        a.slotStart ≤ s.start ∧ s.start + r.storeLength s ≤ a.slotStart + slotSize := by
      rintro v rfl
      simp only [Store.start, storeLength, adjustPointerForExtrasAdd, adjustSizeForExtrasSubtract,
        extrasOffset]
      omega
    split at hs <;> (try split at hs) <;>
      simp only [List.mem_singleton, List.not_mem_nil] at hs <;> exact hfill _ hs
  · -- the ref-count at the slot start
    split at hs
    · have hrc : r.refCountExtras = r.refCountSize := if_pos (by simp_all)
      simp only [List.mem_singleton] at hs
      subst hs
      simp only [Store.start, storeLength]
      omega
    · cases hs

/-! ## What each step can do -/

section Steps

variable {r} {slowPath : SlowPath} {h h₁ : Heap} {i rawSize : Nat} {flags : AllocFlags}
  {a : Acquired}

theorem getFromCache_eq_some {bins bins' : Nat → List Nat} {slot : Nat}
    (hc : getFromCache bins i = some (slot, bins')) :
    ∃ rest, bins i = slot :: rest ∧ bins' = Function.update bins i rest := by
  unfold getFromCache at hc
  split at hc
  · cases hc
  · cases hc
    exact ⟨_, ‹_›, rfl⟩

theorem getFromCache_eq_none {bins : Nat → List Nat} (hc : getFromCache bins i = none) :
    bins i = [] := by
  unfold getFromCache at hc
  split at hc
  · assumption
  · cases hc

theorem allocFromBucket_eq_some (hacq : r.allocFromBucket slowPath h i flags rawSize = .ok (some a, h₁)) :
    (∃ rest, h.freelist i = a.slotStart :: rest ∧ a.utilizedSlotSize = (r.bucketAt i).slotSize ∧
      a.isAlreadyZeroed = false ∧ h₁ = { h with freelist := Function.update h.freelist i rest }) ∨
    h.freelist i = [] ∧ ∃ s, slowPath h i flags rawSize = .ok (some s, h₁) ∧
      a = ⟨s.slotStart, r.getUtilizedSlotSize (h₁.slotSpan s.slotStart), s.isAlreadyZeroed⟩ := by
  unfold allocFromBucket at hacq
  split at hacq
  · cases hacq
    exact .inl ⟨_, ‹_›, rfl, rfl, rfl⟩
  · rcases hs : slowPath h i flags rawSize with e | ⟨_ | s, h'⟩ <;> rw [hs] at hacq <;> cases hacq
    exact .inr ⟨‹_›, s, rfl, rfl⟩

theorem allocFromBucket_of_cons {slot : Nat} {rest : List Nat} (hf : h.freelist i = slot :: rest) :
    r.allocFromBucket slowPath h i flags rawSize =
      .ok (some ⟨slot, (r.bucketAt i).slotSize, false⟩,
        { h with freelist := Function.update h.freelist i rest }) := by
  simp only [allocFromBucket, hf]
  rfl

theorem allocFromBucket_of_slowPath {s : SlowPathSlot} (hf : h.freelist i = [])
    (hs : slowPath h i flags rawSize = .ok (some s, h₁)) :
    r.allocFromBucket slowPath h i flags rawSize =
      .ok (some ⟨s.slotStart, r.getUtilizedSlotSize (h₁.slotSpan s.slotStart), s.isAlreadyZeroed⟩, h₁) := by
  simp only [allocFromBucket, hf, hs]
  rfl

theorem acquireSlot_of_cacheMiss (hw : r.withThreadCache = true)
    (hc : getFromCache (h.threadCache.getD fun _ => []) i = none) :
    r.acquireSlot slowPath h i flags rawSize =
      r.allocFromBucket slowPath { h with threadCache := some (h.threadCache.getD fun _ => []) } i flags rawSize := by
  simp only [acquireSlot, hw, if_true, hc]

theorem free_slot_spec (hh : r.Consistent h) {slot : Nat}
    (hs : (∃ rest, h.freelist i = slot :: rest) ∨
      ∃ bins rest, h.threadCache = some bins ∧ bins i = slot :: rest) :
    i < r.buckets.kNumBuckets ∧ h.slotSpan slot = ⟨.bucket i, none⟩ ∧
      (r.bucketAt i).slotSize = r.buckets.bucketSize i := by
  have := (show i < r.buckets.kNumBuckets ∧ h.slotSpan slot = ⟨.bucket i, none⟩ by
    rcases hs with ⟨rest, hf⟩ | ⟨bins, rest, hb, hbi⟩
    · exact hh.1 i slot (hf ▸ List.mem_cons_self _ _)
    · exact hh.2 bins hb i slot (hbi ▸ List.mem_cons_self _ _))
  exact ⟨this.1, this.2, by rw [r.bucketAt_of_lt this.1]⟩

theorem fastPath_iff_freelist
    (hc : r.withThreadCache = false ∨ getFromCache (h.threadCache.getD fun _ => []) i = none) :
    r.FastPath h i ↔ h.freelist i ≠ [] := by
  refine ⟨fun hf => ?_, .inr⟩
  rcases hf with ⟨htc, bins, hb, hne⟩ | hne
  · rcases hc with hc | hc
    · exact absurd htc (by simp [hc])
    · exact absurd (getFromCache_eq_none hc) (by simpa [hb] using hne)
  · exact hne

theorem acquireSlot_eq_none (hacq : r.acquireSlot slowPath h i flags rawSize = .ok (none, h₁)) :
    ¬ r.FastPath h i ∧ ∃ h₀, slowPath h₀ i flags rawSize = .ok (none, h₁) := by
  have fromBucket : ∀ h' : Heap, h'.freelist = h.freelist → (r.FastPath h i ↔ h.freelist i ≠ []) →
      r.allocFromBucket slowPath h' i flags rawSize = .ok (none, h₁) →
      ¬ r.FastPath h i ∧ ∃ h₀, slowPath h₀ i flags rawSize = .ok (none, h₁) := by
    intro h' hfl hfast hacq
    unfold allocFromBucket at hacq
    split at hacq
    · cases hacq
    · rename_i hnil
      rcases hs : slowPath h' i flags rawSize with e | ⟨_ | s, h''⟩ <;> rw [hs] at hacq <;>
        cases hacq
      exact ⟨fun hf => hfast.1 hf (hfl ▸ hnil), h', hs⟩
  unfold acquireSlot at hacq
  split at hacq
  · rcases hc : getFromCache (h.threadCache.getD fun _ => []) i with _ | ⟨slot, bins'⟩ <;>
      simp only [hc] at hacq
    · exact fromBucket { h with threadCache := some (h.threadCache.getD fun _ => []) } rfl
        (r.fastPath_iff_freelist (.inr hc)) hacq
    · cases hacq
  · exact fromBucket _ rfl (r.fastPath_iff_freelist (.inl (Bool.eq_false_iff.2 ‹_›))) hacq

/-- What step 2 can do: on the fast path take a free slot of bucket `i`, of its full
size, leaving memory and span metadata as they were; otherwise return the slow path's
slot. -/
theorem acquireSlot_eq_some (hh : r.Consistent h)
    (hacq : r.acquireSlot slowPath h i flags rawSize = .ok (some a, h₁)) :
    (r.FastPath h i ∧ i < r.buckets.kNumBuckets ∧ h.slotSpan a.slotStart = ⟨.bucket i, none⟩ ∧
      a.utilizedSlotSize = r.buckets.bucketSize i ∧ a.isAlreadyZeroed = false ∧
      h₁.slotSpan = h.slotSpan ∧ h₁.memory = h.memory) ∨
    (¬ r.FastPath h i ∧ ∃ h₀ s, slowPath h₀ i flags rawSize = .ok (some s, h₁) ∧
      a = ⟨s.slotStart, r.getUtilizedSlotSize (h₁.slotSpan s.slotStart), s.isAlreadyZeroed⟩) := by
  -- `AllocFromBucket` on `h` or on `h` with a new thread cache
  have fromBucket : ∀ h' : Heap, h'.freelist = h.freelist → h'.slotSpan = h.slotSpan →
      h'.memory = h.memory → (r.FastPath h i ↔ h.freelist i ≠ []) →
      r.allocFromBucket slowPath h' i flags rawSize = .ok (some a, h₁) →
      (r.FastPath h i ∧ i < r.buckets.kNumBuckets ∧ h.slotSpan a.slotStart = ⟨.bucket i, none⟩ ∧
        a.utilizedSlotSize = r.buckets.bucketSize i ∧ a.isAlreadyZeroed = false ∧
        h₁.slotSpan = h.slotSpan ∧ h₁.memory = h.memory) ∨
      (¬ r.FastPath h i ∧ ∃ h₀ s, slowPath h₀ i flags rawSize = .ok (some s, h₁) ∧
        a = ⟨s.slotStart, r.getUtilizedSlotSize (h₁.slotSpan s.slotStart), s.isAlreadyZeroed⟩) := by
    intro h' hfl hsp hmem hfast hacq
    rcases allocFromBucket_eq_some hacq with ⟨rest, hf, hu, hz, rfl⟩ | ⟨hnil, s, hs, rfl⟩
    · rw [hfl] at hf
      obtain ⟨hi, hspan, hsize⟩ := r.free_slot_spec hh (.inl ⟨rest, hf⟩)
      exact .inl ⟨hfast.2 (by simp [hf]), hi, hspan, hu.trans hsize, hz, hsp, hmem⟩
    · exact .inr ⟨fun hf => hfast.1 hf (hfl ▸ hnil), h', s, hs, rfl⟩
  unfold acquireSlot at hacq
  split at hacq
  · rename_i htc
    rcases hc : getFromCache (h.threadCache.getD fun _ => []) i with _ | ⟨slot, bins'⟩ <;>
      simp only [hc] at hacq
    · exact fromBucket { h with threadCache := some (h.threadCache.getD fun _ => []) } rfl rfl rfl
        (r.fastPath_iff_freelist (.inr hc)) hacq
    · cases hacq
      obtain ⟨rest, hbi, -⟩ := getFromCache_eq_some hc
      obtain ⟨bins, hb, hbi'⟩ : ∃ bins, h.threadCache = some bins ∧ bins i = slot :: rest := by
        cases ht : h.threadCache with
        | none => simp [ht] at hbi
        | some bins => exact ⟨bins, rfl, by simpa [ht] using hbi⟩
      obtain ⟨hi, hspan, hsize⟩ := r.free_slot_spec hh (.inr ⟨bins, rest, hb, hbi'⟩)
      exact .inl ⟨.inl ⟨htc, bins, hb, by simp [hbi']⟩, hi, hspan, hsize, rfl, rfl, rfl⟩
  · exact fromBucket _ rfl rfl rfl (r.fastPath_iff_freelist (.inl (Bool.eq_false_iff.2 ‹_›))) hacq

theorem memset_zero_not_mem_slotStores (hz : flags.zeroFill = false) {p length : Nat} :
    Store.memset p 0 length ∉ r.slotStores flags rawSize a := by
  simp [slotStores, hz, kUninitializedByte]

/-- What `AllocFlagsNoHooks` can return: past the overflow check and the bucket lookup,
the null of step 2, or its slot with the stores of step 3 applied. -/
theorem allocFlagsNoHooks_eq_ok {n : Nat} {o : AllocOutcome}
    (hres : r.allocFlagsNoHooks slowPath h flags n = .ok o) :
    n ≤ r.allocRawSize n ∧ ∃ i, r.buckets.sizeToBucketIndex (r.allocRawSize n) = some i ∧ ∃ h₁,
      (r.acquireSlot slowPath h i flags (r.allocRawSize n) = .ok (none, h₁) ∧ o = ⟨none, h₁, []⟩) ∨
      ∃ a, r.acquireSlot slowPath h i flags (r.allocRawSize n) = .ok (some a, h₁) ∧
        o = ⟨some (a.slotStart + r.extrasOffset),
          { h₁ with memory := r.applyStores (r.slotStores flags (r.allocRawSize n) a) h₁.memory },
          r.slotStores flags (r.allocRawSize n) a⟩ := by
  unfold allocFlagsNoHooks at hres
  by_cases hov : r.allocRawSize n < n
  · simp only [hov, if_true] at hres
    cases hres
  refine ⟨Nat.le_of_not_lt hov, ?_⟩
  simp only [hov, if_false] at hres
  rcases hb : r.buckets.sizeToBucketIndex (r.allocRawSize n) with _ | i <;> simp only [hb] at hres
  · cases hres
  refine ⟨i, rfl, ?_⟩
  rcases ha : r.acquireSlot slowPath h i flags (r.allocRawSize n) with e | ⟨_ | a, h₁⟩ <;>
    simp only [ha] at hres <;> cases hres
  · exact ⟨_, .inl ⟨rfl, rfl⟩⟩
  · exact ⟨_, .inr ⟨a, rfl, rfl⟩⟩

theorem acquireSlot_of_fastPath (hf : r.FastPath h i) :
    ∃ a h₁, r.acquireSlot slowPath h i flags rawSize = .ok (some a, h₁) := by
  unfold acquireSlot
  split
  · rcases hc : getFromCache (h.threadCache.getD fun _ => []) i with _ | ⟨slot, bins'⟩ <;> simp only [hc]
    · obtain ⟨slot, rest, hcons⟩ :=
        List.exists_cons_of_ne_nil ((r.fastPath_iff_freelist (.inr hc)).1 hf)
      exact ⟨_, _, allocFromBucket_of_cons (h := { h with threadCache := some _ }) hcons⟩
    · exact ⟨_, _, rfl⟩
  · obtain ⟨slot, rest, hcons⟩ := List.exists_cons_of_ne_nil
      ((r.fastPath_iff_freelist (.inl (Bool.eq_false_iff.2 ‹_›))).1 hf)
    exact ⟨_, _, allocFromBucket_of_cons hcons⟩

theorem allocFlagsNoHooks_of_acquireSlot {n : Nat} (hov : n ≤ r.allocRawSize n)
    (hi : r.buckets.sizeToBucketIndex (r.allocRawSize n) = some i)
    (hacq : r.acquireSlot slowPath h i flags (r.allocRawSize n) = .ok (some a, h₁)) :
    r.allocFlagsNoHooks slowPath h flags n =
      .ok ⟨some (a.slotStart + r.extrasOffset),
        { h₁ with memory := r.applyStores (r.slotStores flags (r.allocRawSize n) a) h₁.memory },
        r.slotStores flags (r.allocRawSize n) a⟩ := by
  simp only [allocFlagsNoHooks, if_neg (Nat.not_lt.2 hov), hi, hacq]
  rfl

/-- A heap whose free slots are consistent holds none for the sentinel, so a request
above `MaxDirectMapped()` reaches the slow path, which refuses it. -/
theorem acquireSlot_tooLarge (hh : r.Consistent h) (hsp : r.SlowPathContract slowPath)
    (hmax : r.pages.maxDirectMapped < rawSize) :
    ∃ h₀, r.acquireSlot slowPath h r.buckets.kNumBuckets flags rawSize =
      if flags.returnNull then .ok (none, h₀) else .error .excessiveAllocationSize := by
  have fromBucket : ∀ h' : Heap, h'.freelist = h.freelist → ∃ h₀,
      r.allocFromBucket slowPath h' r.buckets.kNumBuckets flags rawSize =
        if flags.returnNull then .ok (none, h₀) else .error .excessiveAllocationSize := by
    intro h' hfl
    have hnil : h'.freelist r.buckets.kNumBuckets = [] := by
      rw [hfl]
      rcases hK : h.freelist r.buckets.kNumBuckets with _ | ⟨s, rest⟩
      · rfl
      · exact absurd (hh.1 _ s (by simp [hK])).1 (Nat.lt_irrefl _)
    refine ⟨h', ?_⟩
    simp only [allocFromBucket, hnil, hsp.tooLarge h' flags rawSize hmax]
    split <;> rfl
  unfold acquireSlot
  split
  · have hc : getFromCache (h.threadCache.getD fun _ => []) r.buckets.kNumBuckets = none := by
      unfold getFromCache
      cases ht : h.threadCache with
      | none => rfl
      | some bins =>
        rcases hK : bins r.buckets.kNumBuckets with _ | ⟨s, rest⟩
        · simp [hK]
        · exact absurd (hh.2 bins ht _ s (by simp [hK])).1 (Nat.lt_irrefl _)
    simp only [hc]
    exact fromBucket _ rfl
  · exact fromBucket h rfl

end Steps

theorem allocFlagsNoHooks_tooLarge {n : Nat} (hh : r.Consistent h) (hsp : r.SlowPathContract slowPath)
    (hov : n ≤ r.allocRawSize n) (hbig : kMaxBucketed < r.allocRawSize n)
    (hmax : r.pages.maxDirectMapped < r.allocRawSize n) :
    ∃ h₀, r.allocFlagsNoHooks slowPath h flags n =
      if flags.returnNull then .ok ⟨none, h₀, []⟩ else .error .excessiveAllocationSize := by
  have hi : r.buckets.sizeToBucketIndex (r.allocRawSize n) = some r.buckets.kNumBuckets :=
    r.buckets.getIndex_of_gt hbig (Nat.mod_lt _ (Nat.two_pow_pos _))
  obtain ⟨h₀, hacq⟩ : ∃ h₀, r.acquireSlot slowPath h r.buckets.kNumBuckets flags (r.allocRawSize n) =
      if flags.returnNull then .ok (none, h₀) else .error .excessiveAllocationSize :=
    r.acquireSlot_tooLarge hh hsp hmax
  refine ⟨h₀, ?_⟩
  simp only [allocFlagsNoHooks, if_neg (Nat.not_lt.2 hov), hi, hacq]
  split <;> rfl

theorem allocFlagsNoHooks_stores {n : Nat} {o : AllocOutcome}
    (hres : r.allocFlagsNoHooks slowPath h flags n = .ok o) :
    o.stores = [] ∨ ∃ rawSize a, o.stores = r.slotStores flags rawSize a := by
  obtain ⟨-, -, -, -, ⟨-, rfl⟩ | ⟨a, -, rfl⟩⟩ := r.allocFlagsNoHooks_eq_ok hres
  · exact .inl rfl
  · exact .inr ⟨_, a, rfl⟩

theorem consistent_oneFreeSlot {i : Nat} (hi : i < r.buckets.kNumBuckets) (slot : Nat) (byte : UInt8) :
    r.Consistent (Heap.oneFreeSlot i slot byte) := by
  refine ⟨fun j s hs => ?_, fun bins hb => by cases hb⟩
  simp only [Heap.oneFreeSlot] at hs ⊢
  split at hs
  · subst j
    exact ⟨hi, rfl⟩
  · cases hs

/-- A slow path that never finds memory: null under `ReturnNull`, else the crash of
`SlowPathAlloc`, `PartitionExcessiveAllocationSize` for a direct map above
`MaxDirectMapped()` and `OutOfMemory` otherwise. -/
def noMemorySlowPath : SlowPath := fun h i flags rawSize =>
  if flags.returnNull then .ok (none, h)
  else if i = r.buckets.kNumBuckets ∧ r.pages.maxDirectMapped < rawSize then
    .error .excessiveAllocationSize
  else .error .outOfMemory

theorem noMemorySlowPath_ne_some {h h' : Heap} {i rawSize : Nat} {flags : AllocFlags}
    {s : SlowPathSlot} : r.noMemorySlowPath h i flags rawSize ≠ .ok (some s, h') := by
  unfold noMemorySlowPath
  split <;> (try split) <;> simp

theorem noMemorySlowPath_contract : r.SlowPathContract r.noMemorySlowPath where
  bucket_slot _ _ _ _ _ _ hs := absurd hs r.noMemorySlowPath_ne_some
  directMap_slot _ _ _ _ _ hs := absurd hs r.noMemorySlowPath_ne_some
  zeroed _ _ _ _ _ _ hs := absurd hs r.noMemorySlowPath_ne_some
  null_returnNull h i flags rawSize h' hs := by
    unfold noMemorySlowPath at hs; split at hs
    · assumption
    · split at hs <;> cases hs
  tooLarge h flags rawSize hmax := by
    unfold noMemorySlowPath
    split
    · simp [*]
    · simp [*]

/-! ## A slow path that carves new slots -/

/-- The first address past every slot provisioned so far, each taking at least its
first byte. -/
def provisionedEnd (h : Heap) : Nat :=
  h.provisioned.foldr (fun s m => max (s + max 1 (r.spanSlotSize (h.slotSpan s))) m) 0

/-- The span of a slot carved for bucket `i`: a span of a root bucket that holds the raw
size, or for the sentinel a direct map of `GetDirectMapSlotSize(raw_size)` that stores
the raw size; none where the bucket does not hold it or the direct map is refused. -/
def carvedSpan (i rawSize : Nat) : Option SlotSpan :=
  if i < r.buckets.kNumBuckets ∧ rawSize ≤ r.buckets.bucketSize i then some ⟨.bucket i, none⟩
  else if i = r.buckets.kNumBuckets ∧ rawSize ≤ r.pages.maxDirectMapped then
    some ⟨.directMap (r.pages.getDirectMapSlotSize r.buckets.kBitsPerSizeT rawSize), some rawSize⟩
  else none

/-- Modelled from the spec's slow path, steps 3 and 4: a slot of a fresh span, or a
direct map, carved past every slot provisioned so far and no lower than `poolStart`,
where the address-space pool starts. It re-adopts no empty span, and finds no other
memory. -/
def carvingSlowPath (poolStart : Nat) : SlowPath := fun h i flags rawSize =>
  match r.carvedSpan i rawSize with
  | some span =>
    let slotStart := max poolStart (r.provisionedEnd h)
    .ok (some ⟨slotStart, false⟩, h.carve slotStart span)
  | none => r.noMemorySlowPath h i flags rawSize

section Carving

variable {r} {h h' : Heap} {i rawSize poolStart : Nat} {flags : AllocFlags} {span : SlotSpan}

theorem le_provisionedEnd {s : Nat} (hs : s ∈ h.provisioned) :
    s + max 1 (r.spanSlotSize (h.slotSpan s)) ≤ r.provisionedEnd h := by
  unfold provisionedEnd
  revert hs
  induction h.provisioned with
  | nil => exact fun hs => nomatch hs
  | cons t l ih =>
    intro hs
    rcases List.mem_cons.1 hs with rfl | hs
    · exact Nat.le_max_left _ _
    · exact Nat.le_trans (ih hs) (Nat.le_max_right _ _)

theorem carvedSpan_eq_some (hspan : r.carvedSpan i rawSize = some span) :
    (i < r.buckets.kNumBuckets ∧ rawSize ≤ r.buckets.bucketSize i ∧ span = ⟨.bucket i, none⟩) ∨
      (i = r.buckets.kNumBuckets ∧ rawSize ≤ r.pages.maxDirectMapped ∧
        span = ⟨.directMap (r.pages.getDirectMapSlotSize r.buckets.kBitsPerSizeT rawSize), some rawSize⟩) := by
  unfold carvedSpan at hspan
  split at hspan
  · exact .inl ⟨‹_ ∧ _›.1, ‹_ ∧ _›.2, (Option.some.inj hspan).symm⟩
  split at hspan
  · exact .inr ⟨‹_ ∧ _›.1, ‹_ ∧ _›.2, (Option.some.inj hspan).symm⟩
  · cases hspan

theorem carvedSpan_utilized (hspan : r.carvedSpan i rawSize = some span) :
    rawSize ≤ r.getUtilizedSlotSize span ∧ r.getUtilizedSlotSize span ≤ r.spanSlotSize span := by
  rcases carvedSpan_eq_some hspan with ⟨hi, hle, rfl⟩ | ⟨-, hle, rfl⟩
  · simp only [getUtilizedSlotSize, spanSlotSize, spanBucketAt, Option.getD_none, r.bucketAt_of_lt hi]
    exact ⟨hle, Nat.le_refl _⟩
  · simp only [getUtilizedSlotSize, spanSlotSize, spanBucketAt, Option.getD_some, r.getDirectMapSlotSize_of_le hle]
    exact ⟨Nat.le_refl _, le_alignUp r.pages.systemPageSize_pos⟩

/-- The carving slow path returns null, under `ReturnNull` and with nothing changed, or a
slot past every slot provisioned, in a carved span. -/
theorem carvingSlowPath_eq_ok {out : Option SlowPathSlot}
    (hs : r.carvingSlowPath poolStart h i flags rawSize = .ok (out, h')) :
    (out = none ∧ h' = h ∧ flags.returnNull = true) ∨
      ∃ span, r.carvedSpan i rawSize = some span ∧ out = some ⟨max poolStart (r.provisionedEnd h), false⟩ ∧
        h' = h.carve (max poolStart (r.provisionedEnd h)) span := by
  unfold carvingSlowPath at hs
  split at hs
  · cases hs
    exact .inr ⟨_, ‹_›, rfl, rfl⟩
  · unfold noMemorySlowPath at hs
    split at hs
    · cases hs
      exact .inl ⟨rfl, rfl, ‹_›⟩
    · split at hs <;> cases hs

theorem carvingSlowPath_of_carvedSpan (hspan : r.carvedSpan i rawSize = some span) :
    r.carvingSlowPath poolStart h i flags rawSize =
      .ok (some ⟨max poolStart (r.provisionedEnd h), false⟩, h.carve (max poolStart (r.provisionedEnd h)) span) := by
  simp only [carvingSlowPath, hspan]

theorem provisionedEnd_le_carved {s : Nat} (hs : s ∈ h.provisioned) :
    s + r.spanSlotSize (h.slotSpan s) ≤ max poolStart (r.provisionedEnd h) ∧ s ≠ max poolStart (r.provisionedEnd h) := by
  have := le_provisionedEnd (r := r) hs
  have := Nat.le_max_left (r.spanSlotSize (h.slotSpan s)) 1
  have := Nat.le_max_right poolStart (r.provisionedEnd h)
  omega

theorem carvingSlowPath_contract (poolStart : Nat) : r.SlowPathContract (r.carvingSlowPath poolStart) where
  bucket_slot h i flags rawSize s h' hs hi := by
    rcases carvingSlowPath_eq_ok hs with ⟨hnone, -⟩ | ⟨span, hspan, ⟨⟩, rfl⟩
    · cases hnone
    rcases carvedSpan_eq_some hspan with ⟨-, -, rfl⟩ | ⟨rfl, -⟩
    · have := carvedSpan_utilized hspan
      simp only [Heap.carve, Function.update_same, spanSlotSize, spanBucketAt, r.bucketAt_of_lt hi] at this ⊢
      exact ⟨trivial, this⟩
    · exact absurd hi (Nat.lt_irrefl _)
  directMap_slot h flags rawSize s h' hs := by
    rcases carvingSlowPath_eq_ok hs with ⟨hnone, -⟩ | ⟨span, hspan, ⟨⟩, rfl⟩
    · cases hnone
    rcases carvedSpan_eq_some hspan with ⟨hi, -⟩ | ⟨-, -, rfl⟩
    · exact absurd hi (Nat.lt_irrefl _)
    · have := carvedSpan_utilized hspan
      simp only [Heap.carve, Function.update_same] at this ⊢
      exact ⟨_, rfl, this⟩
  zeroed h i flags rawSize s h' hs hz := by
    rcases carvingSlowPath_eq_ok hs with ⟨hnone, -⟩ | ⟨span, -, ⟨⟩, rfl⟩
    · cases hnone
    · cases hz
  null_returnNull h i flags rawSize h' hs := by
    rcases carvingSlowPath_eq_ok hs with ⟨-, -, hnull⟩ | ⟨span, -, hsome, -⟩
    · exact hnull
    · cases hsome
  tooLarge h flags rawSize hmax := by
    have hnone : r.carvedSpan r.buckets.kNumBuckets rawSize = none := by
      unfold carvedSpan
      rw [if_neg fun hc => Nat.lt_irrefl _ hc.1, if_neg fun hc => Nat.lt_irrefl _ (Nat.lt_of_lt_of_le hmax hc.2)]
    simp only [carvingSlowPath, hnone]
    exact r.noMemorySlowPath_contract.tooLarge h flags rawSize hmax

end Carving

/-! ## A slot from a normal bucket -/

section Slot

variable {r} {slowPath : SlowPath} {h : Heap} {flags : AllocFlags} {n i : Nat} {o : AllocOutcome}

/-- The request as `AllocFlagsNoHooks` first adjusts it: one byte for a zero request
when the ref-count is compiled in. It is at least the request, and at least one byte
when a ref-count is in the extras. -/
theorem le_adjusted_request (n : Nat) :
    n ≤ (if r.enableRefCountForBackupRefPtr && n == 0 then 1 else n) ∧
      (r.refCountExtras = 0 ∨ 1 ≤ (if r.enableRefCountForBackupRefPtr && n == 0 then 1 else n)) := by
  unfold refCountExtras
  cases r.enableRefCountForBackupRefPtr <;> cases r.allowRefCount <;> by_cases hn : n = 0 <;>
    simp [hn, Nat.one_le_iff_ne_zero]

theorem allocRawSize_of_le_kMaxBucketed
    (hraw : (if r.enableRefCountForBackupRefPtr && n == 0 then 1 else n) + r.extrasSize ≤ kMaxBucketed) :
    r.allocRawSize n = (if r.enableRefCountForBackupRefPtr && n == 0 then 1 else n) + r.extrasSize :=
  r.adjustSizeForExtrasAdd_of_lt (Nat.lt_of_le_of_lt hraw r.buckets.kMaxBucketed_lt_two_pow)

/-- A request whose raw size is bucketed and that the thread cache or the freelist
serves gets a slot of bucket `SizeToBucketIndex(raw_size)`, which holds the raw size.
The pointer lies in the slot, also for a zero request; `GetUsableSize` reports at
least the request; the usable region and the trailing cookie end within the slot;
and every store of the call lies in the slot, no byte outside it changing. -/
theorem allocFlagsNoHooks_slot (hh : r.Consistent h)
    (hraw : (if r.enableRefCountForBackupRefPtr && n == 0 then 1 else n) + r.extrasSize ≤ kMaxBucketed)
    (hi : r.buckets.sizeToBucketIndex (r.allocRawSize n) = some i) (hfast : r.FastPath h i)
    (hres : r.allocFlagsNoHooks slowPath h flags n = .ok o) :
    ∃ slotStart ret, o.ret = some ret ∧ o.heap.slotSpan slotStart = ⟨.bucket i, none⟩ ∧
      r.allocRawSize n ≤ r.buckets.bucketSize i ∧ ret = slotStart + r.extrasOffset ∧
      n ≤ r.getUsableSize o.heap ret ∧ slotStart ≤ ret ∧ ret < slotStart + r.buckets.bucketSize i ∧
      ret + r.getUsableSize o.heap ret + r.cookieSize ≤ slotStart + r.buckets.bucketSize i ∧
      (∀ s ∈ o.stores,
        slotStart ≤ s.start ∧ s.start + r.storeLength s ≤ slotStart + r.buckets.bucketSize i) ∧
      ∀ addr, addr < slotStart ∨ slotStart + r.buckets.bucketSize i ≤ addr →
        o.heap.memory addr = h.memory addr := by
  have hrawEq := allocRawSize_of_le_kMaxBucketed hraw
  obtain ⟨-, i', hi', h₁, ⟨hacq, -⟩ | ⟨a, hacq, rfl⟩⟩ := r.allocFlagsNoHooks_eq_ok hres <;>
    rw [hi, Option.some.injEq] at hi' <;> subst hi'
  · exact absurd hfast (r.acquireSlot_eq_none hacq).1
  obtain ⟨-, hiK, hspan, hsize, -, hss, hmem⟩ | ⟨hnf, -⟩ := r.acquireSlot_eq_some hh hacq
  swap
  · exact absurd hfast hnf
  -- the bucket holds the raw size
  obtain ⟨j, hj, -, -, hle, -⟩ := r.buckets.getIndex_bucketed (n := r.allocRawSize n) (hrawEq ▸ hraw)
  rw [show r.buckets.getIndex _ = _ from hi, Option.some.injEq] at hj
  subst hj
  have hT0 : 0 < r.buckets.bucketSize i :=
    Nat.lt_of_lt_of_le (by rw [r.buckets.bucketSize_zero, r.buckets.kSmallestBucket_eq]; exact Nat.two_pow_pos _)
      (r.buckets.bucketSize_le (Nat.zero_le i))
  have husable : r.getUsableSize { h₁ with memory := r.applyStores (r.slotStores flags (r.allocRawSize n) a) h₁.memory }
      (a.slotStart + r.extrasOffset) = r.buckets.bucketSize i - r.extrasSize := by
    simp only [getUsableSize, adjustPointerForExtrasSubtract, Nat.add_sub_cancel, hss, hspan,
      getUtilizedSlotSize, spanBucketAt, r.bucketAt_of_lt hiK, Option.getD_none, adjustSizeForExtrasSubtract]
  have hstores : ∀ s ∈ r.slotStores flags (r.allocRawSize n) a, a.slotStart ≤ s.start ∧
      s.start + r.storeLength s ≤ a.slotStart + r.buckets.bucketSize i :=
    r.slotStores_within (by rw [hsize]; omega) (Nat.le_of_eq hsize)
  obtain ⟨hn1, hn2⟩ := r.le_adjusted_request n
  have hE : r.extrasSize = r.refCountExtras + r.cookieSize + r.cookieSize := rfl
  have hoff : r.extrasOffset = r.refCountExtras + r.cookieSize := rfl
  refine ⟨a.slotStart, _, rfl, hss ▸ hspan, hle, rfl, ?_, ?_, ?_, ?_, hstores, fun addr haddr => ?_⟩
  · rw [husable]; omega
  · omega
  · omega
  · rw [husable]; omega
  · show r.applyStores _ h₁.memory addr = h.memory addr
    rw [r.applyStores_of_outside fun s hs => ?_, hmem]
    have := hstores s hs
    omega

end Slot

theorem allocRawSize_hundred_twelve :
    root64.allocRawSize 112 = 128 ∧ root64.buckets.sizeToBucketIndex (root64.allocRawSize 112) = some 24 := by
  have hraw : root64.allocRawSize 112 = 128 := by decide
  refine ⟨hraw, ?_⟩
  rw [hraw, show (128 : Nat) = root64.buckets.bucketSize 24 by decide]
  exact root64.buckets.getIndex_bucketSize (by decide) (by decide)

theorem allocFlagsNoHooks_slot_hundred_twelve :
    ∃ o, root64.Consistent (Heap.oneFreeSlot 24 65536 0) ∧
      (if root64.enableRefCountForBackupRefPtr && 112 == 0 then 1 else 112) + root64.extrasSize ≤
        kMaxBucketed ∧
      root64.buckets.sizeToBucketIndex (root64.allocRawSize 112) = some 24 ∧
      root64.FastPath (Heap.oneFreeSlot 24 65536 0) 24 ∧
      root64.allocFlagsNoHooks root64.noMemorySlowPath (Heap.oneFreeSlot 24 65536 0) {} 112 = .ok o ∧
      ∃ slotStart ret, o.ret = some ret ∧ o.heap.slotSpan slotStart = ⟨.bucket 24, none⟩ ∧
        root64.allocRawSize 112 ≤ root64.buckets.bucketSize 24 ∧ ret = slotStart + root64.extrasOffset ∧
        112 ≤ root64.getUsableSize o.heap ret ∧ slotStart ≤ ret ∧
        ret < slotStart + root64.buckets.bucketSize 24 ∧
        ret + root64.getUsableSize o.heap ret + root64.cookieSize ≤
          slotStart + root64.buckets.bucketSize 24 ∧
        (∀ s ∈ o.stores, slotStart ≤ s.start ∧
          s.start + root64.storeLength s ≤ slotStart + root64.buckets.bucketSize 24) ∧
        ∀ addr, addr < slotStart ∨ slotStart + root64.buckets.bucketSize 24 ≤ addr →
          o.heap.memory addr = (Heap.oneFreeSlot 24 65536 0).memory addr := by
  obtain ⟨hraw, hi⟩ := allocRawSize_hundred_twelve
  have hh := root64.consistent_oneFreeSlot (i := 24) (by decide) 65536 0
  have hf : root64.FastPath (Heap.oneFreeSlot 24 65536 0) 24 := .inr (by simp [Heap.oneFreeSlot])
  obtain ⟨a, h₁, hacq⟩ : ∃ a h₁, root64.acquireSlot root64.noMemorySlowPath
      (Heap.oneFreeSlot 24 65536 0) 24 {} (root64.allocRawSize 112) = .ok (some a, h₁) :=
    root64.acquireSlot_of_fastPath hf
  have hres := root64.allocFlagsNoHooks_of_acquireSlot (by rw [hraw]; decide) hi hacq
  exact ⟨_, hh, by decide, hi, hf, hres, allocFlagsNoHooks_slot hh (by decide) hi hf hres⟩

/-! ## The ref-count -/

section RefCount

variable {r} {slowPath : SlowPath} {h : Heap} {flags : AllocFlags} {n : Nat} {o : AllocOutcome}

/-- Step 3 constructs a ref-count only at the slot start, and there exactly when the
ref-count is on and the raw size is bucketed. -/
theorem refCount_mem_slotStores {rawSize p : Nat} {a : Acquired} :
    Store.refCount p ∈ r.slotStores flags rawSize a ↔
      r.enableRefCountForBackupRefPtr = true ∧ r.allowRefCount = true ∧ rawSize ≤ kMaxBucketed ∧
        p = a.slotStart := by
  simp only [slotStores, List.mem_append]
  constructor
  · rintro ((h1 | h1) | h1)
    · split at h1 <;> simp at h1
    · split at h1 <;> (try split at h1) <;> simp at h1
    · split at h1
      · simp_all
      · simp at h1
  · rintro ⟨h1, h2, h3, rfl⟩
    exact .inr (by simpa [h1, h2] using h3)

theorem allocRawSize_index (n : Nat) :
    ∃ i, r.buckets.sizeToBucketIndex (r.allocRawSize n) = some i ∧
      (i < r.buckets.kNumBuckets ↔ r.allocRawSize n ≤ kMaxBucketed) ∧
      (¬ i < r.buckets.kNumBuckets → i = r.buckets.kNumBuckets) := by
  obtain ⟨i, hi, hiff, hleast⟩ := r.buckets.getIndex_spec (r.allocRawSize n) (Nat.mod_lt _ (Nat.two_pow_pos _))
  refine ⟨i, hi, ⟨fun hlt => Nat.le_of_not_lt fun h => by have := hiff.2 h; omega, fun hle => ?_⟩,
    fun hlt => ?_⟩
  · obtain ⟨size, hs, -⟩ := hleast hle
    exact Nat.lt_of_lt_of_eq (List.getElem?_eq_some_iff.1 hs).1 r.buckets.length_bucketSizes
  · refine hiff.2 (Nat.lt_of_not_le fun hle => hlt ?_)
    obtain ⟨size, hs, -⟩ := hleast hle
    exact Nat.lt_of_lt_of_eq (List.getElem?_eq_some_iff.1 hs).1 r.buckets.length_bucketSizes

/-- With the ref-count compiled in and allowed, `AllocFlagsNoHooks` constructs one at
the slot start exactly when `SizeToBucketIndex(raw_size) < kNumBuckets`, exactly when
the slot's bucket is not direct-mapped, and exactly when `FreeNoHooksImmediate` of
the pointer releases the ref-count. -/
theorem allocFlagsNoHooks_refCount
    (hon : r.enableRefCountForBackupRefPtr = true ∧ r.allowRefCount = true)
    (hh : r.Consistent h) (hsp : r.SlowPathContract slowPath)
    (hres : r.allocFlagsNoHooks slowPath h flags n = .ok o) {ret : Nat} (hret : o.ret = some ret) :
    ∃ i slotStart, r.buckets.sizeToBucketIndex (r.allocRawSize n) = some i ∧
      ret = slotStart + r.extrasOffset ∧
      (Store.refCount slotStart ∈ o.stores ↔ i < r.buckets.kNumBuckets) ∧
      ((r.spanBucketAt (o.heap.slotSpan slotStart).bucket).isDirectMapped = false ↔
        i < r.buckets.kNumBuckets) ∧
      (r.freeReleasesRefCount o.heap ret = true ↔ i < r.buckets.kNumBuckets) := by
  obtain ⟨-, i', hi', h₁, ⟨-, rfl⟩ | ⟨a, hacq, rfl⟩⟩ := r.allocFlagsNoHooks_eq_ok hres
  · cases hret
  cases hret
  obtain ⟨i, hi, hbucketed, hsentinel⟩ := r.allocRawSize_index (n := n)
  rw [hi, Option.some.injEq] at hi'
  subst hi'
  -- the bucket of the slot's span is not direct-mapped exactly below `kNumBuckets`
  have hdm : (r.spanBucketAt (h₁.slotSpan a.slotStart).bucket).isDirectMapped = false ↔
      i < r.buckets.kNumBuckets := by
    rcases r.acquireSlot_eq_some hh hacq with ⟨-, hiK, hspan, -, -, hss, -⟩ | ⟨-, h₀, s, hs, rfl⟩
    · simp [hss, hspan, spanBucketAt, r.bucketAt_of_lt hiK, hiK]
    · by_cases hiK : i < r.buckets.kNumBuckets
      · simp [(hsp.bucket_slot _ _ _ _ _ _ hs hiK).1, spanBucketAt, r.bucketAt_of_lt hiK, hiK]
      · rw [hsentinel hiK] at hs
        obtain ⟨slotSize, hb, -⟩ := hsp.directMap_slot _ _ _ _ _ hs
        simp [hb, spanBucketAt, hiK]
  refine ⟨i, a.slotStart, hi, rfl, ?_, hdm, ?_⟩
  · rw [refCount_mem_slotStores, hbucketed]
    simp [hon]
  · simp only [freeReleasesRefCount, hon, adjustPointerForExtrasSubtract, Nat.add_sub_cancel,
      Bool.true_and, Bool.not_eq_true']
    exact hdm

end RefCount

theorem allocFlagsNoHooks_refCount_hundred_twelve :
    ∃ o ret, (root64.enableRefCountForBackupRefPtr = true ∧ root64.allowRefCount = true) ∧
      root64.Consistent (Heap.oneFreeSlot 24 65536 0) ∧
      root64.SlowPathContract root64.noMemorySlowPath ∧
      root64.allocFlagsNoHooks root64.noMemorySlowPath (Heap.oneFreeSlot 24 65536 0) {} 112 = .ok o ∧
      o.ret = some ret ∧
      ∃ i slotStart, root64.buckets.sizeToBucketIndex (root64.allocRawSize 112) = some i ∧
        ret = slotStart + root64.extrasOffset ∧
        (Store.refCount slotStart ∈ o.stores ↔ i < root64.buckets.kNumBuckets) ∧
        ((root64.spanBucketAt (o.heap.slotSpan slotStart).bucket).isDirectMapped = false ↔
          i < root64.buckets.kNumBuckets) ∧
        (root64.freeReleasesRefCount o.heap ret = true ↔ i < root64.buckets.kNumBuckets) := by
  obtain ⟨hraw, hi⟩ := allocRawSize_hundred_twelve
  have hh := root64.consistent_oneFreeSlot (i := 24) (by decide) 65536 0
  obtain ⟨a, h₁, hacq⟩ : ∃ a h₁, root64.acquireSlot root64.noMemorySlowPath
      (Heap.oneFreeSlot 24 65536 0) 24 {} (root64.allocRawSize 112) = .ok (some a, h₁) :=
    root64.acquireSlot_of_fastPath (.inr (by simp [Heap.oneFreeSlot]))
  have hres := root64.allocFlagsNoHooks_of_acquireSlot (by rw [hraw]; decide) hi hacq
  exact ⟨_, _, ⟨rfl, rfl⟩, hh, root64.noMemorySlowPath_contract, hres, rfl,
    allocFlagsNoHooks_refCount ⟨rfl, rfl⟩ hh root64.noMemorySlowPath_contract hres rfl⟩

end PartitionRoot

end PartitionAlloc
