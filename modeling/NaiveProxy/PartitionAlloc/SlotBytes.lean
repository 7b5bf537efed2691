import NaiveProxy.PartitionAlloc.Alloc

/-!
# What an allocation leaves in its slot, and how much of it is usable

Step 3 of `AllocFlagsNoHooks` writes the slot around the pointer it returns: on a debug
build the cookie pattern before the data and after the usable size, then the fill of
the usable size (`kUninitializedByte` on a debug build; zeros under `ZeroFill` unless
the slow path reports the slot already zeroed), then the ref-count at the slot start.
The stores are applied in order, so a byte holds what the last store covering it
wrote. Then:

    allocFlagsNoHooks_fill        under `ZeroFill` every byte of the usable size of
                                  the returned slot is zero, and on a debug build
                                  without it `kUninitializedByte`, wherever the slot
                                  came from
    allocFlagsNoHooks_usableSize  a bucketed request of `n` bytes can use between `n`
                                  and `ActualSize(n)` bytes, exactly `ActualSize(n)`
                                  from the thread cache or the freelist
-/

namespace PartitionAlloc

namespace PartitionRoot

variable {r : PartitionRoot}

/-! ## Stores -/

@[simp] theorem applyStores_append (stores stores' : List Store) (memory : Nat → UInt8) :
    r.applyStores (stores ++ stores') memory = r.applyStores stores' (r.applyStores stores memory) :=
  List.foldl_append _ _ _ _

theorem applyStores_of_last {before after : List Store} {s : Store} {memory : Nat → UInt8} {x : Nat}
    (hx : s.start ≤ x ∧ x < s.start + r.storeLength s)
    (hafter : ∀ t ∈ after, x < t.start ∨ t.start + r.storeLength t ≤ x) :
    r.applyStores (before ++ s :: after) memory x = r.storeByte s (x - s.start) := by
  rw [applyStores_append, applyStores_cons, r.applyStores_of_outside hafter, applyStore, if_pos hx]

/-- With cookies on, the allocation's stores leave the cookie pattern before the
pointer and after the usable size. -/
theorem slotStores_cookies (hon : (r.dcheckIsOn && r.allowCookies) = true) (flags : AllocFlags)
    (rawSize : Nat) (a : Acquired) (memory : Nat → UInt8) {i : Nat} (hi : i < r.kCookieSize) :
    r.applyStores (r.slotStores flags rawSize a) memory
        (r.adjustPointerForExtrasAdd a.slotStart - r.kCookieSize + i) = r.kCookieValue i ∧
      r.applyStores (r.slotStores flags rawSize a) memory
        (r.adjustPointerForExtrasAdd a.slotStart + r.adjustSizeForExtrasSubtract a.utilizedSlotSize + i) =
        r.kCookieValue i := by
  have hc : r.cookieSize = r.kCookieSize := if_pos hon
  have hoff : r.extrasOffset = r.refCountExtras + r.cookieSize := rfl
  -- past the two cookies come the fill, over the usable size, and the ref-count,
  -- before the first cookie
  obtain ⟨rest, hstores, hrest⟩ : ∃ rest, r.slotStores flags rawSize a =
      [] ++ Store.cookie (r.adjustPointerForExtrasAdd a.slotStart - r.kCookieSize) ::
        Store.cookie (r.adjustPointerForExtrasAdd a.slotStart + r.adjustSizeForExtrasSubtract a.utilizedSlotSize) ::
          rest ∧ ∀ t ∈ rest,
        t.start + r.storeLength t ≤ r.adjustPointerForExtrasAdd a.slotStart - r.kCookieSize ∨
          (t.start = r.adjustPointerForExtrasAdd a.slotStart ∧
            r.storeLength t = r.adjustSizeForExtrasSubtract a.utilizedSlotSize) := by
    refine ⟨_, by rw [slotStores, if_pos hon]; rfl, fun t ht => ?_⟩
    simp only [List.append_eq, List.nil_append, List.mem_append] at ht
    rcases ht with ht | ht
    · right
      split at ht <;> (try split at ht) <;> simp only [List.mem_singleton, List.not_mem_nil] at ht <;>
        subst ht <;> exact ⟨rfl, rfl⟩
    · left
      split at ht
      · have hrc : r.refCountExtras = r.refCountSize := if_pos (by simp_all)
        simp only [List.mem_singleton] at ht
        subst ht
        simp only [Store.start, storeLength, adjustPointerForExtrasAdd]
        omega
      · cases ht
  have hstores' : r.slotStores flags rawSize a =
      [Store.cookie (r.adjustPointerForExtrasAdd a.slotStart - r.kCookieSize)] ++
        Store.cookie (r.adjustPointerForExtrasAdd a.slotStart + r.adjustSizeForExtrasSubtract a.utilizedSlotSize) ::
          rest := hstores
  have hle : r.kCookieSize ≤ r.adjustPointerForExtrasAdd a.slotStart := by
    simp only [adjustPointerForExtrasAdd]
    omega
  constructor
  · rw [hstores, r.applyStores_of_last (by simp only [Store.start, storeLength]; omega) fun t ht => ?_]
    · simp only [storeByte, Store.start]
      congr 1
      omega
    · rcases List.mem_cons.1 ht with rfl | ht
      · simp only [Store.start]
        omega
      · rcases hrest t ht with ht' | ⟨ht', -⟩ <;> omega
  · rw [hstores', r.applyStores_of_last (by simp only [Store.start, storeLength]; omega) fun t ht => ?_]
    · simp only [storeByte, Store.start]
      congr 1
      omega
    · rcases hrest t ht with ht' | ⟨ht', hlen⟩ <;> omega

/-- What step 2 reports as the utilized size is the one `FreeNoHooksImmediate` reads
back from the span of the slot. -/
theorem acquireSlot_utilized {slowPath : SlowPath} {h h₁ : Heap} {i rawSize : Nat} {flags : AllocFlags}
    {a : Acquired} (hh : r.Consistent h) (hacq : r.acquireSlot slowPath h i flags rawSize = .ok (some a, h₁)) :
    a.utilizedSlotSize = r.getUtilizedSlotSize (h₁.slotSpan a.slotStart) := by
  rcases r.acquireSlot_eq_some hh hacq with ⟨-, hiK, hspan, hsize, -, hss, -⟩ | ⟨-, h₀, s, -, rfl⟩
  · rw [hss, hspan, hsize, getUtilizedSlotSize, spanBucketAt, r.bucketAt_of_lt hiK]
    rfl
  · rfl

/-! ## The fill -/

/-- Under `ZeroFill`, or on a debug build, an allocation hands out no stale data: every
byte of the usable size reads 0 under `ZeroFill` and `kUninitializedByte` otherwise.
The fill is the last store over those bytes, since the cookies lie on either side of
the usable size and the ref-count before it; a slot from the slow path that is
already zero skips the zero fill and keeps its zeros. -/
theorem allocFlagsNoHooks_fill {slowPath : SlowPath} {h h' : Heap} {flags : AllocFlags} {n p : Nat}
    {stores : List Store} (hh : r.Consistent h) (hsp : r.SlowPathContract slowPath)
    (hres : r.allocFlagsNoHooks slowPath h flags n = .ok ⟨some p, h', stores⟩)
    (hfill : flags.zeroFill = true ∨ r.dcheckIsOn = true) :
    ∀ k < r.getUsableSize h' p, h'.memory (p + k) = if flags.zeroFill then 0 else kUninitializedByte := by
  obtain ⟨-, i, -, h₁, ⟨-, hc⟩ | ⟨a, hacq, hc⟩⟩ := r.allocFlagsNoHooks_eq_ok hres
  · cases hc
  cases hc
  intro k hk
  rw [getUsableSize, adjustPointerForExtrasSubtract, Nat.add_sub_cancel, ← r.acquireSlot_utilized hh hacq,
    adjustSizeForExtrasSubtract] at hk
  have hoff : r.extrasOffset = r.refCountExtras + r.cookieSize := rfl
  have hE : r.extrasSize = r.extrasOffset + r.cookieSize := rfl
  -- the cookies and the ref-count miss the usable bytes; between them comes the fill
  obtain ⟨cookies, refCount, hstores, hcookies, hrefCount⟩ : ∃ cookies refCount,
      r.slotStores flags (r.allocRawSize n) a = cookies ++
        (if !flags.zeroFill then
          (if r.dcheckIsOn then [Store.memset (r.adjustPointerForExtrasAdd a.slotStart) kUninitializedByte
            (r.adjustSizeForExtrasSubtract a.utilizedSlotSize)] else [])
        else if !a.isAlreadyZeroed then [Store.memset (r.adjustPointerForExtrasAdd a.slotStart) 0
          (r.adjustSizeForExtrasSubtract a.utilizedSlotSize)] else []) ++ refCount ∧
      (∀ t ∈ cookies, a.slotStart + r.extrasOffset + k < t.start ∨
        t.start + r.storeLength t ≤ a.slotStart + r.extrasOffset + k) ∧
      (∀ t ∈ refCount, a.slotStart + r.extrasOffset + k < t.start ∨
        t.start + r.storeLength t ≤ a.slotStart + r.extrasOffset + k) := by
    refine ⟨_, _, rfl, fun t ht => ?_, fun t ht => ?_⟩
    · split at ht
      · have hc : r.cookieSize = r.kCookieSize := if_pos ‹_›
        simp only [List.mem_cons, List.mem_singleton, List.not_mem_nil, or_false] at ht
        rcases ht with rfl | rfl <;>
          simp only [Store.start, storeLength, adjustPointerForExtrasAdd, adjustSizeForExtrasSubtract] <;> omega
      · cases ht
    · split at ht
      · rename_i hon
        have hrc : r.refCountExtras = r.refCountSize := if_pos (Bool.and_eq_true_iff.1 hon).1
        simp only [List.mem_singleton] at ht
        subst ht
        simp only [Store.start, storeLength]
        omega
      · cases ht
  -- a fill of the usable bytes with `v` is what they read
  have hfilled : ∀ v, r.applyStores (cookies ++ [Store.memset (r.adjustPointerForExtrasAdd a.slotStart) v
      (r.adjustSizeForExtrasSubtract a.utilizedSlotSize)] ++ refCount) h₁.memory
        (a.slotStart + r.extrasOffset + k) = v := fun v => by
    rw [List.append_assoc, List.singleton_append,
      applyStores_of_last (by simp only [Store.start, storeLength, adjustPointerForExtrasAdd,
        adjustSizeForExtrasSubtract]; omega) hrefCount]
    rfl
  dsimp only
  rw [hstores]
  cases hz : flags.zeroFill with
  | false =>
    rw [Bool.not_false, if_pos rfl, if_pos (hfill.resolve_left (by rw [hz]; decide)), hfilled, if_neg Bool.false_ne_true]
  | true =>
    rw [Bool.not_true, if_neg Bool.false_ne_true, if_pos rfl]
    cases hzeroed : a.isAlreadyZeroed with
    | false => rw [Bool.not_false, if_pos rfl, hfilled]
    | true =>
      -- the slow path zeroed the slot, and no store covers the usable bytes
      rw [Bool.not_true, if_neg Bool.false_ne_true, List.append_nil, r.applyStores_of_outside fun t ht =>
        (List.mem_append.1 ht).elim (hcookies t) (hrefCount t)]
      rcases r.acquireSlot_eq_some hh hacq with ⟨-, -, -, -, hz', -⟩ | ⟨-, h₀, s, hs, rfl⟩
      · rw [hz'] at hzeroed
        cases hzeroed
      · rw [Nat.add_assoc]
        exact hsp.zeroed _ _ _ _ _ _ hs hzeroed _ (by dsimp only at hk; omega)

end PartitionRoot

/-- 112 zero-filled bytes from bucket 24's one free slot, which held `0xCD`. -/
theorem allocFlagsNoHooks_fill_hundred_twelve :
    ∃ p h' stores, root64.Consistent (Heap.oneFreeSlot 24 65536 0xCD) ∧
      root64.SlowPathContract root64.noMemorySlowPath ∧
      root64.allocFlagsNoHooks root64.noMemorySlowPath (Heap.oneFreeSlot 24 65536 0xCD) { zeroFill := true } 112 =
        .ok ⟨some p, h', stores⟩ ∧
      (({ zeroFill := true } : AllocFlags).zeroFill = true ∨ root64.dcheckIsOn = true) ∧
      ∀ k < root64.getUsableSize h' p, h'.memory (p + k) =
        if ({ zeroFill := true } : AllocFlags).zeroFill then 0 else kUninitializedByte := by
  obtain ⟨hraw, hi⟩ := PartitionRoot.allocRawSize_hundred_twelve
  have hh := root64.consistent_oneFreeSlot (i := 24) (by decide) 65536 0xCD
  have hsp := root64.noMemorySlowPath_contract
  obtain ⟨a, h₁, hacq⟩ : ∃ a h₁, root64.acquireSlot root64.noMemorySlowPath (Heap.oneFreeSlot 24 65536 0xCD) 24
      { zeroFill := true } (root64.allocRawSize 112) = .ok (some a, h₁) :=
    root64.acquireSlot_of_fastPath (.inr (by simp [Heap.oneFreeSlot]))
  have hres := root64.allocFlagsNoHooks_of_acquireSlot (by rw [hraw]; decide) hi hacq
  exact ⟨_, _, _, hh, hsp, hres, .inl rfl, PartitionRoot.allocFlagsNoHooks_fill hh hsp hres (.inl rfl)⟩

/-! ## The usable size -/

/-- `ActualSize(n)` is the usable size an allocation of `n` bytes gets from the thread
cache or the freelist, and bounds what it gets from the slow path: for a bucketed
request the usable size lies between `n` and `ActualSize(n)`. A zero request on a
root with the ref-count is left out: `ActualSize(0)` sizes it without the byte that
`AllocFlagsNoHooks` adds. -/
theorem PartitionRoot.allocFlagsNoHooks_usableSize {r : PartitionRoot} {slowPath : SlowPath} {h h' : Heap} {flags : AllocFlags} {n p : Nat}
    {stores : List Store} (hh : r.Consistent h) (hsp : r.SlowPathContract slowPath)
    (hn : r.enableRefCountForBackupRefPtr = false ∨ 0 < n) (hbucketed : n + r.extrasSize ≤ kMaxBucketed)
    (hres : r.allocFlagsNoHooks slowPath h flags n = .ok ⟨some p, h', stores⟩) :
    ∃ m, r.actualSize n = some m ∧ n ≤ r.getUsableSize h' p ∧ r.getUsableSize h' p ≤ m ∧
      ∀ i, r.buckets.sizeToBucketIndex (r.allocRawSize n) = some i → r.FastPath h i →
        r.getUsableSize h' p = m := by
  have hw := Nat.lt_of_le_of_lt hbucketed r.buckets.kMaxBucketed_lt_two_pow
  have hraw : r.allocRawSize n = n + r.extrasSize := by
    have hif : (r.enableRefCountForBackupRefPtr && n == 0) = false := by
      rcases hn with hn | hn
      · rw [hn, Bool.false_and]
      · rw [Bool.and_eq_false_iff, beq_eq_false_iff_ne]
        exact .inr (Nat.pos_iff_ne_zero.1 hn)
    rw [allocRawSize, hif, if_neg Bool.false_ne_true, r.adjustSizeForExtrasAdd_of_lt hw]
  obtain ⟨i, hi, hiK, -, hle, -⟩ := r.buckets.getIndex_bucketed hbucketed
  obtain ⟨-, j, hj, h₁, ⟨-, hc⟩ | ⟨a, hacq, hc⟩⟩ := r.allocFlagsNoHooks_eq_ok hres
  · cases hc
  cases hc
  rw [hraw] at hj
  obtain rfl : j = i := Option.some.inj (hj.symm.trans hi)
  refine ⟨_, actualSize_of_bucketed hw hi hiK, ?_⟩
  rw [getUsableSize, adjustPointerForExtrasSubtract, Nat.add_sub_cancel, ← r.acquireSlot_utilized hh hacq,
    adjustSizeForExtrasSubtract, hraw]
  rw [hraw] at hacq
  rcases r.acquireSlot_eq_some hh hacq with ⟨-, -, -, hsize, -⟩ | ⟨hslow, h₀, s, hs, rfl⟩
  · -- from a free list: the bucket's slot size
    rw [hsize]
    exact ⟨by omega, le_rfl, fun _ _ _ => rfl⟩
  · -- from the slow path: between the raw size and the bucket's slot size
    obtain ⟨-, hlo, hhi⟩ := hsp.bucket_slot _ _ _ _ _ _ hs hiK
    refine ⟨by dsimp only; omega, by dsimp only; omega, fun i' hi' hfast => absurd ?_ hslow⟩
    rw [hj, Option.some.injEq] at hi'
    exact hi' ▸ hfast

/-- A request of 112 bytes on `root64`, served from a freelist, can use exactly
`ActualSize(112)` bytes. -/
theorem allocFlagsNoHooks_usableSize_hundred_twelve :
    ∃ p h' stores, root64.Consistent (Heap.oneFreeSlot 24 65536 0xCD) ∧
      root64.SlowPathContract root64.noMemorySlowPath ∧
      (root64.enableRefCountForBackupRefPtr = false ∨ 0 < 112) ∧ 112 + root64.extrasSize ≤ kMaxBucketed ∧
      root64.allocFlagsNoHooks root64.noMemorySlowPath (Heap.oneFreeSlot 24 65536 0xCD) {} 112 =
        .ok ⟨some p, h', stores⟩ ∧
      ∃ m, root64.actualSize 112 = some m ∧ 112 ≤ root64.getUsableSize h' p ∧ root64.getUsableSize h' p ≤ m ∧
        ∀ i, root64.buckets.sizeToBucketIndex (root64.allocRawSize 112) = some i →
          root64.FastPath (Heap.oneFreeSlot 24 65536 0xCD) i → root64.getUsableSize h' p = m := by
  obtain ⟨hraw, hi⟩ := PartitionRoot.allocRawSize_hundred_twelve
  have hh := root64.consistent_oneFreeSlot (i := 24) (by decide) 65536 0xCD
  have hsp := root64.noMemorySlowPath_contract
  obtain ⟨a, h₁, hacq⟩ : ∃ a h₁, root64.acquireSlot root64.noMemorySlowPath (Heap.oneFreeSlot 24 65536 0xCD) 24
      {} (root64.allocRawSize 112) = .ok (some a, h₁) :=
    root64.acquireSlot_of_fastPath (.inr (by simp [Heap.oneFreeSlot]))
  have hres := root64.allocFlagsNoHooks_of_acquireSlot (by rw [hraw]; decide) hi hacq
  have hn : root64.enableRefCountForBackupRefPtr = false ∨ 0 < 112 := .inr (by decide)
  have hbucketed : 112 + root64.extrasSize ≤ kMaxBucketed := by decide
  exact ⟨_, _, _, hh, hsp, hn, hbucketed, hres, PartitionRoot.allocFlagsNoHooks_usableSize hh hsp hn hbucketed hres⟩

end PartitionAlloc
