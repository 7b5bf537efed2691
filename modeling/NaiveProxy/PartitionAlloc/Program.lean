import NaiveProxy.PartitionAlloc.Layout

/-!
# The program's stores never reach the cookies

`GetUsableSize` gives the program the bytes from the pointer an allocation returned up
to its usable size: "the overage won't exceed what's actually usable by the app
without a risk of running out of an allocated region or into PartitionAlloc's internal
data". On a debug build the internal data around those bytes are the two cookies,
which `FreeNoHooksImmediate` checks ("If these asserts fire, you probably corrupted
memory"). A program is a list of accesses of its threads: requests to the allocator,
and stores of single bytes, each undefined unless it lands in the usable bytes of an
allocation the program holds (`accessStep`).

`Guarded` says that the slot of each live allocation holds its extras and that both
its cookies hold the pattern. A store stays in one allocation's usable bytes, which lie
between that slot's cookies and in no other slot (`Laid`). A request writes only the
slot it hands out or takes back, and the code `src/` does not have writes no byte of a
slot some holder keeps (`MemoryContract`). Then:

    runAccesses_free_live   after every interleaving of the threads' accesses that
                            stays in bounds, any thread frees each live allocation
                            without a crash: a cookie check fires only after a store
                            out of bounds
-/

namespace PartitionAlloc

/-- What a thread of the program does. -/
inductive Access
  /-- A request to the allocator. -/
  | call (q : Request)
  /-- A store of `byte` at `addr`. -/
  | write (addr : Nat) (byte : UInt8)
deriving DecidableEq, Repr

namespace Holders

variable {o : Holders} {s : Nat}

theorem live_sublist_held (o : Holders) : o.live.Sublist o.held :=
  ((List.sublist_append_left _ _).trans (List.sublist_append_left _ _)).trans (List.sublist_append_left _ _)

theorem mem_held_of_live (hs : s ∈ o.live) : s ∈ o.held := o.live_sublist_held.subset hs

theorem mem_held_afterFree_slotSpan {s₀ : Nat} (hs : s ∈ o.held) (hne : s ≠ s₀) :
    s ∈ (o.afterFree s₀ .slotSpan).held := by
  simp only [held, afterFree, List.mem_append] at hs ⊢
  rcases hs with ((hs | hs) | hs) | hs <;> simp only [List.mem_erase_of_ne hne, hs, true_or, or_true]

theorem mem_held_erase_referenced {s₀ : Nat} (hs : s ∈ o.held) (hne : s ≠ s₀) :
    s ∈ ({ o with referenced := o.referenced.erase s₀ } : Holders).held := by
  simp only [held, List.mem_append] at hs ⊢
  rcases hs with ((hs | hs) | hs) | hs <;> simp only [List.mem_erase_of_ne hne, hs, true_or, or_true]

theorem mem_live_of_afterFree {s₀ : Nat} {fate : FreeFate} (hs : s ∈ (o.afterFree s₀ fate).live) : s ∈ o.live := by
  cases fate
  all_goals first | exact hs | exact List.mem_of_mem_erase hs

end Holders

namespace PartitionRoot

variable (r : PartitionRoot) (slowPath : SlowPath) (callees : FreeCallees) (pcscanMode : PCScanMode)

/-- `addr` is a usable byte of an allocation the program holds: at or past the pointer
the allocation returned, and below its `GetUsableSize`. -/
def InUse (h : Heap) (o : Holders) (addr : Nat) : Prop :=
  ∃ s ∈ o.live, s + r.extrasOffset ≤ addr ∧ addr < s + r.extrasOffset + r.getUsableSize h (s + r.extrasOffset)

instance (h : Heap) (o : Holders) (addr : Nat) : Decidable (r.InUse h o addr) :=
  inferInstanceAs (Decidable (∃ s ∈ o.live,
    s + r.extrasOffset ≤ addr ∧ addr < s + r.extrasOffset + r.getUsableSize h (s + r.extrasOffset)))

/-- One access of thread `acc.1`: a request on its view of the process, or a store,
undefined outside the usable bytes of the program's allocations. -/
def accessStep (g : Process) (o : Holders) : Nat × Access → Except Crash (Process × Holders)
  | (t, .call q) => r.threadStep slowPath callees pcscanMode g o (t, q)
  | (t, .write addr byte) =>
    if r.InUse (g.heapOf t) o addr then pure ({ g with memory := Function.update g.memory addr byte }, o)
    else throw (.undefinedBehavior "a store outside the usable bytes of every allocation")

/-- The threads' accesses in order, stopping at the first crash. -/
def runAccesses (g : Process) (o : Holders) : List (Nat × Access) → Except Crash (Process × Holders)
  | [] => pure (g, o)
  | acc :: accs => do
    let (g, o) ← r.accessStep slowPath callees pcscanMode g o acc
    runAccesses g o accs

/-- The cookies of the allocation at slot `s` hold the pattern: before its pointer, and
after its usable size. -/
def CookiesAt (h : Heap) (s : Nat) : Prop :=
  ∀ i < r.kCookieSize, h.memory (s + r.extrasOffset - r.kCookieSize + i) = r.kCookieValue i ∧
    h.memory (s + r.extrasOffset + r.getUsableSize h (s + r.extrasOffset) + i) = r.kCookieValue i

/-- With cookies on, the slot of each live allocation holds its extras and its cookies. -/
def Guarded (h : Heap) (o : Holders) : Prop :=
  (r.dcheckIsOn && r.allowCookies) = true → ∀ s ∈ o.live,
    r.extrasSize ≤ r.getUtilizedSlotSize (h.slotSpan s) ∧ r.CookiesAt h s

/-- Every byte of each slot of `slots` keeps its value. -/
def BytesKept (slotSpan : Nat → SlotSpan) (memory memory' : Nat → UInt8) (slots : List Nat) : Prop :=
  ∀ s ∈ slots, ∀ k < r.spanSlotSize (slotSpan s), memory' (s + k) = memory (s + k)

/-- Slot `s` keeps its span and every byte from `h` to `h'`. -/
def SlotKept (h h' : Heap) (s : Nat) : Prop :=
  h'.slotSpan s = h.slotSpan s ∧ ∀ k < r.spanSlotSize (h.slotSpan s), h'.memory (s + k) = h.memory (s + k)

/-- The slot of each live allocation holds its extras. -/
def Sized (h : Heap) (o : Holders) : Prop :=
  ∀ s ∈ o.live, r.extrasSize ≤ r.getUtilizedSlotSize (h.slotSpan s)

/-- What the cookies need of the code `src/` does not have: the slow path's slot holds
the raw size (`SlowPathContract`); the slow path, the span's `Free`, the thread cache
and PCScan's quarantine (but in the slot it takes) write no byte of a slot some holder
keeps; the ref-count's release writes only the ref-count. -/
structure MemoryContract extends r.LayoutContract slowPath callees, r.SlowPathContract slowPath : Prop where
  slowPath_bytes : ∀ h o i flags rawSize out h', r.Owned h o → slowPath h i flags rawSize = .ok (out, h') →
    r.BytesKept h.slotSpan h.memory h'.memory o.held
  slotSpanFree_bytes : ∀ h o s, r.Owned h o → Fresh h o s →
    r.BytesKept h.slotSpan h.memory (callees.slotSpanFree h s).memory o.held
  maybePutInCache_bytes : ∀ h o s i h', r.Owned h o → Fresh h o s → callees.maybePutInCache h s i = some h' →
    r.BytesKept h.slotSpan h.memory h'.memory o.held
  moveToQuarantine_bytes : ∀ h (o : Holders) ptr, r.BytesKept h.slotSpan h.memory
    (callees.moveToQuarantine h ptr).memory (o.held.erase (r.adjustPointerForExtrasSubtract ptr))
  releaseFromAllocator_memory : ∀ memory slotStart a, a < slotStart ∨ slotStart + r.refCountSize ≤ a →
    (callees.releaseFromAllocator memory slotStart).2 a = memory a

/-! ## What keeps the cookies -/

section Frame

variable {r slowPath callees} {h h' : Heap} {o o' : Holders}

theorem Owned.consistent (ho : r.Owned h o) : r.Consistent h :=
  ⟨fun i s hs => ho.span i s (List.mem_append_right _ hs), fun bins hb i s hs =>
    ho.span i s (by rw [Heap.freeSlots, hb]; exact List.mem_append_left _ hs)⟩

theorem Owned.live_ne_referenced (ho : r.Owned h o) {s t : Nat} (hs : s ∈ o.live) (ht : t ∈ o.referenced) :
    s ≠ t := by
  rintro rfl
  exact List.disjoint_of_nodup_append ho.nodup_held.of_append_left.of_append_left hs ht

theorem Owned.nodup_live (ho : r.Owned h o) : o.live.Nodup := ho.nodup_held.sublist o.live_sublist_held

/-- The cookies of a slot that holds its extras lie in its utilized size, outside its
usable bytes: a heap that keeps those bytes and the span keeps the cookies. -/
theorem CookiesAt.frame {s : Nat} (hk : r.CookiesAt h s) (hon : (r.dcheckIsOn && r.allowCookies) = true)
    (hE : r.extrasSize ≤ r.getUtilizedSlotSize (h.slotSpan s)) (hspan : h'.slotSpan s = h.slotSpan s)
    (hmem : ∀ k < r.getUtilizedSlotSize (h.slotSpan s),
      k < r.extrasOffset ∨ r.extrasOffset + r.adjustSizeForExtrasSubtract (r.getUtilizedSlotSize (h.slotSpan s)) ≤ k →
        h'.memory (s + k) = h.memory (s + k)) :
    r.CookiesAt h' s := by
  have hc : r.cookieSize = r.kCookieSize := if_pos hon
  have hoff : r.extrasOffset = r.refCountExtras + r.cookieSize := rfl
  have hsize : r.extrasSize = r.extrasOffset + r.cookieSize := rfl
  intro i hi
  obtain ⟨h₁, h₂⟩ := hk i hi
  simp only [getUsableSize, adjustPointerForExtrasSubtract, Nat.add_sub_cancel, hspan] at h₂ ⊢
  generalize r.getUtilizedSlotSize (h.slotSpan s) = u at hE hmem h₂ ⊢
  simp only [adjustSizeForExtrasSubtract] at hmem h₂ ⊢
  constructor
  · rw [show s + r.extrasOffset - r.kCookieSize + i = s + (r.refCountExtras + i) by omega] at h₁ ⊢
    rw [hmem _ (by omega) (.inl (by omega)), h₁]
  · rw [show s + r.extrasOffset + (u - r.extrasSize) + i = s + (r.extrasOffset + (u - r.extrasSize) + i) by omega]
      at h₂ ⊢
    rw [hmem _ (by omega) (.inr (by omega)), h₂]

theorem SlotKept.refl (h : Heap) (s : Nat) : r.SlotKept h h s := ⟨rfl, fun _ _ => rfl⟩

theorem Guarded.kept (hk : r.Guarded h o) (hl : r.Laid h o) {s : Nat} (hs : s ∈ o.live)
    (hkept : r.SlotKept h h' s) (hon : (r.dcheckIsOn && r.allowCookies) = true) :
    r.extrasSize ≤ r.getUtilizedSlotSize (h'.slotSpan s) ∧ r.CookiesAt h' s := by
  obtain ⟨hE, hcook⟩ := hk hon s hs
  have hU := hl.utilized_le s (List.mem_append_right _ (Holders.mem_held_of_live hs))
  exact ⟨by rw [hkept.1]; exact hE, hcook.frame hon hE hkept.1 fun k hk _ => hkept.2 k (by omega)⟩

theorem Laid.outside (hl : r.Laid h o) {s s₀ k : Nat} (hs : s ∈ r.allFreeSlots h ++ o.held)
    (hs₀ : s₀ ∈ r.allFreeSlots h ++ o.held) (hne : s ≠ s₀) (hk : k < r.spanSlotSize (h.slotSpan s)) :
    s + k < s₀ ∨ s₀ + r.spanSlotSize (h.slotSpan s₀) ≤ s + k := by
  have := hl.disjoint s hs s₀ hs₀ hne
  omega

/-- A store to a usable byte of a live allocation keeps every live allocation guarded:
the byte lies between its own slot's cookies, and in no other slot. -/
theorem Guarded.write (hk : r.Guarded h o) (hl : r.Laid h o) {addr : Nat} (hin : r.InUse h o addr)
    (byte : UInt8) : r.Guarded { h with memory := Function.update h.memory addr byte } o := fun hon s hs => by
  obtain ⟨s₀, hs₀, hlo, hhi⟩ := hin
  obtain ⟨hE, hcook⟩ := hk hon s hs
  have hknown : ∀ t ∈ o.live, t ∈ r.allFreeSlots h ++ o.held := fun t ht =>
    List.mem_append_right _ (Holders.mem_held_of_live ht)
  have hsize : r.extrasSize = r.extrasOffset + r.cookieSize := rfl
  have hU := hl.utilized_le s (hknown s hs)
  have hU₀ := hl.utilized_le s₀ (hknown s₀ hs₀)
  refine ⟨hE, hcook.frame hon hE rfl fun k hk hext => Function.update_noteq (fun heq => ?_) _ _⟩
  simp only [getUsableSize, adjustPointerForExtrasSubtract, Nat.add_sub_cancel, adjustSizeForExtrasSubtract]
    at hhi hext
  by_cases hss : s = s₀
  · subst hss
    omega
  · have := hl.disjoint s (hknown s hs) s₀ (hknown s₀ hs₀) hss
    omega

end Frame

/-! ## What each request does to the live slots

A request writes only the slot it hands out or takes back: every slot live before and
after keeps its span and its bytes (`step_kept`). A slot live after a request and not
before is the one an allocation handed out (`step_new`), which holds the extras and
the request and, with cookies on, the cookies (`allocFlagsNoHooks_new`). The
invariants below and the refinement of `Refinement` follow from these two. -/

section Steps

variable {r slowPath callees pcscanMode} {h h' : Heap} {o o' : Holders}

theorem acquireSlot_bytes (hc : r.MemoryContract slowPath callees) (ho : r.Owned h o)
    {i rawSize : Nat} {flags : AllocFlags} {res : Option Acquired}
    (hacq : r.acquireSlot slowPath h i flags rawSize = .ok (res, h')) :
    r.BytesKept h.slotSpan h.memory h'.memory o.held := by
  rcases acquireSlot_eq_slowPath hacq with ⟨-, hmem⟩ | ⟨h₀, hfree, hspan, hmem, hprov, out, hs⟩
  · exact fun s _ k _ => congrFun hmem (s + k)
  · rw [← hspan, ← hmem]
    exact hc.slowPath_bytes _ _ _ _ _ _ _ (ho.of_freeSlots hfree hspan hprov) hs

theorem acquireSlot_kept (hc : r.MemoryContract slowPath callees) (ho : r.Owned h o)
    {i rawSize : Nat} {flags : AllocFlags} {res : Option Acquired}
    (hacq : r.acquireSlot slowPath h i flags rawSize = .ok (res, h')) : ∀ s ∈ o.held, r.SlotKept h h' s :=
  fun s hs => ⟨acquireSlot_slotSpan hc.toThreadsContract ho hacq s hs, acquireSlot_bytes hc ho hacq s hs⟩

/-- The slot of step 2 holds the raw size: a bucket's slot holds every size the bucket
lookup sends to it, and the slow path's holds the raw size by its contract. -/
theorem acquireSlot_rawSize_le (hh : r.Consistent h) (hsp : r.SlowPathContract slowPath)
    {i rawSize : Nat} {flags : AllocFlags} {a : Acquired} (hw : rawSize < 2 ^ r.buckets.kBitsPerSizeT)
    (hi : r.buckets.sizeToBucketIndex rawSize = some i)
    (hacq : r.acquireSlot slowPath h i flags rawSize = .ok (some a, h')) : rawSize ≤ a.utilizedSlotSize := by
  obtain ⟨j, hj, hjK⟩ := r.buckets.getIndex_lt_or_eq rawSize hw
  obtain rfl : i = j := Option.some.inj (hi.symm.trans hj)
  obtain ⟨j, hj', heq, -⟩ := r.buckets.getIndex_spec rawSize hw
  obtain rfl : i = j := Option.some.inj (hi.symm.trans hj')
  rcases r.acquireSlot_eq_some hh hacq with ⟨-, hiK, -, hsize, -⟩ | ⟨-, h₀, s, hs, rfl⟩
  · -- a free slot of the bucket the lookup chose
    obtain ⟨j, hj'', -, -, hle, -⟩ := r.buckets.getIndex_bucketed (n := rawSize)
      (Nat.not_lt.1 fun hgt => Nat.ne_of_lt hiK (heq.2 hgt))
    obtain rfl : i = j := Option.some.inj (hi.symm.trans hj'')
    exact hsize ▸ hle
  · rcases Nat.lt_or_ge i r.buckets.kNumBuckets with hiK | hiK
    · exact (hsp.bucket_slot _ _ _ _ _ _ hs hiK).2.1
    · obtain rfl : i = r.buckets.kNumBuckets := Nat.le_antisymm hjK hiK
      obtain ⟨-, -, hle, -⟩ := hsp.directMap_slot _ _ _ _ _ hs
      exact hle

/-- Past the overflow check, on a root whose extras and one byte fit in a `size_t`, the
raw size is the adjusted request and the extras: the sum does not wrap. -/
theorem allocRawSize_eq (hextras : r.extrasSize + 1 < 2 ^ r.buckets.kBitsPerSizeT) {n : Nat}
    (hov : n ≤ r.allocRawSize n) :
    r.allocRawSize n = (if r.enableRefCountForBackupRefPtr && n == 0 then 1 else n) + r.extrasSize := by
  have hreq : (if r.enableRefCountForBackupRefPtr && n == 0 then 1 else n) = n ∨
      ((if r.enableRefCountForBackupRefPtr && n == 0 then 1 else n) = 1 ∧ n = 0) := by
    split <;> simp_all
  unfold allocRawSize adjustSizeForExtrasAdd at hov ⊢
  generalize (if r.enableRefCountForBackupRefPtr && n == 0 then 1 else n) = n' at hov hreq ⊢
  generalize 2 ^ r.buckets.kBitsPerSizeT = W at hextras hov ⊢
  refine Nat.mod_eq_of_lt (Nat.not_le.1 fun hge => ?_)
  -- a sum that wraps comes back below the adjusted request, which the check refuses
  have hlt : (n' + r.extrasSize) % W < n' := by
    rcases Nat.lt_or_ge n' W with hnW | hnW
    · rw [Nat.mod_eq_sub_mod hge, Nat.mod_eq_of_lt (by omega)]
      omega
    · exact Nat.lt_of_lt_of_le (Nat.mod_lt _ (by omega)) hnW
  rcases hreq with rfl | ⟨rfl, rfl⟩ <;> omega

theorem acquireSlot_holds (hc : r.MemoryContract slowPath callees)
    (hextras : r.extrasSize + 1 < 2 ^ r.buckets.kBitsPerSizeT) (ho : r.Owned h o) {n i : Nat}
    {flags : AllocFlags} {a : Acquired} {h₁ : Heap} (hov : n ≤ r.allocRawSize n)
    (hi : r.buckets.sizeToBucketIndex (r.allocRawSize n) = some i)
    (hacq : r.acquireSlot slowPath h i flags (r.allocRawSize n) = .ok (some a, h₁)) :
    n + r.extrasSize ≤ a.utilizedSlotSize := by
  have hraw := allocRawSize_eq hextras hov
  have hle := (r.le_adjusted_request n).1
  have : r.allocRawSize n ≤ a.utilizedSlotSize :=
    acquireSlot_rawSize_le ho.consistent hc.toSlowPathContract (Nat.mod_lt _ (Nat.two_pow_pos _)) hi hacq
  omega

/-- An allocation writes only the slot it hands out: every held slot keeps its span and
its bytes. -/
theorem allocFlagsNoHooks_kept (hc : r.MemoryContract slowPath callees)
    (hextras : r.extrasSize + 1 < 2 ^ r.buckets.kBitsPerSizeT) (ho : r.Owned h o) (hl : r.Laid h o)
    {flags : AllocFlags} {n : Nat} {out : AllocOutcome} (hres : r.allocFlagsNoHooks slowPath h flags n = .ok out) :
    ∀ s ∈ o.held, r.SlotKept h out.heap s := by
  obtain ⟨hov, i, hi, h₁, ⟨hacq, rfl⟩ | ⟨a, hacq, rfl⟩⟩ := r.allocFlagsNoHooks_eq_ok hres
  · exact acquireSlot_kept hc ho hacq
  have hl₁ := laid_acquireSlot hc.toLayoutContract ho hl hacq
  have ho₁ := owned_acquireSlot hc.toLifecycleContract ho hacq
  rw [Option.map_some'] at hl₁ ho₁
  have hutil := r.acquireSlot_utilized ho.consistent hacq
  have hnew : a.slotStart ∈ r.allFreeSlots h₁ ++ (o.afterAlloc (some a.slotStart)).held :=
    List.mem_append_right _ (List.mem_cons_self _ _)
  have hE : r.extrasSize ≤ a.utilizedSlotSize := by
    have := acquireSlot_holds hc hextras ho hov hi hacq
    omega
  -- the stores lie in the new slot, apart from every held one
  have hstores : ∀ t ∈ r.slotStores flags (r.allocRawSize n) a, a.slotStart ≤ t.start ∧
      t.start + r.storeLength t ≤ a.slotStart + r.spanSlotSize (h₁.slotSpan a.slotStart) :=
    r.slotStores_within hE (hutil ▸ hl₁.utilized_le _ hnew)
  intro s hs
  obtain ⟨hspan, hbytes⟩ := acquireSlot_kept hc ho hacq s hs
  refine ⟨hspan, fun k hk => ?_⟩
  have hne : s ≠ a.slotStart := fun heq => (List.nodup_cons.1 ho₁.nodup_held).1 (heq ▸ hs)
  have hout := hl₁.outside (List.mem_append_right _ (List.mem_cons_of_mem _ hs)) hnew hne (k := k)
    (by rw [hspan]; exact hk)
  show r.applyStores _ h₁.memory (s + k) = h.memory (s + k)
  rw [r.applyStores_of_outside fun t ht => by have := hstores t ht; omega]
  exact hbytes k hk

theorem allocFlagsNoHooks_new (hc : r.MemoryContract slowPath callees)
    (hextras : r.extrasSize + 1 < 2 ^ r.buckets.kBitsPerSizeT) (ho : r.Owned h o)
    {flags : AllocFlags} {n : Nat} {out : AllocOutcome} (hres : r.allocFlagsNoHooks slowPath h flags n = .ok out)
    {p : Nat} (hp : out.ret = some p) :
    p = r.adjustPointerForExtrasSubtract p + r.extrasOffset ∧
      n + r.extrasSize ≤ r.getUtilizedSlotSize (out.heap.slotSpan (r.adjustPointerForExtrasSubtract p)) ∧
      ((r.dcheckIsOn && r.allowCookies) = true → r.CookiesAt out.heap (r.adjustPointerForExtrasSubtract p)) := by
  obtain ⟨hov, i, hi, h₁, ⟨hacq, rfl⟩ | ⟨a, hacq, rfl⟩⟩ := r.allocFlagsNoHooks_eq_ok hres
  · cases hp
  obtain rfl := Option.some.inj hp
  have hslot : r.adjustPointerForExtrasSubtract (a.slotStart + r.extrasOffset) = a.slotStart :=
    Nat.add_sub_cancel _ _
  have hutil := r.acquireSlot_utilized ho.consistent hacq
  rw [hslot]
  refine ⟨rfl, hutil ▸ acquireSlot_holds hc hextras ho hov hi hacq, fun hon i hi => ?_⟩
  -- the cookies the stores of step 3 wrote
  have hw := r.slotStores_cookies hon flags (r.allocRawSize n) a h₁.memory hi
  simp only [getUsableSize, hslot, ← hutil]
  exact hw

theorem alignedAllocFlags_noHooks {flags : AllocFlags} {alignment size : Nat} {out : AllocOutcome}
    (hres : r.alignedAllocFlags slowPath noHooks h flags alignment size = .ok out) :
    out = ⟨none, h, []⟩ ∨ ∃ req, isPowerOfTwo alignment = true ∧ size ≤ req ∧
      out.ret.getD 0 &&& (alignment - 1) = 0 ∧ r.allocFlagsNoHooks slowPath h {} req = .ok out := by
  have hpow : isPowerOfTwo alignment = true := by
    unfold alignedAllocFlags at hres
    split at hres
    · cases hres
    split at hres
    · cases hres
    · simpa using ‹¬(!isPowerOfTwo alignment) = true›
  obtain ⟨req, -, ⟨-, -, rfl⟩ | ⟨hle, hr⟩⟩ := alignedAllocFlags_eq_ok hres
  · exact .inl rfl
  obtain ⟨haligned, ⟨-, hen, -⟩ | hn⟩ := alignedAllocRounded_eq_ok hr
  · cases hen
  · exact .inr ⟨req, hpow, hle, haligned, hn⟩

theorem alignedAllocFlags_kept (hc : r.MemoryContract slowPath callees)
    (hextras : r.extrasSize + 1 < 2 ^ r.buckets.kBitsPerSizeT) (ho : r.Owned h o) (hl : r.Laid h o)
    {flags : AllocFlags} {alignment size : Nat} {out : AllocOutcome}
    (hres : r.alignedAllocFlags slowPath noHooks h flags alignment size = .ok out) :
    ∀ s ∈ o.held, r.SlotKept h out.heap s := by
  rcases alignedAllocFlags_noHooks hres with rfl | ⟨req, -, -, -, hn⟩
  · exact fun s _ => SlotKept.refl h s
  · exact allocFlagsNoHooks_kept hc hextras ho hl hn

theorem releaseRefCount_outside (hc : r.MemoryContract slowPath callees) {memory : Nat → UInt8}
    {ptr slotStart usableSize : Nat} {directMapped : Bool} {a : Nat} (hptr : a < ptr ∨ ptr + usableSize ≤ a)
    (hrc : a < slotStart ∨ slotStart + r.refCountExtras ≤ a) :
    (r.releaseRefCount callees memory ptr slotStart usableSize directMapped).2 a = memory a := by
  unfold releaseRefCount
  split
  · rename_i hon
    have hrc' : r.refCountExtras = r.refCountSize := if_pos (Bool.and_eq_true_iff.1 hon).1
    rw [hc.releaseFromAllocator_memory _ _ _ (hrc' ▸ hrc)]
    split
    · rfl
    · simp only [applyStore, Store.start, storeLength]
      rw [if_neg (by omega)]
  · rfl

/-- What `FreeNoHooksImmediate` does past the cookie check to a slot that holds its
extras: it writes only the slot's utilized bytes, then gives the slot to the thread
cache or its span, or keeps it for a reference left. -/
theorem freeAfterCookies_eq (hc : r.MemoryContract slowPath callees) {ptr : Nat}
    (hE : r.extrasSize ≤ r.getUtilizedSlotSize (h.slotSpan (r.adjustPointerForExtrasSubtract ptr)))
    (zeroRandomly : Bool) :
    ∃ memory : Nat → UInt8, (∀ a, a < r.adjustPointerForExtrasSubtract ptr ∨
        r.adjustPointerForExtrasSubtract ptr + r.getUtilizedSlotSize (h.slotSpan (r.adjustPointerForExtrasSubtract ptr)) ≤ a →
        memory a = h.memory a) ∧
      (r.freeAfterCookies callees zeroRandomly h ptr = r.rawFreeWithThreadCache callees { h with memory }
          (r.adjustPointerForExtrasSubtract ptr) (h.slotSpan (r.adjustPointerForExtrasSubtract ptr)) ∨
        r.freeAfterCookies callees zeroRandomly h ptr = (.stillReferenced, { h with memory })) := by
  have hoff : r.extrasOffset = r.refCountExtras + r.cookieSize := rfl
  have hsize : r.extrasSize = r.extrasOffset + r.cookieSize := rfl
  have hrel : ∀ a, a < r.adjustPointerForExtrasSubtract ptr ∨
      r.adjustPointerForExtrasSubtract ptr + r.getUtilizedSlotSize (h.slotSpan (r.adjustPointerForExtrasSubtract ptr)) ≤ a →
      (r.releaseRefCount callees h.memory ptr (r.adjustPointerForExtrasSubtract ptr)
        (r.adjustSizeForExtrasSubtract (r.getUtilizedSlotSize (h.slotSpan (r.adjustPointerForExtrasSubtract ptr))))
        (r.spanBucketAt (h.slotSpan (r.adjustPointerForExtrasSubtract ptr)).bucket).isDirectMapped).2 a =
        h.memory a := fun a ha => by
    simp only [adjustPointerForExtrasSubtract, adjustSizeForExtrasSubtract] at ha hE ⊢
    exact releaseRefCount_outside hc (by omega) (by omega)
  simp only [freeAfterCookies]
  split
  · refine ⟨_, fun a ha => ?_, .inl rfl⟩
    rw [r.applyStores_of_outside fun t ht => ?_, hrel a ha]
    simp only [freedSlotStores] at ht
    split at ht <;> (try split at ht) <;> simp only [List.mem_singleton, List.not_mem_nil] at ht <;> subst ht <;>
      simp only [Store.start, storeLength] <;> omega
  · exact ⟨_, hrel, .inr rfl⟩

theorem rawFreeWithThreadCache_bytes (hc : r.MemoryContract slowPath callees) (ho : r.Owned h o) {s : Nat}
    (hs : Fresh h o s) (memory : Nat → UInt8) (span : SlotSpan) :
    r.BytesKept h.slotSpan memory (r.rawFreeWithThreadCache callees { h with memory } s span).2.memory o.held := by
  rcases @rawFreeWithThreadCache_eq r callees { h with memory } s span with ⟨i, h', hput, heq⟩ | heq <;> rw [heq]
  · exact hc.maybePutInCache_bytes _ _ _ _ _ (ho.memory memory) (hs.memory memory) hput
  · exact hc.slotSpanFree_bytes _ _ _ (ho.memory memory) (hs.memory memory)

theorem freeAfterCookies_kept (hc : r.MemoryContract slowPath callees) (ho : r.Owned h o) (hl : r.Laid h o)
    {ptr : Nat} (hs : r.adjustPointerForExtrasSubtract ptr ∈ o.live)
    (hE : r.extrasSize ≤ r.getUtilizedSlotSize (h.slotSpan (r.adjustPointerForExtrasSubtract ptr)))
    (zeroRandomly : Bool) :
    ∀ t ∈ o.held, t ≠ r.adjustPointerForExtrasSubtract ptr →
      r.SlotKept h (r.freeAfterCookies callees zeroRandomly h ptr).2 t := by
  -- the slot leaves the program; every other held slot lies apart from it
  have hp := o.held_afterFree_released hs (.inr (rfl : FreeFate.slotSpan = .slotSpan))
  obtain ⟨ho', hfresh⟩ := ho.release hp
  have hs₀ := List.mem_append_right (r.allFreeSlots h) (Holders.mem_held_of_live hs)
  have hU := hl.utilized_le _ hs₀
  intro t ht hne
  have hheld := Holders.mem_held_afterFree_slotSpan ht hne
  have hout : ∀ k < r.spanSlotSize (h.slotSpan t), t + k < r.adjustPointerForExtrasSubtract ptr ∨
      r.adjustPointerForExtrasSubtract ptr +
        r.getUtilizedSlotSize (h.slotSpan (r.adjustPointerForExtrasSubtract ptr)) ≤ t + k := fun k hk => by
    have := hl.outside (List.mem_append_right _ ht) hs₀ hne hk
    omega
  obtain ⟨memory, hmem, hres | hres⟩ := freeAfterCookies_eq hc hE zeroRandomly <;> rw [hres]
  · -- to the thread cache or the span
    refine ⟨rawFreeWithThreadCache_slotSpan hc.toThreadsContract ho' hfresh _ _ t hheld, fun k hk => ?_⟩
    rw [rawFreeWithThreadCache_bytes hc ho' hfresh _ _ t hheld k hk]
    exact hmem _ (hout k hk)
  · -- kept for the reference left
    exact ⟨rfl, fun k hk => hmem _ (hout k hk)⟩

theorem freeNoHooks_live {ptr : Nat} (hptr : ptr ≠ 0) {zeroRandomly : Bool} {out : FreeFate × Heap}
    (hfree : r.freeNoHooks callees pcscanMode zeroRandomly h ptr = .ok out) (s₀ : Nat) :
    (o.afterFree s₀ out.1).live = o.live.erase s₀ := by
  unfold freeNoHooks at hfree
  rw [if_neg hptr] at hfree
  split at hfree
  · cases hfree
    rfl
  · obtain ⟨-, rfl⟩ := freeNoHooksImmediate_eq_ok_iff.1 hfree
    dsimp only [freeAfterCookies, rawFreeWithThreadCache]
    split
    · split <;> rfl
    · rfl

theorem freeNoHooks_kept (hc : r.MemoryContract slowPath callees) (ho : r.Owned h o) (hl : r.Laid h o)
    (hsized : r.Sized h o) {ptr : Nat} (hs : ptr ≠ 0 → r.adjustPointerForExtrasSubtract ptr ∈ o.live)
    {zeroRandomly : Bool} {out : FreeFate × Heap}
    (hfree : r.freeNoHooks callees pcscanMode zeroRandomly h ptr = .ok out) :
    ∀ t ∈ o.held, (ptr ≠ 0 → t ≠ r.adjustPointerForExtrasSubtract ptr) → r.SlotKept h out.2 t := by
  unfold freeNoHooks at hfree
  split at hfree
  · cases hfree
    exact fun t _ _ => SlotKept.refl h t
  rename_i hptr
  intro t ht hne
  split at hfree
  · -- to the quarantine, which writes only the slot it takes
    cases hfree
    exact ⟨congrFun (hc.moveToQuarantine h ptr).2.1 t,
      hc.moveToQuarantine_bytes h o ptr t ((List.mem_erase_of_ne (hne hptr)).2 ht)⟩
  · obtain ⟨-, rfl⟩ := freeNoHooksImmediate_eq_ok_iff.1 hfree
    exact freeAfterCookies_kept hc ho hl (hs hptr) (hsized _ (hs hptr)) zeroRandomly t ht (hne hptr)

theorem partitionAllocFreeForRefCounting_kept (hc : r.MemoryContract slowPath callees) (ho : r.Owned h o)
    (hl : r.Laid h o) {s : Nat} (hs : s ∈ o.referenced) {out : FreeFate × Heap}
    (hfree : r.partitionAllocFreeForRefCounting callees h s = .ok out) :
    ∀ t ∈ o.held, t ≠ s → r.SlotKept h out.2 t := by
  unfold partitionAllocFreeForRefCounting at hfree
  split at hfree
  · cases hfree
  cases hfree
  have hp := Holders.held_erase_referenced hs
  obtain ⟨ho', hfresh⟩ := ho.release hp
  have hs₀ := List.mem_append_right (r.allFreeSlots h) (hp.subset (List.mem_cons_self _ _))
  have hU := hl.utilized_le _ hs₀
  intro t ht hne
  have hheld := Holders.mem_held_erase_referenced ht hne
  refine ⟨rawFreeWithThreadCache_slotSpan hc.toThreadsContract ho' hfresh _ _ t hheld, fun k hk => ?_⟩
  have hout := hl.outside (List.mem_append_right _ ht) hs₀ hne hk
  rw [rawFreeWithThreadCache_bytes hc ho' hfresh _ _ t hheld k hk, r.applyStores_of_outside fun st hst => ?_]
  split at hst
  · simp only [List.mem_singleton] at hst
    subst hst
    simp only [Store.start, storeLength]
    omega
  · cases hst

/-- A request writes only the slot it hands out or takes back: every slot live before
and after keeps its span and its bytes. -/
theorem step_kept (hc : r.MemoryContract slowPath callees)
    (hextras : r.extrasSize + 1 < 2 ^ r.buckets.kBitsPerSizeT) (ho : r.Owned h o) (hl : r.Laid h o)
    (hsized : r.Sized h o) {q : Request} (hstep : r.step slowPath callees pcscanMode h o q = .ok (h', o')) :
    ∀ s ∈ o.live, s ∈ o'.live → r.SlotKept h h' s := by
  rcases step_eq_ok hstep with ⟨_, _, out, -, hres, rfl, rfl⟩ | ⟨_, _, _, out, -, hres, rfl, rfl⟩ |
    ⟨_, _, out, -, hs, hf, rfl, rfl⟩ | ⟨_, out, -, hs, hf, rfl, rfl⟩
  · exact fun s hs _ => allocFlagsNoHooks_kept hc hextras ho hl hres s (Holders.mem_held_of_live hs)
  · exact fun s hs _ => alignedAllocFlags_kept hc hextras ho hl hres s (Holders.mem_held_of_live hs)
  · -- a slot still live is not the one freed
    refine fun s hs' hs'' => freeNoHooks_kept hc ho hl hsized hs hf s (Holders.mem_held_of_live hs') fun hptr heq => ?_
    rw [freeNoHooks_live hptr hf, heq] at hs''
    exact ho.nodup_live.not_mem_erase hs''
  · exact fun t ht _ => partitionAllocFreeForRefCounting_kept hc ho hl hs hf t (Holders.mem_held_of_live ht)
      (ho.live_ne_referenced ht hs)

theorem step_new {q : Request} (hstep : r.step slowPath callees pcscanMode h o q = .ok (h', o')) {s : Nat}
    (hs : s ∈ o'.live) (hold : s ∉ o.live) :
    ∃ flags n out p, r.allocFlagsNoHooks slowPath h flags n = .ok out ∧ out.ret = some p ∧ h' = out.heap ∧
      s = r.adjustPointerForExtrasSubtract p := by
  rcases step_eq_ok hstep with ⟨flags, n, out, -, hres, rfl, rfl⟩ | ⟨_, _, _, out, -, hres, rfl, rfl⟩ |
    ⟨_, _, out, -, -, -, rfl, rfl⟩ | ⟨_, out, -, -, -, rfl, rfl⟩
  · rcases hp : out.ret with _ | p <;> rw [hp] at hs
    · exact absurd hs hold
    · exact ⟨flags, n, out, p, hres, hp, rfl, (List.mem_cons.1 hs).resolve_right hold⟩
  · rcases alignedAllocFlags_noHooks hres with rfl | ⟨req, -, -, -, hn⟩
    · exact absurd hs hold
    rcases hp : out.ret with _ | p <;> rw [hp] at hs
    · exact absurd hs hold
    · exact ⟨{}, req, out, p, hn, hp, rfl, (List.mem_cons.1 hs).resolve_right hold⟩
  · exact absurd (Holders.mem_live_of_afterFree hs) hold
  · exact absurd hs hold

theorem sized_step (hc : r.MemoryContract slowPath callees)
    (hextras : r.extrasSize + 1 < 2 ^ r.buckets.kBitsPerSizeT) (ho : r.Owned h o) (hl : r.Laid h o)
    (hsized : r.Sized h o) {q : Request} (hstep : r.step slowPath callees pcscanMode h o q = .ok (h', o')) :
    r.Sized h' o' := fun s hs => by
  by_cases hold : s ∈ o.live
  · rw [(step_kept hc hextras ho hl hsized hstep s hold hs).1]
    exact hsized s hold
  · obtain ⟨flags, n, out, p, hres, hp, rfl, rfl⟩ := step_new hstep hs hold
    have := (allocFlagsNoHooks_new hc hextras ho hres hp).2.1
    omega

theorem guarded_step (hc : r.MemoryContract slowPath callees)
    (hextras : r.extrasSize + 1 < 2 ^ r.buckets.kBitsPerSizeT) (ho : r.Owned h o) (hl : r.Laid h o)
    (hk : r.Guarded h o) {q : Request} (hstep : r.step slowPath callees pcscanMode h o q = .ok (h', o')) :
    r.Guarded h' o' := fun hon s hs => by
  have hsized : r.Sized h o := fun t ht => (hk hon t ht).1
  by_cases hold : s ∈ o.live
  · exact hk.kept hl hold (step_kept hc hextras ho hl hsized hstep s hold hs) hon
  · obtain ⟨flags, n, out, p, hres, hp, rfl, rfl⟩ := step_new hstep hs hold
    obtain ⟨-, hsize, hcook⟩ := allocFlagsNoHooks_new hc hextras ho hres hp
    exact ⟨by omega, hcook hon⟩

/-- From a guarded state the program frees any of its allocations without a crash: the
pointer is one it holds, and both cookies hold the pattern. -/
theorem step_free_of_guarded (hk : r.Guarded h o) {s : Nat} (hs : s ∈ o.live) (zeroRandomly : Bool) :
    ∃ h' o', r.step slowPath callees pcscanMode h o (.free (s + r.extrasOffset) zeroRandomly) = .ok (h', o') := by
  have hslot : r.adjustPointerForExtrasSubtract (s + r.extrasOffset) = s := Nat.add_sub_cancel s r.extrasOffset
  obtain ⟨out, hout⟩ : ∃ out, r.freeNoHooks callees pcscanMode zeroRandomly h (s + r.extrasOffset) = .ok out := by
    unfold freeNoHooks
    split
    · exact ⟨_, rfl⟩
    split
    · exact ⟨_, rfl⟩
    refine ⟨_, freeNoHooksImmediate_eq_ok_iff.2 ⟨checkCookies_eq_ok_iff.2 fun hon => ?_, rfl⟩⟩
    obtain ⟨-, hcook⟩ := hk hon s hs
    exact ⟨cookieIntact_iff.2 fun i hi => (hcook i hi).1, cookieIntact_iff.2 fun i hi => (hcook i hi).2⟩
  refine ⟨out.2, o.afterFree s out.1, ?_⟩
  simp only [step, hslot, hs, not_true_eq_false, and_false, if_false, hout]
  rfl

end Steps

/-! ## Every interleaving of in-bounds accesses keeps the process guarded -/

/-- Each thread sees the live allocations guarded. -/
def ProcessGuarded (threads : List Nat) (g : Process) (o : Holders) : Prop :=
  ∀ t ∈ threads, r.Guarded (g.heapOf t) o

/-- What a process keeps over every interleaving: each thread sees it owned, laid out
and guarded. -/
structure ProcessSafe (threads : List Nat) (g : Process) (o : Holders) : Prop where
  owned : r.ProcessOwned threads g o
  laid : r.ProcessLaid threads g o
  guarded : r.ProcessGuarded threads g o

section Run

variable {r slowPath callees pcscanMode} {threads : List Nat} {g g' : Process} {o o' : Holders}

theorem accessStep_call {t : Nat} {q : Request} :
    r.accessStep slowPath callees pcscanMode g o (t, .call q) = r.threadStep slowPath callees pcscanMode g o (t, q) :=
  rfl

theorem accessStep_write {t addr : Nat} (hin : r.InUse (g.heapOf t) o addr) (byte : UInt8) :
    r.accessStep slowPath callees pcscanMode g o (t, .write addr byte) =
      .ok ({ g with memory := Function.update g.memory addr byte }, o) :=
  if_pos hin

theorem runAccesses_cons_of_accessStep {acc : Nat × Access} {g₁ : Process} {o₁ : Holders}
    (hs : r.accessStep slowPath callees pcscanMode g o acc = .ok (g₁, o₁)) (accs : List (Nat × Access)) :
    r.runAccesses slowPath callees pcscanMode g o (acc :: accs) = r.runAccesses slowPath callees pcscanMode g₁ o₁ accs := by
  rw [runAccesses, hs]
  rfl

theorem processGuarded_threadStep (hc : r.MemoryContract slowPath callees)
    (hextras : r.extrasSize + 1 < 2 ^ r.buckets.kBitsPerSizeT) (hsafe : r.ProcessSafe threads g o)
    {req : Nat × Request} (ht : req.1 ∈ threads)
    (hstep : r.threadStep slowPath callees pcscanMode g o req = .ok (g', o')) : r.ProcessGuarded threads g' o' := by
  obtain ⟨t, q⟩ := req
  obtain ⟨⟨h', o₁⟩, hs, hout⟩ := except_bind_eq_ok hstep
  cases hout
  have hk := guarded_step hc hextras (hsafe.owned t ht) (hsafe.laid t ht) (hsafe.guarded t ht)
    (step_otherThreadCaches hs (r.otherThreadCaches threads g t))
  exact fun _ _ => hk

theorem processSafe_accessStep (hc : r.MemoryContract slowPath callees)
    (hextras : r.extrasSize + 1 < 2 ^ r.buckets.kBitsPerSizeT) (hthreads : threads.Nodup)
    (hsafe : r.ProcessSafe threads g o) {acc : Nat × Access} (ht : acc.1 ∈ threads)
    (hstep : r.accessStep slowPath callees pcscanMode g o acc = .ok (g', o')) : r.ProcessSafe threads g' o' := by
  obtain ⟨t, q | ⟨addr, byte⟩⟩ := acc
  · exact ⟨processOwned_threadStep hc.toThreadsContract hthreads hsafe.owned ht hstep,
      processLaid_threadStep hc.toLayoutContract hthreads hsafe.owned hsafe.laid ht hstep,
      processGuarded_threadStep hc hextras hsafe ht hstep⟩
  · simp only [accessStep] at hstep
    split at hstep
    · rename_i hin
      cases hstep
      -- a store changes memory only: what each thread owns and where its slots lie stay
      refine ⟨fun t' ht' => (hsafe.owned t' ht').memory _, hsafe.laid, fun t' ht' => ?_⟩
      exact Guarded.write (o := { o with otherThreadCaches := r.otherThreadCaches threads g t' })
        (hsafe.guarded t' ht') (hsafe.laid t' ht') hin byte
    · cases hstep

theorem runAccesses_safe (hc : r.MemoryContract slowPath callees)
    (hextras : r.extrasSize + 1 < 2 ^ r.buckets.kBitsPerSizeT) (hthreads : threads.Nodup)
    (hsafe : r.ProcessSafe threads g o) {accs : List (Nat × Access)} (haccs : ∀ acc ∈ accs, acc.1 ∈ threads)
    (hrun : r.runAccesses slowPath callees pcscanMode g o accs = .ok (g', o')) : r.ProcessSafe threads g' o' := by
  induction accs generalizing g o with
  | nil =>
    cases hrun
    exact hsafe
  | cons acc accs ih =>
    obtain ⟨⟨g₂, o₂⟩, hs, hrun⟩ := except_bind_eq_ok hrun
    exact ih (processSafe_accessStep hc hextras hthreads hsafe (haccs acc (List.mem_cons_self _ _)) hs)
      (fun acc' hacc' => haccs acc' (List.mem_cons_of_mem _ hacc')) hrun

/-- After every interleaving of the threads' accesses that stays in the usable bytes of
the program's allocations, from a process every thread sees owned, laid out and
guarded, any thread frees each live allocation without a crash: the cookies around it
hold the pattern, so a cookie check fires only after a store out of bounds. -/
theorem runAccesses_free_live (hc : r.MemoryContract slowPath callees)
    (hextras : r.extrasSize + 1 < 2 ^ r.buckets.kBitsPerSizeT) (hthreads : threads.Nodup)
    (hsafe : r.ProcessSafe threads g o) {accs : List (Nat × Access)} (haccs : ∀ acc ∈ accs, acc.1 ∈ threads)
    (hrun : r.runAccesses slowPath callees pcscanMode g o accs = .ok (g', o')) {t s : Nat} (ht : t ∈ threads)
    (hs : s ∈ o'.live) (zeroRandomly : Bool) :
    ∃ g'' o'', r.threadStep slowPath callees pcscanMode g' o' (t, .free (s + r.extrasOffset) zeroRandomly) =
      .ok (g'', o'') := by
  obtain ⟨h'', o'', hstep⟩ : ∃ h'' o'', r.step slowPath callees pcscanMode (g'.heapOf t) o'
      (.free (s + r.extrasOffset) zeroRandomly) = .ok (h'', o'') :=
    step_free_of_guarded ((runAccesses_safe hc hextras hthreads hsafe haccs hrun).guarded t ht) hs zeroRandomly
  exact ⟨_, _, threadStep_of_step hstep⟩

end Run

/-! ## Instances -/

/-- The slow path that carves new slots and the callees that push a freed slot write no
byte of a slot. -/
theorem memoryContract_carving (poolStart : Nat) : r.MemoryContract (r.carvingSlowPath poolStart) r.pushCallees where
  toLayoutContract := r.layoutContract_carving poolStart
  toSlowPathContract := r.carvingSlowPath_contract poolStart
  slowPath_bytes h o i flags rawSize out h' _ hs := by
    rcases carvingSlowPath_eq_ok hs with ⟨-, rfl, -⟩ | ⟨_, -, -, rfl⟩ <;> exact fun _ _ _ _ => rfl
  slotSpanFree_bytes h o s _ _ := by
    simp only [pushCallees]
    split
    · split <;> exact fun _ _ _ _ => rfl
    · exact fun _ _ _ _ => rfl
  maybePutInCache_bytes h o s i h' _ _ hput := by
    simp only [pushCallees] at hput
    split at hput
    · cases hput
      exact fun _ _ _ _ => rfl
    · cases hput
  moveToQuarantine_bytes _ _ _ := fun _ _ _ _ => rfl
  releaseFromAllocator_memory _ _ _ _ := rfl

theorem processSafe_empty (threads : List Nat) (byte : UInt8) :
    r.ProcessSafe threads (Process.ofHeap (Heap.empty byte)) ⟨[], [], [], []⟩ :=
  ⟨r.processOwned_empty threads byte, r.processLaid_empty threads byte,
    fun _ _ _ _ hs => absurd hs (List.not_mem_nil _)⟩

end PartitionRoot

/-- On `debugRoot64`, which has no thread cache, with no slot yet: thread 0 allocates 96
bytes, carving the slot at 65536, and thread 1 stores a byte at the allocation's last
usable byte. -/
theorem debugRoot64_alloc_write :
    ∃ g' o', debugRoot64.runAccesses (debugRoot64.carvingSlowPath 65536) debugRoot64.pushCallees .kDisabled
        (Process.ofHeap (Heap.empty 0)) ⟨[], [], [], []⟩
        [(0, .call (.alloc {} 96)), (1, .write 65647 7)] = .ok (g', o') ∧ 65536 ∈ o'.live := by
  have hraw : debugRoot64.allocRawSize 96 = debugRoot64.buckets.bucketSize 24 := by decide
  have hi : debugRoot64.buckets.sizeToBucketIndex (debugRoot64.allocRawSize 96) = some 24 := by
    rw [hraw]
    exact debugRoot64.buckets.getIndex_bucketSize (by decide) (by decide)
  have hacq : debugRoot64.acquireSlot (debugRoot64.carvingSlowPath 65536)
      ((Process.ofHeap (Heap.empty 0)).heapOf 0) 24 {} (debugRoot64.allocRawSize 96) =
      .ok (some ⟨65536, (debugRoot64.bucketAt 24).slotSize, false⟩,
        ((Process.ofHeap (Heap.empty 0)).heapOf 0).carve 65536 ⟨.bucket 24, none⟩) := by
    rw [hraw]
    rfl
  have hres := debugRoot64.allocFlagsNoHooks_of_acquireSlot (by rw [hraw]; decide) hi hacq
  obtain ⟨g₁, o₁, halloc, hlive, hspan⟩ : ∃ g₁ o₁, debugRoot64.accessStep (debugRoot64.carvingSlowPath 65536)
      debugRoot64.pushCallees .kDisabled (Process.ofHeap (Heap.empty 0)) ⟨[], [], [], []⟩
      (0, .call (.alloc {} 96)) = .ok (g₁, o₁) ∧ o₁.live = [65536] ∧
      g₁.slotSpan = Function.update (fun _ => ⟨.bucket 0, none⟩) 65536 ⟨.bucket 24, none⟩ :=
    ⟨_, _, PartitionRoot.threadStep_of_step (by rw [PartitionRoot.step, hres]; rfl), by rfl, by rfl⟩
  -- thread 1 stores at 65536 + 16 + 95, the last of the 96 usable bytes
  have hin : debugRoot64.InUse (g₁.heapOf 1) o₁ 65647 := by
    simp only [PartitionRoot.InUse, PartitionRoot.getUsableSize, Process.heapOf, hspan, hlive]
    decide
  exact ⟨_, o₁, (PartitionRoot.runAccesses_cons_of_accessStep halloc [(1, .write 65647 7)]).trans
    ((PartitionRoot.runAccesses_cons_of_accessStep (PartitionRoot.accessStep_write hin 7) []).trans rfl),
    by rw [hlive]; decide⟩

/-- On `debugRoot64`, with two threads and no slot yet: thread 0 allocates 96 bytes,
carving the slot at 65536, thread 1 stores a byte at the allocation's last usable byte,
and thread 1 then frees it. -/
theorem runAccesses_free_live_last_byte :
    ∃ g' o', debugRoot64.MemoryContract (debugRoot64.carvingSlowPath 65536) debugRoot64.pushCallees ∧
      debugRoot64.extrasSize + 1 < 2 ^ debugRoot64.buckets.kBitsPerSizeT ∧ [0, 1].Nodup ∧
      debugRoot64.ProcessSafe [0, 1] (Process.ofHeap (Heap.empty 0)) ⟨[], [], [], []⟩ ∧
      (∀ acc ∈ [((0 : Nat), Access.call (.alloc {} 96)), (1, .write 65647 7)], acc.1 ∈ [0, 1]) ∧
      debugRoot64.runAccesses (debugRoot64.carvingSlowPath 65536) debugRoot64.pushCallees .kDisabled
        (Process.ofHeap (Heap.empty 0)) ⟨[], [], [], []⟩
        [(0, .call (.alloc {} 96)), (1, .write 65647 7)] = .ok (g', o') ∧
      1 ∈ [0, 1] ∧ 65536 ∈ o'.live ∧
      ∃ g'' o'', debugRoot64.threadStep (debugRoot64.carvingSlowPath 65536) debugRoot64.pushCallees .kDisabled g' o'
        (1, .free (65536 + debugRoot64.extrasOffset) false) = .ok (g'', o'') := by
  have hc := debugRoot64.memoryContract_carving 65536
  have hextras : debugRoot64.extrasSize + 1 < 2 ^ debugRoot64.buckets.kBitsPerSizeT := by decide
  have hthreads : [0, 1].Nodup := by decide
  have hsafe := debugRoot64.processSafe_empty [0, 1] 0
  have haccs : ∀ acc ∈ [((0 : Nat), Access.call (.alloc {} 96)), (1, .write 65647 7)], acc.1 ∈ [0, 1] := by
    decide
  have ht : (1 : Nat) ∈ [0, 1] := by decide
  obtain ⟨g', o', hrun, hs⟩ := debugRoot64_alloc_write
  exact ⟨g', o', hc, hextras, hthreads, hsafe, haccs, hrun, ht, hs,
    PartitionRoot.runAccesses_free_live hc hextras hthreads hsafe haccs hrun ht hs false⟩

end PartitionAlloc
