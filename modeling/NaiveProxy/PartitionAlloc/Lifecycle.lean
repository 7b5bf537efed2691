import NaiveProxy.PartitionAlloc.Free
import NaiveProxy.PartitionAlloc.AlignedAlloc
import Mathlib.Data.List.Perm.Basic
import Mathlib.Data.List.Nodup

/-!
# Who holds a slot: the allocator never hands out a slot in use

A slot outside the allocator is held by the program (allocated and not yet freed),
by a ref-count (the program freed it while a reference into it was left), by PCScan's
quarantine, or, as one thread sees it, by another thread's cache. The code keeps no list of these holders; they are ghost state,
`Holders`, beside the heap, and a run is a list of requests: allocations (plain or
aligned), frees of pointers the program holds, and the last reference to a slot going
away.

`Owned` says that the free slots an allocation takes without the slow path (each
bucket's thread-cache bin and active freelist) are slots of that bucket, none twice
and none held, that no slot is held twice, and that every free or held slot has been
provisioned. The slow path, the span's `Free` and the thread cache keep it, which is
their contract (`LifecycleContract`): a slow path that carves a slot past every
provisioned one meets it (`lifecycleContract_carving`). Everything `partition_root.h`
does between them is proved to keep it. Then:

    run_owned   every run of allocations and frees from an owned state ends in an
                owned state: no slot is handed out while the program, a ref-count
                or the quarantine holds it, and none is held twice
-/

namespace PartitionAlloc

/-- The free slots an allocation from bucket `i` takes without the slow path: the
thread cache's bin, then the active span's freelist. -/
def Heap.freeSlots (h : Heap) (i : Nat) : List Nat :=
  (h.threadCache.getD fun _ => []) i ++ h.freelist i

/-- The slots outside the allocator, by slot start. -/
structure Holders where
  /-- Allocated to the program and not freed. -/
  live : List Nat
  /-- Freed by the program while a reference was left. -/
  referenced : List Nat
  /-- In PCScan's quarantine. -/
  quarantined : List Nat
  /-- In another thread's cache: allocated as far as the span knows, and out of this
  thread's reach. -/
  otherThreadCaches : List Nat
deriving DecidableEq, Repr

namespace Holders

/-- Every slot some holder has. -/
def held (o : Holders) : List Nat := o.live ++ o.referenced ++ o.quarantined ++ o.otherThreadCaches

/-- The holders after an allocation that returned the slot at `slotStart`, or null. -/
def afterAlloc (o : Holders) : Option Nat → Holders
  | some slotStart => { o with live := slotStart :: o.live }
  | none => o

/-- The holders after a free of the slot at `slotStart` that ended in `fate`. -/
def afterFree (o : Holders) (slotStart : Nat) : FreeFate → Holders
  | .nothing => o
  | .quarantined => { o with live := o.live.erase slotStart, quarantined := slotStart :: o.quarantined }
  | .stillReferenced => { o with live := o.live.erase slotStart, referenced := slotStart :: o.referenced }
  | .threadCache | .slotSpan => { o with live := o.live.erase slotStart }

end Holders

/-- A provisioned slot that is neither held nor free. -/
structure Fresh (h : Heap) (o : Holders) (slotStart : Nat) : Prop where
  not_held : slotStart ∉ o.held
  not_free : ∀ i, slotStart ∉ h.freeSlots i
  provisioned : slotStart ∈ h.provisioned

theorem Fresh.memory {h : Heap} {o : Holders} {s : Nat} (hs : Fresh h o s) (memory : Nat → UInt8) :
    Fresh { h with memory } o s :=
  ⟨hs.not_held, hs.not_free, hs.provisioned⟩

/-- A request of a run. -/
inductive Request
  /-- `AllocFlagsNoHooks(flags, requested_size)`. -/
  | alloc (flags : AllocFlags) (requestedSize : Nat)
  /-- `AlignedAllocFlags(flags, alignment, size)`, with no hooks installed. -/
  | alignedAlloc (flags : AllocFlags) (alignment size : Nat)
  /-- `FreeNoHooks(ptr)`, with whether `RandomPeriod()` fires under `ZERO_RANDOMLY_ON_FREE`. -/
  | free (ptr : Nat) (zeroRandomly : Bool)
  /-- The last reference to a slot goes, and its ref-count calls
  `PartitionAllocFreeForRefCounting(slot_start)`. -/
  | lastReferenceGone (slotStart : Nat)
deriving DecidableEq, Repr

/-! ## The holders -/

section Holders

variable {o : Holders} {s : Nat}

theorem Holders.held_afterAlloc_some : (o.afterAlloc (some s)).held = s :: o.held := rfl

theorem Holders.held_afterFree_perm (hs : s ∈ o.live) {fate : FreeFate}
    (hfate : fate = .quarantined ∨ fate = .stillReferenced) : (o.afterFree s fate).held.Perm o.held := by
  have hlive : (s :: o.live.erase s ++ o.referenced ++ o.quarantined ++ o.otherThreadCaches).Perm o.held :=
    (((List.perm_cons_erase hs).symm.append_right _).append_right _).append_right _
  rcases hfate with rfl | rfl
  · exact (List.perm_middle.append_right _).trans hlive
  · exact ((List.perm_middle.append_right _).append_right _).trans hlive

theorem Holders.held_afterFree_released (hs : s ∈ o.live) {fate : FreeFate}
    (hfate : fate = .threadCache ∨ fate = .slotSpan) : (s :: (o.afterFree s fate).held).Perm o.held := by
  rcases hfate with rfl | rfl <;>
    exact (((List.perm_cons_erase hs).symm.append_right _).append_right _).append_right _

theorem Holders.held_erase_referenced (hs : s ∈ o.referenced) :
    (s :: ({ o with referenced := o.referenced.erase s } : Holders).held).Perm o.held := by
  simp only [Holders.held]
  refine List.Perm.trans ?_ ((((List.perm_cons_erase hs).symm.append_left o.live).append_right _).append_right _)
  exact ((List.perm_middle.append_right _).append_right _).symm.trans
    (by simp only [List.append_assoc, List.Perm.refl])

end Holders

namespace PartitionRoot

variable (r : PartitionRoot) (slowPath : SlowPath) (callees : FreeCallees) (pcscanMode : PCScanMode)

/-- Every free slot of bucket `i` is a slot of bucket `i`, no bucket's free slots
repeat, no slot is held twice, no free slot is held, and every free or held slot has
been provisioned. -/
structure Owned (h : Heap) (o : Holders) : Prop where
  span : ∀ i s, s ∈ h.freeSlots i → i < r.buckets.kNumBuckets ∧ h.slotSpan s = ⟨.bucket i, none⟩
  nodup_freeSlots : ∀ i, (h.freeSlots i).Nodup
  nodup_held : o.held.Nodup
  not_held : ∀ i s, s ∈ h.freeSlots i → s ∉ o.held
  free_provisioned : ∀ i s, s ∈ h.freeSlots i → s ∈ h.provisioned
  held_provisioned : ∀ s ∈ o.held, s ∈ h.provisioned

/-- What the lifecycle needs of the code `src/` does not have: the slow path hands out
a fresh slot and keeps the free slots owned; `SlotSpanMetadata::Free` and
`MaybePutInCache` take a fresh slot and keep them owned; PCScan's quarantine leaves
the free slots, the span metadata and the provisioned slots alone. -/
structure LifecycleContract : Prop where
  slowPath_none : ∀ h o i flags rawSize h', r.Owned h o →
    slowPath h i flags rawSize = .ok (none, h') → r.Owned h' o
  slowPath_some : ∀ h o i flags rawSize s h', r.Owned h o →
    slowPath h i flags rawSize = .ok (some s, h') → r.Owned h' o ∧ Fresh h' o s.slotStart
  slotSpanFree : ∀ h o s, r.Owned h o → Fresh h o s → r.Owned (callees.slotSpanFree h s) o
  maybePutInCache : ∀ h o s i h', r.Owned h o → Fresh h o s →
    callees.maybePutInCache h s i = some h' → r.Owned h' o
  moveToQuarantine : ∀ h s, (callees.moveToQuarantine h s).freeSlots = h.freeSlots ∧
    (callees.moveToQuarantine h s).slotSpan = h.slotSpan ∧
    (callees.moveToQuarantine h s).provisioned = h.provisioned

/-- One request: an allocation, whose slot the program then holds; a free, which is
undefined for a pointer whose slot the program does not hold; or the last reference
to a slot a ref-count holds going away. -/
def step (h : Heap) (o : Holders) : Request → Except Crash (Heap × Holders)
  | .alloc flags requestedSize => do
    let out ← r.allocFlagsNoHooks slowPath h flags requestedSize
    pure (out.heap, o.afterAlloc (out.ret.map r.adjustPointerForExtrasSubtract))
  | .alignedAlloc flags alignment size => do
    let out ← r.alignedAllocFlags slowPath noHooks h flags alignment size
    pure (out.heap, o.afterAlloc (out.ret.map r.adjustPointerForExtrasSubtract))
  | .free ptr zeroRandomly =>
    if ptr ≠ 0 ∧ r.adjustPointerForExtrasSubtract ptr ∉ o.live then
      throw (.undefinedBehavior "Free of a pointer the program does not hold")
    else do
      let out ← r.freeNoHooks callees pcscanMode zeroRandomly h ptr
      pure (out.2, o.afterFree (r.adjustPointerForExtrasSubtract ptr) out.1)
  | .lastReferenceGone slotStart =>
    if slotStart ∉ o.referenced then
      throw (.undefinedBehavior "a release of a slot no ref-count holds")
    else do
      let out ← r.partitionAllocFreeForRefCounting callees h slotStart
      pure (out.2, { o with referenced := o.referenced.erase slotStart })

/-- The requests in order, stopping at the first crash. -/
def run (h : Heap) (o : Holders) : List Request → Except Crash (Heap × Holders)
  | [] => pure (h, o)
  | q :: qs => do
    let (h, o) ← r.step slowPath callees pcscanMode h o q
    run h o qs

/-! ## What keeps the free slots owned -/

section Owned

variable {r slowPath callees} {h h' : Heap} {o o' : Holders} {s : Nat}

theorem Owned.of_freeSlots (ho : r.Owned h o) (hf : h'.freeSlots = h.freeSlots)
    (hs : h'.slotSpan = h.slotSpan) (hp : h'.provisioned = h.provisioned) : r.Owned h' o where
  span i t ht := by rw [hs]; exact ho.span i t (hf ▸ ht)
  nodup_freeSlots i := hf ▸ ho.nodup_freeSlots i
  nodup_held := ho.nodup_held
  not_held i t ht := ho.not_held i t (hf ▸ ht)
  free_provisioned i t ht := hp ▸ ho.free_provisioned i t (hf ▸ ht)
  held_provisioned t ht := hp ▸ ho.held_provisioned t ht

theorem Owned.memory (ho : r.Owned h o) (memory : Nat → UInt8) : r.Owned { h with memory } o :=
  ho.of_freeSlots rfl rfl rfl

theorem Owned.perm (ho : r.Owned h o) (hp : o'.held.Perm o.held) : r.Owned h o' where
  span := ho.span
  nodup_freeSlots := ho.nodup_freeSlots
  nodup_held := hp.nodup_iff.2 ho.nodup_held
  not_held i t ht hmem := ho.not_held i t ht (hp.subset hmem)
  free_provisioned := ho.free_provisioned
  held_provisioned t ht := ho.held_provisioned t (hp.subset ht)

theorem Owned.release (ho : r.Owned h o) (hp : (s :: o'.held).Perm o.held) :
    r.Owned h o' ∧ Fresh h o' s := by
  have hnd := List.nodup_cons.1 (hp.nodup_iff.2 ho.nodup_held)
  have hheld : ∀ t ∈ o'.held, t ∈ o.held := fun t ht => hp.subset (List.mem_cons_of_mem _ ht)
  have hs : s ∈ o.held := hp.subset (List.mem_cons_self _ _)
  exact ⟨⟨ho.span, ho.nodup_freeSlots, hnd.2, fun i t ht hmem => ho.not_held i t ht (hheld t hmem),
    ho.free_provisioned, fun t ht => ho.held_provisioned t (hheld t ht)⟩,
    ⟨hnd.1, fun i hmem => ho.not_held i s hmem hs, ho.held_provisioned s hs⟩⟩

theorem Owned.take_fresh (ho : r.Owned h o) (hs : Fresh h o s) : r.Owned h (o.afterAlloc (some s)) where
  span := ho.span
  nodup_freeSlots := ho.nodup_freeSlots
  nodup_held := List.nodup_cons.2 ⟨hs.not_held, ho.nodup_held⟩
  not_held i t ht hmem := by
    rcases List.mem_cons.1 hmem with rfl | hmem
    · exact hs.not_free i ht
    · exact ho.not_held i t ht hmem
  free_provisioned := ho.free_provisioned
  held_provisioned t ht := by
    rcases List.mem_cons.1 ht with rfl | ht
    · exact hs.provisioned
    · exact ho.held_provisioned t ht

theorem Owned.not_mem_freeSlots (ho : r.Owned h o) {i j : Nat} (hs : s ∈ h.freeSlots i) (hij : j ≠ i) :
    s ∉ h.freeSlots j := fun hsj => by
  have := (ho.span j s hsj).2.symm.trans (ho.span i s hs).2
  simp only [SlotSpan.mk.injEq, SpanBucket.bucket.injEq, and_true] at this
  exact hij this

theorem Owned.take (ho : r.Owned h o) {i : Nat} (hs : s ∈ h.freeSlots i) (hspan : h'.slotSpan = h.slotSpan)
    (hprov : h'.provisioned = h.provisioned) (hfree : ∀ j, h'.freeSlots j = (h.freeSlots j).erase s) :
    r.Owned h' (o.afterAlloc (some s)) where
  span j t ht := by
    rw [hspan]
    exact ho.span j t (List.mem_of_mem_erase (hfree j ▸ ht))
  nodup_freeSlots j := hfree j ▸ (ho.nodup_freeSlots j).erase s
  nodup_held := List.nodup_cons.2 ⟨ho.not_held i s hs, ho.nodup_held⟩
  not_held j t ht hmem := by
    rw [hfree j, (ho.nodup_freeSlots j).mem_erase_iff] at ht
    rcases List.mem_cons.1 hmem with rfl | hmem
    · exact ht.1 rfl
    · exact ho.not_held j t ht.2 hmem
  free_provisioned j t ht := hprov ▸ ho.free_provisioned j t (List.mem_of_mem_erase (hfree j ▸ ht))
  held_provisioned t ht := by
    rw [hprov]
    rcases List.mem_cons.1 ht with rfl | ht
    · exact ho.free_provisioned i t hs
    · exact ho.held_provisioned t ht

theorem Owned.take_head (ho : r.Owned h o) {i : Nat} {front rest : List Nat}
    (hi : h.freeSlots i = front ++ s :: rest) (hspan : h'.slotSpan = h.slotSpan)
    (hprov : h'.provisioned = h.provisioned)
    (hfree : ∀ j, h'.freeSlots j = if j = i then front ++ rest else h.freeSlots j) :
    r.Owned h' (o.afterAlloc (some s)) := by
  have hs : s ∈ h.freeSlots i := hi ▸ List.mem_append_right _ (List.mem_cons_self _ _)
  refine ho.take hs hspan hprov fun j => ?_
  rw [hfree j]
  split
  · subst j
    have hfront : s ∉ front := fun hf => (List.nodup_append.1 (hi ▸ ho.nodup_freeSlots i)).2.2 hf
      (List.mem_cons_self _ _)
    rw [hi, List.erase_append_right _ hfront, List.erase_cons_head]
  · exact (List.erase_of_not_mem (ho.not_mem_freeSlots hs ‹_›)).symm

end Owned

/-! ## Each step keeps the free slots owned -/

section Steps

variable {r slowPath callees pcscanMode} {h h' : Heap} {o o' : Holders}

theorem owned_allocFromBucket (hc : r.LifecycleContract slowPath callees) (ho : r.Owned h o) {i rawSize : Nat}
    {flags : AllocFlags} {res : Option Acquired}
    (hacq : r.allocFromBucket slowPath h i flags rawSize = .ok (res, h')) :
    r.Owned h' (o.afterAlloc (res.map Acquired.slotStart)) := by
  unfold allocFromBucket at hacq
  split at hacq
  · rename_i slot rest hfl
    cases hacq
    have hi : h.freeSlots i = (h.threadCache.getD fun _ => []) i ++ slot :: rest := by rw [Heap.freeSlots, hfl]
    refine ho.take_head hi rfl rfl fun j => ?_
    by_cases hj : j = i
    · subst j
      simp only [Heap.freeSlots, Function.update_same, if_true]
    · simp only [Heap.freeSlots, Function.update_noteq hj, if_neg hj]
  · rcases hs : slowPath h i flags rawSize with e | ⟨_ | s, h''⟩ <;> rw [hs] at hacq <;> cases hacq
    · exact hc.slowPath_none _ _ _ _ _ _ ho hs
    · obtain ⟨ho', hfresh⟩ := hc.slowPath_some _ _ _ _ _ _ _ ho hs
      exact ho'.take_fresh hfresh

theorem owned_acquireSlot (hc : r.LifecycleContract slowPath callees) (ho : r.Owned h o) {i rawSize : Nat}
    {flags : AllocFlags} {res : Option Acquired}
    (hacq : r.acquireSlot slowPath h i flags rawSize = .ok (res, h')) :
    r.Owned h' (o.afterAlloc (res.map Acquired.slotStart)) := by
  unfold acquireSlot at hacq
  split at hacq
  · rcases hg : getFromCache (h.threadCache.getD fun _ => []) i with _ | ⟨slot, bins⟩ <;>
      simp only [hg] at hacq
    · exact owned_allocFromBucket hc (h := { h with threadCache := some (h.threadCache.getD fun _ => []) })
        (ho.of_freeSlots (by funext; simp [Heap.freeSlots]) rfl rfl) hacq
    · cases hacq
      obtain ⟨rest, hbi, rfl⟩ := getFromCache_eq_some hg
      have hi : h.freeSlots i = [] ++ slot :: (rest ++ h.freelist i) := by rw [Heap.freeSlots, hbi]; rfl
      refine ho.take_head hi rfl rfl fun j => ?_
      by_cases hj : j = i
      · subst j
        simp only [Heap.freeSlots, Option.getD_some, Function.update_same, if_true, List.nil_append]
      · simp only [Heap.freeSlots, Option.getD_some, Function.update_noteq hj, if_neg hj]
  · exact owned_allocFromBucket hc ho hacq

theorem owned_allocFlagsNoHooks (hc : r.LifecycleContract slowPath callees) (ho : r.Owned h o)
    {flags : AllocFlags} {n : Nat} {out : AllocOutcome}
    (hres : r.allocFlagsNoHooks slowPath h flags n = .ok out) :
    r.Owned out.heap (o.afterAlloc (out.ret.map r.adjustPointerForExtrasSubtract)) := by
  obtain ⟨-, i, -, h₁, ⟨hacq, rfl⟩ | ⟨a, hacq, rfl⟩⟩ := r.allocFlagsNoHooks_eq_ok hres
  · exact owned_acquireSlot hc ho hacq
  · have ho' := owned_acquireSlot hc ho hacq
    simp only [Option.map_some', adjustPointerForExtrasSubtract, Nat.add_sub_cancel] at ho' ⊢
    exact ho'.memory _

theorem owned_alignedAllocFlags (hc : r.LifecycleContract slowPath callees) (ho : r.Owned h o)
    {flags : AllocFlags} {alignment size : Nat} {out : AllocOutcome}
    (hres : r.alignedAllocFlags slowPath noHooks h flags alignment size = .ok out) :
    r.Owned out.heap (o.afterAlloc (out.ret.map r.adjustPointerForExtrasSubtract)) := by
  obtain ⟨req, -, ⟨-, -, rfl⟩ | ⟨-, hr⟩⟩ := alignedAllocFlags_eq_ok hres
  · exact ho
  · obtain ⟨-, ⟨-, hen, -⟩ | hn⟩ := alignedAllocRounded_eq_ok hr
    · cases hen
    · exact owned_allocFlagsNoHooks hc ho hn

theorem owned_rawFreeWithThreadCache (hc : r.LifecycleContract slowPath callees) (ho : r.Owned h o) {s : Nat}
    (hs : Fresh h o s) (memory : Nat → UInt8) (span : SlotSpan) :
    r.Owned (r.rawFreeWithThreadCache callees { h with memory } s span).2 o := by
  simp only [rawFreeWithThreadCache]
  split
  · rename_i h₂ hcached
    split at hcached
    · split at hcached
      · exact hc.maybePutInCache _ _ _ _ _ (ho.memory memory) (hs.memory memory) hcached
      · cases hcached
    · cases hcached
  · exact hc.slotSpanFree _ _ _ (ho.memory memory) (hs.memory memory)

theorem owned_rawFreeWithThreadCache_of_live (hc : r.LifecycleContract slowPath callees) (ho : r.Owned h o)
    {s : Nat} (hs : s ∈ o.live) (memory : Nat → UInt8) (span : SlotSpan) :
    r.Owned (r.rawFreeWithThreadCache callees { h with memory } s span).2
      (o.afterFree s (r.rawFreeWithThreadCache callees { h with memory } s span).1) := by
  obtain ⟨ho', hfresh⟩ := ho.release (o.held_afterFree_released hs (.inr (rfl : FreeFate.slotSpan = .slotSpan)))
  rcases @rawFreeWithThreadCache_fate r callees { h with memory } s span with hfate | hfate <;> rw [hfate] <;>
    exact owned_rawFreeWithThreadCache hc ho' hfresh memory span

theorem owned_freeAfterCookies (hc : r.LifecycleContract slowPath callees) (ho : r.Owned h o) {ptr : Nat}
    (hs : r.adjustPointerForExtrasSubtract ptr ∈ o.live) (zeroRandomly : Bool) :
    r.Owned (r.freeAfterCookies callees zeroRandomly h ptr).2
      (o.afterFree (r.adjustPointerForExtrasSubtract ptr) (r.freeAfterCookies callees zeroRandomly h ptr).1) := by
  simp only [freeAfterCookies]
  split
  · exact owned_rawFreeWithThreadCache_of_live hc ho hs _ _
  · exact (ho.perm (o.held_afterFree_perm hs (.inr rfl))).memory _

/-- A free keeps the free slots owned and moves the slot to its new holder. -/
theorem owned_freeNoHooks (hc : r.LifecycleContract slowPath callees) (ho : r.Owned h o) {ptr : Nat}
    (hs : ptr ≠ 0 → r.adjustPointerForExtrasSubtract ptr ∈ o.live) {zeroRandomly : Bool}
    {out : FreeFate × Heap} (hfree : r.freeNoHooks callees pcscanMode zeroRandomly h ptr = .ok out) :
    r.Owned out.2 (o.afterFree (r.adjustPointerForExtrasSubtract ptr) out.1) := by
  unfold freeNoHooks at hfree
  split at hfree
  · cases hfree
    exact ho
  · rename_i hnull
    split at hfree
    · cases hfree
      exact (ho.perm (o.held_afterFree_perm (hs hnull) (.inl rfl))).of_freeSlots
        (hc.moveToQuarantine h ptr).1 (hc.moveToQuarantine h ptr).2.1 (hc.moveToQuarantine h ptr).2.2
    · obtain ⟨-, rfl⟩ := freeNoHooksImmediate_eq_ok_iff.1 hfree
      exact owned_freeAfterCookies hc ho (hs hnull) zeroRandomly

theorem owned_partitionAllocFreeForRefCounting (hc : r.LifecycleContract slowPath callees) (ho : r.Owned h o)
    {s : Nat} (hs : s ∈ o.referenced) {out : FreeFate × Heap}
    (hfree : r.partitionAllocFreeForRefCounting callees h s = .ok out) :
    r.Owned out.2 { o with referenced := o.referenced.erase s } := by
  unfold partitionAllocFreeForRefCounting at hfree
  split at hfree
  · cases hfree
  · cases hfree
    obtain ⟨ho', hfresh⟩ := ho.release (Holders.held_erase_referenced hs)
    exact owned_rawFreeWithThreadCache hc ho' hfresh _ _

/-- What a request that does not crash did: an allocation, plain or aligned; a free of
a pointer the program holds (or null); or the release of a slot a ref-count held. -/
theorem step_eq_ok {q : Request} (hstep : r.step slowPath callees pcscanMode h o q = .ok (h', o')) :
    (∃ flags n out, q = .alloc flags n ∧ r.allocFlagsNoHooks slowPath h flags n = .ok out ∧
      h' = out.heap ∧ o' = o.afterAlloc (out.ret.map r.adjustPointerForExtrasSubtract)) ∨
    (∃ flags alignment size out, q = .alignedAlloc flags alignment size ∧
      r.alignedAllocFlags slowPath noHooks h flags alignment size = .ok out ∧
      h' = out.heap ∧ o' = o.afterAlloc (out.ret.map r.adjustPointerForExtrasSubtract)) ∨
    (∃ ptr zeroRandomly out, q = .free ptr zeroRandomly ∧
      (ptr ≠ 0 → r.adjustPointerForExtrasSubtract ptr ∈ o.live) ∧
      r.freeNoHooks callees pcscanMode zeroRandomly h ptr = .ok out ∧
      h' = out.2 ∧ o' = o.afterFree (r.adjustPointerForExtrasSubtract ptr) out.1) ∨
    (∃ slotStart out, q = .lastReferenceGone slotStart ∧ slotStart ∈ o.referenced ∧
      r.partitionAllocFreeForRefCounting callees h slotStart = .ok out ∧
      h' = out.2 ∧ o' = { o with referenced := o.referenced.erase slotStart }) := by
  cases q with
  | alloc flags n =>
    obtain ⟨out, hres, hout⟩ := except_bind_eq_ok hstep
    cases hout
    exact .inl ⟨flags, n, out, rfl, hres, rfl, rfl⟩
  | alignedAlloc flags alignment size =>
    obtain ⟨out, hres, hout⟩ := except_bind_eq_ok hstep
    cases hout
    exact .inr (.inl ⟨flags, alignment, size, out, rfl, hres, rfl, rfl⟩)
  | free ptr zeroRandomly =>
    simp only [step] at hstep
    split at hstep
    · cases hstep
    · rename_i hguard
      obtain ⟨out, hf, hout⟩ := except_bind_eq_ok hstep
      cases hout
      exact .inr (.inr (.inl ⟨ptr, zeroRandomly, out, rfl,
        fun hp => Classical.not_not.1 fun hn => hguard ⟨hp, hn⟩, hf, rfl, rfl⟩))
  | lastReferenceGone s =>
    simp only [step] at hstep
    split at hstep
    · cases hstep
    · rename_i hs
      obtain ⟨out, hf, hout⟩ := except_bind_eq_ok hstep
      cases hout
      exact .inr (.inr (.inr ⟨s, out, rfl, Classical.not_not.1 hs, hf, rfl, rfl⟩))

theorem owned_step (hc : r.LifecycleContract slowPath callees) (ho : r.Owned h o) {q : Request}
    (hstep : r.step slowPath callees pcscanMode h o q = .ok (h', o')) : r.Owned h' o' := by
  rcases step_eq_ok hstep with ⟨_, _, out, -, hres, rfl, rfl⟩ | ⟨_, _, _, out, -, hres, rfl, rfl⟩ |
    ⟨_, _, out, -, hs, hf, rfl, rfl⟩ | ⟨_, out, -, hs, hf, rfl, rfl⟩
  · exact owned_allocFlagsNoHooks hc ho hres
  · exact owned_alignedAllocFlags hc ho hres
  · exact owned_freeNoHooks hc ho hs hf
  · exact owned_partitionAllocFreeForRefCounting hc ho hs hf

/-- Every run of allocations and frees from an owned state ends in an owned state: no
allocation hands out a slot the program, a ref-count or the quarantine holds, and no
slot is held twice. -/
theorem run_owned (hc : r.LifecycleContract slowPath callees) (ho : r.Owned h o) {reqs : List Request}
    (hrun : r.run slowPath callees pcscanMode h o reqs = .ok (h', o')) : r.Owned h' o' := by
  induction reqs generalizing h o with
  | nil =>
    cases hrun
    exact ho
  | cons q qs ih =>
    obtain ⟨⟨h₂, o₂⟩, hs, hrun⟩ := except_bind_eq_ok hrun
    exact ih (owned_step hc ho hs) hrun

end Steps

/-! ## Instances -/

section Instances

variable {r} {h h' : Heap} {o : Holders}

theorem Owned.give (ho : r.Owned h o) {s i : Nat} (hs : Fresh h o s) (hi : i < r.buckets.kNumBuckets)
    (hspan : h.slotSpan s = ⟨.bucket i, none⟩) (hspan' : h'.slotSpan = h.slotSpan)
    (hprov : h'.provisioned = h.provisioned)
    (hfree : ∀ j, (h'.freeSlots j).Perm (if j = i then s :: h.freeSlots j else h.freeSlots j)) :
    r.Owned h' o where
  span j t ht := by
    rw [hspan']
    have ht' := (hfree j).subset ht
    split at ht'
    · subst j
      rcases List.mem_cons.1 ht' with rfl | ht'
      · exact ⟨hi, hspan⟩
      · exact ho.span i t ht'
    · exact ho.span j t ht'
  nodup_freeSlots j := by
    refine (hfree j).nodup_iff.2 ?_
    split
    · exact List.nodup_cons.2 ⟨hs.not_free j, ho.nodup_freeSlots j⟩
    · exact ho.nodup_freeSlots j
  nodup_held := ho.nodup_held
  not_held j t ht := by
    have ht' := (hfree j).subset ht
    split at ht'
    · rcases List.mem_cons.1 ht' with rfl | ht'
      · exact hs.not_held
      · exact ho.not_held j t ht'
    · exact ho.not_held j t ht'
  free_provisioned j t ht := by
    rw [hprov]
    have ht' := (hfree j).subset ht
    split at ht'
    · rcases List.mem_cons.1 ht' with rfl | ht'
      · exact hs.provisioned
      · exact ho.free_provisioned j t ht'
    · exact ho.free_provisioned j t ht'
  held_provisioned t ht := hprov ▸ ho.held_provisioned t ht

/-- A slot carved past every provisioned slot is fresh, and the free slots stay owned. -/
theorem Owned.carve (ho : r.Owned h o) {slotStart : Nat} (hnew : slotStart ∉ h.provisioned) (span : SlotSpan) :
    r.Owned (h.carve slotStart span) o ∧ Fresh (h.carve slotStart span) o slotStart := by
  refine ⟨⟨fun i t ht => ?_, ho.nodup_freeSlots, ho.nodup_held, ho.not_held,
    fun i t ht => List.mem_cons_of_mem _ (ho.free_provisioned i t ht),
    fun t ht => List.mem_cons_of_mem _ (ho.held_provisioned t ht)⟩,
    ⟨fun hheld => hnew (ho.held_provisioned _ hheld), fun i hfree => hnew (ho.free_provisioned i _ hfree),
      List.mem_cons_self _ _⟩⟩
  have hne : t ≠ slotStart := fun heq => hnew (heq ▸ ho.free_provisioned i t ht)
  simp only [Heap.carve, Function.update_noteq hne]
  exact ho.span i t ht

variable (r)

theorem owned_oneFreeSlot {i : Nat} (hi : i < r.buckets.kNumBuckets) (slot : Nat) (byte : UInt8) :
    r.Owned (Heap.oneFreeSlot i slot byte) ⟨[], [], [], []⟩ where
  span j t ht := by
    simp only [Heap.freeSlots, Heap.oneFreeSlot, Option.getD_none, List.nil_append] at ht
    split at ht
    · subst j
      exact ⟨hi, rfl⟩
    · cases ht
  nodup_freeSlots j := by
    simp only [Heap.freeSlots, Heap.oneFreeSlot, Option.getD_none, List.nil_append]
    split <;> simp
  nodup_held := List.nodup_nil
  not_held _ _ _ := List.not_mem_nil _
  free_provisioned j t ht := by
    simp only [Heap.freeSlots, Heap.oneFreeSlot, Option.getD_none, List.nil_append] at ht
    split at ht
    · exact ht
    · cases ht
  held_provisioned _ h := nomatch h

theorem owned_empty (byte : UInt8) : r.Owned (Heap.empty byte) ⟨[], [], [], []⟩ where
  span _ _ h := nomatch h
  nodup_freeSlots _ := List.nodup_nil
  nodup_held := List.nodup_nil
  not_held _ _ h := nomatch h
  free_provisioned _ _ h := nomatch h
  held_provisioned _ h := nomatch h

/-- The slow path that carves new slots and the callees that push a freed slot keep
the free slots owned. -/
theorem lifecycleContract_carving (poolStart : Nat) :
    r.LifecycleContract (r.carvingSlowPath poolStart) r.pushCallees where
  slowPath_none h o i flags rawSize h' ho hs := by
    rcases carvingSlowPath_eq_ok hs with ⟨-, rfl, -⟩ | ⟨_, _, hsome, -⟩
    · exact ho
    · cases hsome
  slowPath_some h o i flags rawSize s h' ho hs := by
    rcases carvingSlowPath_eq_ok hs with ⟨hnone, -⟩ | ⟨span, -, ⟨⟩, rfl⟩
    · cases hnone
    · exact ho.carve (fun hp => (provisionedEnd_le_carved hp).2 rfl) span
  slotSpanFree h o s ho hs := by
    simp only [pushCallees]
    split
    · rename_i i hspan
      split
      · refine ho.give hs ‹_› hspan rfl rfl fun j => ?_
        by_cases hj : j = i
        · subst j
          simp only [Heap.freeSlots, Function.update_same, if_true]
          exact List.perm_middle
        · simp only [Heap.freeSlots, Function.update_noteq hj, if_neg hj, List.Perm.refl]
      · exact ho
    · exact ho
  maybePutInCache h o s i h' ho hs hput := by
    simp only [pushCallees] at hput
    split at hput
    · rename_i hcond
      cases hput
      rcases htc : h.threadCache with _ | bins
      · exact ho.of_freeSlots (funext fun j => by simp [Heap.freeSlots, htc]) rfl rfl
      · refine ho.give hs hcond.1 hcond.2 rfl rfl fun j => ?_
        by_cases hj : j = i
        · subst j
          simp only [Heap.freeSlots, htc, Option.map_some', Option.getD_some, Function.update_same, if_true,
            List.cons_append, List.Perm.refl]
        · simp only [Heap.freeSlots, htc, Option.map_some', Option.getD_some, Function.update_noteq hj, if_neg hj,
            List.Perm.refl]
    · cases hput
  moveToQuarantine _ _ := ⟨rfl, rfl, rfl⟩

end Instances

end PartitionRoot

/-- On `root64`, from a heap with no slot: an allocation of 112 bytes carves the slot at
65536 for bucket 24, and its free puts the slot in the thread cache. -/
theorem run_owned_alloc_free :
    ∃ h' o', root64.LifecycleContract (root64.carvingSlowPath 65536) root64.pushCallees ∧
      root64.Owned (Heap.empty 0) ⟨[], [], [], []⟩ ∧
      root64.run (root64.carvingSlowPath 65536) root64.pushCallees .kDisabled (Heap.empty 0)
        ⟨[], [], [], []⟩ [.alloc {} 112, .free 65552 false] = .ok (h', o') ∧
      root64.Owned h' o' := by
  obtain ⟨hraw, hi⟩ := PartitionRoot.allocRawSize_hundred_twelve
  have hacq : root64.acquireSlot (root64.carvingSlowPath 65536) (Heap.empty 0) 24 {} (root64.allocRawSize 112) =
      .ok (some ⟨65536, (root64.bucketAt 24).slotSize, false⟩,
        { Heap.empty 0 with threadCache := some fun _ => [] }.carve 65536 ⟨.bucket 24, none⟩) := by
    rw [hraw]
    rfl
  have hres := root64.allocFlagsNoHooks_of_acquireSlot (by rw [hraw]; decide) hi hacq
  have hc := root64.lifecycleContract_carving 65536
  have ho := root64.owned_empty 0
  obtain ⟨h', o', hrun⟩ : ∃ h' o', root64.run (root64.carvingSlowPath 65536) root64.pushCallees .kDisabled
      (Heap.empty 0) ⟨[], [], [], []⟩ [.alloc {} 112, .free 65552 false] = .ok (h', o') :=
    ⟨_, _, by simp only [PartitionRoot.run, PartitionRoot.step, hres]; rfl⟩
  exact ⟨h', o', hc, ho, hrun, PartitionRoot.run_owned hc ho hrun⟩

end PartitionAlloc
