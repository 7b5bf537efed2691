import NaiveProxy.PartitionAlloc.Threads

/-!
# Live allocations never overlap

A slot of a normal bucket spans the bucket's slot size from its start, and a direct
map's slot its own slot size. The slots the allocator knows of (every free slot and
every held one) are laid out apart: two of them share no byte, and each uses at most
its slot size (`Laid`). The slow path carves a slot that shares no byte with them, and
the span's `Free` and the thread cache move a slot without moving its bytes
(`LayoutContract`, beside the contracts of ownership); what `partition_root.h` does
between them only moves slots between the free lists and their holders, and is proved
to keep the layout. The pointer of an allocation is `extras_offset` past its slot's
start and its usable size ends before the trailing extras, so:

    runThreads_live_apart   over every interleaving of the threads' requests, the
                            usable bytes of two live allocations are never the
                            same byte: concurrent allocations return disjoint
                            memory
-/

namespace PartitionAlloc

namespace PartitionRoot

variable (r : PartitionRoot) (slowPath : SlowPath) (callees : FreeCallees) (pcscanMode : PCScanMode)

/-- Two distinct slots of `slots` share no byte, and each uses at most its slot size. -/
structure Apart (slotSpan : Nat → SlotSpan) (slots : List Nat) : Prop where
  disjoint : ∀ s ∈ slots, ∀ s' ∈ slots, s ≠ s' →
    s + r.spanSlotSize (slotSpan s) ≤ s' ∨ s' + r.spanSlotSize (slotSpan s') ≤ s
  utilized_le : ∀ s ∈ slots, r.getUtilizedSlotSize (slotSpan s) ≤ r.spanSlotSize (slotSpan s)

/-- The slots the allocator knows of, free or held, are laid out apart. -/
def Laid (h : Heap) (o : Holders) : Prop := r.Apart h.slotSpan (r.allFreeSlots h ++ o.held)

/-- What the layout needs of the code `src/` does not have: the slow path carves a
slot sharing no byte with the slots the allocator knows of, within its slot size; the
span's `Free` and `MaybePutInCache` move a slot without moving its bytes. -/
structure LayoutContract extends r.ThreadsContract slowPath callees : Prop where
  slowPath_none_laid : ∀ h o i flags rawSize h', r.Owned h o → r.Laid h o →
    slowPath h i flags rawSize = .ok (none, h') → r.Laid h' o
  slowPath_some_laid : ∀ h o i flags rawSize s h', r.Owned h o → r.Laid h o →
    slowPath h i flags rawSize = .ok (some s, h') → r.Laid h' (o.afterAlloc (some s.slotStart))
  slotSpanFree_laid : ∀ h o s, r.Owned h o → Fresh h o s → r.Laid h (o.afterAlloc (some s)) →
    r.Laid (callees.slotSpanFree h s) o
  maybePutInCache_laid : ∀ h o s i h', r.Owned h o → Fresh h o s → r.Laid h (o.afterAlloc (some s)) →
    callees.maybePutInCache h s i = some h' → r.Laid h' o

/-! ## Moving slots keeps them apart -/

section Laid

variable {r} {h h' : Heap} {o o' : Holders} {s : Nat}

theorem Apart.mono {slotSpan slotSpan' : Nat → SlotSpan} {slots slots' : List Nat} (ha : r.Apart slotSpan slots)
    (hsub : ∀ s ∈ slots', s ∈ slots ∧ slotSpan' s = slotSpan s) : r.Apart slotSpan' slots' where
  disjoint s hs s' hs' hne := by
    rw [(hsub s hs).2, (hsub s' hs').2]
    exact ha.disjoint s (hsub s hs).1 s' (hsub s' hs').1 hne
  utilized_le s hs := by
    rw [(hsub s hs).2]
    exact ha.utilized_le s (hsub s hs).1

theorem mem_allFreeSlots : s ∈ r.allFreeSlots h ↔ ∃ i < r.buckets.kNumBuckets, s ∈ h.freeSlots i := by
  simp only [allFreeSlots, List.mem_flatMap, List.mem_range]

theorem Laid.of_mem (hl : r.Laid h o) (hspan : h'.slotSpan = h.slotSpan)
    (hsub : ∀ s ∈ r.allFreeSlots h' ++ o'.held, s ∈ r.allFreeSlots h ++ o.held) : r.Laid h' o' :=
  Apart.mono hl fun s hs => ⟨hsub s hs, congrFun hspan s⟩

theorem Laid.of_freeSlots (hl : r.Laid h o) (hf : h'.freeSlots = h.freeSlots) (hspan : h'.slotSpan = h.slotSpan)
    (hp : o'.held.Perm o.held) : r.Laid h' o' :=
  hl.of_mem hspan fun s hs => by
    rw [allFreeSlots, hf] at hs
    exact List.mem_append.2 ((List.mem_append.1 hs).imp id fun hm => hp.subset hm)

theorem Laid.take (hl : r.Laid h o) {i : Nat} (hi : i < r.buckets.kNumBuckets) (hs : s ∈ h.freeSlots i)
    (hspan : h'.slotSpan = h.slotSpan) (hfree : ∀ j, ∀ t ∈ h'.freeSlots j, t ∈ h.freeSlots j) :
    r.Laid h' (o.afterAlloc (some s)) :=
  hl.of_mem hspan fun t ht => by
    rcases List.mem_append.1 ht with ht | ht
    · obtain ⟨j, hj, ht⟩ := mem_allFreeSlots.1 ht
      exact List.mem_append_left _ (mem_allFreeSlots.2 ⟨j, hj, hfree j t ht⟩)
    · rcases List.mem_cons.1 ht with rfl | ht
      · exact List.mem_append_left _ (mem_allFreeSlots.2 ⟨i, hi, hs⟩)
      · exact List.mem_append_right _ ht

theorem Laid.give (hl : r.Laid h (o.afterAlloc (some s))) (hspan : h'.slotSpan = h.slotSpan)
    (hfree : ∀ j, ∀ t ∈ h'.freeSlots j, t = s ∨ t ∈ h.freeSlots j) : r.Laid h' o :=
  hl.of_mem hspan fun t ht => by
    rcases List.mem_append.1 ht with ht | ht
    · obtain ⟨j, hj, ht⟩ := mem_allFreeSlots.1 ht
      rcases hfree j t ht with rfl | ht
      · exact List.mem_append_right _ (List.mem_cons_self _ _)
      · exact List.mem_append_left _ (mem_allFreeSlots.2 ⟨j, hj, ht⟩)
    · exact List.mem_append_right _ (List.mem_cons_of_mem _ ht)

/-- A slot carved past every provisioned slot, within its slot size, is apart from every
slot the allocator knew of. -/
theorem Laid.carve (hl : r.Laid h o) (ho : r.Owned h o) {slotStart : Nat} {span : SlotSpan}
    (hnew : ∀ s ∈ h.provisioned, s + r.spanSlotSize (h.slotSpan s) ≤ slotStart ∧ s ≠ slotStart)
    (hspan : r.getUtilizedSlotSize span ≤ r.spanSlotSize span) :
    r.Laid (h.carve slotStart span) (o.afterAlloc (some slotStart)) := by
  -- every slot known before was provisioned: it lies below the new one and keeps its span
  have hknown : ∀ s ∈ r.allFreeSlots h ++ o.held, s + r.spanSlotSize (h.slotSpan s) ≤ slotStart ∧
      (h.carve slotStart span).slotSpan s = h.slotSpan s := fun s hs => by
    have := hnew s ((owned_iff_nodup.1 ho).2.2 s hs)
    exact ⟨this.1, Function.update_noteq this.2 _ _⟩
  have hmem : ∀ s ∈ r.allFreeSlots (h.carve slotStart span) ++ (o.afterAlloc (some slotStart)).held,
      s = slotStart ∨ s ∈ r.allFreeSlots h ++ o.held := fun s hs => by
    rw [show r.allFreeSlots (h.carve slotStart span) = r.allFreeSlots h from rfl, Holders.held_afterAlloc_some,
      List.mem_append, List.mem_cons] at hs
    rw [List.mem_append]
    tauto
  refine ⟨fun s hs s' hs' hne => ?_, fun s hs => ?_⟩
  · rcases hmem s hs with rfl | hold <;> rcases hmem s' hs' with rfl | hold'
    · exact absurd rfl hne
    · rw [(hknown s' hold').2]
      exact .inr (hknown s' hold').1
    · rw [(hknown s hold).2]
      exact .inl (hknown s hold).1
    · rw [(hknown s hold).2, (hknown s' hold').2]
      exact hl.disjoint s hold s' hold' hne
  · rcases hmem s hs with rfl | hold
    · simp only [Heap.carve, Function.update_same]
      exact hspan
    · rw [(hknown s hold).2]
      exact hl.utilized_le s hold

theorem Laid.take_head (hl : r.Laid h o) {i : Nat} (hi : i < r.buckets.kNumBuckets) {front rest : List Nat}
    (hfs : h.freeSlots i = front ++ s :: rest) (hspan : h'.slotSpan = h.slotSpan)
    (hfree : ∀ j, h'.freeSlots j = if j = i then front ++ rest else h.freeSlots j) :
    r.Laid h' (o.afterAlloc (some s)) :=
  hl.take hi (hfs ▸ List.mem_append_right _ (List.mem_cons_self _ _)) hspan fun j t ht => by
    rw [hfree j] at ht
    split at ht
    · subst j
      rw [hfs]
      rcases List.mem_append.1 ht with ht | ht
      · exact List.mem_append_left _ ht
      · exact List.mem_append_right _ (List.mem_cons_of_mem _ ht)
    · exact ht

end Laid

/-! ## Each step keeps the layout -/

section Steps

variable {r slowPath callees pcscanMode} {h h' : Heap} {o o' : Holders}

theorem laid_allocFromBucket (hc : r.LayoutContract slowPath callees) (ho : r.Owned h o) (hl : r.Laid h o)
    {i rawSize : Nat} {flags : AllocFlags} {res : Option Acquired}
    (hacq : r.allocFromBucket slowPath h i flags rawSize = .ok (res, h')) :
    r.Laid h' (o.afterAlloc (res.map Acquired.slotStart)) := by
  unfold allocFromBucket at hacq
  split at hacq
  · rename_i slot rest hfl
    cases hacq
    have hi : h.freeSlots i = (h.threadCache.getD fun _ => []) i ++ slot :: rest := by rw [Heap.freeSlots, hfl]
    refine hl.take_head (ho.span i slot (hi ▸ List.mem_append_right _ (List.mem_cons_self _ _))).1 hi rfl
      fun j => ?_
    by_cases hj : j = i
    · subst j
      simp only [Heap.freeSlots, Function.update_same, if_true]
    · simp only [Heap.freeSlots, Function.update_noteq hj, if_neg hj]
  · rcases hs : slowPath h i flags rawSize with e | ⟨_ | s, h''⟩ <;> rw [hs] at hacq <;> cases hacq
    · exact hc.slowPath_none_laid _ _ _ _ _ _ ho hl hs
    · exact hc.slowPath_some_laid _ _ _ _ _ _ _ ho hl hs

theorem laid_acquireSlot (hc : r.LayoutContract slowPath callees) (ho : r.Owned h o) (hl : r.Laid h o)
    {i rawSize : Nat} {flags : AllocFlags} {res : Option Acquired}
    (hacq : r.acquireSlot slowPath h i flags rawSize = .ok (res, h')) :
    r.Laid h' (o.afterAlloc (res.map Acquired.slotStart)) := by
  unfold acquireSlot at hacq
  split at hacq
  · have hbins : ({ h with threadCache := some (h.threadCache.getD fun _ => []) } : Heap).freeSlots = h.freeSlots := by
      funext
      simp [Heap.freeSlots]
    rcases hg : getFromCache (h.threadCache.getD fun _ => []) i with _ | ⟨slot, bins⟩ <;>
      simp only [hg] at hacq
    · exact laid_allocFromBucket hc (ho.of_freeSlots hbins rfl rfl) (hl.of_freeSlots hbins rfl (List.Perm.refl _)) hacq
    · cases hacq
      obtain ⟨rest, hbi, rfl⟩ := getFromCache_eq_some hg
      have hi : h.freeSlots i = [] ++ slot :: (rest ++ h.freelist i) := by rw [Heap.freeSlots, hbi]; rfl
      refine hl.take_head (ho.span i slot (hi ▸ List.mem_append_right _ (List.mem_cons_self _ _))).1 hi rfl
        fun j => ?_
      by_cases hj : j = i
      · subst j
        simp only [Heap.freeSlots, Option.getD_some, Function.update_same, if_true, List.nil_append]
      · simp only [Heap.freeSlots, Option.getD_some, Function.update_noteq hj, if_neg hj]
  · exact laid_allocFromBucket hc ho hl hacq

theorem laid_allocFlagsNoHooks (hc : r.LayoutContract slowPath callees) (ho : r.Owned h o) (hl : r.Laid h o)
    {flags : AllocFlags} {n : Nat} {out : AllocOutcome} (hres : r.allocFlagsNoHooks slowPath h flags n = .ok out) :
    r.Laid out.heap (o.afterAlloc (out.ret.map r.adjustPointerForExtrasSubtract)) := by
  obtain ⟨-, i, -, h₁, ⟨hacq, rfl⟩ | ⟨a, hacq, rfl⟩⟩ := r.allocFlagsNoHooks_eq_ok hres
  · exact (laid_acquireSlot hc ho hl hacq :)
  · have hl' := laid_acquireSlot hc ho hl hacq
    simp only [Option.map_some', adjustPointerForExtrasSubtract, Nat.add_sub_cancel] at hl' ⊢
    exact hl'.of_freeSlots rfl rfl (List.Perm.refl _)

theorem laid_alignedAllocFlags (hc : r.LayoutContract slowPath callees) (ho : r.Owned h o) (hl : r.Laid h o)
    {flags : AllocFlags} {alignment size : Nat} {out : AllocOutcome}
    (hres : r.alignedAllocFlags slowPath noHooks h flags alignment size = .ok out) :
    r.Laid out.heap (o.afterAlloc (out.ret.map r.adjustPointerForExtrasSubtract)) := by
  obtain ⟨req, -, ⟨-, -, rfl⟩ | ⟨-, hr⟩⟩ := alignedAllocFlags_eq_ok hres
  · exact hl
  · obtain ⟨-, ⟨-, hen, -⟩ | hn⟩ := alignedAllocRounded_eq_ok hr
    · cases hen
    · exact laid_allocFlagsNoHooks hc ho hl hn

theorem laid_rawFreeWithThreadCache (hc : r.LayoutContract slowPath callees) (ho : r.Owned h o) {s : Nat}
    (hs : Fresh h o s) (hl : r.Laid h (o.afterAlloc (some s))) (memory : Nat → UInt8) (span : SlotSpan) :
    r.Laid (r.rawFreeWithThreadCache callees { h with memory } s span).2 o := by
  simp only [rawFreeWithThreadCache]
  split
  · rename_i h₂ hcached
    split at hcached
    · split at hcached
      · exact hc.maybePutInCache_laid _ _ _ _ _ (ho.memory memory) (hs.memory memory) hl hcached
      · cases hcached
    · cases hcached
  · exact hc.slotSpanFree_laid _ _ _ (ho.memory memory) (hs.memory memory) hl

theorem laid_freeAfterCookies (hc : r.LayoutContract slowPath callees) (ho : r.Owned h o) (hl : r.Laid h o)
    {ptr : Nat} (hs : r.adjustPointerForExtrasSubtract ptr ∈ o.live) (zeroRandomly : Bool) :
    r.Laid (r.freeAfterCookies callees zeroRandomly h ptr).2
      (o.afterFree (r.adjustPointerForExtrasSubtract ptr) (r.freeAfterCookies callees zeroRandomly h ptr).1) := by
  simp only [freeAfterCookies]
  split
  · -- the slot leaves the program for the thread cache or its span
    have hp := o.held_afterFree_released hs (.inr (rfl : FreeFate.slotSpan = .slotSpan))
    obtain ⟨ho', hfresh⟩ := ho.release hp
    have hl' : r.Laid h ((o.afterFree (r.adjustPointerForExtrasSubtract ptr) .slotSpan).afterAlloc
        (some (r.adjustPointerForExtrasSubtract ptr))) := hl.of_freeSlots rfl rfl hp
    rcases @rawFreeWithThreadCache_fate r callees { h with memory := _ } _ _ with hfate | hfate <;> rw [hfate] <;>
      exact laid_rawFreeWithThreadCache hc ho' hfresh hl' _ _
  · exact hl.of_freeSlots rfl rfl (o.held_afterFree_perm hs (.inr rfl))

theorem laid_freeNoHooks (hc : r.LayoutContract slowPath callees) (ho : r.Owned h o) (hl : r.Laid h o) {ptr : Nat}
    (hs : ptr ≠ 0 → r.adjustPointerForExtrasSubtract ptr ∈ o.live) {zeroRandomly : Bool}
    {out : FreeFate × Heap} (hfree : r.freeNoHooks callees pcscanMode zeroRandomly h ptr = .ok out) :
    r.Laid out.2 (o.afterFree (r.adjustPointerForExtrasSubtract ptr) out.1) := by
  unfold freeNoHooks at hfree
  split at hfree
  · cases hfree
    exact hl
  · rename_i hnull
    split at hfree
    · cases hfree
      exact hl.of_freeSlots (hc.moveToQuarantine h ptr).1 (hc.moveToQuarantine h ptr).2.1
        (o.held_afterFree_perm (hs hnull) (.inl rfl))
    · obtain ⟨-, rfl⟩ := freeNoHooksImmediate_eq_ok_iff.1 hfree
      exact laid_freeAfterCookies hc ho hl (hs hnull) zeroRandomly

theorem laid_partitionAllocFreeForRefCounting (hc : r.LayoutContract slowPath callees) (ho : r.Owned h o)
    (hl : r.Laid h o) {s : Nat} (hs : s ∈ o.referenced) {out : FreeFate × Heap}
    (hfree : r.partitionAllocFreeForRefCounting callees h s = .ok out) :
    r.Laid out.2 { o with referenced := o.referenced.erase s } := by
  unfold partitionAllocFreeForRefCounting at hfree
  split at hfree
  · cases hfree
  · cases hfree
    have hp := Holders.held_erase_referenced hs
    obtain ⟨ho', hfresh⟩ := ho.release hp
    exact laid_rawFreeWithThreadCache hc ho' hfresh (hl.of_freeSlots rfl rfl hp) _ _

theorem laid_step (hc : r.LayoutContract slowPath callees) (ho : r.Owned h o) (hl : r.Laid h o) {q : Request}
    (hstep : r.step slowPath callees pcscanMode h o q = .ok (h', o')) : r.Laid h' o' := by
  rcases step_eq_ok hstep with ⟨_, _, out, -, hres, rfl, rfl⟩ | ⟨_, _, _, out, -, hres, rfl, rfl⟩ |
    ⟨_, _, out, -, hs, hf, rfl, rfl⟩ | ⟨_, out, -, hs, hf, rfl, rfl⟩
  · exact laid_allocFlagsNoHooks hc ho hl hres
  · exact laid_alignedAllocFlags hc ho hl hres
  · exact laid_freeNoHooks hc ho hl hs hf
  · exact laid_partitionAllocFreeForRefCounting hc ho hl hs hf

end Steps

/-! ## Every interleaving keeps the process laid out -/

/-- Each thread of `threads` sees the slots laid out apart, the other threads' cached
slots among them. -/
def ProcessLaid (threads : List Nat) (g : Process) (o : Holders) : Prop :=
  ∀ t ∈ threads, r.Laid (g.heapOf t) { o with otherThreadCaches := r.otherThreadCaches threads g t }

section Run

variable {r slowPath callees pcscanMode} {threads : List Nat} {g g' : Process} {o o' : Holders}

theorem laid_heapOf_iff {t : Nat} (ht : t ∈ threads) :
    r.Laid (g.heapOf t) { o with otherThreadCaches := r.otherThreadCaches threads g t } ↔
      r.Apart g.slotSpan (r.processSlots threads g o) := by
  have hp := allFreeSlots_heapOf_perm (r := r) ht g o
  exact ⟨fun hl => hl.mono fun s hs => ⟨hp.symm.subset hs, rfl⟩, fun ha => ha.mono fun s hs => ⟨hp.subset hs, rfl⟩⟩

theorem processLaid_threadStep (hc : r.LayoutContract slowPath callees) (hthreads : threads.Nodup)
    (hg : r.ProcessOwned threads g o) (hl : r.ProcessLaid threads g o) {req : Nat × Request}
    (ht : req.1 ∈ threads) (hstep : r.threadStep slowPath callees pcscanMode g o req = .ok (g', o')) :
    r.ProcessLaid threads g' o' := by
  obtain ⟨t, q⟩ := req
  obtain ⟨⟨h', o₁⟩, hs, hout⟩ := except_bind_eq_ok hstep
  cases hout
  have hl' := laid_step hc (hg t ht) (hl t ht) (step_otherThreadCaches hs (r.otherThreadCaches threads g t))
  have hothers : r.otherThreadCaches threads (g.update t h') t = r.otherThreadCaches threads g t :=
    List.flatMap_congr fun t' ht' => by
      simp only [Process.update, Function.update_noteq (hthreads.mem_erase_iff.1 ht').1]
  rw [← Process.heapOf_update_self g t h', ← hothers, laid_heapOf_iff ht] at hl'
  exact fun t' ht' => (laid_heapOf_iff ht').2 hl'

/-- Every interleaving of the threads' requests keeps every thread's view owned and
laid out. -/
theorem runThreads_laid (hc : r.LayoutContract slowPath callees) (hthreads : threads.Nodup)
    (hg : r.ProcessOwned threads g o) (hl : r.ProcessLaid threads g o) {reqs : List (Nat × Request)}
    (hreqs : ∀ req ∈ reqs, req.1 ∈ threads)
    (hrun : r.runThreads slowPath callees pcscanMode g o reqs = .ok (g', o')) :
    r.ProcessOwned threads g' o' ∧ r.ProcessLaid threads g' o' := by
  induction reqs generalizing g o with
  | nil =>
    cases hrun
    exact ⟨hg, hl⟩
  | cons req reqs ih =>
    obtain ⟨⟨g₂, o₂⟩, hs, hrun⟩ := except_bind_eq_ok hrun
    have ht := hreqs req (List.mem_cons_self _ _)
    exact ih (processOwned_threadStep hc.toThreadsContract hthreads hg ht hs)
      (processLaid_threadStep hc hthreads hg hl ht hs) (fun req' hreq' => hreqs req' (List.mem_cons_of_mem _ hreq'))
      hrun

theorem usable_lt_slot {slotSpan : Nat → SlotSpan} {s k : Nat}
    (hle : r.getUtilizedSlotSize (slotSpan s) ≤ r.spanSlotSize (slotSpan s))
    (hk : k < r.adjustSizeForExtrasSubtract (r.getUtilizedSlotSize (slotSpan s))) :
    r.extrasOffset + k < r.spanSlotSize (slotSpan s) := by
  have hsize : r.extrasSize = r.extrasOffset + r.cookieSize := rfl
  simp only [adjustSizeForExtrasSubtract] at hk
  omega

/-- Over every interleaving of the threads' requests, from a process every thread sees
owned and laid out, two distinct live allocations share no usable byte: concurrent
allocations return disjoint memory. -/
theorem runThreads_live_apart (hc : r.LayoutContract slowPath callees) (hthreads : threads.Nodup)
    (hg : r.ProcessOwned threads g o) (hl : r.ProcessLaid threads g o) {reqs : List (Nat × Request)}
    (hreqs : ∀ req ∈ reqs, req.1 ∈ threads)
    (hrun : r.runThreads slowPath callees pcscanMode g o reqs = .ok (g', o')) {t s s' : Nat} (ht : t ∈ threads)
    (hs : s ∈ o'.live) (hs' : s' ∈ o'.live) (hne : s ≠ s') :
    ∀ k < r.getUsableSize (g'.heapOf t) (s + r.extrasOffset),
      ∀ k' < r.getUsableSize (g'.heapOf t) (s' + r.extrasOffset),
        s + r.extrasOffset + k ≠ s' + r.extrasOffset + k' := by
  have ha := (laid_heapOf_iff ht).1 ((runThreads_laid hc hthreads hg hl hreqs hrun).2 t ht)
  have hmem : ∀ s ∈ o'.live, s ∈ r.processSlots threads g' o' := fun s hs =>
    List.mem_append_left _ (List.mem_append_right _ (List.mem_append_left _ (List.mem_append_left _ hs)))
  intro k hk k' hk'
  simp only [getUsableSize, adjustPointerForExtrasSubtract, Nat.add_sub_cancel] at hk hk'
  have h₁ := usable_lt_slot (ha.utilized_le s (hmem s hs)) hk
  have h₂ := usable_lt_slot (ha.utilized_le s' (hmem s' hs')) hk'
  have := ha.disjoint s (hmem s hs) s' (hmem s' hs') hne
  omega

end Run

/-! ## Instances -/

/-- The slow path that carves new slots and the callees that push a freed slot move no
slot's bytes. -/
theorem layoutContract_carving (poolStart : Nat) :
    r.LayoutContract (r.carvingSlowPath poolStart) r.pushCallees where
  toThreadsContract := r.threadsContract_carving poolStart
  slowPath_none_laid h o i flags rawSize h' _ hl hs := by
    rcases carvingSlowPath_eq_ok hs with ⟨-, rfl, -⟩ | ⟨_, _, hsome, -⟩
    · exact hl
    · cases hsome
  slowPath_some_laid h o i flags rawSize s h' ho hl hs := by
    rcases carvingSlowPath_eq_ok hs with ⟨hnone, -⟩ | ⟨span, hspan, ⟨⟩, rfl⟩
    · cases hnone
    · exact hl.carve ho (fun t ht => provisionedEnd_le_carved ht) (carvedSpan_utilized hspan).2
  slotSpanFree_laid h o s _ _ hl := by
    simp only [pushCallees]
    split
    · rename_i i hspan
      split
      · refine hl.give rfl fun j t ht => ?_
        by_cases hj : j = i
        · subst j
          simp only [Heap.freeSlots, Function.update_same, List.mem_append, List.mem_cons] at ht ⊢
          rcases ht with ht | ht | ht
          exacts [.inr (.inl ht), .inl ht, .inr (.inr ht)]
        · exact .inr (by simpa [Heap.freeSlots, Function.update_noteq hj] using ht)
      · exact hl.give rfl fun _ _ ht => .inr ht
    · exact hl.give rfl fun _ _ ht => .inr ht
  maybePutInCache_laid h o s i h' _ _ hl hput := by
    simp only [pushCallees] at hput
    split at hput
    · cases hput
      refine hl.give rfl fun j t ht => ?_
      rcases htc : h.threadCache with _ | bins
      · exact .inr (by simpa [Heap.freeSlots, htc] using ht)
      · by_cases hj : j = i
        · subst j
          simpa [Heap.freeSlots, htc, or_assoc] using ht
        · exact .inr (by simpa [Heap.freeSlots, htc, Function.update_noteq hj] using ht)
    · cases hput

theorem processLaid_empty (threads : List Nat) (byte : UInt8) :
    r.ProcessLaid threads (Process.ofHeap (Heap.empty byte)) ⟨[], [], [], []⟩ := fun t _ => by
  rw [otherThreadCaches_ofHeap]
  have hnone : ∀ s, s ∉ r.allFreeSlots ((Process.ofHeap (Heap.empty byte)).heapOf t) ++
      (⟨[], [], [], []⟩ : Holders).held := fun s hs => by
    simp [mem_allFreeSlots, Heap.freeSlots, Process.heapOf, Process.ofHeap, Heap.empty, Holders.held] at hs
  exact ⟨fun s hs => absurd hs (hnone s), fun s hs => absurd hs (hnone s)⟩

end PartitionRoot

/-- On `root64`, with two threads and no slot yet: each thread allocates 112 bytes,
carving the slots at 65536 and 65664, whose usable bytes are apart. -/
theorem runThreads_live_apart_two_threads :
    ∃ g' o', root64.LayoutContract (root64.carvingSlowPath 65536) root64.pushCallees ∧ [0, 1].Nodup ∧
      root64.ProcessOwned [0, 1] (Process.ofHeap (Heap.empty 0)) ⟨[], [], [], []⟩ ∧
      root64.ProcessLaid [0, 1] (Process.ofHeap (Heap.empty 0)) ⟨[], [], [], []⟩ ∧
      (∀ req ∈ [((0 : Nat), Request.alloc {} 112), (1, .alloc {} 112)], req.1 ∈ [0, 1]) ∧
      root64.runThreads (root64.carvingSlowPath 65536) root64.pushCallees .kDisabled
        (Process.ofHeap (Heap.empty 0)) ⟨[], [], [], []⟩ [(0, .alloc {} 112), (1, .alloc {} 112)] = .ok (g', o') ∧
      0 ∈ [0, 1] ∧ 65664 ∈ o'.live ∧ 65536 ∈ o'.live ∧ 65664 ≠ 65536 ∧
      ∀ k < root64.getUsableSize (g'.heapOf 0) (65664 + root64.extrasOffset),
        ∀ k' < root64.getUsableSize (g'.heapOf 0) (65536 + root64.extrasOffset),
          65664 + root64.extrasOffset + k ≠ 65536 + root64.extrasOffset + k' := by
  have hc := root64.layoutContract_carving 65536
  have hthreads : [0, 1].Nodup := by decide
  have hg := root64.processOwned_empty [0, 1] 0
  have hl := root64.processLaid_empty [0, 1] 0
  have hreqs : ∀ req ∈ [((0 : Nat), Request.alloc {} 112), (1, .alloc {} 112)], req.1 ∈ [0, 1] := by decide
  obtain ⟨_, hrun⟩ := runThreads_carve_two root64.pushCallees .kDisabled
  have h0 : (0 : Nat) ∈ [0, 1] := by decide
  have hs : 65664 ∈ [65664, 65536] := by decide
  have hs' : 65536 ∈ [65664, 65536] := by decide
  have hne : (65664 : Nat) ≠ 65536 := by decide
  exact ⟨_, _, hc, hthreads, hg, hl, hreqs, hrun, h0, hs, hs', hne,
    PartitionRoot.runThreads_live_apart hc hthreads hg hl hreqs hrun h0 hs hs' hne⟩

end PartitionAlloc
