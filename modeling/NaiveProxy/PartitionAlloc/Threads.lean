import NaiveProxy.PartitionAlloc.Lifecycle

/-!
# Several threads: no slot is in two places

The threads of a process share the root: its freelists, its span metadata and memory.
Each thread also has its own cache (`ThreadCache::Get()` is thread-local), which
`AllocFlagsNoHooks` reads first and `RawFreeWithThreadCache` fills, so a slot one
thread allocated can be freed into another thread's cache and handed out there. A slot
in a thread's cache is allocated as far as its span knows, so every other thread sees
it held (`Holders.otherThreadCaches`).

On a thread-safe root (`ThreadSafePartitionRoot`) a request runs as one step. What it
does to the shared state it does under the root's lock (`RawAlloc`, `RawFree`); what it
does to its own cache no other thread sees; the bytes it writes are those of a slot it
holds; and the deferred unmap after `SlotSpan::Free` returns address space the lock
already took out of every thread's reach. So the parts of a request outside the lock
commute with the steps of other threads, and an interleaving is a sequence of whole
requests, each of one thread (`runThreads`).

The slow path, the span's `Free` and the thread cache leave the span metadata of held
slots alone (`ThreadsContract`): a span with a slot in use is not empty, so the slow
path never reuses it. Then:

    runThreads_owned   every interleaving of the threads' requests from an owned
                       process ends in an owned process: no slot is in two threads'
                       caches, in a cache and a freelist, free and held, or held twice,
                       and each thread can take without the slow path only slots of
                       the bucket it asks
-/

namespace PartitionAlloc

/-- A process's allocator: the cache of each thread, by thread id, and what the
threads share. -/
structure Process where
  threadCaches : Nat → Option (Nat → List Nat)
  freelist : Nat → List Nat
  slotSpan : Nat → SlotSpan
  memory : Nat → UInt8
  provisioned : List Nat

namespace Process

/-- What a request of thread `t` works on: its cache and the shared state. -/
def heapOf (g : Process) (t : Nat) : Heap where
  threadCache := g.threadCaches t
  freelist := g.freelist
  slotSpan := g.slotSpan
  memory := g.memory
  provisioned := g.provisioned

/-- The process after a request of thread `t` left its heap as `h`. -/
def update (g : Process) (t : Nat) (h : Heap) : Process where
  threadCaches := Function.update g.threadCaches t h.threadCache
  freelist := h.freelist
  slotSpan := h.slotSpan
  memory := h.memory
  provisioned := h.provisioned

/-- The process whose threads have no cache yet and share the rest of `h`. -/
def ofHeap (h : Heap) : Process where
  threadCaches _ := none
  freelist := h.freelist
  slotSpan := h.slotSpan
  memory := h.memory
  provisioned := h.provisioned

@[simp] theorem heapOf_update_self (g : Process) (t : Nat) (h : Heap) : (g.update t h).heapOf t = h := by
  cases h
  simp only [heapOf, update, Function.update_same]

end Process

namespace Holders

variable (o : Holders) (cached : List Nat)

theorem afterAlloc_otherThreadCaches (slot : Option Nat) :
    ({ o with otherThreadCaches := cached } : Holders).afterAlloc slot =
      { o.afterAlloc slot with otherThreadCaches := cached } := by
  cases slot <;> rfl

theorem afterFree_otherThreadCaches (slotStart : Nat) (fate : FreeFate) :
    ({ o with otherThreadCaches := cached } : Holders).afterFree slotStart fate =
      { o.afterFree slotStart fate with otherThreadCaches := cached } := by
  cases fate <;> rfl

theorem mem_held_of_otherThreadCaches {s : Nat} (hs : s ∈ o.otherThreadCaches) : s ∈ o.held :=
  List.mem_append_right _ hs

end Holders

namespace PartitionRoot

variable (r : PartitionRoot) (slowPath : SlowPath) (callees : FreeCallees) (pcscanMode : PCScanMode)

/-- The slots of a thread's cache, bucket by bucket. -/
def cachedSlots (threadCache : Option (Nat → List Nat)) : List Nat :=
  (List.range r.buckets.kNumBuckets).flatMap (threadCache.getD fun _ => [])

/-- The slots of the caches of the threads `threads` but `t`. -/
def otherThreadCaches (threads : List Nat) (g : Process) (t : Nat) : List Nat :=
  (threads.erase t).flatMap fun t' => r.cachedSlots (g.threadCaches t')

/-- A request of thread `req.1`. -/
def threadStep (g : Process) (o : Holders) (req : Nat × Request) : Except Crash (Process × Holders) := do
  let (h, o) ← r.step slowPath callees pcscanMode (g.heapOf req.1) o req.2
  pure (g.update req.1 h, o)

/-- An interleaving of the threads' requests, stopping at the first crash. -/
def runThreads (g : Process) (o : Holders) : List (Nat × Request) → Except Crash (Process × Holders)
  | [] => pure (g, o)
  | req :: reqs => do
    let (g, o) ← r.threadStep slowPath callees pcscanMode g o req
    runThreads g o reqs

/-- Each thread of `threads` sees its heap owned, with the slots of the other threads'
caches held. -/
def ProcessOwned (threads : List Nat) (g : Process) (o : Holders) : Prop :=
  ∀ t ∈ threads, r.Owned (g.heapOf t) { o with otherThreadCaches := r.otherThreadCaches threads g t }

/-- What several threads need besides `LifecycleContract`: the slow path, the span's
`Free` and `MaybePutInCache` leave the span metadata of held slots alone. -/
structure ThreadsContract extends r.LifecycleContract slowPath callees : Prop where
  slowPath_span : ∀ h o i flags rawSize out h', r.Owned h o → slowPath h i flags rawSize = .ok (out, h') →
    ∀ s ∈ o.held, h'.slotSpan s = h.slotSpan s
  slotSpanFree_span : ∀ h o s, r.Owned h o → Fresh h o s →
    ∀ s' ∈ o.held, (callees.slotSpanFree h s).slotSpan s' = h.slotSpan s'
  maybePutInCache_span : ∀ h o s i h', r.Owned h o → Fresh h o s → callees.maybePutInCache h s i = some h' →
    ∀ s' ∈ o.held, h'.slotSpan s' = h.slotSpan s'

section Steps

variable {r slowPath callees pcscanMode} {g g₁ : Process} {o o₁ : Holders}

theorem threadStep_of_step {h' : Heap} {t : Nat} {q : Request}
    (hs : r.step slowPath callees pcscanMode (g.heapOf t) o q = .ok (h', o₁)) :
    r.threadStep slowPath callees pcscanMode g o (t, q) = .ok (g.update t h', o₁) := by
  rw [threadStep, hs]
  rfl

theorem runThreads_cons_of_threadStep {req : Nat × Request}
    (hs : r.threadStep slowPath callees pcscanMode g o req = .ok (g₁, o₁)) (reqs : List (Nat × Request)) :
    r.runThreads slowPath callees pcscanMode g o (req :: reqs) = r.runThreads slowPath callees pcscanMode g₁ o₁ reqs := by
  rw [runThreads, hs]
  rfl

theorem runThreads_append (reqs₁ reqs₂ : List (Nat × Request)) :
    r.runThreads slowPath callees pcscanMode g o (reqs₁ ++ reqs₂) =
      (r.runThreads slowPath callees pcscanMode g o reqs₁).bind fun (g, o) =>
        r.runThreads slowPath callees pcscanMode g o reqs₂ := by
  induction reqs₁ generalizing g o with
  | nil => rfl
  | cons req reqs ih =>
    simp only [List.cons_append, runThreads]
    rcases r.threadStep slowPath callees pcscanMode g o req with e | ⟨g₁, o₁⟩
    · rfl
    · exact ih

end Steps

/-! ## A request leaves the other threads' slots alone -/

section Frame

variable {r slowPath callees pcscanMode} {h h' : Heap} {o o' : Holders}

theorem allocFromBucket_eq_slowPath {i rawSize : Nat} {flags : AllocFlags} {res : Option Acquired}
    (hacq : r.allocFromBucket slowPath h i flags rawSize = .ok (res, h')) :
    (h'.slotSpan = h.slotSpan ∧ h'.memory = h.memory) ∨ ∃ out, slowPath h i flags rawSize = .ok (out, h') := by
  unfold allocFromBucket at hacq
  split at hacq
  · cases hacq
    exact .inl ⟨rfl, rfl⟩
  · rcases hs : slowPath h i flags rawSize with e | ⟨out, h''⟩ <;> rw [hs] at hacq <;> cases hacq
    exact .inr ⟨out, rfl⟩

/-- Step 2 takes a free slot, leaving spans and memory, or is the slow path on a heap
with the same free slots, spans and memory. -/
theorem acquireSlot_eq_slowPath {i rawSize : Nat} {flags : AllocFlags} {res : Option Acquired}
    (hacq : r.acquireSlot slowPath h i flags rawSize = .ok (res, h')) :
    (h'.slotSpan = h.slotSpan ∧ h'.memory = h.memory) ∨
      ∃ h₀ : Heap, h₀.freeSlots = h.freeSlots ∧ h₀.slotSpan = h.slotSpan ∧ h₀.memory = h.memory ∧
        h₀.provisioned = h.provisioned ∧ ∃ out, slowPath h₀ i flags rawSize = .ok (out, h') := by
  unfold acquireSlot at hacq
  split at hacq
  · rcases hg : getFromCache (h.threadCache.getD fun _ => []) i with _ | ⟨slot, bins⟩ <;>
      simp only [hg] at hacq
    · rcases allocFromBucket_eq_slowPath hacq with hfast | hslow
      · exact .inl hfast
      · exact .inr ⟨{ h with threadCache := some (h.threadCache.getD fun _ => []) },
          by funext; simp [Heap.freeSlots], rfl, rfl, rfl, hslow⟩
    · cases hacq
      exact .inl ⟨rfl, rfl⟩
  · exact (allocFromBucket_eq_slowPath hacq).imp id fun hslow => ⟨h, rfl, rfl, rfl, rfl, hslow⟩

theorem acquireSlot_slotSpan (hc : r.ThreadsContract slowPath callees) (ho : r.Owned h o)
    {i rawSize : Nat} {flags : AllocFlags} {res : Option Acquired}
    (hacq : r.acquireSlot slowPath h i flags rawSize = .ok (res, h')) :
    ∀ s ∈ o.held, h'.slotSpan s = h.slotSpan s := by
  rcases acquireSlot_eq_slowPath hacq with ⟨hspan, -⟩ | ⟨h₀, hfree, hspan, -, hprov, out, hs⟩
  · exact fun s _ => congrFun hspan s
  · exact fun s hs' =>
      (hc.slowPath_span _ _ _ _ _ _ _ (ho.of_freeSlots hfree hspan hprov) hs s hs').trans (congrFun hspan s)

theorem allocFlagsNoHooks_slotSpan (hc : r.ThreadsContract slowPath callees) (ho : r.Owned h o)
    {flags : AllocFlags} {n : Nat} {out : AllocOutcome} (hres : r.allocFlagsNoHooks slowPath h flags n = .ok out) :
    ∀ s ∈ o.held, out.heap.slotSpan s = h.slotSpan s := by
  obtain ⟨-, i, -, h₁, ⟨hacq, rfl⟩ | ⟨a, hacq, rfl⟩⟩ := r.allocFlagsNoHooks_eq_ok hres <;>
    exact (acquireSlot_slotSpan hc ho hacq :)

theorem alignedAllocFlags_slotSpan (hc : r.ThreadsContract slowPath callees) (ho : r.Owned h o)
    {flags : AllocFlags} {alignment size : Nat} {out : AllocOutcome}
    (hres : r.alignedAllocFlags slowPath noHooks h flags alignment size = .ok out) :
    ∀ s ∈ o.held, out.heap.slotSpan s = h.slotSpan s := by
  obtain ⟨req, -, ⟨-, -, rfl⟩ | ⟨-, hr⟩⟩ := alignedAllocFlags_eq_ok hres
  · exact fun _ _ => rfl
  · obtain ⟨-, ⟨-, hen, -⟩ | hn⟩ := alignedAllocRounded_eq_ok hr
    · cases hen
    · exact allocFlagsNoHooks_slotSpan hc ho hn

theorem rawFreeWithThreadCache_slotSpan (hc : r.ThreadsContract slowPath callees) (ho : r.Owned h o) {s : Nat}
    (hs : Fresh h o s) (memory : Nat → UInt8) (span : SlotSpan) :
    ∀ s' ∈ o.held, (r.rawFreeWithThreadCache callees { h with memory } s span).2.slotSpan s' = h.slotSpan s' := by
  simp only [rawFreeWithThreadCache]
  split
  · rename_i h₂ hcached
    split at hcached
    · split at hcached
      · exact (hc.maybePutInCache_span _ _ _ _ _ (ho.memory memory) (hs.memory memory) hcached :)
      · cases hcached
    · cases hcached
  · exact (hc.slotSpanFree_span _ _ _ (ho.memory memory) (hs.memory memory) :)

theorem freeNoHooks_slotSpan (hc : r.ThreadsContract slowPath callees) (ho : r.Owned h o) {ptr : Nat}
    (hs : ptr ≠ 0 → r.adjustPointerForExtrasSubtract ptr ∈ o.live) {zeroRandomly : Bool}
    {out : FreeFate × Heap} (hfree : r.freeNoHooks callees pcscanMode zeroRandomly h ptr = .ok out) :
    ∀ s' ∈ o.otherThreadCaches, out.2.slotSpan s' = h.slotSpan s' := by
  intro s' hs'
  unfold freeNoHooks at hfree
  split at hfree
  · cases hfree
    rfl
  · rename_i hnull
    split at hfree
    · cases hfree
      exact congrFun (hc.moveToQuarantine h ptr).2.1 s'
    · obtain ⟨-, rfl⟩ := freeNoHooksImmediate_eq_ok_iff.1 hfree
      simp only [freeAfterCookies]
      split
      · obtain ⟨ho', hfresh⟩ :=
          ho.release (o.held_afterFree_released (hs hnull) (.inr (rfl : FreeFate.slotSpan = .slotSpan)))
        exact rawFreeWithThreadCache_slotSpan hc ho' hfresh _ _ s' (Holders.mem_held_of_otherThreadCaches _ hs')
      · rfl

theorem partitionAllocFreeForRefCounting_slotSpan (hc : r.ThreadsContract slowPath callees) (ho : r.Owned h o)
    {s : Nat} (hs : s ∈ o.referenced) {out : FreeFate × Heap}
    (hfree : r.partitionAllocFreeForRefCounting callees h s = .ok out) :
    ∀ s' ∈ o.otherThreadCaches, out.2.slotSpan s' = h.slotSpan s' := by
  intro s' hs'
  unfold partitionAllocFreeForRefCounting at hfree
  split at hfree
  · cases hfree
  · cases hfree
    obtain ⟨ho', hfresh⟩ := ho.release (Holders.held_erase_referenced hs)
    exact rawFreeWithThreadCache_slotSpan hc ho' hfresh _ _ s' (Holders.mem_held_of_otherThreadCaches _ hs')

theorem step_slotSpan (hc : r.ThreadsContract slowPath callees) (ho : r.Owned h o) {q : Request}
    (hstep : r.step slowPath callees pcscanMode h o q = .ok (h', o')) :
    ∀ s ∈ o.otherThreadCaches, h'.slotSpan s = h.slotSpan s := by
  rcases step_eq_ok hstep with ⟨_, _, out, -, hres, rfl, -⟩ | ⟨_, _, _, out, -, hres, rfl, -⟩ |
    ⟨_, _, out, -, hs, hf, rfl, -⟩ | ⟨_, out, -, hs, hf, rfl, -⟩
  · exact fun s hs => allocFlagsNoHooks_slotSpan hc ho hres s (o.mem_held_of_otherThreadCaches hs)
  · exact fun s hs => alignedAllocFlags_slotSpan hc ho hres s (o.mem_held_of_otherThreadCaches hs)
  · exact freeNoHooks_slotSpan hc ho hs hf
  · exact partitionAllocFreeForRefCounting_slotSpan hc ho hs hf

theorem step_otherThreadCaches {q : Request} (hstep : r.step slowPath callees pcscanMode h o q = .ok (h', o'))
    (cached : List Nat) :
    r.step slowPath callees pcscanMode h { o with otherThreadCaches := cached } q =
      .ok (h', { o' with otherThreadCaches := cached }) := by
  rcases step_eq_ok hstep with ⟨_, _, out, rfl, hres, rfl, rfl⟩ | ⟨_, _, _, out, rfl, hres, rfl, rfl⟩ |
    ⟨ptr, _, out, rfl, hs, hf, rfl, rfl⟩ | ⟨s, out, rfl, hs, hf, rfl, rfl⟩
  · simp only [step, hres, Holders.afterAlloc_otherThreadCaches]
    rfl
  · simp only [step, hres, Holders.afterAlloc_otherThreadCaches]
    rfl
  · have hguard : ¬(ptr ≠ 0 ∧ r.adjustPointerForExtrasSubtract ptr ∉ o.live) := fun h => h.2 (hs h.1)
    simp only [step, if_neg hguard, hf, Holders.afterFree_otherThreadCaches]
    rfl
  · simp only [step, if_neg (not_not.2 hs), hf]
    rfl

end Frame

/-! ## Ownership as one list without repeats -/

/-- The free slots of the root's buckets. -/
def allFreeSlots (h : Heap) : List Nat := (List.range r.buckets.kNumBuckets).flatMap h.freeSlots

/-- The span condition of `Owned`. -/
def FreeSpans (h : Heap) : Prop :=
  ∀ i s, s ∈ h.freeSlots i → i < r.buckets.kNumBuckets ∧ h.slotSpan s = ⟨.bucket i, none⟩

/-- Every slot the process's allocator accounts for: the freelists, the program, the
ref-counts and the quarantine, then every thread's cache. -/
def processSlots (threads : List Nat) (g : Process) (o : Holders) : List Nat :=
  (List.range r.buckets.kNumBuckets).flatMap g.freelist ++ (o.live ++ o.referenced ++ o.quarantined) ++
    threads.flatMap fun t => r.cachedSlots (g.threadCaches t)

section Nodup

variable {r} {h : Heap} {o : Holders}

/-- `Owned` is the span condition and one list without repeats, all of it provisioned:
the free slots of every bucket, then the held slots. -/
theorem owned_iff_nodup : r.Owned h o ↔
    r.FreeSpans h ∧ (r.allFreeSlots h ++ o.held).Nodup ∧ ∀ s ∈ r.allFreeSlots h ++ o.held, s ∈ h.provisioned := by
  constructor
  · intro ho
    refine ⟨ho.span, List.nodup_append.2 ⟨?_, ho.nodup_held, fun s hs hheld => ?_⟩, fun s hs => ?_⟩
    · refine List.nodup_flatMap.2 ⟨fun i _ => ho.nodup_freeSlots i, (List.nodup_range _).pairwise_of_forall_ne ?_⟩
      intro i _ j _ hij s hsi hsj
      exact ho.not_mem_freeSlots hsi (Ne.symm hij) hsj
    · obtain ⟨i, -, hi⟩ := List.mem_flatMap.1 hs
      exact ho.not_held i s hi hheld
    · rcases List.mem_append.1 hs with hs | hs
      · obtain ⟨i, -, hi⟩ := List.mem_flatMap.1 hs
        exact ho.free_provisioned i s hi
      · exact ho.held_provisioned s hs
  · rintro ⟨hspan, hnd, hprov⟩
    obtain ⟨hfree, hheld, hdisj⟩ := List.nodup_append.1 hnd
    have hmem : ∀ i s, s ∈ h.freeSlots i → s ∈ r.allFreeSlots h := fun i s hs =>
      List.mem_flatMap.2 ⟨i, List.mem_range.2 (hspan i s hs).1, hs⟩
    refine ⟨hspan, fun i => ?_, hheld, fun i s hs => hdisj (hmem i s hs),
      fun i s hs => hprov s (List.mem_append_left _ (hmem i s hs)), fun s hs => hprov s (List.mem_append_right _ hs)⟩
    by_cases hi : i < r.buckets.kNumBuckets
    · exact (List.nodup_flatMap.1 hfree).1 i (List.mem_range.2 hi)
    · rw [List.eq_nil_iff_forall_not_mem.2 fun s hs => hi (hspan i s hs).1]
      exact List.nodup_nil

/-- What thread `t` sees free or held is what the process accounts for. -/
theorem allFreeSlots_heapOf_perm {threads : List Nat} {t : Nat} (ht : t ∈ threads) (g : Process) (o : Holders) :
    (r.allFreeSlots (g.heapOf t) ++ { o with otherThreadCaches := r.otherThreadCaches threads g t }.held).Perm
      (r.processSlots threads g o) := by
  have hfree : (r.cachedSlots (g.threadCaches t) ++ (List.range r.buckets.kNumBuckets).flatMap g.freelist).Perm
      (r.allFreeSlots (g.heapOf t)) :=
    List.flatMap_append_perm _ _ _
  have hcaches : (threads.flatMap fun t => r.cachedSlots (g.threadCaches t)).Perm
      (r.cachedSlots (g.threadCaches t) ++ r.otherThreadCaches threads g t) :=
    (List.perm_cons_erase ht).flatMap_right _
  rw [List.perm_iff_count] at hfree hcaches ⊢
  intro a
  have h₁ := hfree a
  have h₂ := hcaches a
  simp only [processSlots, Holders.held, List.count_append] at h₁ h₂ ⊢
  omega

theorem owned_heapOf_iff {threads : List Nat} {t : Nat} (ht : t ∈ threads) {g : Process} :
    r.Owned (g.heapOf t) { o with otherThreadCaches := r.otherThreadCaches threads g t } ↔
      r.FreeSpans (g.heapOf t) ∧ (r.processSlots threads g o).Nodup ∧
        ∀ s ∈ r.processSlots threads g o, s ∈ g.provisioned := by
  have hp := allFreeSlots_heapOf_perm (r := r) ht g o
  rw [owned_iff_nodup, hp.nodup_iff]
  exact and_congr_right fun _ => and_congr_right fun _ => forall_congr' fun s => imp_congr_left hp.mem_iff

end Nodup

/-! ## Every interleaving keeps the process owned -/

section Run

variable {r slowPath callees pcscanMode} {threads : List Nat} {g g' : Process} {o o' : Holders}

/-- A request of one thread keeps every thread's view owned. -/
theorem processOwned_threadStep (hc : r.ThreadsContract slowPath callees) (hthreads : threads.Nodup)
    (hg : r.ProcessOwned threads g o) {req : Nat × Request} (ht : req.1 ∈ threads)
    (hstep : r.threadStep slowPath callees pcscanMode g o req = .ok (g', o')) : r.ProcessOwned threads g' o' := by
  obtain ⟨t, q⟩ := req
  obtain ⟨⟨h', o₁⟩, hs, hout⟩ := except_bind_eq_ok hstep
  cases hout
  have hs' := step_otherThreadCaches hs (r.otherThreadCaches threads g t)
  have hspan := step_slotSpan hc (hg t ht) hs'
  -- the other threads' caches are as they were
  have hothers : r.otherThreadCaches threads (g.update t h') t = r.otherThreadCaches threads g t :=
    List.flatMap_congr fun t' ht' => by
      simp only [Process.update, Function.update_noteq (hthreads.mem_erase_iff.1 ht').1]
  -- the thread's own view
  have ho := owned_step hc.toLifecycleContract (hg t ht) hs'
  rw [← Process.heapOf_update_self g t h', ← hothers] at ho
  have hnd := ((owned_heapOf_iff ht).1 ho).2
  intro t' ht'
  refine (owned_heapOf_iff ht').2 ⟨fun i s hmem => ?_, hnd⟩
  by_cases htt' : t' = t
  · subst htt'
    exact ho.span i s hmem
  rcases List.mem_append.1 hmem with hcache | hfl
  · -- a slot of thread `t'`'s cache, which `t`'s request did not touch
    simp only [Process.heapOf, Process.update, Function.update_noteq htt'] at hcache
    obtain ⟨hi, hsp⟩ := (hg t' ht').span i s (List.mem_append_left _ hcache)
    have hother : s ∈ r.otherThreadCaches threads g t :=
      List.mem_flatMap.2 ⟨t', (hthreads.mem_erase_iff).2 ⟨htt', ht'⟩,
        List.mem_flatMap.2 ⟨i, List.mem_range.2 hi, hcache⟩⟩
    exact ⟨hi, (hspan s hother).trans hsp⟩
  · exact ho.span i s (List.mem_append_right _ hfl)

/-- Every interleaving of requests of the threads `threads`, from a process every
thread sees owned, ends in one: no slot is in two threads' caches, in a cache and a
freelist, free and held, or held twice, and each thread's free slots of a bucket are
slots of that bucket. -/
theorem runThreads_owned (hc : r.ThreadsContract slowPath callees) (hthreads : threads.Nodup)
    (hg : r.ProcessOwned threads g o) {reqs : List (Nat × Request)} (hreqs : ∀ req ∈ reqs, req.1 ∈ threads)
    (hrun : r.runThreads slowPath callees pcscanMode g o reqs = .ok (g', o')) : r.ProcessOwned threads g' o' := by
  induction reqs generalizing g o with
  | nil =>
    cases hrun
    exact hg
  | cons req reqs ih =>
    obtain ⟨⟨g₂, o₂⟩, hs, hrun⟩ := except_bind_eq_ok hrun
    exact ih (processOwned_threadStep hc hthreads hg (hreqs req (List.mem_cons_self _ _)) hs)
      (fun req' hreq' => hreqs req' (List.mem_cons_of_mem _ hreq')) hrun

end Run

/-! ## Instances -/

/-- The slow path that carves new slots and the callees that push a freed slot leave
the span of every held slot alone. -/
theorem threadsContract_carving (poolStart : Nat) :
    r.ThreadsContract (r.carvingSlowPath poolStart) r.pushCallees where
  toLifecycleContract := r.lifecycleContract_carving poolStart
  slowPath_span h o i flags rawSize out h' ho hs := by
    rcases carvingSlowPath_eq_ok hs with ⟨-, rfl, -⟩ | ⟨span, -, -, rfl⟩
    · exact fun _ _ => rfl
    · exact fun s hs' => Function.update_noteq (provisionedEnd_le_carved (ho.held_provisioned s hs')).2 _ _
  slotSpanFree_span h o s _ _ := by
    simp only [pushCallees]
    split
    · split <;> exact fun _ _ => rfl
    · exact fun _ _ => rfl
  maybePutInCache_span h o s i h' _ _ hput := by
    simp only [pushCallees] at hput
    split at hput
    · cases hput
      exact fun _ _ => rfl
    · cases hput

theorem otherThreadCaches_ofHeap (threads : List Nat) (h : Heap) (t : Nat) :
    r.otherThreadCaches threads (Process.ofHeap h) t = [] :=
  List.flatMap_eq_nil_iff.2 fun _ _ => List.flatMap_eq_nil_iff.2 fun _ _ => rfl

theorem processOwned_empty (threads : List Nat) (byte : UInt8) :
    r.ProcessOwned threads (Process.ofHeap (Heap.empty byte)) ⟨[], [], [], []⟩ := fun t _ => by
  rw [otherThreadCaches_ofHeap]
  exact r.owned_empty byte

end PartitionRoot

/-- On `root64` with the carving slow path, thread 0 of a process with no slot yet
allocates 112 bytes: it creates its cache and carves the slot at 65536 in a span of
bucket 24. -/
theorem threadStep_carve_first (callees : FreeCallees) (pcscanMode : PCScanMode) :
    ∃ memory, root64.threadStep (root64.carvingSlowPath 65536) callees pcscanMode (Process.ofHeap (Heap.empty 0))
      ⟨[], [], [], []⟩ (0, .alloc {} 112) =
      .ok (⟨Function.update (fun _ => none) 0 (some fun _ => []), fun _ => [],
        Function.update (fun _ => ⟨.bucket 0, none⟩) 65536 ⟨.bucket 24, none⟩, memory, [65536]⟩,
        ⟨[65536], [], [], []⟩) := by
  obtain ⟨hraw, hi⟩ := PartitionRoot.allocRawSize_hundred_twelve
  set a : Acquired := ⟨65536, (root64.bucketAt 24).slotSize, false⟩
  set h₁ := { (Process.ofHeap (Heap.empty 0)).heapOf 0 with threadCache := some fun _ => [] }.carve 65536
    ⟨.bucket 24, none⟩
  have hacq : root64.acquireSlot (root64.carvingSlowPath 65536) ((Process.ofHeap (Heap.empty 0)).heapOf 0) 24 {}
      (root64.allocRawSize 112) = .ok (some a, h₁) := by
    rw [hraw]
    rfl
  have hres := root64.allocFlagsNoHooks_of_acquireSlot (by rw [hraw]; decide) hi hacq
  have hstep : root64.threadStep (root64.carvingSlowPath 65536) callees pcscanMode (Process.ofHeap (Heap.empty 0))
      ⟨[], [], [], []⟩ (0, .alloc {} 112) = .ok ((Process.ofHeap (Heap.empty 0)).update 0
        { h₁ with memory := root64.applyStores (root64.slotStores {} (root64.allocRawSize 112) a) h₁.memory },
        ⟨[65536], [], [], []⟩) :=
    PartitionRoot.threadStep_of_step (by rw [PartitionRoot.step, hres]; rfl)
  exact ⟨_, hstep⟩

/-- Then thread 1 allocates 112 bytes: it creates its cache and carves the next slot,
at 65664. -/
theorem runThreads_carve_two (callees : FreeCallees) (pcscanMode : PCScanMode) :
    ∃ memory, root64.runThreads (root64.carvingSlowPath 65536) callees pcscanMode (Process.ofHeap (Heap.empty 0))
      ⟨[], [], [], []⟩ [(0, .alloc {} 112), (1, .alloc {} 112)] =
      .ok (⟨Function.update (Function.update (fun _ => none) 0 (some fun _ => [])) 1 (some fun _ => []),
        fun _ => [], Function.update (Function.update (fun _ => ⟨.bucket 0, none⟩) 65536 ⟨.bucket 24, none⟩) 65664
          ⟨.bucket 24, none⟩, memory, [65664, 65536]⟩, ⟨[65664, 65536], [], [], []⟩) := by
  obtain ⟨memory, hstep₀⟩ := threadStep_carve_first callees pcscanMode
  obtain ⟨hraw, hi⟩ := PartitionRoot.allocRawSize_hundred_twelve
  set g₁ : Process := ⟨Function.update (fun _ => none) 0 (some fun _ => []), fun _ => [],
    Function.update (fun _ => ⟨.bucket 0, none⟩) 65536 ⟨.bucket 24, none⟩, memory, [65536]⟩
  set a : Acquired := ⟨65664, (root64.bucketAt 24).slotSize, false⟩
  set h₂ := { g₁.heapOf 1 with threadCache := some fun _ => [] }.carve 65664 ⟨.bucket 24, none⟩
  -- the slot past the one at 65536 and its 128 bytes, evaluated apart from the slow path
  have hend : max 65536 (root64.provisionedEnd { g₁.heapOf 1 with threadCache := some fun _ => [] }) = 65664 := by
    rw [show root64.provisionedEnd { g₁.heapOf 1 with threadCache := some fun _ => [] } = 65664 from rfl]
    rfl
  have hacq : root64.acquireSlot (root64.carvingSlowPath 65536) (g₁.heapOf 1) 24 {} (root64.allocRawSize 112) =
      .ok (some a, h₂) := by
    rw [hraw, PartitionRoot.acquireSlot_of_cacheMiss (h := g₁.heapOf 1) (i := 24) rfl rfl]
    exact PartitionRoot.allocFromBucket_of_slowPath rfl
      ((PartitionRoot.carvingSlowPath_of_carvedSpan
        (show root64.carvedSpan 24 128 = some ⟨.bucket 24, none⟩ from rfl)).trans (by rw [hend]))
  have hres := root64.allocFlagsNoHooks_of_acquireSlot (by rw [hraw]; decide) hi hacq
  have hstep₁ : root64.threadStep (root64.carvingSlowPath 65536) callees pcscanMode g₁ ⟨[65536], [], [], []⟩
      (1, .alloc {} 112) = .ok (g₁.update 1
        { h₂ with memory := root64.applyStores (root64.slotStores {} (root64.allocRawSize 112) a) h₂.memory },
        ⟨[65664, 65536], [], [], []⟩) :=
    PartitionRoot.threadStep_of_step (by rw [PartitionRoot.step, hres]; rfl)
  exact ⟨_, (PartitionRoot.runThreads_cons_of_threadStep hstep₀ _).trans
    ((PartitionRoot.runThreads_cons_of_threadStep hstep₁ _).trans rfl)⟩

/-- On `root64`, with two threads and no slot yet: each thread allocates 112 bytes,
carving the slots at 65536 and 65664, and thread 1 frees thread 0's allocation into its
own cache. -/
theorem runThreads_owned_cross_thread :
    ∃ g' o', root64.ThreadsContract (root64.carvingSlowPath 65536) root64.pushCallees ∧ [0, 1].Nodup ∧
      root64.ProcessOwned [0, 1] (Process.ofHeap (Heap.empty 0)) ⟨[], [], [], []⟩ ∧
      (∀ req ∈ [((0 : Nat), Request.alloc {} 112), (1, .alloc {} 112), (1, .free 65552 false)], req.1 ∈ [0, 1]) ∧
      root64.runThreads (root64.carvingSlowPath 65536) root64.pushCallees .kDisabled
        (Process.ofHeap (Heap.empty 0)) ⟨[], [], [], []⟩
        [(0, .alloc {} 112), (1, .alloc {} 112), (1, .free 65552 false)] = .ok (g', o') ∧
      root64.ProcessOwned [0, 1] g' o' := by
  have hc := root64.threadsContract_carving 65536
  have hthreads : [0, 1].Nodup := by decide
  have hg := root64.processOwned_empty [0, 1] 0
  have hreqs : ∀ req ∈ [((0 : Nat), Request.alloc {} 112), (1, .alloc {} 112), (1, .free 65552 false)],
      req.1 ∈ [0, 1] := by decide
  obtain ⟨memory, hrun₂⟩ := runThreads_carve_two root64.pushCallees .kDisabled
  -- thread 1 frees thread 0's allocation into its own cache
  obtain ⟨g', o', hfree⟩ : ∃ g' o', root64.threadStep (root64.carvingSlowPath 65536) root64.pushCallees .kDisabled
      ⟨Function.update (Function.update (fun _ => none) 0 (some fun _ => [])) 1 (some fun _ => []), fun _ => [],
        Function.update (Function.update (fun _ => ⟨.bucket 0, none⟩) 65536 ⟨.bucket 24, none⟩) 65664
          ⟨.bucket 24, none⟩, memory, [65664, 65536]⟩
      ⟨[65664, 65536], [], [], []⟩ (1, .free 65552 false) = .ok (g', o') := ⟨_, _, rfl⟩
  have hrun : root64.runThreads (root64.carvingSlowPath 65536) root64.pushCallees .kDisabled
      (Process.ofHeap (Heap.empty 0)) ⟨[], [], [], []⟩
      ([(0, .alloc {} 112), (1, .alloc {} 112)] ++ [(1, .free 65552 false)]) = .ok (g', o') := by
    rw [PartitionRoot.runThreads_append, hrun₂]
    exact (PartitionRoot.runThreads_cons_of_threadStep hfree _).trans rfl
  exact ⟨g', o', hc, hthreads, hg, hreqs, hrun, PartitionRoot.runThreads_owned hc hthreads hg hreqs hrun⟩

end PartitionAlloc
