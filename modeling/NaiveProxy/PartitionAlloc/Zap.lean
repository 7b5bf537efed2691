import NaiveProxy.PartitionAlloc.Refinement

/-!
# Slots a reference outlives stay zapped

`FreeNoHooksImmediate` does not free a slot some `raw_ptr` still refers to: "defer the
operation and zap the memory to turn potential use-after-free issues into unexploitable
crashes". The slot then belongs to its references (`Holders.referenced`) until the last
of them goes and calls `PartitionAllocFreeForRefCounting`. A dangling pointer reads the
slot's usable bytes, so the zap is worth what it keeps: `Zapped` says that every such
slot reads `kQuarantinedByte` over its block. No allocation hands such a slot out
(`Owned`), no request writes it (`step_kept`), and no store of the program reaches it
(`Laid`). Then:

    runAccesses_zapped   over every interleaving of in-bounds accesses that free only
                         null or pointers past the extras, every slot held only by
                         references reads kQuarantinedByte over its usable bytes
-/

namespace PartitionAlloc

namespace Holders

variable {o : Holders} {s : Nat}

theorem mem_held_of_referenced (hs : s ∈ o.referenced) : s ∈ o.held :=
  List.mem_append_left _ (List.mem_append_left _ (List.mem_append_right _ hs))

theorem referenced_afterAlloc (x : Option Nat) : (o.afterAlloc x).referenced = o.referenced := by
  cases x <;> rfl

end Holders

namespace PartitionRoot

variable (r : PartitionRoot) (slowPath : SlowPath) (callees : FreeCallees) (pcscanMode : PCScanMode)

/-- What the zap needs of the ref-count (`partition_ref_count.h`, not in `src/`) beside
the memory contract: `HasOneRef()` means the release leaves no reference. -/
structure ZapContract extends r.MemoryContract slowPath callees : Prop where
  hasOneRef_release : ∀ memory slotStart, callees.hasOneRef memory slotStart = true →
    (callees.releaseFromAllocator memory slotStart).1 = true

/-- Every slot of `referenced` reads `kQuarantinedByte` over its block. -/
def Zapped (slotSpan : Nat → SlotSpan) (memory : Nat → UInt8) (referenced : List Nat) : Prop :=
  ∀ s ∈ referenced, ∀ k < (r.block slotSpan s).2, memory ((r.block slotSpan s).1 + k) = kQuarantinedByte

/-- An access that frees null or a pointer past the extras, as every pointer an
allocation returns is; any other access. -/
def ValidFree : Access → Prop
  | .call (.free ptr _) => ptr = 0 ∨ r.extrasOffset ≤ ptr
  | _ => True

section Steps

variable {r slowPath callees pcscanMode} {h h' : Heap} {o o' : Holders}

theorem Owned.nodup_referenced (ho : r.Owned h o) : o.referenced.Nodup :=
  ho.nodup_held.of_append_left.of_append_left.of_append_right

theorem Zapped.of_kept {refs : List Nat} (hz : r.Zapped h.slotSpan h.memory refs) (hl : r.Laid h o)
    (hrefs : ∀ s ∈ refs, s ∈ o.held) (hkept : ∀ s ∈ refs, r.SlotKept h h' s) :
    r.Zapped h'.slotSpan h'.memory refs := by
  intro s hs k hk
  have hb : r.block h'.slotSpan s = r.block h.slotSpan s := by simp only [block, (hkept s hs).1]
  rw [hb] at hk ⊢
  rw [keeps_of_kept hl hrefs hkept _ (List.mem_map_of_mem _ hs) k hk]
  exact hz s hs k hk

theorem freeNoHooks_stillReferenced {zeroRandomly : Bool} {ptr : Nat}
    (hfree : r.freeNoHooks callees pcscanMode zeroRandomly h ptr = .ok (.stillReferenced, h')) :
    ptr ≠ 0 ∧ r.freeAfterCookies callees zeroRandomly h ptr = (.stillReferenced, h') := by
  unfold freeNoHooks at hfree
  split at hfree
  · cases hfree
  rename_i hptr
  split at hfree
  · cases hfree
  · exact ⟨hptr, (freeNoHooksImmediate_eq_ok_iff.1 hfree).2.symm⟩

/-- Every request keeps the slots held only by references zapped: those it does not
free it does not write, and a free deferred to the references zaps the slot. -/
theorem zapped_step (hc : r.ZapContract slowPath callees)
    (hextras : r.extrasSize + 1 < 2 ^ r.buckets.kBitsPerSizeT) (ho : r.Owned h o) (hl : r.Laid h o)
    (hsized : r.Sized h o) (hz : r.Zapped h.slotSpan h.memory o.referenced) {q : Request}
    (hq : r.ValidFree (.call q)) (hstep : r.step slowPath callees pcscanMode h o q = .ok (h', o')) :
    r.Zapped h'.slotSpan h'.memory o'.referenced := by
  have href : ∀ s ∈ o.referenced, s ∈ o.held := fun s hs => Holders.mem_held_of_referenced hs
  rcases step_eq_ok hstep with ⟨_, _, out, -, hres, rfl, rfl⟩ | ⟨_, _, _, out, -, hres, rfl, rfl⟩ |
    ⟨ptr, zeroRandomly, ⟨fate, h'⟩, rfl, hs, hf, rfl, rfl⟩ | ⟨s, out, rfl, hs, hf, rfl, rfl⟩
  · rw [Holders.referenced_afterAlloc]
    exact hz.of_kept hl href fun s hs => allocFlagsNoHooks_kept hc.toMemoryContract hextras ho hl hres s (href s hs)
  · rw [Holders.referenced_afterAlloc]
    exact hz.of_kept hl href fun s hs => alignedAllocFlags_kept hc.toMemoryContract hextras ho hl hres s (href s hs)
  · -- a free writes no slot a reference holds, and may add the slot it frees to them
    have hold := hz.of_kept hl href fun t ht => freeNoHooks_kept hc.toMemoryContract ho hl hsized hs hf t
      (href t ht) fun hptr => (ho.live_ne_referenced (hs hptr) ht).symm
    cases fate
    case stillReferenced =>
      obtain ⟨hptr, hout⟩ := freeNoHooks_stillReferenced hf
      have hlo : r.extrasOffset ≤ ptr := (hq : ptr = 0 ∨ r.extrasOffset ≤ ptr).resolve_left hptr
      obtain ⟨hzap, -, -, hspan⟩ := freeAfterCookies_zaps hc.hasOneRef_release
        (fun memory slotStart a ha => hc.releaseFromAllocator_memory memory slotStart a (.inr ha)) hlo hout
      intro t ht
      rcases List.mem_cons.1 ht with rfl | ht
      · -- the slot freed: its block starts at the pointer freed, which the ref-count zapped
        have hb : r.block h'.slotSpan (r.adjustPointerForExtrasSubtract ptr) = (ptr, r.getUsableSize h ptr) :=
          Prod.ext (Nat.sub_add_cancel hlo) (by simp only [block, getUsableSize, hspan])
        rw [hb]
        exact hzap
      · exact hold t ht
    all_goals exact hold
  · -- the last reference goes: the others' slots are not written
    have hnd := ho.nodup_referenced
    have hz' : r.Zapped h.slotSpan h.memory (o.referenced.erase s) := fun t ht => hz t (List.mem_of_mem_erase ht)
    exact hz'.of_kept hl (fun t ht => href t (List.mem_of_mem_erase ht)) fun t ht =>
      partitionAllocFreeForRefCounting_kept hc.toMemoryContract ho hl hs hf t (href t (List.mem_of_mem_erase ht))
        (hnd.mem_erase_iff.1 ht).1

/-- A store to a usable byte of a live allocation misses every slot a reference holds. -/
theorem Zapped.write (hz : r.Zapped h.slotSpan h.memory o.referenced) (ho : r.Owned h o) (hl : r.Laid h o)
    {addr : Nat} (hin : r.InUse h o addr) (byte : UInt8) :
    r.Zapped h.slotSpan (Function.update h.memory addr byte) o.referenced := by
  obtain ⟨s₀, hs₀, hlo, hhi⟩ := hin
  intro s hs k hk
  rw [Function.update_noteq fun heq => ?_]
  · exact hz s hs k hk
  have hknown : ∀ t ∈ o.held, t ∈ r.allFreeSlots h ++ o.held := fun t ht => List.mem_append_right _ ht
  have hsk := hknown s (Holders.mem_held_of_referenced hs)
  have hs₀k := hknown s₀ (Holders.mem_held_of_live hs₀)
  rw [getUsableSize_add_extrasOffset] at hhi
  have := usable_lt_slot (hl.utilized_le s hsk) hk
  have := usable_lt_slot (hl.utilized_le s₀ hs₀k) (k := addr - (s₀ + r.extrasOffset)) (by simp only [block] at hhi; omega)
  have := hl.disjoint s₀ hs₀k s hsk (ho.live_ne_referenced hs₀ hs)
  simp only [block] at heq
  omega

end Steps

/-! ## Every interleaving keeps them zapped -/

section Run

variable {r slowPath callees pcscanMode} {threads : List Nat} {g g' : Process} {o o' : Holders}

theorem zapped_accessStep (hc : r.ZapContract slowPath callees)
    (hextras : r.extrasSize + 1 < 2 ^ r.buckets.kBitsPerSizeT) (hsound : r.ProcessSound threads g o)
    (hz : r.Zapped g.slotSpan g.memory o.referenced) {acc : Nat × Access} (ht : acc.1 ∈ threads)
    (hacc : r.ValidFree acc.2) (hstep : r.accessStep slowPath callees pcscanMode g o acc = .ok (g', o')) :
    r.Zapped g'.slotSpan g'.memory o'.referenced := by
  obtain ⟨t, q | ⟨addr, byte⟩⟩ := acc
  · obtain ⟨⟨h', o₁⟩, hs, hout⟩ := except_bind_eq_ok hstep
    cases hout
    exact (zapped_step hc hextras (hsound.owned t ht) (hsound.laid t ht) hsound.sized hz hacc
      (step_otherThreadCaches hs (r.otherThreadCaches threads g t)) :)
  · simp only [accessStep] at hstep
    split at hstep
    · rename_i hin
      cases hstep
      exact hz.write (hsound.owned t ht) (hsound.laid t ht) hin byte
    · cases hstep

/-- Over every interleaving of the threads' accesses that stays in bounds and frees only
null or pointers past the extras, from a sound process whose referenced slots are
zapped, every slot held only by references reads `kQuarantinedByte` over its usable
bytes: a dangling pointer reads the zap, never data stored after the free. -/
theorem runAccesses_zapped (hc : r.ZapContract slowPath callees)
    (hextras : r.extrasSize + 1 < 2 ^ r.buckets.kBitsPerSizeT) (hthreads : threads.Nodup)
    (hsound : r.ProcessSound threads g o) (hz : r.Zapped g.slotSpan g.memory o.referenced)
    {accs : List (Nat × Access)} (haccs : ∀ acc ∈ accs, acc.1 ∈ threads) (hfrees : ∀ acc ∈ accs, r.ValidFree acc.2)
    (hrun : r.runAccesses slowPath callees pcscanMode g o accs = .ok (g', o')) :
    r.Zapped g'.slotSpan g'.memory o'.referenced := by
  induction accs generalizing g o with
  | nil =>
    cases hrun
    exact hz
  | cons acc accs ih =>
    obtain ⟨⟨g₂, o₂⟩, hs, hrun⟩ := except_bind_eq_ok hrun
    have ht := haccs acc (List.mem_cons_self _ _)
    exact ih (processSound_accessStep hc.toMemoryContract hextras hthreads hsound ht hs)
      (zapped_accessStep hc hextras hsound hz ht (hfrees acc (List.mem_cons_self _ _)) hs)
      (fun acc' hacc' => haccs acc' (List.mem_cons_of_mem _ hacc'))
      (fun acc' hacc' => hfrees acc' (List.mem_cons_of_mem _ hacc')) hrun

end Run

/-- The callees that push a freed slot hold only the allocator's reference. -/
theorem zapContract_carving (poolStart : Nat) : r.ZapContract (r.carvingSlowPath poolStart) r.pushCallees :=
  ⟨r.memoryContract_carving poolStart, fun _ _ _ => rfl⟩

end PartitionRoot

/-- A ref-count that a second reference keeps never reports one reference, and its
release writes nothing: the rest is the pushing callees' contract. -/
theorem zapContract_sharedRefCallees : root64.ZapContract (root64.carvingSlowPath 65536) sharedRefCallees :=
  have hc := root64.zapContract_carving 65536
  { slowPath_none := hc.slowPath_none
    slowPath_some := hc.slowPath_some
    slotSpanFree := hc.slotSpanFree
    maybePutInCache := hc.maybePutInCache
    moveToQuarantine := hc.moveToQuarantine
    slowPath_span := hc.slowPath_span
    slotSpanFree_span := hc.slotSpanFree_span
    maybePutInCache_span := hc.maybePutInCache_span
    slowPath_none_laid := hc.slowPath_none_laid
    slowPath_some_laid := hc.slowPath_some_laid
    slotSpanFree_laid := hc.slotSpanFree_laid
    maybePutInCache_laid := hc.maybePutInCache_laid
    toSlowPathContract := hc.toSlowPathContract
    slowPath_bytes := hc.slowPath_bytes
    slotSpanFree_bytes := hc.slotSpanFree_bytes
    maybePutInCache_bytes := hc.maybePutInCache_bytes
    moveToQuarantine_bytes := hc.moveToQuarantine_bytes
    releaseFromAllocator_memory := fun _ _ _ _ => rfl
    hasOneRef_release := fun _ _ hone => Bool.noConfusion hone }

/-- On `root64`, with two threads and no slot yet, where a second `raw_ptr` refers to
every slot: thread 0 allocates 112 bytes, carving the slot at 65536, thread 1 stores a
byte at the allocation's last usable byte and frees it. The free is deferred to the
reference, and the slot's usable bytes read the zap, the stored byte included. -/
theorem runAccesses_zapped_alloc_write :
    ∃ g' o', root64.ZapContract (root64.carvingSlowPath 65536) sharedRefCallees ∧
      root64.extrasSize + 1 < 2 ^ root64.buckets.kBitsPerSizeT ∧ [0, 1].Nodup ∧
      root64.ProcessSound [0, 1] (Process.ofHeap (Heap.empty 0)) ⟨[], [], [], []⟩ ∧
      root64.Zapped (Heap.empty 0).slotSpan (Heap.empty 0).memory [] ∧
      (∀ acc ∈ [((0 : Nat), Access.call (.alloc {} 112)), (1, .write 65663 7), (1, .call (.free 65552 false))],
        acc.1 ∈ [0, 1]) ∧
      (∀ acc ∈ [((0 : Nat), Access.call (.alloc {} 112)), (1, .write 65663 7), (1, .call (.free 65552 false))],
        root64.ValidFree acc.2) ∧
      root64.runAccesses (root64.carvingSlowPath 65536) sharedRefCallees .kDisabled
        (Process.ofHeap (Heap.empty 0)) ⟨[], [], [], []⟩
        [(0, .call (.alloc {} 112)), (1, .write 65663 7), (1, .call (.free 65552 false))] = .ok (g', o') ∧
      o'.referenced = [65536] ∧ root64.Zapped g'.slotSpan g'.memory o'.referenced := by
  have hc := zapContract_sharedRefCallees
  have hextras : root64.extrasSize + 1 < 2 ^ root64.buckets.kBitsPerSizeT := by decide
  have hthreads : [0, 1].Nodup := by decide
  have hsound := root64.processSound_empty [0, 1] 0
  have hz : root64.Zapped (Heap.empty 0).slotSpan (Heap.empty 0).memory [] := fun _ hs => absurd hs (List.not_mem_nil _)
  have haccs : ∀ acc ∈ [((0 : Nat), Access.call (.alloc {} 112)), (1, .write 65663 7),
      (1, .call (.free 65552 false))], acc.1 ∈ [0, 1] := by
    decide
  have hfrees : ∀ acc ∈ [((0 : Nat), Access.call (.alloc {} 112)), (1, .write 65663 7),
      (1, .call (.free 65552 false))], root64.ValidFree acc.2 := by
    simp only [List.mem_cons, List.not_mem_nil, or_false, forall_eq_or_imp, forall_eq]
    exact ⟨trivial, trivial, .inr (by decide)⟩
  obtain ⟨memory, halloc⟩ := threadStep_carve_first sharedRefCallees .kDisabled
  -- thread 1 stores at 65536 + 16 + 111, the last of the 112 usable bytes
  have hin : root64.InUse (Process.heapOf ⟨Function.update (fun _ => none) 0 (some fun _ => []), fun _ => [],
      Function.update (fun _ => ⟨.bucket 0, none⟩) 65536 ⟨.bucket 24, none⟩, memory, [65536]⟩ 1)
      ⟨[65536], [], [], []⟩ 65663 := by
    simp only [PartitionRoot.InUse, PartitionRoot.getUsableSize, Process.heapOf]
    decide
  -- the second reference keeps the slot: the free zaps it and defers to the reference
  have hfree : ∃ g₃, root64.threadStep (root64.carvingSlowPath 65536) sharedRefCallees .kDisabled
      ⟨Function.update (fun _ => none) 0 (some fun _ => []), fun _ => [],
        Function.update (fun _ => ⟨.bucket 0, none⟩) 65536 ⟨.bucket 24, none⟩,
        Function.update memory 65663 7, [65536]⟩ ⟨[65536], [], [], []⟩ (1, .free 65552 false) =
      .ok (g₃, ⟨[], [65536], [], []⟩) := ⟨_, rfl⟩
  obtain ⟨g₃, hfree⟩ := hfree
  have hrun := (PartitionRoot.runAccesses_cons_of_accessStep (PartitionRoot.accessStep_call.trans halloc) _).trans
    ((PartitionRoot.runAccesses_cons_of_accessStep (PartitionRoot.accessStep_write hin 7) _).trans
      ((PartitionRoot.runAccesses_cons_of_accessStep (PartitionRoot.accessStep_call.trans hfree) []).trans rfl))
  exact ⟨g₃, _, hc, hextras, hthreads, hsound, hz, haccs, hfrees, hrun, rfl,
    PartitionRoot.runAccesses_zapped hc hextras hthreads hsound hz haccs hfrees hrun⟩

end PartitionAlloc
