import NaiveProxy.PartitionAlloc.Program

/-!
# The allocator refines a malloc

What a program may rely on of an allocator, said without slots, buckets, caches or
threads: the allocator holds blocks, each a pointer and a size (`Malloc.State`). An
allocation returns null, or a new block of at least the request, apart from every block
held; an aligned one's pointer is a multiple of the alignment. A free of a block's
pointer takes the block back, and a free of null does nothing; a free of a pointer no
block has is undefined, and the machine may then go anywhere. No request changes a byte
of a block it does not hand out or take back, and a store to a byte of a block changes
that byte only (`Malloc.Step`).

`view` reads this off a process: the block of each live allocation is the pointer the
allocation returned, the extras' offset into its slot, and its `GetUsableSize`. From a
process each thread sees owned and laid out, whose live slots hold their extras
(`ProcessSound`), the frame lemmas of `Program` make each request one step of the
malloc (`step_refines`). Then:

    runAccesses_refines   every interleaving of the threads' accesses that does not
                          crash is a run of the malloc through the view
-/

namespace PartitionAlloc

namespace Malloc

/-- What a program sees of an allocator: the blocks it holds, each a pointer and a
size, and memory. -/
structure State where
  blocks : List (Nat × Nat)
  memory : Nat → UInt8

/-- The block at `p` of `size` bytes shares no byte with any of `blocks`. -/
def Apart (p size : Nat) (blocks : List (Nat × Nat)) : Prop :=
  ∀ b ∈ blocks, p + size ≤ b.1 ∨ b.1 + b.2 ≤ p

/-- `memory'` agrees with `memory` on every byte of `blocks`. -/
def Keeps (blocks : List (Nat × Nat)) (memory memory' : Nat → UInt8) : Prop :=
  ∀ b ∈ blocks, ∀ k < b.2, memory' (b.1 + k) = memory (b.1 + k)

/-- One access, as a program may rely on it. -/
inductive Step : State → Access → State → Prop
  /-- An allocation that returns null changes no block. -/
  | allocNull {σ σ' : State} {flags : AllocFlags} {n : Nat} :
      σ'.blocks = σ.blocks → Keeps σ.blocks σ.memory σ'.memory → Step σ (.call (.alloc flags n)) σ'
  /-- An allocation hands out a new block of at least the request, apart from the
  blocks held. -/
  | alloc {σ σ' : State} {flags : AllocFlags} {n p size : Nat} :
      n ≤ size → Apart p size σ.blocks → σ'.blocks = (p, size) :: σ.blocks →
      Keeps σ.blocks σ.memory σ'.memory → Step σ (.call (.alloc flags n)) σ'
  /-- An aligned allocation that returns null changes no block. -/
  | alignedAllocNull {σ σ' : State} {flags : AllocFlags} {alignment n : Nat} :
      σ'.blocks = σ.blocks → Keeps σ.blocks σ.memory σ'.memory →
      Step σ (.call (.alignedAlloc flags alignment n)) σ'
  /-- An aligned allocation hands out a new block at a multiple of the alignment. -/
  | alignedAlloc {σ σ' : State} {flags : AllocFlags} {alignment n p size : Nat} :
      p % alignment = 0 → n ≤ size → Apart p size σ.blocks → σ'.blocks = (p, size) :: σ.blocks →
      Keeps σ.blocks σ.memory σ'.memory → Step σ (.call (.alignedAlloc flags alignment n)) σ'
  /-- A free of null does nothing. -/
  | freeNull {σ σ' : State} {zeroRandomly : Bool} :
      σ'.blocks = σ.blocks → Keeps σ.blocks σ.memory σ'.memory → Step σ (.call (.free 0 zeroRandomly)) σ'
  /-- A free of a block's pointer takes that block back and keeps the others. -/
  | free {σ σ' : State} {p size : Nat} {zeroRandomly : Bool} :
      σ.blocks.Perm ((p, size) :: σ'.blocks) → Keeps σ'.blocks σ.memory σ'.memory →
      Step σ (.call (.free p zeroRandomly)) σ'
  /-- A free of a pointer no block has is undefined. -/
  | freeUndefined {σ σ' : State} {p : Nat} {zeroRandomly : Bool} :
      p ≠ 0 → (∀ b ∈ σ.blocks, b.1 ≠ p) → Step σ (.call (.free p zeroRandomly)) σ'
  /-- The last reference to a slot going changes no block. -/
  | lastReferenceGone {σ σ' : State} {slotStart : Nat} :
      σ'.blocks = σ.blocks → Keeps σ.blocks σ.memory σ'.memory →
      Step σ (.call (.lastReferenceGone slotStart)) σ'
  /-- A store to a byte of a block changes that byte only. -/
  | write {σ : State} {b : Nat × Nat} {addr : Nat} {byte : UInt8} :
      b ∈ σ.blocks → b.1 ≤ addr → addr < b.1 + b.2 →
      Step σ (.write addr byte) ⟨σ.blocks, Function.update σ.memory addr byte⟩

/-- The accesses in order. -/
inductive Run : State → List Access → State → Prop
  | nil (σ : State) : Run σ [] σ
  | cons {σ σ₁ σ' : State} {acc : Access} {accs : List Access} :
      Step σ acc σ₁ → Run σ₁ accs σ' → Run σ (acc :: accs) σ'

end Malloc

namespace PartitionRoot

variable (r : PartitionRoot) (slowPath : SlowPath) (callees : FreeCallees) (pcscanMode : PCScanMode)

/-- The block of the live allocation at slot `s`: the pointer the allocation returned,
and its `GetUsableSize`. -/
def block (slotSpan : Nat → SlotSpan) (s : Nat) : Nat × Nat :=
  (s + r.extrasOffset, r.adjustSizeForExtrasSubtract (r.getUtilizedSlotSize (slotSpan s)))

/-- What the program sees of the spans, memory and its live allocations. -/
def view (slotSpan : Nat → SlotSpan) (memory : Nat → UInt8) (live : List Nat) : Malloc.State :=
  ⟨live.map (r.block slotSpan), memory⟩

/-- What the refinement keeps over every interleaving: each thread sees the process
owned and laid out, and the slot of each live allocation holds its extras. -/
structure ProcessSound (threads : List Nat) (g : Process) (o : Holders) : Prop where
  owned : r.ProcessOwned threads g o
  laid : r.ProcessLaid threads g o
  sized : ∀ s ∈ o.live, r.extrasSize ≤ r.getUtilizedSlotSize (g.slotSpan s)

/-! ## Blocks -/

section Blocks

variable {r} {h h' : Heap} {o : Holders}

theorem getUsableSize_add_extrasOffset (h : Heap) (s : Nat) :
    r.getUsableSize h (s + r.extrasOffset) = (r.block h.slotSpan s).2 := by
  simp only [getUsableSize, adjustPointerForExtrasSubtract, Nat.add_sub_cancel, block]

theorem map_block_of_kept {live : List Nat} (hkept : ∀ s ∈ live, r.SlotKept h h' s) :
    live.map (r.block h'.slotSpan) = live.map (r.block h.slotSpan) :=
  List.map_congr_left fun s hs => by simp only [block, (hkept s hs).1]

theorem keeps_of_kept (hl : r.Laid h o) {live : List Nat} (hlive : ∀ s ∈ live, s ∈ o.held)
    (hkept : ∀ s ∈ live, r.SlotKept h h' s) : Malloc.Keeps (live.map (r.block h.slotSpan)) h.memory h'.memory := by
  intro b hb k hk
  obtain ⟨s, hs, rfl⟩ := List.mem_map.1 hb
  have := usable_lt_slot (hl.utilized_le s (List.mem_append_right _ (hlive s hs))) hk
  simp only [block, Nat.add_assoc]
  exact (hkept s hs).2 _ this

theorem Apart.block_apart {slotSpan : Nat → SlotSpan} {slots : List Nat} (ha : r.Apart slotSpan slots)
    {s s' : Nat} (hs : s ∈ slots) (hs' : s' ∈ slots) (hne : s ≠ s')
    (hE : r.extrasSize ≤ r.getUtilizedSlotSize (slotSpan s)) (hE' : r.extrasSize ≤ r.getUtilizedSlotSize (slotSpan s')) :
    (r.block slotSpan s).1 + (r.block slotSpan s).2 ≤ (r.block slotSpan s').1 ∨
      (r.block slotSpan s').1 + (r.block slotSpan s').2 ≤ (r.block slotSpan s).1 := by
  have hsize : r.extrasSize = r.extrasOffset + r.cookieSize := rfl
  have := ha.disjoint s hs s' hs' hne
  have := ha.utilized_le s hs
  have := ha.utilized_le s' hs'
  simp only [block, adjustSizeForExtrasSubtract]
  omega

end Blocks

/-! ## One request is one step -/

section Steps

variable {r slowPath callees pcscanMode} {h h' : Heap} {o o' : Holders}

/-- The block an allocation hands out, at the pointer it returns: it holds the request
and lies apart from every block held before. -/
theorem allocFlagsNoHooks_block (hc : r.MemoryContract slowPath callees)
    (hextras : r.extrasSize + 1 < 2 ^ r.buckets.kBitsPerSizeT) (ho : r.Owned h o) (hl : r.Laid h o)
    (hsized : r.Sized h o) {flags : AllocFlags} {n : Nat} {out : AllocOutcome}
    (hres : r.allocFlagsNoHooks slowPath h flags n = .ok out) {p : Nat} (hp : out.ret = some p) :
    r.block out.heap.slotSpan (r.adjustPointerForExtrasSubtract p) =
        (p, (r.block out.heap.slotSpan (r.adjustPointerForExtrasSubtract p)).2) ∧
      n ≤ (r.block out.heap.slotSpan (r.adjustPointerForExtrasSubtract p)).2 ∧
      Malloc.Apart p (r.block out.heap.slotSpan (r.adjustPointerForExtrasSubtract p)).2
        (o.live.map (r.block h.slotSpan)) := by
  obtain ⟨hpe, hsize, -⟩ := allocFlagsNoHooks_new hc hextras ho hres hp
  have hl' := laid_allocFlagsNoHooks hc.toLayoutContract ho hl hres
  have ho' := owned_allocFlagsNoHooks hc.toLifecycleContract ho hres
  rw [hp, Option.map_some'] at hl' ho'
  have hb : (r.block out.heap.slotSpan (r.adjustPointerForExtrasSubtract p)).1 = p := hpe.symm
  refine ⟨Prod.ext hb rfl, by simp only [block, adjustSizeForExtrasSubtract]; omega, fun b hb' => ?_⟩
  obtain ⟨s, hs, rfl⟩ := List.mem_map.1 hb'
  have hheld := Holders.mem_held_of_live hs
  have hspan := (allocFlagsNoHooks_kept hc hextras ho hl hres s hheld).1
  have hne : r.adjustPointerForExtrasSubtract p ≠ s := fun heq =>
    (List.nodup_cons.1 ho'.nodup_held).1 (heq ▸ hheld)
  have hold : r.block h.slotSpan s = r.block out.heap.slotSpan s := by simp only [block, hspan]
  have := hl'.block_apart (List.mem_append_right _ (List.mem_cons_self _ _))
    (List.mem_append_right _ (List.mem_cons_of_mem _ hheld)) hne (by omega) (by rw [hspan]; exact hsized s hs)
  rw [hold]
  omega

/-- One request, seen through the view, is one step of the malloc. -/
theorem step_refines (hc : r.MemoryContract slowPath callees)
    (hextras : r.extrasSize + 1 < 2 ^ r.buckets.kBitsPerSizeT) (ho : r.Owned h o) (hl : r.Laid h o)
    (hsized : r.Sized h o) {q : Request} (hstep : r.step slowPath callees pcscanMode h o q = .ok (h', o')) :
    Malloc.Step (r.view h.slotSpan h.memory o.live) (.call q) (r.view h'.slotSpan h'.memory o'.live) := by
  -- the blocks of the slots live throughout stay, and so do their bytes
  have hsame : ∀ live : List Nat, (∀ s ∈ live, s ∈ o.live ∧ s ∈ o'.live) →
      live.map (r.block h'.slotSpan) = live.map (r.block h.slotSpan) ∧
        Malloc.Keeps (live.map (r.block h.slotSpan)) h.memory h'.memory := fun live hlive =>
    have hk : ∀ s ∈ live, r.SlotKept h h' s := fun s hs =>
      step_kept hc hextras ho hl hsized hstep s (hlive s hs).1 (hlive s hs).2
    ⟨map_block_of_kept hk, keeps_of_kept hl (fun s hs => Holders.mem_held_of_live (hlive s hs).1) hk⟩
  have hafterAlloc : ∀ x, ∀ s ∈ o.live, s ∈ o.live ∧ s ∈ (o.afterAlloc x).live := fun x s hs =>
    ⟨hs, by cases x <;> simp only [Holders.afterAlloc, List.mem_cons, hs, or_true]⟩
  rcases step_eq_ok hstep with ⟨flags, n, out, rfl, hres, rfl, rfl⟩ |
    ⟨flags, alignment, size, out, rfl, hres, rfl, rfl⟩ | ⟨ptr, zeroRandomly, out, rfl, hs, hf, rfl, rfl⟩ |
    ⟨s, out, rfl, hs, hf, rfl, rfl⟩
  · -- an allocation: null, or a new block
    obtain ⟨hblocks, hkeeps⟩ := hsame o.live (hafterAlloc _)
    rcases hp : out.ret with _ | p
    · exact .allocNull (by simp only [view, hp, Option.map_none', Holders.afterAlloc, hblocks]) hkeeps
    · obtain ⟨hb, hn, hapart⟩ := allocFlagsNoHooks_block hc hextras ho hl hsized hres hp
      exact .alloc hn hapart
        (by simp only [view, hp, Option.map_some', Holders.afterAlloc, List.map_cons, hblocks]; rw [hb]) hkeeps
  · -- an aligned allocation: null, or the block of the rounded request at the alignment
    obtain ⟨hblocks, hkeeps⟩ := hsame o.live (hafterAlloc _)
    rcases alignedAllocFlags_noHooks hres with rfl | ⟨req, hpow, hle, haligned, hn⟩
    · exact .alignedAllocNull rfl hkeeps
    rcases hp : out.ret with _ | p
    · exact .alignedAllocNull (by simp only [view, hp, Option.map_none', Holders.afterAlloc, hblocks]) hkeeps
    · obtain ⟨hb, hreq, hapart⟩ := allocFlagsNoHooks_block hc hextras ho hl hsized hn hp
      rw [hp, Option.getD_some] at haligned
      exact .alignedAlloc (mod_eq_zero_of_and_eq_zero hpow haligned) (hle.trans hreq) hapart
        (by simp only [view, hp, Option.map_some', Holders.afterAlloc, List.map_cons, hblocks]; rw [hb]) hkeeps
  · -- a free: of null, of a block's pointer, or of a pointer inside the extras of slot 0
    by_cases hptr : ptr = 0
    · subst hptr
      unfold freeNoHooks at hf
      rw [if_pos rfl] at hf
      cases hf
      exact .freeNull rfl fun _ _ _ _ => rfl
    have hs₀ := hs hptr
    have hlive := freeNoHooks_live (o := o) hptr hf (r.adjustPointerForExtrasSubtract ptr)
    obtain ⟨hblocks, hkeeps⟩ := hsame (o.live.erase (r.adjustPointerForExtrasSubtract ptr)) fun s hs =>
      ⟨List.mem_of_mem_erase hs, hlive ▸ hs⟩
    have hview : (r.view out.2.slotSpan out.2.memory (o.afterFree (r.adjustPointerForExtrasSubtract ptr) out.1).live).blocks =
        (o.live.erase (r.adjustPointerForExtrasSubtract ptr)).map (r.block h.slotSpan) := by
      simp only [view, hlive, hblocks]
    by_cases hlo : r.extrasOffset ≤ ptr
    · have hb : r.block h.slotSpan (r.adjustPointerForExtrasSubtract ptr) =
          (ptr, (r.block h.slotSpan (r.adjustPointerForExtrasSubtract ptr)).2) :=
        Prod.ext (Nat.sub_add_cancel hlo) rfl
      have hperm : (o.live.map (r.block h.slotSpan)).Perm
          ((ptr, (r.block h.slotSpan (r.adjustPointerForExtrasSubtract ptr)).2) ::
            (r.view out.2.slotSpan out.2.memory (o.afterFree (r.adjustPointerForExtrasSubtract ptr) out.1).live).blocks) := by
        rw [hview, ← hb]
        exact (List.perm_cons_erase hs₀).map _
      exact .free hperm (hview ▸ hkeeps)
    · exact .freeUndefined hptr fun b hb => by
        obtain ⟨s, -, rfl⟩ := List.mem_map.1 hb
        simp only [block]
        omega
  · -- the release of a slot a ref-count held
    obtain ⟨hblocks, hkeeps⟩ := hsame o.live fun s hs => ⟨hs, hs⟩
    exact .lastReferenceGone hblocks hkeeps

end Steps

/-! ## Every interleaving is a run of the malloc -/

section Run

variable {r slowPath callees pcscanMode} {threads : List Nat} {g g' : Process} {o o' : Holders}

theorem accessStep_refines (hc : r.MemoryContract slowPath callees)
    (hextras : r.extrasSize + 1 < 2 ^ r.buckets.kBitsPerSizeT) (hsound : r.ProcessSound threads g o)
    {acc : Nat × Access} (ht : acc.1 ∈ threads)
    (hstep : r.accessStep slowPath callees pcscanMode g o acc = .ok (g', o')) :
    Malloc.Step (r.view g.slotSpan g.memory o.live) acc.2 (r.view g'.slotSpan g'.memory o'.live) := by
  obtain ⟨t, q | ⟨addr, byte⟩⟩ := acc
  · obtain ⟨⟨h', o₁⟩, hs, hout⟩ := except_bind_eq_ok hstep
    cases hout
    exact (step_refines hc hextras (hsound.owned t ht) (hsound.laid t ht) hsound.sized
      (step_otherThreadCaches hs (r.otherThreadCaches threads g t)) :)
  · simp only [accessStep] at hstep
    split at hstep
    · rename_i hin
      cases hstep
      obtain ⟨s, hs, hlo, hhi⟩ := hin
      rw [getUsableSize_add_extrasOffset] at hhi
      exact .write (List.mem_map_of_mem _ hs) hlo hhi
    · cases hstep

theorem processSound_accessStep (hc : r.MemoryContract slowPath callees)
    (hextras : r.extrasSize + 1 < 2 ^ r.buckets.kBitsPerSizeT) (hthreads : threads.Nodup)
    (hsound : r.ProcessSound threads g o) {acc : Nat × Access} (ht : acc.1 ∈ threads)
    (hstep : r.accessStep slowPath callees pcscanMode g o acc = .ok (g', o')) : r.ProcessSound threads g' o' := by
  obtain ⟨t, q | ⟨addr, byte⟩⟩ := acc
  · refine ⟨processOwned_threadStep hc.toThreadsContract hthreads hsound.owned ht hstep,
      processLaid_threadStep hc.toLayoutContract hthreads hsound.owned hsound.laid ht hstep, ?_⟩
    obtain ⟨⟨h', o₁⟩, hs, hout⟩ := except_bind_eq_ok hstep
    cases hout
    exact (sized_step hc hextras (hsound.owned t ht) (hsound.laid t ht) hsound.sized
      (step_otherThreadCaches hs (r.otherThreadCaches threads g t)) :)
  · simp only [accessStep] at hstep
    split at hstep
    · cases hstep
      -- a store changes memory only
      exact ⟨fun t' ht' => (hsound.owned t' ht').memory _, hsound.laid, hsound.sized⟩
    · cases hstep

/-- Every interleaving of the threads' accesses that does not crash, from a process
each thread sees owned and laid out and whose live slots hold their extras, is a run of
the malloc through the view: each allocation hands out a new block of at least its
request, apart from the blocks held and at a multiple of its alignment; a free takes
back the block at its pointer; no request changes a byte of another block; and each
store lands in a block and changes that byte only. -/
theorem runAccesses_refines (hc : r.MemoryContract slowPath callees)
    (hextras : r.extrasSize + 1 < 2 ^ r.buckets.kBitsPerSizeT) (hthreads : threads.Nodup)
    (hsound : r.ProcessSound threads g o) {accs : List (Nat × Access)} (haccs : ∀ acc ∈ accs, acc.1 ∈ threads)
    (hrun : r.runAccesses slowPath callees pcscanMode g o accs = .ok (g', o')) :
    Malloc.Run (r.view g.slotSpan g.memory o.live) (accs.map Prod.snd) (r.view g'.slotSpan g'.memory o'.live) := by
  induction accs generalizing g o with
  | nil =>
    cases hrun
    exact .nil _
  | cons acc accs ih =>
    obtain ⟨⟨g₂, o₂⟩, hs, hrun⟩ := except_bind_eq_ok hrun
    have ht := haccs acc (List.mem_cons_self _ _)
    exact .cons (accessStep_refines hc hextras hsound ht hs)
      (ih (processSound_accessStep hc hextras hthreads hsound ht hs)
        (fun acc' hacc' => haccs acc' (List.mem_cons_of_mem _ hacc')) hrun)

end Run

theorem processSound_empty (threads : List Nat) (byte : UInt8) :
    r.ProcessSound threads (Process.ofHeap (Heap.empty byte)) ⟨[], [], [], []⟩ :=
  ⟨(r.processSafe_empty threads byte).owned, (r.processSafe_empty threads byte).laid,
    fun _ hs => absurd hs (List.not_mem_nil _)⟩

end PartitionRoot

/-- On `debugRoot64`, with two threads and no slot yet: thread 0 allocates 96 bytes and
thread 1 stores a byte at the allocation's last usable byte, which through the view is
an allocation of a block and a store into it. -/
theorem runAccesses_refines_alloc_write :
    ∃ g' o', debugRoot64.MemoryContract (debugRoot64.carvingSlowPath 65536) debugRoot64.pushCallees ∧
      debugRoot64.extrasSize + 1 < 2 ^ debugRoot64.buckets.kBitsPerSizeT ∧ [0, 1].Nodup ∧
      debugRoot64.ProcessSound [0, 1] (Process.ofHeap (Heap.empty 0)) ⟨[], [], [], []⟩ ∧
      (∀ acc ∈ [((0 : Nat), Access.call (.alloc {} 96)), (1, .write 65647 7)], acc.1 ∈ [0, 1]) ∧
      debugRoot64.runAccesses (debugRoot64.carvingSlowPath 65536) debugRoot64.pushCallees .kDisabled
        (Process.ofHeap (Heap.empty 0)) ⟨[], [], [], []⟩
        [(0, .call (.alloc {} 96)), (1, .write 65647 7)] = .ok (g', o') ∧
      Malloc.Run (debugRoot64.view (Heap.empty 0).slotSpan (Heap.empty 0).memory [])
        [.call (.alloc {} 96), .write 65647 7] (debugRoot64.view g'.slotSpan g'.memory o'.live) := by
  have hc := debugRoot64.memoryContract_carving 65536
  have hextras : debugRoot64.extrasSize + 1 < 2 ^ debugRoot64.buckets.kBitsPerSizeT := by decide
  have hthreads : [0, 1].Nodup := by decide
  have hsound := debugRoot64.processSound_empty [0, 1] 0
  have haccs : ∀ acc ∈ [((0 : Nat), Access.call (.alloc {} 96)), (1, .write 65647 7)], acc.1 ∈ [0, 1] := by
    decide
  obtain ⟨g', o', hrun, -⟩ := debugRoot64_alloc_write
  exact ⟨g', o', hc, hextras, hthreads, hsound, haccs, hrun,
    PartitionRoot.runAccesses_refines hc hextras hthreads hsound haccs hrun⟩

end PartitionAlloc
