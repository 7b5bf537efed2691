import NaiveProxy.PartitionAlloc.Root
import Mathlib.Data.Finset.Card
import Mathlib.Order.Interval.Finset.Nat

/-!
# The committed-pages counter

`total_size_of_committed_pages` is a `std::atomic<size_t>` that
`IncreaseCommittedPages` and `DecreaseCommittedPages` move with relaxed `fetch_add` and
`fetch_sub`; `RecommitSystemPagesForData` and `DecommitSystemPagesForData` commit or
decommit a region and then move it by the region's length. The root's comment states
what the counter is for: the bytes committed for slots, below the address space of the
super pages and direct maps (`total_size_of_super_pages +
total_size_of_direct_mapped_pages`).

The page allocator and the callers of the two functions (`partition_page.cc`,
`partition_bucket.cc`) are not in `src/`. The bytes whose pages are committed are ghost
state beside the counter, a decommit or recommit changes them as the page allocator
does, and the callers' discipline is a hypothesis: a region is decommitted only when
committed, and recommitted only when decommitted and inside the slot area. Then:

    totalSizeOfCommittedPages_run   over every run of recommits and decommits that
                                    keeps that discipline, the counter is the number
                                    of committed bytes, and it stays below the size
                                    of the reservations
-/

namespace PartitionAlloc

/-- The counter `total_size_of_committed_pages`, and the bytes whose system pages are
committed for slots (ghost state). -/
structure CommittedPages where
  totalSizeOfCommittedPages : Nat
  committed : Finset Nat

/-- A call that commits or decommits the pages of `[address, address + length)`. -/
inductive PageOp
  | decommit (address length : Nat)
  | recommit (address length : Nat)
deriving DecidableEq, Repr

/-- The callers' discipline: decommit only committed bytes, recommit only decommitted
bytes of the slot area. -/
def PageOp.Allowed (slotArea : Finset Nat) (s : CommittedPages) : PageOp → Prop
  | .decommit address length => Finset.Ico address (address + length) ⊆ s.committed
  | .recommit address length => Finset.Ico address (address + length) ⊆ slotArea \ s.committed

namespace PartitionRoot

variable (r : PartitionRoot)

/-- `IncreaseCommittedPages(len)`: `fetch_add` on a `size_t`. -/
def increaseCommittedPages (totalSizeOfCommittedPages len : Nat) : Nat :=
  (totalSizeOfCommittedPages + len) % 2 ^ r.buckets.kBitsPerSizeT

/-- `DecreaseCommittedPages(len)`: `fetch_sub` on a `size_t`, which wraps. -/
def decreaseCommittedPages (totalSizeOfCommittedPages len : Nat) : Nat :=
  (totalSizeOfCommittedPages + (2 ^ r.buckets.kBitsPerSizeT - len % 2 ^ r.buckets.kBitsPerSizeT)) %
    2 ^ r.buckets.kBitsPerSizeT

/-- `DecommitSystemPagesForData(address, length, ...)`: `DecommitSystemPages` gives the
pages back, then `DecreaseCommittedPages(length)`. -/
def decommitSystemPagesForData (s : CommittedPages) (address length : Nat) : CommittedPages where
  totalSizeOfCommittedPages := r.decreaseCommittedPages s.totalSizeOfCommittedPages length
  committed := s.committed \ Finset.Ico address (address + length)

/-- `RecommitSystemPagesForData(address, length, ...)`: `RecommitSystemPages` commits
the pages again, then `IncreaseCommittedPages(length)`. -/
def recommitSystemPagesForData (s : CommittedPages) (address length : Nat) : CommittedPages where
  totalSizeOfCommittedPages := r.increaseCommittedPages s.totalSizeOfCommittedPages length
  committed := s.committed ∪ Finset.Ico address (address + length)

/-- One call. -/
def applyPageOp (s : CommittedPages) : PageOp → CommittedPages
  | .decommit address length => r.decommitSystemPagesForData s address length
  | .recommit address length => r.recommitSystemPagesForData s address length

/-- A run of calls, one after another under the root's lock. -/
def runPageOps (s : CommittedPages) (ops : List PageOp) : CommittedPages := ops.foldl r.applyPageOp s

/-- Every call of a run keeps the discipline in the state it meets. -/
def AllowedRun (slotArea : Finset Nat) : CommittedPages → List PageOp → Prop
  | _, [] => True
  | s, op :: ops => op.Allowed slotArea s ∧ AllowedRun slotArea (r.applyPageOp s op) ops

/-- The counter holds the number of committed bytes modulo `2^w`, and only slot-area
bytes are committed. -/
structure CountsCommitted (slotArea : Finset Nat) (s : CommittedPages) : Prop where
  total_eq : s.totalSizeOfCommittedPages = s.committed.card % 2 ^ r.buckets.kBitsPerSizeT
  subset : s.committed ⊆ slotArea

section Counter

variable {r} {slotArea : Finset Nat} {s : CommittedPages}

/-- Subtracting a count of committed bytes from the counter that holds them modulo
`2^w` leaves the remaining count modulo `2^w`. -/
theorem decreaseCommittedPages_mod {count len : Nat} (hlen : len ≤ count) :
    r.decreaseCommittedPages (count % 2 ^ r.buckets.kBitsPerSizeT) len =
      (count - len) % 2 ^ r.buckets.kBitsPerSizeT := by
  have hpos : 0 < 2 ^ r.buckets.kBitsPerSizeT := Nat.two_pow_pos _
  have hdecomp := (Nat.mod_add_div len (2 ^ r.buckets.kBitsPerSizeT)).symm
  have hlt := Nat.mod_lt len hpos
  have hsplit : count + (2 ^ r.buckets.kBitsPerSizeT - len % 2 ^ r.buckets.kBitsPerSizeT) =
      (count - len) + 2 ^ r.buckets.kBitsPerSizeT * (len / 2 ^ r.buckets.kBitsPerSizeT + 1) := by
    rw [Nat.mul_succ]
    omega
  rw [decreaseCommittedPages, Nat.mod_add_mod, hsplit, Nat.add_mul_mod_self_left]

theorem countsCommitted_decommit (hs : r.CountsCommitted slotArea s) {address length : Nat}
    (hsub : Finset.Ico address (address + length) ⊆ s.committed) :
    r.CountsCommitted slotArea (r.decommitSystemPagesForData s address length) := by
  have hcard : length ≤ s.committed.card := by
    simpa using Finset.card_le_card hsub
  refine ⟨?_, Finset.sdiff_subset.trans hs.subset⟩
  simp only [decommitSystemPagesForData, hs.total_eq, decreaseCommittedPages_mod hcard,
    Finset.card_sdiff hsub, Nat.card_Ico, Nat.add_sub_cancel_left]

theorem countsCommitted_recommit (hs : r.CountsCommitted slotArea s) {address length : Nat}
    (hsub : Finset.Ico address (address + length) ⊆ slotArea \ s.committed) :
    r.CountsCommitted slotArea (r.recommitSystemPagesForData s address length) := by
  have hdisj : Disjoint s.committed (Finset.Ico address (address + length)) :=
    Finset.disjoint_of_subset_right hsub Finset.disjoint_sdiff
  refine ⟨?_, Finset.union_subset hs.subset (hsub.trans Finset.sdiff_subset)⟩
  simp only [recommitSystemPagesForData, increaseCommittedPages, hs.total_eq, Nat.mod_add_mod,
    Finset.card_union_of_disjoint hdisj, Nat.card_Ico, Nat.add_sub_cancel_left]

theorem countsCommitted_applyPageOp (hs : r.CountsCommitted slotArea s) {op : PageOp}
    (hop : op.Allowed slotArea s) : r.CountsCommitted slotArea (r.applyPageOp s op) := by
  cases op with
  | decommit address length => exact countsCommitted_decommit hs hop
  | recommit address length => exact countsCommitted_recommit hs hop

theorem countsCommitted_runPageOps {ops : List PageOp} (hs : r.CountsCommitted slotArea s)
    (hrun : r.AllowedRun slotArea s ops) : r.CountsCommitted slotArea (r.runPageOps s ops) := by
  induction ops generalizing s with
  | nil => exact hs
  | cons op ops ih => exact ih (countsCommitted_applyPageOp hs hrun.1) hrun.2

/-- Over every run of recommits and decommits that keeps the callers' discipline, from
a state where the counter is right, the counter is the number of committed bytes, and,
as the root's comment states, below the size of the reservations: the slot area leaves
out some reserved bytes (guard and metadata pages), and the reservations fit a
`size_t`. -/
theorem totalSizeOfCommittedPages_run {reserved : Finset Nat} {ops : List PageOp}
    (hs : r.CountsCommitted slotArea s) (hrun : r.AllowedRun slotArea s ops) (hslot : slotArea ⊂ reserved)
    (hreserved : reserved.card < 2 ^ r.buckets.kBitsPerSizeT) :
    (r.runPageOps s ops).totalSizeOfCommittedPages = (r.runPageOps s ops).committed.card ∧
      (r.runPageOps s ops).totalSizeOfCommittedPages < reserved.card := by
  have hinv := countsCommitted_runPageOps hs hrun
  have hlt : (r.runPageOps s ops).committed.card < reserved.card :=
    Finset.card_lt_card (Finset.ssubset_of_subset_of_ssubset hinv.subset hslot)
  rw [hinv.total_eq, Nat.mod_eq_of_lt (hlt.trans hreserved)]
  exact ⟨rfl, hlt⟩

end Counter

end PartitionRoot

/-- Commit two regions of a small slot area and decommit the first. -/
theorem totalSizeOfCommittedPages_run_two_regions :
    root64.CountsCommitted (Finset.range 8) ⟨0, ∅⟩ ∧
      root64.AllowedRun (Finset.range 8) ⟨0, ∅⟩ [.recommit 0 4, .recommit 4 4, .decommit 0 4] ∧
      Finset.range 8 ⊂ Finset.range 12 ∧ (Finset.range 12).card < 2 ^ root64.buckets.kBitsPerSizeT ∧
      (root64.runPageOps ⟨0, ∅⟩ [.recommit 0 4, .recommit 4 4, .decommit 0 4]).totalSizeOfCommittedPages =
        (root64.runPageOps ⟨0, ∅⟩ [.recommit 0 4, .recommit 4 4, .decommit 0 4]).committed.card ∧
      (root64.runPageOps ⟨0, ∅⟩ [.recommit 0 4, .recommit 4 4, .decommit 0 4]).totalSizeOfCommittedPages <
        (Finset.range 12).card := by
  have hs : root64.CountsCommitted (Finset.range 8) ⟨0, ∅⟩ := ⟨rfl, Finset.empty_subset _⟩
  have hrun : root64.AllowedRun (Finset.range 8) ⟨0, ∅⟩ [.recommit 0 4, .recommit 4 4, .decommit 0 4] := by
    simp only [PartitionRoot.AllowedRun, PageOp.Allowed, PartitionRoot.applyPageOp,
      PartitionRoot.recommitSystemPagesForData]
    decide
  have hslot : Finset.range 8 ⊂ Finset.range 12 := by decide
  have hreserved : (Finset.range 12).card < 2 ^ root64.buckets.kBitsPerSizeT := by decide
  exact ⟨hs, hrun, hslot, hreserved, PartitionRoot.totalSizeOfCommittedPages_run hs hrun hslot hreserved⟩

end PartitionAlloc
