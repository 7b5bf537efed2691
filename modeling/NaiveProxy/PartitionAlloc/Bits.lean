import Mathlib.Data.Nat.Size

/-!
# `base/bits.h` on a `size_t` of `width` bits

`bits.h` is not in `src/`; these are the three helpers `partition_root.h` calls,
as they compute on a `width`-bit word.  The order of a size is the bit length
`width - CountLeadingZeroBits(size)`, which `countLeadingZeroBits_eq` turns into
`Nat.size`; `Nat.size_le` and `Nat.lt_size` then give the power-of-two bounds.

`align` rounds up in `size_t` arithmetic: the sum `size + alignment - 1` wraps
mod `2 ^ width` before the low bits are cleared, so a statement that nothing
wraps is a statement about that sum (`align_of_lt`).
-/

namespace PartitionAlloc

/-- `bits::CountLeadingZeroBits` on a `width`-bit word: the zero bits above the
highest set bit, all `width` of them for `0`. -/
def countLeadingZeroBits : Nat → Nat → Nat
  | 0, _ => 0
  | width + 1, x => if x < 2 ^ width then countLeadingZeroBits width x + 1 else 0

/-- `bits::IsPowerOfTwo`: `value > 0 && (value & (value - 1)) == 0`. -/
def isPowerOfTwo (value : Nat) : Bool :=
  0 < value && value &&& (value - 1) == 0

/-- `bits::Align(size, alignment)` for a power-of-two `alignment`:
`(size + alignment - 1) & ~(alignment - 1)`, the sum taken in `size_t`. -/
def align (width size alignment : Nat) : Nat :=
  (size + alignment - 1) % 2 ^ width / alignment * alignment

/-- `x << amount` on a `width`-bit word; a shift by `width` or more is undefined in
C++ (`none`). -/
def shiftLeft (width x amount : Nat) : Option Nat :=
  if amount < width then some ((x <<< amount) % 2 ^ width) else none

theorem countLeadingZeroBits_eq (width x : Nat) :
    countLeadingZeroBits width x = width - Nat.size x := by
  induction width with
  | zero => simp [countLeadingZeroBits]
  | succ w ih =>
    simp only [countLeadingZeroBits]
    split
    · have := Nat.size_le.2 ‹x < 2 ^ w›
      omega
    · have := Nat.lt_size.2 (Nat.le_of_not_lt ‹¬x < 2 ^ w›)
      omega

theorem width_sub_countLeadingZeroBits {width x : Nat} (hx : x < 2 ^ width) :
    width - countLeadingZeroBits width x = Nat.size x := by
  have := Nat.size_le.2 hx
  rw [countLeadingZeroBits_eq]
  omega

theorem two_pow_size_pred_le {x : Nat} (hx : 0 < x) : 2 ^ (Nat.size x - 1) ≤ x :=
  Nat.lt_size.1 (by have := Nat.size_pos.2 hx; omega)

theorem isPowerOfTwo_two_pow (k : Nat) : isPowerOfTwo (2 ^ k) = true := by
  simp [isPowerOfTwo, Nat.two_pow_pos]

/-- A value `IsPowerOfTwo` accepts is a power of two: otherwise the value and
`value - 1` both lie between its top bit and twice that, and share the top bit. -/
theorem eq_two_pow_of_isPowerOfTwo {value : Nat} (h : isPowerOfTwo value = true) :
    value = 2 ^ Nat.log2 value := by
  simp only [isPowerOfTwo, Bool.and_eq_true, decide_eq_true_eq, beq_iff_eq] at h
  obtain ⟨hpos, hand⟩ := h
  have hlo : 2 ^ Nat.log2 value ≤ value := Nat.log2_self_le (by omega)
  have hhi : value < 2 ^ Nat.log2 value * 2 := Nat.pow_succ .. ▸ Nat.lt_log2_self
  have hbit : ∀ x, 2 ^ Nat.log2 value ≤ x → x < 2 ^ Nat.log2 value * 2 →
      x.testBit (Nat.log2 value) = true := fun x h₁ h₂ => by
    rw [Nat.testBit_to_div_mod, decide_eq_true_eq, Nat.div_eq_of_lt_le (k := 1) (by omega) (by omega)]
  by_contra hne
  have := congrArg (Nat.testBit · (Nat.log2 value)) hand
  simp only [Nat.testBit_and, Nat.zero_testBit, hbit value hlo hhi, hbit (value - 1) (by omega) (by omega),
    Bool.and_self, Bool.true_eq_false] at this

theorem mod_eq_zero_of_and_eq_zero {alignment p : Nat} (ha : isPowerOfTwo alignment = true)
    (hp : p &&& (alignment - 1) = 0) : p % alignment = 0 := by
  rw [eq_two_pow_of_isPowerOfTwo ha, ← Nat.and_pow_two_sub_one_eq_mod, ← eq_two_pow_of_isPowerOfTwo ha, hp]

/-- `~x` on a `width`-bit word. -/
def bitwiseNot (width x : Nat) : Nat := 2 ^ width - 1 - x

theorem testBit_bitwiseNot {width x : Nat} (hx : x < 2 ^ width) (j : Nat) :
    (bitwiseNot width x).testBit j = (decide (j < width) && !x.testBit j) := by
  rw [bitwiseNot, Nat.sub_sub, Nat.add_comm]
  exact Nat.testBit_two_pow_sub_succ hx j

/-- The mask `~(2 ^ k - 1)` clears the low `k` bits and keeps the rest of the word,
also when `2 ^ k` exceeds the word and the mask is `0`. -/
theorem and_bitwiseNot_two_pow_sub_one (width k x : Nat) :
    x &&& bitwiseNot width (2 ^ k - 1) = x / 2 ^ k * 2 ^ k % 2 ^ width := by
  rcases Nat.lt_or_ge width k with hk | hk
  · have h0 : bitwiseNot width (2 ^ k - 1) = 0 := by
      have := Nat.pow_lt_pow_right (by decide : 1 < 2) hk
      unfold bitwiseNot
      omega
    rw [h0, Nat.and_zero, eq_comm]
    exact Nat.mod_eq_zero_of_dvd (Nat.dvd_trans (Nat.pow_dvd_pow 2 (Nat.le_of_lt hk)) (Nat.dvd_mul_left _ _))
  · have hlt : 2 ^ k - 1 < 2 ^ width := by
      have := Nat.pow_le_pow_right (by decide : 0 < 2) hk
      have := Nat.two_pow_pos k
      omega
    apply Nat.eq_of_testBit_eq
    intro j
    rw [Nat.testBit_and, testBit_bitwiseNot hlt, Nat.testBit_two_pow_sub_one, Nat.testBit_mod_two_pow,
      Nat.mul_comm, Nat.testBit_mul_pow_two, ← Nat.shiftRight_eq_div_pow, Nat.testBit_shiftRight]
    by_cases hj : k ≤ j
    · rw [Nat.add_sub_cancel' hj]
      by_cases hw : j < width <;> simp [hj, hw, Nat.not_lt.2 hj]
    · simp [hj, Nat.lt_of_not_le hj]

theorem and_bitwiseNot_of_mem_block {width k base x : Nat} (hbase : 2 ^ k ∣ base)
    (hbw : base < 2 ^ width) (hlo : base ≤ x) (hhi : x < base + 2 ^ k) :
    x &&& bitwiseNot width (2 ^ k - 1) = base := by
  obtain ⟨q, rfl⟩ := hbase
  have hq : x / 2 ^ k = q :=
    Nat.div_eq_of_lt_le (by rw [Nat.mul_comm]; exact hlo) (by rw [Nat.succ_mul, Nat.mul_comm]; exact hhi)
  rw [and_bitwiseNot_two_pow_sub_one, hq, Nat.mul_comm, Nat.mod_eq_of_lt hbw]

/-- The least multiple of `alignment` at or above `size`, with no word bound. -/
def alignUp (size alignment : Nat) : Nat := (size + alignment - 1) / alignment * alignment

section Align

variable {width size alignment : Nat}

theorem align_of_lt (h : size + alignment - 1 < 2 ^ width) :
    align width size alignment = alignUp size alignment := by
  rw [align, alignUp, Nat.mod_eq_of_lt h]

theorem align_dvd : alignment ∣ align width size alignment :=
  Nat.dvd_mul_left _ _

/-- For a power-of-two alignment the mask commutes with the wrap: `align` is
`alignUp` taken mod `2 ^ width`, also when the alignment exceeds the word. -/
theorem align_two_pow (k : Nat) : align width size (2 ^ k) = alignUp size (2 ^ k) % 2 ^ width := by
  unfold align alignUp
  rcases Nat.lt_or_ge width k with hk | hk
  · have hlt : (size + 2 ^ k - 1) % 2 ^ width < 2 ^ k :=
      Nat.lt_of_lt_of_le (Nat.mod_lt _ (Nat.two_pow_pos _)) (Nat.pow_le_pow_right (by decide) (Nat.le_of_lt hk))
    rw [Nat.div_eq_of_lt hlt, Nat.zero_mul, eq_comm]
    exact Nat.mod_eq_zero_of_dvd (Nat.dvd_trans (Nat.pow_dvd_pow 2 (Nat.le_of_lt hk)) (Nat.dvd_mul_left _ _))
  · obtain ⟨m, hm⟩ : ∃ m, 2 ^ width = 2 ^ k * m := ⟨2 ^ (width - k), by rw [← Nat.pow_add]; congr 1; omega⟩
    rw [hm, Nat.mod_mul_right_div_self, Nat.mul_comm (2 ^ k) m, Nat.mul_mod_mul_right]

theorem dvd_alignUp : alignment ∣ alignUp size alignment :=
  Nat.dvd_mul_left _ _

theorem le_alignUp (ha : 0 < alignment) : size ≤ alignUp size alignment := by
  have := Nat.lt_div_mul_add (a := size + alignment - 1) ha
  unfold alignUp
  omega

theorem alignUp_le_of_dvd {m : Nat} (ha : 0 < alignment) (hm : alignment ∣ m) (hle : size ≤ m) :
    alignUp size alignment ≤ m := by
  obtain ⟨q, rfl⟩ := hm
  have : (size + alignment - 1) / alignment < q + 1 := by
    rw [Nat.div_lt_iff_lt_mul ha, Nat.add_mul, Nat.one_mul, Nat.mul_comm q]
    omega
  calc alignUp size alignment ≤ q * alignment := Nat.mul_le_mul_right _ (by omega)
    _ = alignment * q := Nat.mul_comm _ _

/-- Rounding to a coarser alignment `a` of a sum with a multiple `m` of the finer `s`
leaves room for `m` above the finer rounding. -/
theorem alignUp_add_le {s a m : Nat} (hs : 0 < s) (ha : 0 < a) (hsa : s ∣ a) (hsm : s ∣ m) :
    alignUp size s + m ≤ alignUp (size + m) a := by
  have hT : size + m ≤ alignUp (size + m) a := le_alignUp ha
  have hd : s ∣ alignUp (size + m) a - m := Nat.dvd_sub' (Nat.dvd_trans hsa dvd_alignUp) hsm
  have : alignUp size s ≤ alignUp (size + m) a - m := alignUp_le_of_dvd hs hd (by omega)
  omega

end Align

end PartitionAlloc
