import Mathlib.Data.List.Basic
import Mathlib.Algebra.Group.Nat.Basic
import Mathlib.Data.List.Lex

/-!
# Integers as bytes, and `QuicDataWriter`

`crypto_utils.cc` lays integers out in memory in two ways: it appends the raw bytes
of a `uint32_t` to a string (`reinterpret_cast<char*>(&context_length)`), and it
writes through a `QuicDataWriter` made with `HOST_BYTE_ORDER`. Both put an integer's
bytes in the machine's byte order, a `ByteOrder` here; `uintBytes` is that layout.

`quic_data_writer.h` is not in `src/`; `QuicDataWriter` is modelled by what its
interface promises: a buffer of fixed capacity, the bytes written so far, and
writes that fail and write nothing when the bytes do not fit. Then:

    uintBytes_inj                 two integers with the same bytes agree modulo
                                  the field's range
    lex_uintBytes_bigEndian       big-endian bytes compare byte by byte as the
                                  integers they spell
    writeBytes_bind_writeBytes    two writes in a row succeed exactly when one
                                  write of both pieces does, with the same result
-/

namespace Quic

/-- The byte order of the machine. -/
inductive ByteOrder
  | littleEndian
  | bigEndian
deriving DecidableEq, Repr

/-- The low `count` bytes of `x`, least significant first. -/
def leBytes : Nat → Nat → List UInt8
  | 0, _ => []
  | count + 1, x => UInt8.ofNat x :: leBytes count (x / 256)

/-- The `count` bytes of an integer `x` as memory holds them in byte order `order`. -/
def uintBytes (order : ByteOrder) (count x : Nat) : List UInt8 :=
  match order with
  | .littleEndian => leBytes count x
  | .bigEndian => (leBytes count x).reverse

/-- The value a little-endian byte string spells. -/
def leValue : List UInt8 → Nat
  | [] => 0
  | b :: bs => b.toNat + 256 * leValue bs

@[simp] theorem length_leBytes (count x : Nat) : (leBytes count x).length = count := by
  induction count generalizing x with
  | zero => rfl
  | succ count ih => simp [leBytes, ih]

@[simp] theorem length_uintBytes (order : ByteOrder) (count x : Nat) :
    (uintBytes order count x).length = count := by
  cases order <;> simp [uintBytes]

theorem leValue_leBytes (count x : Nat) : leValue (leBytes count x) = x % 256 ^ count := by
  induction count generalizing x with
  | zero => simp [leBytes, leValue, Nat.mod_one]
  | succ count ih =>
    have hbyte : (UInt8.ofNat x).toNat = x % 256 := rfl
    rw [leBytes, leValue, ih, hbyte, Nat.pow_succ, Nat.mul_comm _ 256, Nat.mod_mul]

theorem leBytes_mod (count x : Nat) : leBytes count (x % 256 ^ count) = leBytes count x := by
  induction count generalizing x with
  | zero => rfl
  | succ count ih =>
    have hbyte : UInt8.ofNat (x % 256 ^ (count + 1)) = UInt8.ofNat x :=
      UInt8.toNat.inj (Nat.mod_mod_of_dvd x ⟨256 ^ count, pow_succ' 256 count⟩)
    rw [leBytes, leBytes, hbyte, pow_succ', Nat.mod_mul_right_div_self, ih]

theorem uintBytes_mod (order : ByteOrder) (count x : Nat) :
    uintBytes order count (x % 256 ^ count) = uintBytes order count x := by
  cases order <;> simp only [uintBytes, leBytes_mod]

theorem uintBytes_inj {order : ByteOrder} {count x y : Nat}
    (h : uintBytes order count x = uintBytes order count y) : x % 256 ^ count = y % 256 ^ count := by
  have hle : leBytes count x = leBytes count y := by
    cases order
    · exact h
    · exact List.reverse_inj.1 h
  rw [← leValue_leBytes, hle, leValue_leBytes]

theorem uintBytes_bigEndian_succ (count x : Nat) :
    uintBytes .bigEndian (count + 1) x = uintBytes .bigEndian count (x / 256) ++ [UInt8.ofNat x] := by
  simp only [uintBytes, leBytes, List.reverse_cons]

theorem lex_append_of_length_eq {α : Type} {r : α → α → Prop} {l₁ l₂ : List α} (h : List.Lex r l₁ l₂)
    (hlen : l₁.length = l₂.length) (t₁ t₂ : List α) : List.Lex r (l₁ ++ t₁) (l₂ ++ t₂) := by
  induction h with
  | nil => cases hlen
  | cons _ ih => exact .cons (ih (Nat.succ.inj hlen))
  | rel h => exact .rel h

/-- Big-endian bytes compare byte by byte (as `memcmp` does) in the order of the
integers they spell. -/
theorem lex_uintBytes_bigEndian {count x y : Nat} (hxy : x < y) (hy : y < 256 ^ count) :
    List.Lex (· < ·) (uintBytes .bigEndian count x) (uintBytes .bigEndian count y) := by
  induction count generalizing x y with
  | zero => omega
  | succ count ih =>
    rw [uintBytes_bigEndian_succ, uintBytes_bigEndian_succ]
    rcases Nat.lt_or_eq_of_le (Nat.div_le_div_right (c := 256) hxy.le) with hlt | heq
    · -- the higher bytes already differ
      exact lex_append_of_length_eq (ih hlt (by rw [pow_succ] at hy; omega)) (by simp) _ _
    · -- the higher bytes agree, and the lowest decides
      rw [heq]
      refine List.Lex.append_left _ (List.Lex.rel ?_) _
      show x % 256 < y % 256
      omega

/-- `QuicDataWriter` over a buffer of `capacity` bytes: the byte order it writes
integers in, and the bytes written so far. -/
structure QuicDataWriter where
  capacity : Nat
  endianness : ByteOrder
  written : List UInt8
deriving DecidableEq, Repr

namespace QuicDataWriter

variable (writer : QuicDataWriter)

/-- `remaining()`: the bytes of the buffer not yet written. -/
def remaining : Nat := writer.capacity - writer.written.length

/-- `WriteBytes(data, data_len)`: appends the bytes, or fails and writes nothing when
fewer than `data_len` bytes remain. -/
def writeBytes (data : List UInt8) : Option QuicDataWriter :=
  if writer.remaining < data.length then none else some { writer with written := writer.written ++ data }

/-- `WriteStringPiece(piece)`. -/
def writeStringPiece (piece : List UInt8) : Option QuicDataWriter := writer.writeBytes piece

/-- `WriteUInt8(value)`. -/
def writeUInt8 (value : UInt8) : Option QuicDataWriter := writer.writeBytes [value]

/-- `WriteUInt64(value)`: the eight bytes of the `uint64_t` in the writer's byte order. -/
def writeUInt64 (value : Nat) : Option QuicDataWriter := writer.writeBytes (uintBytes writer.endianness 8 value)

variable {writer}

theorem writeBytes_of_le {data : List UInt8} (h : data.length ≤ writer.remaining) :
    writer.writeBytes data = some { writer with written := writer.written ++ data } :=
  if_neg (Nat.not_lt.2 h)

theorem writeBytes_of_lt {data : List UInt8} (h : writer.remaining < data.length) :
    writer.writeBytes data = none :=
  if_pos h

@[simp] theorem remaining_append (data : List UInt8) :
    ({ writer with written := writer.written ++ data } : QuicDataWriter).remaining =
      writer.remaining - data.length := by
  simp only [remaining, List.length_append]
  omega

/-- Two writes in a row are one write of both pieces: both succeed exactly when the
pieces fit together, and otherwise the pair fails. The second piece may depend on
the writer it is written through (`WriteUInt64` reads its byte order). -/
theorem writeBytes_bind_writeBytes (a : List UInt8) (b : QuicDataWriter → List UInt8) :
    (writer.writeBytes a >>= fun writer => writer.writeBytes (b writer)) =
      writer.writeBytes (a ++ b { writer with written := writer.written ++ a }) := by
  have hlen := List.length_append a (b { writer with written := writer.written ++ a })
  by_cases ha : a.length ≤ writer.remaining
  · rw [writeBytes_of_le ha, Option.bind_eq_bind, Option.some_bind]
    by_cases hb : (b { writer with written := writer.written ++ a }).length ≤ writer.remaining - a.length
    · rw [writeBytes_of_le (by rw [remaining_append]; exact hb), writeBytes_of_le (by omega), List.append_assoc]
    · rw [writeBytes_of_lt (by rw [remaining_append]; omega), writeBytes_of_lt (by omega)]
  · rw [writeBytes_of_lt (by omega), writeBytes_of_lt (by omega)]
    rfl

end QuicDataWriter

end Quic
