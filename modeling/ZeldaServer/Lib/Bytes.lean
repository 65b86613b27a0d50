import Mathlib.Algebra.Ring.Int.Defs
import Mathlib.Algebra.Ring.Nat
import Mathlib.Tactic.Common

/-! Byte buffers: slices, writes in place, `memcpy` and little-endian 16-bit words. -/

abbrev Bytes := List UInt8

namespace Bytes

/-- The `len` bytes from `pos` on, fewer where the buffer ends. -/
def slice (buffer : Bytes) (pos len : Nat) : Bytes := (buffer.drop pos).take len

def overwrite (buffer : Bytes) (pos : Nat) (data : Bytes) : Bytes :=
  buffer.take pos ++ data ++ buffer.drop (pos + data.length)

/-- `memcpy` inside one buffer; `none` where the two ranges overlap, which the
language leaves undefined. -/
def memcpy (buffer : Bytes) (dst src len : Nat) : Option Bytes :=
  if dst + len ≤ src ∨ src + len ≤ dst then
    some (overwrite buffer dst (slice buffer src len))
  else none

def byteAt (buffer : Bytes) (pos : Nat) : Nat := (buffer.getD pos 0).toNat

/-- A `uint16` read in place on a little-endian machine. -/
def u16At (buffer : Bytes) (pos : Nat) : Nat :=
  byteAt buffer pos + 256 * byteAt buffer (pos + 1)

def u16Bytes (n : Nat) : Bytes := [UInt8.ofNat n, UInt8.ofNat (n / 256)]

theorem length_slice (buffer : Bytes) (pos len : Nat) (inside : pos + len ≤ buffer.length) :
    (slice buffer pos len).length = len := by
  simp only [slice, List.length_take, List.length_drop]
  omega

theorem length_overwrite (buffer : Bytes) (pos : Nat) (data : Bytes)
    (inside : pos + data.length ≤ buffer.length) :
    (overwrite buffer pos data).length = buffer.length := by
  simp only [overwrite, List.length_append, List.length_take, List.length_drop]
  omega

theorem slice_take (buffer : Bytes) (count pos len : Nat) (inside : pos + len ≤ count) :
    slice (buffer.take count) pos len = slice buffer pos len := by
  have kept : min len (count - pos) = len := by omega
  simp only [slice, List.drop_take, List.take_take, kept]

theorem slice_append (front back : Bytes) (pos len : Nat) (inside : pos + len ≤ front.length) :
    slice (front ++ back) pos len = slice front pos len := by
  have same := slice_take (front ++ back) front.length pos len inside
  rwa [List.take_left, eq_comm] at same

theorem memcpy_some (buffer : Bytes) (dst src len : Nat)
    (disjoint : dst + len ≤ src ∨ src + len ≤ dst) :
    memcpy buffer dst src len = some (overwrite buffer dst (slice buffer src len)) :=
  if_pos disjoint

theorem length_memcpy (buffer moved : Bytes) (dst src len : Nat)
    (copied : memcpy buffer dst src len = some moved) (source : src + len ≤ buffer.length)
    (target : dst + len ≤ buffer.length) : moved.length = buffer.length := by
  unfold memcpy at copied
  split at copied
  · have size := length_slice buffer src len source
    rw [← Option.some.inj copied, length_overwrite buffer dst _ (by rw [size]; exact target)]
  · cases copied

theorem slice_overwrite (buffer : Bytes) (start pos : Nat) (data : Bytes)
    (ordered : start ≤ pos) (inside : pos + data.length ≤ buffer.length) :
    slice (overwrite buffer pos data) start (pos - start + data.length) =
      slice buffer start (pos - start) ++ data := by
  have front : (buffer.take pos ++ data).length = pos + data.length := by
    simp only [List.length_append, List.length_take]
    omega
  rw [overwrite, slice_append _ _ _ _ (by omega), slice, slice, List.drop_append, List.drop_take]
  have none_left : start - (buffer.take pos).length = 0 := by
    simp only [List.length_take]
    omega
  rw [none_left, List.drop_zero, List.take_of_length_le]
  simp only [List.length_append, List.length_take, List.length_drop]
  omega

theorem slice_overwrite_zero (buffer data : Bytes) (inside : data.length ≤ buffer.length) :
    slice (overwrite buffer 0 data) 0 data.length = data := by
  have same := slice_overwrite buffer 0 0 data (Nat.le_refl 0) (by omega)
  simpa [slice] using same

theorem byteAt_drop (buffer : Bytes) (start pos : Nat) :
    byteAt (buffer.drop start) pos = byteAt buffer (start + pos) := by
  simp only [byteAt, List.getD_eq_getElem?_getD, List.getElem?_drop]

theorem byteAt_append (front back : Bytes) (pos : Nat) (inside : pos < front.length) :
    byteAt (front ++ back) pos = byteAt front pos := by
  simp only [byteAt, List.getD_eq_getElem?_getD, List.getElem?_append_left inside]

theorem u16At_drop (buffer : Bytes) (start pos : Nat) :
    u16At (buffer.drop start) pos = u16At buffer (start + pos) := by
  simp only [u16At, byteAt_drop, Nat.add_assoc]

theorem u16At_append (front back : Bytes) (pos : Nat) (inside : pos + 2 ≤ front.length) :
    u16At (front ++ back) pos = u16At front pos := by
  simp only [u16At, byteAt_append front back pos (by omega),
    byteAt_append front back (pos + 1) (by omega)]

theorem u16At_take (buffer : Bytes) (count pos : Nat) (inside : pos + 2 ≤ count)
    (long : count ≤ buffer.length) : u16At (buffer.take count) pos = u16At buffer pos := by
  have split := u16At_append (buffer.take count) (buffer.drop count) pos
    (by rw [List.length_take]; omega)
  rwa [List.take_append_drop, eq_comm] at split

theorem u16At_lt (buffer : Bytes) (pos : Nat) : u16At buffer pos < 65536 := by
  have low := (buffer.getD pos 0).toNat_lt
  have high := (buffer.getD (pos + 1) 0).toNat_lt
  simp only [u16At, byteAt]
  omega

theorem u16At_u16Bytes (n : Nat) (back : Bytes) (small : n < 65536) :
    u16At (u16Bytes n ++ back) 0 = n := by
  have low : n / 256 < 256 := by omega
  simp only [u16At, byteAt, u16Bytes, List.cons_append, List.nil_append, Nat.zero_add,
    List.getD_cons_zero, List.getD_cons_succ, UInt8.toNat_ofNat']
  omega

end Bytes
