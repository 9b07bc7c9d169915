/-!
# Byte Strings

A byte string is a list of bytes. This module holds the encodings of fixed-width numbers
as bytes and the cutting of a byte string into pieces of one size.

## Main results

* `fromHighLow_high_low`, `highByte_fromHighLow`, `lowByte_fromHighLow` — a 16-bit number
  and its two bytes determine each other;
* `fromNibbles_high_low`, `highNibble_fromNibbles`, `lowNibble_fromNibbles` — the same for
  a byte and its two halves;
* `fromThree_threeBytes` — a number below `2^24` is read back from its three bytes;
* `flatten_chunks`, `length_le_of_mem_chunks`, `ne_nil_of_mem_chunks` — the pieces of a
  byte string concatenate to it, are of at most the given size, and none is empty.
-/

namespace Ev2Reader

/-- A **byte string**. -/
abbrev Bytes := List UInt8

/-! ### Halves of a byte -/

/-- The more significant half of a byte. -/
def highNibble (b : UInt8) : Fin 16 :=
  Fin.ofNat 16 (b.toNat / 16)

/-- The less significant half of a byte. -/
def lowNibble (b : UInt8) : Fin 16 :=
  Fin.ofNat 16 b.toNat

/-- The byte with the given halves. -/
def fromNibbles (high low : Fin 16) : UInt8 :=
  UInt8.ofNat (high.val * 16 + low.val)

/-- A byte is composed of its two halves. -/
@[simp] theorem fromNibbles_high_low (b : UInt8) :
    fromNibbles (highNibble b) (lowNibble b) = b := by
  have hb := b.toNat_lt
  apply UInt8.toNat_inj.1
  simp only [fromNibbles, highNibble, lowNibble, Fin.ofNat, UInt8.toNat_ofNat']
  omega

/-- The more significant half of a composed byte is the one it was composed of. -/
@[simp] theorem highNibble_fromNibbles (high low : Fin 16) :
    highNibble (fromNibbles high low) = high := by
  apply Fin.eq_of_val_eq
  simp only [fromNibbles, highNibble, Fin.ofNat, UInt8.toNat_ofNat']
  omega

/-- The less significant half of a composed byte is the one it was composed of. -/
@[simp] theorem lowNibble_fromNibbles (high low : Fin 16) :
    lowNibble (fromNibbles high low) = low := by
  apply Fin.eq_of_val_eq
  simp only [fromNibbles, lowNibble, Fin.ofNat, UInt8.toNat_ofNat']
  omega

/-! ### Numbers of two bytes -/

/-- The more significant byte of a 16-bit number. -/
def highByte (n : UInt16) : UInt8 :=
  UInt8.ofNat (n.toNat / 256)

/-- The less significant byte of a 16-bit number. -/
def lowByte (n : UInt16) : UInt8 :=
  UInt8.ofNat (n.toNat % 256)

/-- The 16-bit number with the given bytes. -/
def fromHighLow (high low : UInt8) : UInt16 :=
  UInt16.ofNat (high.toNat * 256 + low.toNat)

/-- A 16-bit number, more significant byte first. -/
def bigEndian (n : UInt16) : Bytes :=
  [highByte n, lowByte n]

/-- A 16-bit number, less significant byte first. -/
def littleEndian (n : UInt16) : Bytes :=
  [lowByte n, highByte n]

/-- A number is composed of its two bytes. -/
@[simp] theorem fromHighLow_high_low (n : UInt16) :
    fromHighLow (highByte n) (lowByte n) = n := by
  have hn := n.toNat_lt
  apply UInt16.toNat_inj.1
  simp only [fromHighLow, highByte, lowByte, UInt16.toNat_ofNat', UInt8.toNat_ofNat']
  omega

/-- The more significant byte of a composed number is the one it was composed of. -/
@[simp] theorem highByte_fromHighLow (high low : UInt8) :
    highByte (fromHighLow high low) = high := by
  have h := high.toNat_lt
  have l := low.toNat_lt
  apply UInt8.toNat_inj.1
  simp only [fromHighLow, highByte, UInt16.toNat_ofNat', UInt8.toNat_ofNat']
  omega

/-- The less significant byte of a composed number is the one it was composed of. -/
@[simp] theorem lowByte_fromHighLow (high low : UInt8) :
    lowByte (fromHighLow high low) = low := by
  have h := high.toNat_lt
  have l := low.toNat_lt
  apply UInt8.toNat_inj.1
  simp only [fromHighLow, lowByte, UInt16.toNat_ofNat', UInt8.toNat_ofNat']
  omega

/-- Numbers with the same two bytes are equal. -/
theorem eq_of_bytes {m n : UInt16} (high : highByte m = highByte n)
    (low : lowByte m = lowByte n) : m = n := by
  rw [← fromHighLow_high_low m, high, low, fromHighLow_high_low]

/-- The big-endian encoding determines the number. -/
theorem bigEndian_inj {m n : UInt16} : bigEndian m = bigEndian n ↔ m = n := by
  refine ⟨fun h => ?_, congrArg bigEndian⟩
  simp only [bigEndian, List.cons.injEq, and_true] at h
  exact eq_of_bytes h.1 h.2

/-- The little-endian encoding determines the number. -/
theorem littleEndian_inj {m n : UInt16} : littleEndian m = littleEndian n ↔ m = n := by
  refine ⟨fun h => ?_, congrArg littleEndian⟩
  simp only [littleEndian, List.cons.injEq, and_true] at h
  exact eq_of_bytes h.2 h.1

/-! ### Numbers of three bytes -/

/-- The low 24 bits of a number, least significant byte first. -/
def threeBytes (n : UInt32) : Bytes :=
  [UInt8.ofNat (n.toNat % 256), UInt8.ofNat (n.toNat / 256 % 256),
    UInt8.ofNat (n.toNat / 65536 % 256)]

/-- The number whose three bytes are given, least significant first. -/
def fromThree (b0 b1 b2 : UInt8) : UInt32 :=
  UInt32.ofNat (b0.toNat + 256 * b1.toNat + 65536 * b2.toNat)

/-- Three bytes are three. -/
@[simp] theorem length_threeBytes (n : UInt32) : (threeBytes n).length = 3 := rfl

/-- The bytes of a number composed of three bytes are those three. -/
@[simp] theorem threeBytes_fromThree (b0 b1 b2 : UInt8) :
    threeBytes (fromThree b0 b1 b2) = [b0, b1, b2] := by
  have h0 := b0.toNat_lt
  have h1 := b1.toNat_lt
  have h2 := b2.toNat_lt
  have hn : (fromThree b0 b1 b2).toNat = b0.toNat + 256 * b1.toNat + 65536 * b2.toNat := by
    simp only [fromThree, UInt32.toNat_ofNat']
    omega
  simp only [threeBytes, hn, List.cons.injEq, and_true]
  refine ⟨?_, ?_, ?_⟩ <;> apply UInt8.toNat_inj.1 <;> rw [UInt8.toNat_ofNat'] <;> omega

/-- **A number below `2^24` is read back from its three bytes.** -/
theorem fromThree_threeBytes {n : UInt32} (h : n.toNat < 16777216) :
    fromThree (UInt8.ofNat (n.toNat % 256)) (UInt8.ofNat (n.toNat / 256 % 256))
      (UInt8.ofNat (n.toNat / 65536 % 256)) = n := by
  apply UInt32.toNat_inj.1
  simp only [fromThree, UInt32.toNat_ofNat', UInt8.toNat_ofNat']
  omega

/-- Below `2^24` the three bytes determine the number. -/
theorem threeBytes_inj {m n : UInt32} (hm : m.toNat < 16777216) (hn : n.toNat < 16777216) :
    threeBytes m = threeBytes n ↔ m = n := by
  refine ⟨fun h => ?_, congrArg threeBytes⟩
  simp only [threeBytes, List.cons.injEq, and_true] at h
  obtain ⟨h0, h1, h2⟩ := h
  rw [← fromThree_threeBytes hm, h0, h1, h2, fromThree_threeBytes hn]

/-! ### Pieces of one size -/

/-- Cuts off pieces of `size` bytes until nothing is left; the last piece may be shorter.
A piece of no bytes cannot be cut off, so at size zero the string stays in one piece. -/
def chunks (size : Nat) (bytes : Bytes) : List Bytes :=
  if 0 < size ∧ size < bytes.length then
    bytes.take size :: chunks size (bytes.drop size)
  else if bytes = [] then [] else [bytes]
termination_by bytes.length
decreasing_by simp only [List.length_drop]; omega

/-- The pieces of a byte string concatenate to it. -/
theorem flatten_chunks (size : Nat) (bytes : Bytes) : (chunks size bytes).flatten = bytes := by
  fun_induction chunks size bytes with
  | case1 bytes h ih => rw [List.flatten_cons, ih, List.take_append_drop]
  | case2 => simp
  | case3 => simp

/-- Only no bytes have no pieces. -/
theorem chunks_eq_nil_iff {size : Nat} {bytes : Bytes} : chunks size bytes = [] ↔ bytes = [] := by
  constructor
  · intro h
    rw [← flatten_chunks size bytes, h, List.flatten_nil]
  · rintro rfl
    simp [chunks]

/-- No piece is longer than the given size. -/
theorem length_le_of_mem_chunks {size : Nat} (hsize : 0 < size) {bytes piece : Bytes}
    (h : piece ∈ chunks size bytes) : piece.length ≤ size := by
  fun_induction chunks size bytes with
  | case1 bytes hlt ih =>
    rcases List.mem_cons.1 h with rfl | h
    · rw [List.length_take]; omega
    · exact ih h
  | case2 => simp at h
  | case3 bytes hlt _ =>
    obtain rfl := List.mem_singleton.1 h
    omega

/-- No piece is empty. -/
theorem ne_nil_of_mem_chunks {size : Nat} {bytes piece : Bytes}
    (h : piece ∈ chunks size bytes) : piece ≠ [] := by
  fun_induction chunks size bytes with
  | case1 bytes hlt ih =>
    rcases List.mem_cons.1 h with rfl | h
    · apply List.ne_nil_of_length_pos
      rw [List.length_take]
      omega
    · exact ih h
  | case2 => simp at h
  | case3 bytes _ hne =>
    obtain rfl := List.mem_singleton.1 h
    exact hne

end Ev2Reader
