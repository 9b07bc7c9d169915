import Ev2Reader.Block

/-!
# Shifting Rows and Mixing Columns

The two linear steps of the cipher. Bytes are polynomials over the field of two elements
modulo `t⁸ + t⁴ + t³ + t + 1`; a column is multiplied by the circulant matrix of
`2, 3, 1, 1`.

## Main results

* `unshiftRows_shiftRows`, `shiftRows_unshiftRows` — shifting rows is undone by shifting
  them back;
* `mixColumn_order_four` — mixing a column four times leaves it as it was, so mixing it
  three times undoes mixing it once (`unmixColumns_mixColumns`, `mixColumns_unmixColumns`).
-/

namespace Ev2Reader.Aes

/-! ### Rows -/

/-- Rotates row `i` of the state, the bytes at index `i` of each word, by `i` places. -/
def shiftRows (s : Block) : Block :=
  ⟨⟨s.c0.b0, s.c1.b1, s.c2.b2, s.c3.b3⟩, ⟨s.c1.b0, s.c2.b1, s.c3.b2, s.c0.b3⟩,
    ⟨s.c2.b0, s.c3.b1, s.c0.b2, s.c1.b3⟩, ⟨s.c3.b0, s.c0.b1, s.c1.b2, s.c2.b3⟩⟩

/-- Rotates the rows of the state back. -/
def unshiftRows (s : Block) : Block :=
  ⟨⟨s.c0.b0, s.c3.b1, s.c2.b2, s.c1.b3⟩, ⟨s.c1.b0, s.c0.b1, s.c3.b2, s.c2.b3⟩,
    ⟨s.c2.b0, s.c1.b1, s.c0.b2, s.c3.b3⟩, ⟨s.c3.b0, s.c2.b1, s.c1.b2, s.c0.b3⟩⟩

/-- Shifting rows is undone. -/
@[simp] theorem unshiftRows_shiftRows (s : Block) : unshiftRows (shiftRows s) = s := rfl

/-- Shifting rows undoes shifting them back. -/
@[simp] theorem shiftRows_unshiftRows (s : Block) : shiftRows (unshiftRows s) = s := rfl

/-! ### Columns -/

/-- Multiplies a byte by `t`. The bit `h` that leaves at the top is `t⁸` and comes back as
`t⁴ + t³ + t + 1`. -/
def double (b : UInt8) : UInt8 :=
  let h := b >>> 7
  b <<< 1 ^^^ (h ^^^ (h <<< 1 ^^^ (h <<< 3 ^^^ h <<< 4)))

/-- Multiplies a byte by `t + 1`. -/
def triple (b : UInt8) : UInt8 :=
  double b ^^^ b

/-- Multiplies a column by the circulant matrix of `2, 3, 1, 1`. -/
def mixColumn (w : Word) : Word :=
  ⟨double w.b0 ^^^ triple w.b1 ^^^ w.b2 ^^^ w.b3,
    w.b0 ^^^ double w.b1 ^^^ triple w.b2 ^^^ w.b3,
    w.b0 ^^^ w.b1 ^^^ double w.b2 ^^^ triple w.b3,
    triple w.b0 ^^^ w.b1 ^^^ w.b2 ^^^ double w.b3⟩

/-- Multiplies a column by the inverse matrix, which is the cube of the matrix itself. -/
def unmixColumn (w : Word) : Word :=
  mixColumn (mixColumn (mixColumn w))

/-- Mixes the four columns of the state. -/
def mixColumns (s : Block) : Block :=
  ⟨mixColumn s.c0, mixColumn s.c1, mixColumn s.c2, mixColumn s.c3⟩

/-- Undoes the mixing of the four columns. -/
def unmixColumns (s : Block) : Block :=
  ⟨unmixColumn s.c0, unmixColumn s.c1, unmixColumn s.c2, unmixColumn s.c3⟩

/-- Summands of a sum of bytes can change places. -/
theorem byte_xor_left_comm (a b c : UInt8) : a ^^^ (b ^^^ c) = b ^^^ (a ^^^ c) := by
  rw [← UInt8.xor_assoc, UInt8.xor_comm a b, UInt8.xor_assoc]

/-- A byte added twice vanishes from a sum. -/
theorem byte_xor_cancel_left (a b : UInt8) : a ^^^ (a ^^^ b) = b := by
  rw [← UInt8.xor_assoc, UInt8.xor_self, UInt8.zero_xor]

/-- Multiplication by `t` is linear. -/
theorem double_xor (a b : UInt8) : double (a ^^^ b) = double a ^^^ double b := by
  simp only [double, UInt8.shiftLeft_xor, UInt8.shiftRight_xor, UInt8.xor_assoc,
    byte_xor_left_comm]

/-- The square of the matrix is the circulant matrix of `5, 0, 4, 0`. -/
theorem mixColumn_mixColumn (w : Word) :
    mixColumn (mixColumn w) =
      ⟨double (double w.b0) ^^^ w.b0 ^^^ double (double w.b2),
        double (double w.b1) ^^^ w.b1 ^^^ double (double w.b3),
        double (double w.b2) ^^^ w.b2 ^^^ double (double w.b0),
        double (double w.b3) ^^^ w.b3 ^^^ double (double w.b1)⟩ := by
  simp only [mixColumn, triple, double_xor, UInt8.xor_assoc, Word.mk.injEq]
  refine ⟨?_, ?_, ?_, ?_⟩ <;>
    simp only [UInt8.xor_assoc, UInt8.xor_comm, byte_xor_left_comm, byte_xor_cancel_left,
      UInt8.xor_self, UInt8.zero_xor]

/-- **Mixing a column four times leaves it as it was.** -/
theorem mixColumn_order_four (w : Word) :
    mixColumn (mixColumn (mixColumn (mixColumn w))) = w := by
  rw [mixColumn_mixColumn, mixColumn_mixColumn]
  simp only [double_xor, UInt8.xor_assoc]
  simp only [UInt8.xor_assoc, UInt8.xor_comm, byte_xor_left_comm, byte_xor_cancel_left,
    UInt8.xor_self, UInt8.xor_zero]

/-- Mixing columns is undone. -/
@[simp] theorem unmixColumns_mixColumns (s : Block) : unmixColumns (mixColumns s) = s := by
  simp only [unmixColumns, mixColumns, unmixColumn, mixColumn_order_four]

/-- Mixing columns undoes its inverse. -/
@[simp] theorem mixColumns_unmixColumns (s : Block) : mixColumns (unmixColumns s) = s := by
  simp only [unmixColumns, mixColumns, unmixColumn, mixColumn_order_four]

end Ev2Reader.Aes
