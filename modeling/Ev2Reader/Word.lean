import Ev2Reader.Bytes

/-!
# Words of Four Bytes

A word is a column of the cipher's state; it is also the size of a transaction
identifier. Words form a group of exponent two under the exclusive or of their bytes.

## Main results

* `Word.xor_assoc`, `Word.xor_comm`, `Word.xor_self`, `Word.xor_zero` — the group laws;
* `Word.ofNumber_inj` — a 32-bit number is determined by its word;
* `Word.take?_eq_some_iff`, `Word.take?_eq_none_iff` — a byte string starts with a word
  exactly if it has four bytes.
-/

namespace Ev2Reader

/-- Four bytes, the first transmitted first. -/
structure Word where
  /-- The byte transmitted first. -/
  b0 : UInt8
  /-- The second byte. -/
  b1 : UInt8
  /-- The third byte. -/
  b2 : UInt8
  /-- The byte transmitted last. -/
  b3 : UInt8
deriving DecidableEq

namespace Word

/-- Number of bytes in a word. -/
def size : Nat := 4

/-- The word of zero bytes. -/
def zero : Word := ⟨0, 0, 0, 0⟩

/-- Words are combined byte by byte. -/
instance : XorOp Word where
  xor v w := ⟨v.b0 ^^^ w.b0, v.b1 ^^^ w.b1, v.b2 ^^^ w.b2, v.b3 ^^^ w.b3⟩

/-- Applies a function to every byte. -/
def map (f : UInt8 → UInt8) (w : Word) : Word :=
  ⟨f w.b0, f w.b1, f w.b2, f w.b3⟩

/-- Moves the first byte to the end. -/
def rotate (w : Word) : Word :=
  ⟨w.b1, w.b2, w.b3, w.b0⟩

/-- The bytes of a word in order of transmission. -/
def toList (w : Word) : Bytes :=
  [w.b0, w.b1, w.b2, w.b3]

/-- A 32-bit number as a word, least significant byte first. -/
def ofNumber (n : UInt32) : Word :=
  ⟨UInt8.ofNat (n.toNat % 256), UInt8.ofNat (n.toNat / 256 % 256),
    UInt8.ofNat (n.toNat / 65536 % 256), UInt8.ofNat (n.toNat / 16777216)⟩

/-- Takes a word off the front of a byte string that has at least four bytes. -/
def take? : Bytes → Option (Word × Bytes)
  | b0 :: b1 :: b2 :: b3 :: rest => some (⟨b0, b1, b2, b3⟩, rest)
  | _ => none

/-- The exclusive or is taken byte by byte. -/
theorem xor_def (v w : Word) :
    v ^^^ w = ⟨v.b0 ^^^ w.b0, v.b1 ^^^ w.b1, v.b2 ^^^ w.b2, v.b3 ^^^ w.b3⟩ := rfl

/-- The exclusive or is associative. -/
theorem xor_assoc (u v w : Word) : u ^^^ v ^^^ w = u ^^^ (v ^^^ w) := by
  simp only [xor_def, UInt8.xor_assoc]

/-- The exclusive or is commutative. -/
theorem xor_comm (v w : Word) : v ^^^ w = w ^^^ v := by
  simp only [xor_def, UInt8.xor_comm]

/-- Every word is its own inverse. -/
@[simp] theorem xor_self (w : Word) : w ^^^ w = zero := by
  simp only [xor_def, UInt8.xor_self, zero]

/-- The zero word is neutral. -/
@[simp] theorem xor_zero (w : Word) : w ^^^ zero = w := by
  simp only [xor_def, zero, UInt8.xor_zero]

/-- A word has four bytes. -/
@[simp] theorem length_toList (w : Word) : w.toList.length = 4 := rfl

/-- A number is determined by its word. -/
theorem ofNumber_inj {m n : UInt32} : ofNumber m = ofNumber n ↔ m = n := by
  refine ⟨fun h => ?_, congrArg ofNumber⟩
  have hm := m.toNat_lt
  have hn := n.toNat_lt
  simp only [ofNumber, mk.injEq, ← UInt8.toNat_inj, UInt8.toNat_ofNat'] at h
  apply UInt32.toNat_inj.1
  omega

/-- The bytes determine the word. -/
theorem toList_inj {v w : Word} : v.toList = w.toList ↔ v = w := by
  cases v
  cases w
  simp [toList]

/-- Taking a word off a byte string that starts with one. -/
@[simp] theorem take?_append (w : Word) (rest : Bytes) :
    take? (w.toList ++ rest) = some (w, rest) := rfl

/-- A word is taken off exactly if the byte string starts with its bytes. -/
theorem take?_eq_some_iff {bytes rest : Bytes} {w : Word} :
    take? bytes = some (w, rest) ↔ bytes = w.toList ++ rest := by
  refine ⟨fun h => ?_, fun h => h ▸ take?_append w rest⟩
  unfold take? at h
  split at h
  · cases h
    rfl
  · cases h

/-- No word is taken off exactly if there are fewer than four bytes. -/
theorem take?_eq_none_iff {bytes : Bytes} : take? bytes = none ↔ bytes.length < 4 := by
  match bytes with
  | [] | [_] | [_, _] | [_, _, _] => simp [take?]
  | _ :: _ :: _ :: _ :: _ => simp [take?]

end Word

end Ev2Reader
