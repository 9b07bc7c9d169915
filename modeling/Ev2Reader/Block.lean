import Ev2Reader.Word

/-!
# Blocks of Sixteen Bytes

A block is what the cipher works on, four words or sixteen bytes. Keys, nonces and
initialization vectors are blocks too. The second half of the module cuts byte strings
into blocks.

## Main results

* `Block.xor_assoc`, `Block.xor_comm`, `Block.xor_self`, `Block.xor_zero`,
  `Block.xor_xor_cancel_right` — blocks are a group of exponent two;
* `Block.ofBytes?_eq_some_iff` — a byte string is a block exactly if it is the block's
  bytes, and `Block.ofBytes?_eq_none_iff` tells the others by their length;
* `Block.split_eq_iff` — cutting a byte string into whole blocks and a shorter rest
  has exactly one answer.
-/

namespace Ev2Reader

/-- Sixteen bytes as four words, the first transmitted first. -/
structure Block where
  /-- The word transmitted first. -/
  c0 : Word
  /-- The second word. -/
  c1 : Word
  /-- The third word. -/
  c2 : Word
  /-- The word transmitted last. -/
  c3 : Word
deriving DecidableEq

namespace Block

/-- Number of bytes in a block. -/
def size : Nat := 16

/-- The block of zero bytes. -/
def zero : Block := ⟨.zero, .zero, .zero, .zero⟩

/-- Blocks are combined column by column. -/
instance : XorOp Block where
  xor a b := ⟨a.c0 ^^^ b.c0, a.c1 ^^^ b.c1, a.c2 ^^^ b.c2, a.c3 ^^^ b.c3⟩

/-- Applies a function to every byte. -/
def map (f : UInt8 → UInt8) (b : Block) : Block :=
  ⟨b.c0.map f, b.c1.map f, b.c2.map f, b.c3.map f⟩

/-- The block whose byte at each index from 0 to 15 is given. -/
def ofFn (f : Nat → UInt8) : Block :=
  ⟨⟨f 0, f 1, f 2, f 3⟩, ⟨f 4, f 5, f 6, f 7⟩, ⟨f 8, f 9, f 10, f 11⟩,
    ⟨f 12, f 13, f 14, f 15⟩⟩

/-- The bytes of a block in order of transmission. -/
def toList (b : Block) : Bytes :=
  b.c0.toList ++ b.c1.toList ++ b.c2.toList ++ b.c3.toList

/-- Moves the first byte to the end. -/
def rotateLeft (b : Block) : Block :=
  ⟨⟨b.c0.b1, b.c0.b2, b.c0.b3, b.c1.b0⟩, ⟨b.c1.b1, b.c1.b2, b.c1.b3, b.c2.b0⟩,
    ⟨b.c2.b1, b.c2.b2, b.c2.b3, b.c3.b0⟩, ⟨b.c3.b1, b.c3.b2, b.c3.b3, b.c0.b0⟩⟩

/-! ### The group of blocks -/

/-- The exclusive or is taken word by word. -/
theorem xor_def (a b : Block) :
    a ^^^ b = ⟨a.c0 ^^^ b.c0, a.c1 ^^^ b.c1, a.c2 ^^^ b.c2, a.c3 ^^^ b.c3⟩ := rfl

/-- The exclusive or is associative. -/
theorem xor_assoc (a b c : Block) : a ^^^ b ^^^ c = a ^^^ (b ^^^ c) := by
  simp only [xor_def, Word.xor_assoc]

/-- The exclusive or is commutative. -/
theorem xor_comm (a b : Block) : a ^^^ b = b ^^^ a := by
  simp only [xor_def, mk.injEq]
  exact ⟨Word.xor_comm .., Word.xor_comm .., Word.xor_comm .., Word.xor_comm ..⟩

/-- Every block is its own inverse. -/
@[simp] theorem xor_self (a : Block) : a ^^^ a = zero := by
  simp only [xor_def, Word.xor_self, zero]

/-- The zero block is neutral. -/
@[simp] theorem xor_zero (a : Block) : a ^^^ zero = a := by
  simp only [xor_def, zero, Word.xor_zero]

/-- The zero block is neutral on the left. -/
@[simp] theorem zero_xor (a : Block) : zero ^^^ a = a := by
  rw [xor_comm, xor_zero]

/-- Adding a block twice changes nothing. -/
@[simp] theorem xor_xor_cancel_right (a b : Block) : a ^^^ b ^^^ b = a := by
  rw [xor_assoc, xor_self, xor_zero]

/-- A common summand on the right can be dropped. -/
theorem xor_left_inj {a b c : Block} : a ^^^ c = b ^^^ c ↔ a = b := by
  refine ⟨fun h => ?_, congrArg (· ^^^ c)⟩
  rw [← xor_xor_cancel_right a c, h, xor_xor_cancel_right]

/-- A common summand on the left can be dropped. -/
theorem xor_right_inj {a b c : Block} : c ^^^ a = c ^^^ b ↔ a = b := by
  rw [xor_comm c a, xor_comm c b, xor_left_inj]

/-! ### Bytes of a block -/

/-- A block has sixteen bytes. -/
@[simp] theorem length_toList (b : Block) : b.toList.length = 16 := rfl

/-- The bytes determine the block. -/
theorem toList_inj {a b : Block} : a.toList = b.toList ↔ a = b := by
  refine ⟨fun h => ?_, congrArg toList⟩
  obtain ⟨⟨_, _, _, _⟩, ⟨_, _, _, _⟩, ⟨_, _, _, _⟩, ⟨_, _, _, _⟩⟩ := a
  obtain ⟨⟨_, _, _, _⟩, ⟨_, _, _, _⟩, ⟨_, _, _, _⟩, ⟨_, _, _, _⟩⟩ := b
  simpa [toList, Word.toList, and_assoc] using h

/-- Rotating a block rotates its bytes. -/
theorem toList_rotateLeft (b : Block) :
    b.rotateLeft.toList = b.toList.tail ++ [b.c0.b0] := rfl

/-- Takes a block off the front of a byte string that has at least sixteen bytes. -/
def take? (bytes : Bytes) : Option (Block × Bytes) :=
  match Word.take? bytes with
  | none => none
  | some (c0, bytes) =>
    match Word.take? bytes with
    | none => none
    | some (c1, bytes) =>
      match Word.take? bytes with
      | none => none
      | some (c2, bytes) =>
        match Word.take? bytes with
        | none => none
        | some (c3, bytes) => some (⟨c0, c1, c2, c3⟩, bytes)

/-- Taking a block off a byte string that starts with one. -/
@[simp] theorem take?_append (b : Block) (rest : Bytes) :
    take? (b.toList ++ rest) = some (b, rest) := rfl

/-- A block is taken off exactly if the byte string starts with its bytes. -/
theorem take?_eq_some_iff {bytes rest : Bytes} {b : Block} :
    take? bytes = some (b, rest) ↔ bytes = b.toList ++ rest := by
  refine ⟨fun h => ?_, fun h => h ▸ take?_append b rest⟩
  unfold take? at h
  split at h
  · cases h
  next h0 =>
  split at h
  · cases h
  next h1 =>
  split at h
  · cases h
  next h2 =>
  split at h
  · cases h
  next h3 =>
  cases h
  rw [Word.take?_eq_some_iff.1 h0, Word.take?_eq_some_iff.1 h1, Word.take?_eq_some_iff.1 h2,
    Word.take?_eq_some_iff.1 h3]
  rfl

/-- No block is taken off exactly if there are fewer than sixteen bytes. -/
theorem take?_eq_none_iff {bytes : Bytes} : take? bytes = none ↔ bytes.length < 16 := by
  constructor
  · intro h
    unfold take? at h
    split at h
    next h0 => have := Word.take?_eq_none_iff.1 h0; omega
    next h0 =>
    obtain rfl := Word.take?_eq_some_iff.1 h0
    split at h
    next h1 => have := Word.take?_eq_none_iff.1 h1; simp; omega
    next h1 =>
    obtain rfl := Word.take?_eq_some_iff.1 h1
    split at h
    next h2 => have := Word.take?_eq_none_iff.1 h2; simp; omega
    next h2 =>
    obtain rfl := Word.take?_eq_some_iff.1 h2
    split at h
    next h3 => have := Word.take?_eq_none_iff.1 h3; simp; omega
    · cases h
  · intro h
    cases ht : take? bytes with
    | none => rfl
    | some p =>
      obtain ⟨b, rest⟩ := p
      rw [take?_eq_some_iff.1 ht, List.length_append, length_toList] at h
      omega

/-- Reads a byte string of exactly sixteen bytes. -/
def ofBytes? (bytes : Bytes) : Option Block :=
  match take? bytes with
  | some (b, []) => some b
  | _ => none

/-- A byte string reads as a block exactly if it is that block's bytes. -/
theorem ofBytes?_eq_some_iff {bytes : Bytes} {b : Block} :
    ofBytes? bytes = some b ↔ bytes = b.toList := by
  constructor
  · intro h
    unfold ofBytes? at h
    split at h
    next ht =>
      cases h
      rw [take?_eq_some_iff.1 ht, List.append_nil]
    · cases h
  · rintro rfl
    rfl

/-- A block is read back from its bytes. -/
@[simp] theorem ofBytes?_toList (b : Block) : ofBytes? b.toList = some b := rfl

/-- A byte string is not a block exactly if its length is not sixteen. -/
theorem ofBytes?_eq_none_iff {bytes : Bytes} : ofBytes? bytes = none ↔ bytes.length ≠ 16 := by
  constructor
  · intro h hl
    cases ht : take? bytes with
    | none =>
      have := take?_eq_none_iff.1 ht
      omega
    | some p =>
      obtain ⟨b, rest⟩ := p
      obtain rfl := take?_eq_some_iff.1 ht
      obtain rfl : rest = [] := by
        rw [List.length_append, length_toList] at hl
        exact List.length_eq_zero_iff.1 (by omega)
      rw [List.append_nil, ofBytes?_toList] at h
      cases h
  · intro h
    cases ho : ofBytes? bytes with
    | none => rfl
    | some b =>
      rw [ofBytes?_eq_some_iff.1 ho] at h
      exact absurd (length_toList b) h

/-- Sixteen bytes are those of a block. -/
theorem exists_toList_of_length {bytes : Bytes} (h : bytes.length = 16) :
    ∃ b : Block, bytes = b.toList := by
  cases hb : ofBytes? bytes with
  | none => exact absurd h (ofBytes?_eq_none_iff.1 hb)
  | some b => exact ⟨b, ofBytes?_eq_some_iff.1 hb⟩

/-- At least sixteen bytes start with a block. -/
theorem exists_append_of_le_length {bytes : Bytes} (h : 16 ≤ bytes.length) :
    ∃ (b : Block) (rest : Bytes), bytes = b.toList ++ rest := by
  cases htake : take? bytes with
  | none =>
    have hlt := take?_eq_none_iff.1 htake
    omega
  | some p => exact ⟨p.1, p.2, take?_eq_some_iff.1 htake⟩

/-! ### Byte strings of many blocks -/

/-- The bytes of a sequence of blocks. -/
def joined (blocks : List Block) : Bytes :=
  blocks.flatMap toList

/-- No block has no bytes. -/
@[simp] theorem joined_nil : joined [] = [] := rfl

/-- The bytes of a sequence start with those of its first block. -/
@[simp] theorem joined_cons (b : Block) (blocks : List Block) :
    joined (b :: blocks) = b.toList ++ joined blocks := List.flatMap_cons

/-- The bytes of two sequences one after the other. -/
@[simp] theorem joined_append (blocks blocks' : List Block) :
    joined (blocks ++ blocks') = joined blocks ++ joined blocks' := List.flatMap_append

/-- A sequence of blocks has sixteen bytes for each. -/
@[simp] theorem length_joined (blocks : List Block) :
    (joined blocks).length = 16 * blocks.length := by
  induction blocks with
  | nil => rfl
  | cons b blocks ih =>
    rw [joined_cons, List.length_append, ih, length_toList, List.length_cons]
    omega

/-- Cuts a byte string into whole blocks and a rest of fewer than sixteen bytes. -/
def split (bytes : Bytes) : List Block × Bytes :=
  match _h : take? bytes with
  | none => ([], bytes)
  | some (b, rest) => (b :: (split rest).1, (split rest).2)
termination_by bytes.length
decreasing_by
  all_goals
    rw [take?_eq_some_iff.1 _h, List.length_append, length_toList]
    omega

/-- A short byte string holds no whole block. -/
theorem split_of_length_lt {tail : Bytes} (h : tail.length < 16) : split tail = ([], tail) := by
  rw [split]
  split
  · rfl
  next ht => rw [take?_eq_none_iff.2 h] at ht; cases ht

/-- Cutting a byte string that starts with a block. -/
@[simp] theorem split_append (b : Block) (rest : Bytes) :
    split (b.toList ++ rest) = (b :: (split rest).1, (split rest).2) := by
  rw [split]
  split
  next ht => rw [take?_append] at ht; cases ht
  next ht =>
    rw [take?_append] at ht
    cases ht
    rfl

/-- Cutting a sequence of blocks followed by a short rest gives them back. -/
theorem split_joined_append (blocks : List Block) {tail : Bytes} (h : tail.length < 16) :
    split (joined blocks ++ tail) = (blocks, tail) := by
  induction blocks with
  | nil => exact split_of_length_lt h
  | cons b blocks ih => rw [joined_cons, List.append_assoc, split_append, ih]

/-- Cutting a sequence of blocks gives it back. -/
@[simp] theorem split_joined (blocks : List Block) : split (joined blocks) = (blocks, []) := by
  have h := @split_joined_append blocks [] (by decide)
  rwa [List.append_nil] at h

/-- Cutting loses no byte, and its rest is shorter than a block. -/
theorem joined_split (bytes : Bytes) :
    joined (split bytes).1 ++ (split bytes).2 = bytes ∧ (split bytes).2.length < 16 := by
  fun_induction split bytes with
  | case1 bytes h => exact ⟨rfl, take?_eq_none_iff.1 h⟩
  | case2 bytes b rest h ih =>
    rw [joined_cons, List.append_assoc, ih.1, take?_eq_some_iff.1 h]
    exact ⟨rfl, ih.2⟩

/-- **Cutting into blocks has exactly one answer:** whole blocks and a shorter rest that
together are the byte string. -/
theorem split_eq_iff {bytes tail : Bytes} {blocks : List Block} :
    split bytes = (blocks, tail) ↔ bytes = joined blocks ++ tail ∧ tail.length < 16 := by
  constructor
  · intro h
    have hs := joined_split bytes
    rw [h] at hs
    exact ⟨hs.1.symm, hs.2⟩
  · rintro ⟨rfl, h⟩
    exact split_joined_append blocks h

/-- The bytes of a sequence determine it. -/
theorem joined_inj {blocks blocks' : List Block} :
    joined blocks = joined blocks' ↔ blocks = blocks' := by
  refine ⟨fun h => ?_, congrArg joined⟩
  have hsplit := split_joined blocks
  rw [h, split_joined] at hsplit
  exact (congrArg Prod.fst hsplit).symm

end Block

end Ev2Reader
