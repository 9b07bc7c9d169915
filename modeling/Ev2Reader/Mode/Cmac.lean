import Ev2Reader.Mode.Chaining
import Ev2Reader.Mode.Padding

/-!
# Message Authentication with a Block Cipher

CMAC chains the blocks of a message and takes the last cipher block as its tag. The last
block is combined with one of two subkeys first, depending on whether it is complete or
had to be padded, so that no message is an extension of another.

## Main results

* `maskedBlocks_append` — a block in front of more bytes is chained as it is;
* `tag_append_inj` — messages with a common rest and different first blocks have
  different tags.
-/

namespace Ev2Reader.Cmac

/-! ### Subkeys -/

/-- Shifts a word left by one bit; the bit that comes in is the top bit of `next`. -/
def shiftWord (w : Word) (next : UInt8) : Word :=
  ⟨w.b0 <<< 1 ^^^ w.b1 >>> 7, w.b1 <<< 1 ^^^ w.b2 >>> 7, w.b2 <<< 1 ^^^ w.b3 >>> 7,
    w.b3 <<< 1 ^^^ next >>> 7⟩

/-- Multiplies a block, read as a polynomial with its first bit on top, by `t` modulo
`t¹²⁸ + t⁷ + t² + t + 1`. -/
def double (b : Block) : Block :=
  let carry : UInt8 := if b.c0.b0 >>> 7 = 1 then 0x87 else 0
  ⟨shiftWord b.c0 b.c1.b0, shiftWord b.c1 b.c2.b0, shiftWord b.c2 b.c3.b0,
    shiftWord b.c3 0 ^^^ ⟨0, 0, 0, carry⟩⟩

/-- The subkey for a complete last block. -/
def completeKey (cipher : BlockCipher) : Block :=
  double (cipher.encrypt .zero)

/-- The subkey for a padded last block. -/
def paddedKey (cipher : BlockCipher) : Block :=
  double (completeKey cipher)

/-! ### Tags -/

/-- Combines the last block with its subkey: `complete` if the blocks leave no rest, and
`padded` after closing the rest. No block at all counts as an empty rest. -/
def maskLast (complete padded : Block) : List Block → Bytes → List Block
  | [], tail => [Padding.close tail ^^^ padded]
  | [b], [] => [b ^^^ complete]
  | b :: bs, tail => b :: maskLast complete padded bs tail

/-- The blocks of a message that are chained for its tag. -/
def maskedBlocks (cipher : BlockCipher) (message : Bytes) : List Block :=
  maskLast (completeKey cipher) (paddedKey cipher) (Block.split message).1
    (Block.split message).2

/-- **The authentication tag of a message.** -/
def tag (cipher : BlockCipher) (message : Bytes) : Block :=
  Chaining.chain cipher .zero (maskedBlocks cipher message)

/-- A block in front of others is not masked. -/
theorem maskLast_cons (complete padded b c : Block) (bs : List Block) (tail : Bytes) :
    maskLast complete padded (b :: c :: bs) tail =
      b :: maskLast complete padded (c :: bs) tail := by
  simp [maskLast]

/-- A block in front of a non-empty rest is not masked. -/
theorem maskLast_of_tail (complete padded b : Block) (bs : List Block) {tail : Bytes}
    (h : tail ≠ []) :
    maskLast complete padded (b :: bs) tail = b :: maskLast complete padded bs tail := by
  cases tail with
  | nil => exact absurd rfl h
  | cons => cases bs <;> simp [maskLast]

/-- **A block in front of more bytes is chained as it is.** -/
theorem maskedBlocks_append (cipher : BlockCipher) (b : Block) {rest : Bytes}
    (h : rest ≠ []) :
    maskedBlocks cipher (b.toList ++ rest) = b :: maskedBlocks cipher rest := by
  simp only [maskedBlocks, Block.split_append]
  obtain ⟨hjoin, -⟩ := Block.joined_split rest
  cases hs : (Block.split rest).1 with
  | cons c bs => exact maskLast_cons ..
  | nil =>
    rw [hs, Block.joined_nil, List.nil_append] at hjoin
    exact maskLast_of_tail _ _ _ _ (by rwa [hjoin])

/-- **Different first blocks give different tags** in front of the same further bytes. -/
theorem tag_append_inj (cipher : BlockCipher) {b b' : Block} {rest : Bytes} (h : rest ≠ []) :
    tag cipher (b.toList ++ rest) = tag cipher (b'.toList ++ rest) ↔ b = b' := by
  simp only [tag, maskedBlocks_append cipher _ h, Chaining.chain, Chaining.chain_inj,
    cipher.encrypt_inj, Block.xor_left_inj]

end Ev2Reader.Cmac
