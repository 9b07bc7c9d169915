import Ev2Reader.Check
import Ev2Reader.Fault
import Ev2Reader.Mode.Chaining

/-!
# Chaining over Buffers

The messages of a handshake are enciphered as buffers of bytes, without padding. A buffer has
to be whole blocks, and one that is not is refused with the next length that would be.

## Main results

* `encryptBuffer_joined`, `decryptBuffer_joined` — whole blocks are never refused;
* `encryptBuffer_eq_ok_iff` — **a buffer is encrypted to another exactly if that one is
  decrypted to it.**
-/

namespace Ev2Reader

/-- A byte string of whole blocks is its blocks, joined. -/
theorem Block.eq_joined_of_length {bytes : Bytes} (h : bytes.length % 16 = 0) :
    bytes = joined (split bytes).1 := by
  obtain ⟨hjoin, hlt⟩ := joined_split bytes
  have hlength := congrArg List.length hjoin
  rw [List.length_append, length_joined] at hlength
  have hrest : (split bytes).2 = [] := List.length_eq_zero_iff.1 (by omega)
  rw [hrest, List.append_nil] at hjoin
  exact hjoin.symm

/-- Rotating a block is rotating its bytes to the left by one. -/
theorem Block.rotateLeft_toList (b : Block) : b.toList.rotateLeft 1 = b.rotateLeft.toList := rfl

namespace Chaining

/-- Refuses a buffer that is not whole blocks. -/
def requireWhole (buffer : Bytes) : Except Fault Unit :=
  check (buffer.length % 16 = 0) (.invalidLength ((buffer.length / 16 + 1) * 16) buffer.length)

/-- **Encrypts a buffer** of whole blocks in place. -/
def encryptBuffer (cipher : BlockCipher) (iv : Block) (buffer : Bytes) : Except Fault Bytes := do
  requireWhole buffer
  return Block.joined (encrypt cipher iv (Block.split buffer).1)

/-- **Decrypts a buffer** of whole blocks in place. -/
def decryptBuffer (cipher : BlockCipher) (iv : Block) (buffer : Bytes) : Except Fault Bytes := do
  requireWhole buffer
  return Block.joined (decrypt cipher iv (Block.split buffer).1)

variable {cipher : BlockCipher} {iv : Block} {buffer buffer' : Bytes}

/-- A buffer of whole blocks is accepted. -/
theorem requireWhole_of_length (h : buffer.length % 16 = 0) : requireWhole buffer = .ok () :=
  check_eq_ok_iff.2 h

/-- Encrypting the blocks in a buffer gives a buffer of the encrypted blocks. -/
theorem encryptBuffer_joined (cipher : BlockCipher) (iv : Block) (blocks : List Block) :
    encryptBuffer cipher iv (Block.joined blocks) =
      .ok (Block.joined (encrypt cipher iv blocks)) := by
  have hwhole : requireWhole (Block.joined blocks) = .ok () :=
    requireWhole_of_length (by rw [Block.length_joined]; omega)
  rw [encryptBuffer, hwhole, Block.split_joined]
  rfl

/-- Decrypting the blocks in a buffer gives a buffer of the decrypted blocks. -/
theorem decryptBuffer_joined (cipher : BlockCipher) (iv : Block) (blocks : List Block) :
    decryptBuffer cipher iv (Block.joined blocks) =
      .ok (Block.joined (decrypt cipher iv blocks)) := by
  have hwhole : requireWhole (Block.joined blocks) = .ok () :=
    requireWhole_of_length (by rw [Block.length_joined]; omega)
  rw [decryptBuffer, hwhole, Block.split_joined]
  rfl

/-- In a chain from zero one block is encrypted by itself. -/
theorem encryptBuffer_block (cipher : BlockCipher) (b : Block) :
    encryptBuffer cipher .zero b.toList = .ok (cipher.encrypt b).toList := by
  have hjoined : b.toList = Block.joined [b] := rfl
  rw [hjoined, encryptBuffer_joined, encrypt, Block.xor_zero]
  rfl

/-- In a chain from zero one block is decrypted by itself. -/
theorem decryptBuffer_block (cipher : BlockCipher) (b : Block) :
    decryptBuffer cipher .zero b.toList = .ok (cipher.decrypt b).toList := by
  have hjoined : b.toList = Block.joined [b] := rfl
  rw [hjoined, decryptBuffer_joined, decrypt, Block.xor_zero]
  rfl

/-- Encrypting whole blocks gives as many bytes. -/
theorem encryptBuffer_of_length (h : buffer.length % 16 = 0) :
    ∃ text, encryptBuffer cipher iv buffer = .ok text ∧ text.length = buffer.length := by
  rw [Block.eq_joined_of_length h]
  exact ⟨_, encryptBuffer_joined .., by simp⟩

/-- Only a buffer of whole blocks is accepted. -/
theorem length_of_requireWhole {u : Unit} (h : requireWhole buffer = .ok u) :
    buffer.length % 16 = 0 :=
  check_eq_ok_iff.1 h

/-- The text of a buffer is as long. -/
theorem length_of_encryptBuffer (h : encryptBuffer cipher iv buffer = .ok buffer') :
    buffer'.length = buffer.length := by
  obtain ⟨_, hwhole, -⟩ := bind_eq_ok_iff.1 h
  obtain ⟨text, htext, hlength⟩ := encryptBuffer_of_length (length_of_requireWhole hwhole)
  rw [h] at htext
  cases htext
  exact hlength

/-- **A buffer is encrypted to another exactly if that one is decrypted to it.** -/
theorem encryptBuffer_eq_ok_iff :
    encryptBuffer cipher iv buffer = .ok buffer' ↔
      decryptBuffer cipher iv buffer' = .ok buffer := by
  constructor
  · intro h
    obtain ⟨_, hwhole, -⟩ := bind_eq_ok_iff.1 h
    rw [Block.eq_joined_of_length (length_of_requireWhole hwhole)] at h ⊢
    rw [encryptBuffer_joined] at h
    cases h
    rw [decryptBuffer_joined, decrypt_encrypt]
  · intro h
    obtain ⟨_, hwhole, -⟩ := bind_eq_ok_iff.1 h
    rw [Block.eq_joined_of_length (length_of_requireWhole hwhole)] at h ⊢
    rw [decryptBuffer_joined] at h
    cases h
    rw [encryptBuffer_joined, encrypt_decrypt]

end Chaining

end Ev2Reader
