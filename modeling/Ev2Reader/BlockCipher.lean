import Ev2Reader.Block

/-!
# Keyed Block Ciphers

A block cipher under one key permutes blocks. The modes of operation are defined for every
such permutation, and what is proved of them uses nothing but the two inverse laws.

## Main results

* `BlockCipher.encrypt_inj`, `BlockCipher.decrypt_inj` — both directions are injective.
-/

namespace Ev2Reader

/-- **A block cipher under one key:** a permutation of blocks with its inverse. -/
structure BlockCipher where
  /-- Encrypts one block. -/
  encrypt : Block → Block
  /-- Decrypts one block. -/
  decrypt : Block → Block
  /-- Decryption undoes encryption. -/
  decrypt_encrypt : ∀ b, decrypt (encrypt b) = b
  /-- Encryption undoes decryption. -/
  encrypt_decrypt : ∀ b, encrypt (decrypt b) = b

namespace BlockCipher

attribute [simp] decrypt_encrypt encrypt_decrypt

variable (cipher : BlockCipher)

/-- Different blocks are encrypted differently. -/
theorem encrypt_inj {a b : Block} : cipher.encrypt a = cipher.encrypt b ↔ a = b := by
  refine ⟨fun h => ?_, congrArg cipher.encrypt⟩
  rw [← cipher.decrypt_encrypt a, h, cipher.decrypt_encrypt]

/-- Different blocks are decrypted differently. -/
theorem decrypt_inj {a b : Block} : cipher.decrypt a = cipher.decrypt b ↔ a = b := by
  refine ⟨fun h => ?_, congrArg cipher.decrypt⟩
  rw [← cipher.encrypt_decrypt a, h, cipher.encrypt_decrypt]

end BlockCipher

end Ev2Reader
