import Ev2Reader.BlockCipher

/-!
# Cipher Block Chaining

Every block is combined with the previous cipher block before it is encrypted, the first
one with an initialization vector.

## Main results

* `decrypt_encrypt`, `encrypt_decrypt` — the two directions undo each other on every
  sequence of blocks;
* `encrypt_eq_iff` — hence a sequence of blocks is encrypted to another exactly if that
  one is decrypted to it;
* `chain_inj` — the last cipher block of sequences that end in the same blocks tells their
  starts apart.
-/

namespace Ev2Reader.Chaining

variable (cipher : BlockCipher)

/-- Encrypts blocks, each combined with the cipher block before it. -/
def encrypt (iv : Block) : List Block → List Block
  | [] => []
  | b :: bs => cipher.encrypt (b ^^^ iv) :: encrypt (cipher.encrypt (b ^^^ iv)) bs

/-- Decrypts blocks, combining each with the cipher block before it. -/
def decrypt (iv : Block) : List Block → List Block
  | [] => []
  | x :: xs => (cipher.decrypt x ^^^ iv) :: decrypt x xs

/-- The last cipher block, or the initialization vector if there is none. -/
def chain (iv : Block) : List Block → Block
  | [] => iv
  | b :: bs => chain (cipher.encrypt (b ^^^ iv)) bs

/-- Encryption keeps the number of blocks. -/
@[simp] theorem length_encrypt (iv : Block) (blocks : List Block) :
    (encrypt cipher iv blocks).length = blocks.length := by
  induction blocks generalizing iv with
  | nil => rfl
  | cons b bs ih => rw [encrypt, List.length_cons, ih, List.length_cons]

/-- Decryption keeps the number of blocks. -/
@[simp] theorem length_decrypt (iv : Block) (blocks : List Block) :
    (decrypt cipher iv blocks).length = blocks.length := by
  induction blocks generalizing iv with
  | nil => rfl
  | cons b bs ih => rw [decrypt, List.length_cons, ih, List.length_cons]

/-- Decryption undoes encryption. -/
@[simp] theorem decrypt_encrypt (iv : Block) (blocks : List Block) :
    decrypt cipher iv (encrypt cipher iv blocks) = blocks := by
  induction blocks generalizing iv with
  | nil => rfl
  | cons b bs ih => rw [encrypt, decrypt, ih, BlockCipher.decrypt_encrypt,
      Block.xor_xor_cancel_right]

/-- Encryption undoes decryption. -/
@[simp] theorem encrypt_decrypt (iv : Block) (blocks : List Block) :
    encrypt cipher iv (decrypt cipher iv blocks) = blocks := by
  induction blocks generalizing iv with
  | nil => rfl
  | cons x xs ih => rw [decrypt, encrypt, Block.xor_xor_cancel_right,
      BlockCipher.encrypt_decrypt, ih]

/-- **Blocks are encrypted to a sequence exactly if that sequence is decrypted to them.** -/
theorem encrypt_eq_iff {iv : Block} {blocks blocks' : List Block} :
    encrypt cipher iv blocks = blocks' ↔ decrypt cipher iv blocks' = blocks :=
  ⟨fun h => h ▸ decrypt_encrypt cipher iv blocks, fun h => h ▸ encrypt_decrypt cipher iv _⟩

/-- Chaining two sequences goes on where the first ended. -/
theorem chain_append (iv : Block) (blocks blocks' : List Block) :
    chain cipher iv (blocks ++ blocks') = chain cipher (chain cipher iv blocks) blocks' := by
  induction blocks generalizing iv with
  | nil => rfl
  | cons b bs ih => exact ih _

/-- **A common end keeps different starts apart:** the same blocks lead from different
cipher blocks to different ones. -/
theorem chain_inj {iv iv' : Block} (blocks : List Block) :
    chain cipher iv blocks = chain cipher iv' blocks ↔ iv = iv' := by
  induction blocks generalizing iv iv' with
  | nil => rfl
  | cons b bs ih => rw [chain, chain, ih, cipher.encrypt_inj, Block.xor_right_inj]

end Ev2Reader.Chaining
