import Ev2Reader.SessionKeys

/-!
# Encrypted Message Data

Data is padded and encrypted in a chain of blocks. The initialization vector of a message
is computed from its direction, the transaction identifier and the command counter, so no
two messages of a session share one.

## Main results

* `initialVector_inj` — direction, transaction identifier and counter are determined by
  the initialization vector;
* `decipher_eq_ok_iff` — **decryption succeeds exactly on what encryption produces;**
* `decipher_eq_responseLength_iff`, `decipher_error` — otherwise it reports the length if
  that is the reason, and else the padding.
-/

namespace Ev2Reader

/-- Who sends a message. -/
inductive Direction where
  /-- From the reader to the tag. -/
  | command
  /-- From the tag to the reader. -/
  | response
deriving DecidableEq

/-- The label of messages in one direction. -/
def Direction.label : Direction → Label
  | command => ⟨0xA5, 0x5A⟩
  | response => ⟨0x5A, 0xA5⟩

namespace Cryptogram

/-- What is encrypted to an initialization vector: label, transaction identifier, counter
and zeros. -/
def vectorInput (d : Direction) (ti : Word) (counter : UInt16) : Block :=
  ⟨⟨d.label.first, d.label.second, ti.b0, ti.b1⟩,
    ⟨ti.b2, ti.b3, lowByte counter, highByte counter⟩, .zero, .zero⟩

/-- The initialization vector of a message. -/
def initialVector (key : Key) (d : Direction) (ti : Word) (counter : UInt16) : Block :=
  (Aes.withKey key).encrypt (vectorInput d ti counter)

/-- The input determines direction, transaction identifier and counter. -/
theorem vectorInput_inj {d d' : Direction} {ti ti' : Word} {counter counter' : UInt16} :
    vectorInput d ti counter = vectorInput d' ti' counter' ↔
      d = d' ∧ ti = ti' ∧ counter = counter' := by
  constructor
  · intro h
    cases ti
    cases ti'
    simp only [vectorInput, Block.mk.injEq, Word.mk.injEq, and_true] at h
    obtain ⟨⟨hfirst, -, h0, h1⟩, h2, h3, hlow, hhigh⟩ := h
    refine ⟨?_, by rw [h0, h1, h2, h3], eq_of_bytes hhigh hlow⟩
    revert hfirst
    cases d <;> cases d' <;> decide
  · rintro ⟨rfl, rfl, rfl⟩
    rfl

/-- **Messages of different direction, session or counter have different initialization
vectors.** -/
theorem initialVector_inj {key : Key} {d d' : Direction} {ti ti' : Word}
    {counter counter' : UInt16} :
    initialVector key d ti counter = initialVector key d' ti' counter' ↔
      d = d' ∧ ti = ti' ∧ counter = counter' := by
  rw [initialVector, initialVector, BlockCipher.encrypt_inj, vectorInput_inj]

/-- Pads and encrypts data. -/
def encipher (key : Key) (iv : Block) (plaintext : Bytes) : Bytes :=
  Block.joined (Chaining.encrypt (Aes.withKey key) iv (Padding.pad plaintext))

/-- Decrypts data and removes the padding. -/
def decipher (key : Key) (iv : Block) (ciphertext : Bytes) : Except Violation Bytes :=
  match Block.split ciphertext with
  | (b :: bs, []) =>
    match Padding.unpad? (Chaining.decrypt (Aes.withKey key) iv (b :: bs)) with
    | some plaintext => .ok plaintext
    | none => .error .padding
  | _ => .error (.responseLength ciphertext.length)

/-- The length of encrypted data. -/
@[simp] theorem length_encipher (key : Key) (iv : Block) (plaintext : Bytes) :
    (encipher key iv plaintext).length = (plaintext.length / 16 + 1) * 16 := by
  rw [encipher, Block.length_joined, Chaining.length_encrypt, Padding.length_pad,
    Nat.mul_comm]

/-- **Decryption succeeds exactly on what encryption produces.** -/
theorem decipher_eq_ok_iff {key : Key} {iv : Block} {ciphertext plaintext : Bytes} :
    decipher key iv ciphertext = .ok plaintext ↔ ciphertext = encipher key iv plaintext := by
  constructor
  · intro h
    unfold decipher at h
    split at h
    next b bs hsplit =>
      split at h
      next hunpad =>
        cases h
        obtain ⟨hjoin, -⟩ := Block.split_eq_iff.1 hsplit
        rw [encipher, ← Padding.unpad?_eq_some_iff.1 hunpad, Chaining.encrypt_decrypt, hjoin,
          List.append_nil]
      · cases h
    · cases h
  · rintro rfl
    unfold decipher
    rw [encipher, Block.split_joined]
    cases hblocks : Chaining.encrypt (Aes.withKey key) iv (Padding.pad plaintext) with
    | nil =>
      have hlength := congrArg List.length hblocks
      rw [Chaining.length_encrypt, Padding.length_pad] at hlength
      cases hlength
    | cons b bs =>
      simp only [← hblocks, Chaining.decrypt_encrypt, Padding.unpad?_pad]

/-- **Decryption reports the length** exactly of a byte string that is empty or not whole
blocks. -/
theorem decipher_eq_responseLength_iff {key : Key} {iv : Block} {ciphertext : Bytes}
    {received : Nat} :
    decipher key iv ciphertext = .error (.responseLength received) ↔
      (ciphertext = [] ∨ ciphertext.length % 16 ≠ 0) ∧ received = ciphertext.length := by
  obtain ⟨hjoin, hlt⟩ := Block.joined_split ciphertext
  have hlength := congrArg List.length hjoin
  rw [List.length_append, Block.length_joined] at hlength
  unfold decipher
  split
  next b bs hsplit =>
    rw [hsplit] at hlength hjoin
    simp only [List.length_cons, List.length_nil] at hlength
    have hne : ciphertext ≠ [] := List.ne_nil_of_length_pos (by omega)
    have heven : ciphertext.length % 16 = 0 := by omega
    split <;> simp [hne, heven]
  next hsplit =>
    have hbad : ciphertext = [] ∨ ciphertext.length % 16 ≠ 0 := by
      cases htail : (Block.split ciphertext).2 with
      | cons x xs =>
        rw [htail, List.length_cons] at hlength hlt
        exact .inr (by omega)
      | nil =>
        cases hblocks : (Block.split ciphertext).1 with
        | nil => exact .inl (by rw [← hjoin, hblocks, htail]; rfl)
        | cons b bs => exact absurd (Prod.ext hblocks htail) (hsplit b bs)
    exact ⟨fun h => ⟨hbad, by cases h; rfl⟩, fun h => by rw [h.2]⟩

/-- Decryption reports nothing but the length and the padding. -/
theorem decipher_error {key : Key} {iv : Block} {ciphertext : Bytes} {v : Violation}
    (h : decipher key iv ciphertext = .error v) :
    v = .responseLength ciphertext.length ∨ v = .padding := by
  unfold decipher at h
  split at h
  · split at h
    · cases h
    · cases h
      exact .inr rfl
  · cases h
    exact .inl rfl

end Cryptogram

end Ev2Reader
