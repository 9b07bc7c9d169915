import Ev2Reader.Cryptogram

/-!
# The Format of Encrypted Data

Encrypted data is whole blocks, and what they are deciphered to ends in a mark and at most
fifteen zeros. Both are needed and enough: every byte string of this form is the encryption of
exactly one byte string, and any other is refused for the first of the two that it lacks.

## Main results

* `Padding.eq_pad_iff` — padding in terms of bytes: the mark and fewer than sixteen zeros, as
  many as make whole blocks;
* `Cryptogram.exists_encipher_iff` — which byte strings are encryptions;
* `Cryptogram.decipher_format` — **decryption is the exact inverse of encryption**, and how it
  fails on everything else.
-/

namespace Ev2Reader

namespace Padding

/-- The bytes end in the mark and zeros, and the mark stands in the last block. -/
def Marked (bytes : Bytes) : Prop :=
  ∃ front k, k < 16 ∧ bytes = front ++ mark :: List.replicate k 0

/-- The bytes of a padded byte string: the mark and zeros come after it. -/
theorem joined_pad (bytes : Bytes) :
    Block.joined (pad bytes) = bytes ++ mark :: List.replicate (15 - bytes.length % 16) 0 := by
  obtain ⟨hjoin, hlt⟩ := Block.joined_split bytes
  have hlength := congrArg List.length hjoin
  rw [List.length_append, Block.length_joined] at hlength
  have htail : (Block.split bytes).2.length = bytes.length % 16 := by omega
  calc Block.joined (pad bytes)
      = Block.joined (Block.split bytes).1 ++ (close (Block.split bytes).2).toList := by
        rw [pad, Block.joined_append, Block.joined_cons, Block.joined_nil, List.append_nil]
    _ = Block.joined (Block.split bytes).1 ++ (Block.split bytes).2 ++
          mark :: List.replicate (15 - bytes.length % 16) 0 := by
        rw [toList_close hlt, htail, List.append_assoc]
    _ = bytes ++ mark :: List.replicate (15 - bytes.length % 16) 0 := by rw [hjoin]

/-- **Blocks are the padding of a byte string exactly if** their bytes are that byte string, the
mark and fewer than sixteen zeros. How many zeros there are follows from the length. -/
theorem eq_pad_iff {blocks : List Block} {bytes : Bytes} :
    blocks = pad bytes ↔
      ∃ k < 16, Block.joined blocks = bytes ++ mark :: List.replicate k 0 := by
  constructor
  · rintro rfl
    exact ⟨15 - bytes.length % 16, by omega, joined_pad bytes⟩
  · rintro ⟨k, hk, hjoin⟩
    have hlength := congrArg List.length hjoin
    simp only [Block.length_joined, List.length_append, List.length_cons,
      List.length_replicate] at hlength
    have hzeros : k = 15 - bytes.length % 16 := by omega
    apply Block.joined_inj.1
    rw [hjoin, joined_pad, hzeros]

end Padding

namespace Cryptogram

variable (key : Key) (iv : Block)

/-- What the whole blocks of a byte string are deciphered to, with the padding. -/
def unchained (ciphertext : Bytes) : Bytes :=
  Block.joined (Chaining.decrypt (Aes.withKey key) iv (Block.split ciphertext).1)

/-- An encryption is deciphered to the data, the mark and zeros. -/
theorem unchained_encipher (plaintext : Bytes) :
    unchained key iv (encipher key iv plaintext) =
      plaintext ++ Padding.mark :: List.replicate (15 - plaintext.length % 16) 0 := by
  rw [unchained, encipher, Block.split_joined, Chaining.decrypt_encrypt, Padding.joined_pad]

/-- Whole blocks are joined again after they were cut. -/
theorem joined_split_of_whole {ciphertext : Bytes} (hwhole : ciphertext.length % 16 = 0) :
    Block.joined (Block.split ciphertext).1 = ciphertext := by
  obtain ⟨hjoin, hlt⟩ := Block.joined_split ciphertext
  have hlength := congrArg List.length hjoin
  rw [List.length_append, Block.length_joined] at hlength
  have htail : (Block.split ciphertext).2 = [] := List.length_eq_zero_iff.1 (by omega)
  rwa [htail, List.append_nil] at hjoin

/-- **A byte string is an encryption exactly if** it is whole blocks that are deciphered to bytes
with a mark in the last block and zeros behind it. -/
theorem exists_encipher_iff {ciphertext : Bytes} :
    (∃ plaintext, ciphertext = encipher key iv plaintext) ↔
      ciphertext.length % 16 = 0 ∧ Padding.Marked (unchained key iv ciphertext) := by
  constructor
  · rintro ⟨plaintext, rfl⟩
    refine ⟨by rw [length_encipher]; omega, plaintext, 15 - plaintext.length % 16, by omega, ?_⟩
    exact unchained_encipher key iv plaintext
  · rintro ⟨hwhole, plaintext, k, hk, hmarked⟩
    have hblocks := Padding.eq_pad_iff.2 ⟨k, hk, hmarked⟩
    have hchain := (Chaining.encrypt_eq_iff (Aes.withKey key)).2 hblocks
    refine ⟨plaintext, ?_⟩
    rw [encipher, hchain, joined_split_of_whole hwhole]

/-- **Decryption reports the padding** exactly of whole blocks without a mark in the last one. -/
theorem decipher_eq_padding_iff {ciphertext : Bytes} :
    decipher key iv ciphertext = .error .padding ↔
      ciphertext ≠ [] ∧ ciphertext.length % 16 = 0 ∧
        ¬ Padding.Marked (unchained key iv ciphertext) := by
  constructor
  · intro hpadding
    have hwhole : ¬ (ciphertext = [] ∨ ciphertext.length % 16 ≠ 0) := by
      intro hlength
      have hreport : decipher key iv ciphertext = .error (.responseLength ciphertext.length) :=
        decipher_eq_responseLength_iff.2 ⟨hlength, rfl⟩
      rw [hpadding] at hreport
      cases hreport
    rw [not_or, Decidable.not_not] at hwhole
    refine ⟨hwhole.1, hwhole.2, fun hmarked => ?_⟩
    obtain ⟨plaintext, hplain⟩ := (exists_encipher_iff key iv).2 ⟨hwhole.2, hmarked⟩
    rw [decipher_eq_ok_iff.2 hplain] at hpadding
    cases hpadding
  · rintro ⟨hne, hwhole, hmarked⟩
    cases hresult : decipher key iv ciphertext with
    | ok plaintext =>
      have hplain := decipher_eq_ok_iff.1 hresult
      exact absurd ((exists_encipher_iff key iv).1 ⟨plaintext, hplain⟩).2 hmarked
    | error v =>
      obtain rfl | rfl := decipher_error hresult
      · obtain ⟨hempty | hragged, -⟩ := decipher_eq_responseLength_iff.1 hresult
        · exact absurd hempty hne
        · exact absurd hwhole hragged
      · rfl

/-- **Decryption is the exact inverse of encryption.** It gives a byte string exactly for its
encryption, which has a block for every sixteen bytes and one more; it reports the length of
what is empty or not whole blocks; and it reports the padding of everything else, which lacks
the mark in its last block or has something other than zeros behind it. -/
theorem decipher_format :
    (∀ ciphertext plaintext, decipher key iv ciphertext = .ok plaintext ↔
      ciphertext = encipher key iv plaintext) ∧
    (∀ plaintext, (encipher key iv plaintext).length = (plaintext.length / 16 + 1) * 16) ∧
    (∀ ciphertext received, decipher key iv ciphertext = .error (.responseLength received) ↔
      (ciphertext = [] ∨ ciphertext.length % 16 ≠ 0) ∧ received = ciphertext.length) ∧
    (∀ ciphertext, decipher key iv ciphertext = .error .padding ↔
      ciphertext ≠ [] ∧ ciphertext.length % 16 = 0 ∧
        ¬ Padding.Marked (unchained key iv ciphertext)) ∧
    ∀ ciphertext violation, decipher key iv ciphertext = .error violation →
      violation = .responseLength ciphertext.length ∨ violation = .padding :=
  ⟨fun _ _ => decipher_eq_ok_iff, length_encipher key iv, fun _ _ =>
    decipher_eq_responseLength_iff, fun _ => decipher_eq_padding_iff key iv, fun _ _ =>
    decipher_error⟩

end Cryptogram

end Ev2Reader
