import Ev2Reader.Proofs.Mode.Cmac
import Ev2Reader.SessionKeys

/-!
# Session Keys Kept Apart

Both keys of a session are tags of two blocks under one application key. The first block is
enciphered and then combined with the second, so a tag tells one of the two blocks once the other
is known. The vectors of the two session keys have the same second block and different labels in
the first, and therefore the keys never coincide.

## Main results

* `SessionVector.tag_eq_iff` — which session vectors have the same tag;
* `SessionKeys.encryption_ne_mac` — the two keys of a session are different;
* `SessionKeys.separation` — **the keys of every session are different**, and so are the keys from
  any two vectors that differ in one half only.
-/

namespace Ev2Reader

/-! ### Session vectors -/

namespace SessionVector

variable {key : Key} {v v' : SessionVector}

/-- The bytes of a session vector are its two blocks. -/
theorem bytes_eq_joined (v : SessionVector) : v.bytes = Block.joined ([v.first] ++ [v.second]) := by
  simp [bytes]

/-- **Session vectors have the same tag exactly if** their second blocks differ by as much as
their first blocks do once enciphered. -/
theorem tag_eq_iff : v.tag key = v'.tag key ↔
    v.second ^^^ (Aes.withKey key).encrypt v.first =
      v'.second ^^^ (Aes.withKey key).encrypt v'.first := by
  have htag (w : SessionVector) : w.tag key = (Aes.withKey key).encrypt
      (w.second ^^^ (Aes.withKey key).encrypt w.first ^^^ Cmac.completeKey (Aes.withKey key)) := by
    rw [tag, bytes_eq_joined, Cmac.tag_joined, Chaining.chain, Chaining.chain, Block.xor_zero,
      Block.xor_assoc, Block.xor_comm (Cmac.completeKey _), ← Block.xor_assoc]
  rw [htag, htag, BlockCipher.encrypt_inj, Block.xor_left_inj]

/-- Vectors with the same second block have different tags if their first blocks differ. -/
theorem tag_ne_of_first_ne (hfirst : v.first ≠ v'.first) (hsecond : v.second = v'.second) :
    v.tag key ≠ v'.tag key := by
  intro htag
  rw [tag_eq_iff, hsecond, Block.xor_right_inj, BlockCipher.encrypt_inj] at htag
  exact hfirst htag

/-- Vectors with the same first block have different tags if their second blocks differ. -/
theorem tag_ne_of_second_ne (hfirst : v.first = v'.first) (hsecond : v.second ≠ v'.second) :
    v.tag key ≠ v'.tag key := by
  intro htag
  rw [tag_eq_iff, hfirst, Block.xor_left_inj] at htag
  exact hsecond htag

/-- Different labels make different first blocks of the same nonces. -/
theorem first_of_ne {l l' : Label} (h : l ≠ l') (a b : Nonce) :
    (of l a b).first ≠ (of l' a b).first := by
  intro hfirst
  have hvector : of l a b = of l' a b := congrArg (fun first => mk first (of l a b).second) hfirst
  exact h (of_inj_label.1 hvector)

end SessionVector

/-! ### Session keys -/

namespace SessionKeys

/-- **The two keys of a session are different.** -/
theorem encryption_ne_mac (key : Key) (a b : Nonce) :
    (derive key a b).encryption ≠ (derive key a b).mac := by
  have hlabel : SessionVector.encryptionLabel ≠ SessionVector.macLabel := by decide
  exact SessionVector.tag_ne_of_first_ne (SessionVector.first_of_ne hlabel a b) rfl

/-- **Session keys are kept apart.** Whatever the key and the nonces, the two keys of a session are
different sixteen bytes, also if all three are given as byte strings; and so are the keys of any two
session vectors that differ in only one of their halves. -/
theorem separation :
    (∀ (key : Key) (a b : Nonce),
      (derive key a b).encryption.toList ≠ (derive key a b).mac.toList) ∧
    (∀ key a b : Bytes, key.length = 16 → a.length = 16 → b.length = 16 →
      ∃ keys, derive? key a b = .ok keys ∧ keys.encryption.toList ≠ keys.mac.toList) ∧
    ∀ (key : Key) (v v' : SessionVector),
      (v.first ≠ v'.first ∧ v.second = v'.second) ∨ (v.first = v'.first ∧ v.second ≠ v'.second) →
      (v.tag key).toList ≠ (v'.tag key).toList := by
  have hderive (key : Key) (a b : Nonce) :
      (derive key a b).encryption.toList ≠ (derive key a b).mac.toList :=
    fun h => encryption_ne_mac key a b (Block.toList_inj.1 h)
  refine ⟨hderive, fun key a b hkey ha hb => ?_, fun key v v' hhalves htag => ?_⟩
  · obtain ⟨k, rfl⟩ := Block.exists_toList_of_length hkey
    obtain ⟨m, rfl⟩ := Block.exists_toList_of_length ha
    obtain ⟨n, rfl⟩ := Block.exists_toList_of_length hb
    exact ⟨derive k m n, derive?_eq_ok_iff.2 ⟨k, m, n, rfl, rfl, rfl, rfl⟩, hderive k m n⟩
  · rcases hhalves with ⟨hfirst, hsecond⟩ | ⟨hfirst, hsecond⟩
    · exact SessionVector.tag_ne_of_first_ne hfirst hsecond (Block.toList_inj.1 htag)
    · exact SessionVector.tag_ne_of_second_ne hfirst hsecond (Block.toList_inj.1 htag)

/-- A key and nonces of zeros, and two vectors with the same first half. -/
theorem separation_zeros :
    let zeros : Bytes := Block.zero.toList
    let v : SessionVector := ⟨.zero, .zero⟩
    let v' : SessionVector := ⟨.zero, Block.ofFn UInt8.ofNat⟩
    (zeros.length = 16 ∧ v.first = v'.first ∧ v.second ≠ v'.second) ∧
    (∃ keys, derive? zeros zeros zeros = .ok keys ∧
      keys.encryption.toList ≠ keys.mac.toList) ∧
    (v.tag .zero).toList ≠ (v'.tag .zero).toList := by
  intro zeros v v'
  have hsecond : v.second ≠ v'.second := by decide
  obtain ⟨-, hderived, hvectors⟩ := separation
  exact ⟨⟨rfl, rfl, hsecond⟩, hderived zeros zeros zeros rfl rfl rfl,
    hvectors .zero v v' (.inr ⟨rfl, hsecond⟩)⟩

end SessionKeys

end Ev2Reader
