import Ev2Reader.Aes.Diffusion
import Ev2Reader.Aes.Substitution
import Ev2Reader.BlockCipher

/-!
# The Advanced Encryption Standard

AES with 128-bit keys. The key is expanded into eleven round keys; a block is combined with
the first of them and then goes through one round for each of the others.

## Main results

* `unrounds_rounds`, `rounds_unrounds` — running the rounds backwards undoes them, whatever
  the round keys are;
* `withKey` — the cipher under a key as a `BlockCipher`, so the two inverse laws hold of
  AES itself and not by assumption.
-/

namespace Ev2Reader.Aes

/-! ### Round keys -/

/-- The round key after `k`, where `c` is the round's constant. -/
def nextRoundKey (k : Block) (c : UInt8) : Block :=
  let t := k.c3.rotate.map substitute ^^^ ⟨c, 0, 0, 0⟩
  let c0 := k.c0 ^^^ t
  let c1 := k.c1 ^^^ c0
  let c2 := k.c2 ^^^ c1
  ⟨c0, c1, c2, k.c3 ^^^ c2⟩

/-- The constants of the ten rounds, the powers of `t`. -/
def roundConstants : List UInt8 :=
  [0x01, 0x02, 0x04, 0x08, 0x10, 0x20, 0x40, 0x80, 0x1b, 0x36]

/-- The round keys after `k`, one for each constant. -/
def roundKeysAfter (k : Block) : List UInt8 → List Block
  | [] => []
  | c :: cs => nextRoundKey k c :: roundKeysAfter (nextRoundKey k c) cs

/-! ### Rounds -/

/-- Runs one round for each round key. The last round does not mix columns. -/
def rounds : List Block → Block → Block
  | [], s => s
  | [k], s => shiftRows (s.map substitute) ^^^ k
  | k :: ks, s => rounds ks (mixColumns (shiftRows (s.map substitute)) ^^^ k)

/-- Undoes one round for each round key, the last round first. -/
def unrounds : List Block → Block → Block
  | [], s => s
  | [k], s => (unshiftRows (s ^^^ k)).map unsubstitute
  | k :: ks, s => (unshiftRows (unmixColumns (unrounds ks s ^^^ k))).map unsubstitute

/-- Substituting the bytes of a block is undone. -/
@[simp] theorem map_unsubstitute_substitute (b : Block) :
    (b.map substitute).map unsubstitute = b := by
  simp only [Block.map, Word.map, unsubstitute_substitute]

/-- Substituting the bytes of a block undoes the inverse substitution. -/
@[simp] theorem map_substitute_unsubstitute (b : Block) :
    (b.map unsubstitute).map substitute = b := by
  simp only [Block.map, Word.map, substitute_unsubstitute]

/-- Running the rounds backwards undoes them. -/
@[simp] theorem unrounds_rounds (ks : List Block) (s : Block) :
    unrounds ks (rounds ks s) = s := by
  fun_induction rounds ks s with
  | case1 => rfl
  | case2 => simp [unrounds]
  | case3 k ks s hks ih => simp [unrounds, ih]

/-- Running the rounds undoes running them backwards. -/
@[simp] theorem rounds_unrounds (ks : List Block) (s : Block) :
    rounds ks (unrounds ks s) = s := by
  fun_induction unrounds ks s with
  | case1 => rfl
  | case2 => simp [rounds]
  | case3 k ks s hks ih => simp [rounds, ih]

/-- **AES under a key.** The round keys are computed once for all blocks. -/
def withKey (key : Block) : BlockCipher :=
  let keys := roundKeysAfter key roundConstants
  { encrypt b := rounds keys (b ^^^ key)
    decrypt b := unrounds keys b ^^^ key
    decrypt_encrypt b := by simp
    encrypt_decrypt b := by simp }

end Ev2Reader.Aes
