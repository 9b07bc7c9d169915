import Ev2Reader.Aes.Cipher
import Ev2Reader.Key
import Ev2Reader.Mode.Cmac

/-!
# Session Keys

After authentication both sides derive two session keys, one for encryption and one for
authentication codes. Each is the tag of a **session vector** under the application key.

| Bytes | Content |
|-------|---------|
| 2 | a label |
| 4 | `00 01 00 80` |
| 2 | bytes 0 and 1 of the reader's nonce |
| 6 | bytes 2 to 7 of the reader's nonce, combined with bytes 0 to 5 of the tag's |
| 10 | bytes 6 to 15 of the tag's nonce |
| 8 | bytes 8 to 15 of the reader's nonce |

## Main results

* `SessionVector.of_inj_label` — vectors of the same nonces differ in their label only;
* `derive?_eq_ok_iff` — keys are derived from byte strings exactly if all three are blocks.
-/

namespace Ev2Reader

/-- Two bytes that keep messages of different purpose apart. -/
structure Label where
  /-- The byte transmitted first. -/
  first : UInt8
  /-- The byte transmitted second. -/
  second : UInt8
deriving DecidableEq

/-- The bytes of a label. -/
def Label.bytes (l : Label) : Bytes :=
  [l.first, l.second]

/-! ### Session vectors -/

/-- A session vector, two blocks. -/
structure SessionVector where
  /-- The block that carries the label. -/
  first : Block
  /-- The block that does not. -/
  second : Block
deriving DecidableEq

namespace SessionVector

/-- The label of the vector for the encryption key. -/
def encryptionLabel : Label := ⟨0xA5, 0x5A⟩

/-- The label of the vector for the key of authentication codes. -/
def macLabel : Label := ⟨0x5A, 0xA5⟩

/-- Number of bytes in a session vector. -/
def size : Nat := 32

/-- The session vector of a label, the reader's nonce `a` and the tag's nonce `b`. -/
def of (l : Label) (a b : Nonce) : SessionVector where
  first :=
    ⟨⟨l.first, l.second, 0x00, 0x01⟩,
      ⟨0x00, 0x80, a.c0.b0, a.c0.b1⟩,
      ⟨a.c0.b2 ^^^ b.c0.b0, a.c0.b3 ^^^ b.c0.b1, a.c1.b0 ^^^ b.c0.b2, a.c1.b1 ^^^ b.c0.b3⟩,
      ⟨a.c1.b2 ^^^ b.c1.b0, a.c1.b3 ^^^ b.c1.b1, b.c1.b2, b.c1.b3⟩⟩
  second := ⟨b.c2, b.c3, a.c2, a.c3⟩

/-- The bytes of a session vector. -/
def bytes (v : SessionVector) : Bytes :=
  v.first.toList ++ v.second.toList

/-- The tag of a session vector under a key. -/
def tag (v : SessionVector) (key : Key) : Block :=
  Cmac.tag (Aes.withKey key) v.bytes

/-- A session vector has 32 bytes. -/
@[simp] theorem length_bytes (v : SessionVector) : v.bytes.length = 32 := rfl

/-- The label can be read off a session vector. -/
theorem of_inj_label {l l' : Label} {a b : Nonce} : of l a b = of l' a b ↔ l = l' := by
  refine ⟨fun h => ?_, fun h => h ▸ rfl⟩
  cases l
  cases l'
  simp only [of, mk.injEq, Block.mk.injEq, Word.mk.injEq, and_true] at h
  rw [h.1, h.2]

/-- The vector of nonces that are given as byte strings. -/
def ofBytes? (l : Label) (a b : Bytes) : Except Fault SessionVector := do
  let a ← Block.require a
  let b ← Block.require b
  return of l a b

end SessionVector

/-! ### Keys -/

/-- The two keys of a session. -/
structure SessionKeys where
  /-- The key that encrypts data. -/
  encryption : Key
  /-- The key of authentication codes. -/
  mac : Key
deriving DecidableEq

namespace SessionKeys

/-- The text of session keys in the description of a larger value; it never shows them. -/
def summary (_ : SessionKeys) : String :=
  "SessionKeyMaterial(..)"

/-- **The session keys** of an application key, the reader's nonce `a` and the tag's
nonce `b`. -/
def derive (key : Key) (a b : Nonce) : SessionKeys where
  encryption := (SessionVector.of SessionVector.encryptionLabel a b).tag key
  mac := (SessionVector.of SessionVector.macLabel a b).tag key

/-- The session keys of a key and nonces that are given as byte strings. -/
def derive? (key a b : Bytes) : Except Fault SessionKeys := do
  let key ← Block.require key
  let a ← Block.require a
  let b ← Block.require b
  return derive key a b

/-- Keys are derived from byte strings exactly if all three are blocks. -/
theorem derive?_eq_ok_iff {key a b : Bytes} {keys : SessionKeys} :
    derive? key a b = .ok keys ↔
      ∃ k m n : Block, key = k.toList ∧ a = m.toList ∧ b = n.toList ∧ keys = derive k m n := by
  simp only [derive?, bind_eq_ok_iff, Block.require_eq_ok_iff, pure, Except.pure,
    Except.ok.injEq]
  constructor
  · rintro ⟨k, hk, m, hm, n, hn, rfl⟩
    exact ⟨k, m, n, hk, hm, hn, rfl⟩
  · rintro ⟨k, m, n, hk, hm, hn, rfl⟩
    exact ⟨k, hk, m, hm, n, hn, rfl⟩

end SessionKeys

end Ev2Reader
