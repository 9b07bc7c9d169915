import Ev2Reader.SessionKeys

/-!
# What a Session Vector Tells of the Nonces

A session vector has room for all but six of the bytes of two nonces. Ten bytes of each stand in
it alone; the remaining six of the reader's nonce are combined with six of the tag's. So nonces can
be changed without a trace exactly by combining both groups of six with one mask, and a vector
together with one nonce determines the other.

## Main results

* `combine_eq_combine_iff` — combinations are equal exactly if both sides differ by one mask;
* `SessionVector.bytes_of` — the table of a session vector, in terms of the bytes of the nonces;
* `SessionVector.bytes_of_eq_iff` — which labels and nonces share a session vector;
* `SessionVector.collisions` — **session vectors use both nonces fully**, also if these are given
  as byte strings.
-/

namespace Ev2Reader

/-! ### Masks -/

/-- Combines byte strings byte by byte, as far as the shorter one goes. -/
def combine (bytes mask : Bytes) : Bytes :=
  List.zipWith (· ^^^ ·) bytes mask

/-- Combines the bytes of a string from index `start` on with a mask. -/
def maskedFrom (start : Nat) (mask bytes : Bytes) : Bytes :=
  bytes.take start ++ combine ((bytes.drop start).take mask.length) mask ++
    bytes.drop (start + mask.length)

/-- Sums of bytes are equal exactly if both sides differ by one mask. -/
theorem byte_xor_eq_xor_iff {a b a' b' : UInt8} :
    a ^^^ b = a' ^^^ b' ↔ ∃ m, a' = a ^^^ m ∧ b' = b ^^^ m := by
  constructor
  · intro h
    refine ⟨a ^^^ a', (Aes.byte_xor_cancel_left a a').symm, ?_⟩
    calc b' = a' ^^^ (a' ^^^ b') := (Aes.byte_xor_cancel_left a' b').symm
      _ = a' ^^^ (a ^^^ b) := by rw [h]
      _ = b ^^^ (a ^^^ a') := by rw [UInt8.xor_comm, UInt8.xor_comm a b, UInt8.xor_assoc]
  · rintro ⟨m, rfl, rfl⟩
    rw [UInt8.xor_assoc, UInt8.xor_comm b m, Aes.byte_xor_cancel_left]

/-- Combining goes byte by byte. -/
@[simp] theorem combine_cons (b m : UInt8) (bytes mask : Bytes) :
    combine (b :: bytes) (m :: mask) = (b ^^^ m) :: combine bytes mask := rfl

/-- A combination is as long as its parts. -/
theorem length_combine {bytes mask : Bytes} (h : mask.length = bytes.length) :
    (combine bytes mask).length = mask.length := by
  rw [combine, List.length_zipWith, ← h, Nat.min_self]

/-- **Combinations are equal exactly if both sides differ by one mask.** The induction is on the
common length; the mask grows by the byte by which the first bytes differ. -/
theorem combine_eq_combine_iff {n : Nat} {x y x' y' : Bytes} (hx : x.length = n)
    (hy : y.length = n) (hx' : x'.length = n) (hy' : y'.length = n) :
    combine x y = combine x' y' ↔
      ∃ mask : Bytes, mask.length = n ∧ x' = combine x mask ∧ y' = combine y mask := by
  induction n generalizing x y x' y' with
  | zero =>
    obtain rfl := List.length_eq_zero_iff.1 hx
    obtain rfl := List.length_eq_zero_iff.1 hy
    obtain rfl := List.length_eq_zero_iff.1 hx'
    obtain rfl := List.length_eq_zero_iff.1 hy'
    exact ⟨fun _ => ⟨[], rfl, rfl, rfl⟩, fun _ => rfl⟩
  | succ n ih =>
    obtain ⟨a, x, rfl⟩ := List.exists_cons_of_length_eq_add_one hx
    obtain ⟨b, y, rfl⟩ := List.exists_cons_of_length_eq_add_one hy
    obtain ⟨a', x', rfl⟩ := List.exists_cons_of_length_eq_add_one hx'
    obtain ⟨b', y', rfl⟩ := List.exists_cons_of_length_eq_add_one hy'
    simp only [List.length_cons, Nat.add_right_cancel_iff] at hx hy hx' hy'
    rw [combine_cons, combine_cons, List.cons.injEq, byte_xor_eq_xor_iff, ih hx hy hx' hy']
    constructor
    · rintro ⟨⟨m, rfl, rfl⟩, mask, hmask, rfl, rfl⟩
      exact ⟨m :: mask, by rw [List.length_cons, hmask], rfl, rfl⟩
    · rintro ⟨mask, hmask, hfirst, hsecond⟩
      obtain ⟨m, mask, rfl⟩ := List.exists_cons_of_length_eq_add_one hmask
      rw [List.length_cons, Nat.add_right_cancel_iff] at hmask
      obtain ⟨ha, hx⟩ := List.cons.inj hfirst
      obtain ⟨hb, hy⟩ := List.cons.inj hsecond
      exact ⟨⟨m, ha, hb⟩, mask, hmask, hx, hy⟩

/-- Only zeros leave every byte as it is. -/
theorem eq_combine_iff {bytes mask : Bytes} (h : mask.length = bytes.length) :
    bytes = combine bytes mask ↔ mask = List.replicate mask.length 0 := by
  induction mask generalizing bytes with
  | nil =>
    obtain rfl := List.length_eq_zero_iff.1 h.symm
    exact ⟨fun _ => rfl, fun _ => rfl⟩
  | cons m mask ih =>
    obtain ⟨b, bytes, rfl⟩ := List.exists_cons_of_length_eq_add_one h.symm
    rw [List.length_cons, List.length_cons, Nat.add_right_cancel_iff] at h
    have hbyte : b = b ^^^ m ↔ m = 0 := by
      refine ⟨fun hb => ?_, fun hm => by rw [hm, UInt8.xor_zero]⟩
      calc m = b ^^^ (b ^^^ m) := (Aes.byte_xor_cancel_left b m).symm
        _ = 0 := by rw [← hb, UInt8.xor_self]
    rw [combine_cons, List.length_cons, List.replicate_succ, List.cons.injEq, List.cons.injEq,
      ih h, hbyte]

/-- Masking changes nothing in front of the mask and nothing behind it. -/
theorem eq_maskedFrom_iff {start : Nat} {mask bytes bytes' : Bytes}
    (h : start + mask.length ≤ bytes.length) :
    bytes' = maskedFrom start mask bytes ↔
      bytes'.take start = bytes.take start ∧
      (bytes'.drop start).take mask.length =
        combine ((bytes.drop start).take mask.length) mask ∧
      bytes'.drop (start + mask.length) = bytes.drop (start + mask.length) := by
  have hfront : (bytes.take start).length = start := by
    rw [List.length_take]
    omega
  have hmiddle : (combine ((bytes.drop start).take mask.length) mask).length = mask.length := by
    apply length_combine
    rw [List.length_take, List.length_drop]
    omega
  rw [maskedFrom, List.append_assoc, ← List.drop_drop, ← List.drop_drop]
  constructor
  · rintro rfl
    rw [List.take_left' hfront, List.drop_left' hfront, List.take_left' hmiddle,
      List.drop_left' hmiddle]
    exact ⟨rfl, rfl, rfl⟩
  · rintro ⟨hfirst, hsecond, hthird⟩
    rw [← hfirst, ← hsecond, ← hthird, List.take_append_drop, List.take_append_drop]

/-- A mask leaves a string as it is exactly if it is zero. -/
theorem eq_maskedFrom_self_iff {start : Nat} {mask bytes : Bytes}
    (h : start + mask.length ≤ bytes.length) :
    bytes = maskedFrom start mask bytes ↔ mask = List.replicate mask.length 0 := by
  have hlength : mask.length = ((bytes.drop start).take mask.length).length := by
    rw [List.length_take, List.length_drop]
    omega
  rw [eq_maskedFrom_iff h, eq_combine_iff hlength, eq_self, eq_self, true_and, and_true]

/-- A mask that leaves one string as it is leaves every other as it is, wherever it is laid. -/
theorem eq_maskedFrom_self_of_eq {start start' : Nat} {mask bytes bytes' : Bytes}
    (h : start + mask.length ≤ bytes.length) (h' : start' + mask.length ≤ bytes'.length)
    (hself : bytes = maskedFrom start mask bytes) : bytes' = maskedFrom start' mask bytes' :=
  (eq_maskedFrom_self_iff h').2 ((eq_maskedFrom_self_iff h).1 hself)

namespace SessionVector

variable {l l' : Label} {a b a' b' : Nonce}

/-! ### The bytes of a vector -/

/-- **The table of a session vector,** with the places of its bytes in the nonces. -/
theorem bytes_of (l : Label) (a b : Nonce) :
    (of l a b).bytes = l.bytes ++ ([0x00, 0x01, 0x00, 0x80] ++ (a.toList.take 2 ++
      (combine ((a.toList.drop 2).take 6) (b.toList.take 6) ++
        (b.toList.drop 6 ++ a.toList.drop 8)))) := rfl

/-- The bytes of a label determine it. -/
theorem bytes_label_inj : l.bytes = l'.bytes ↔ l = l' := by
  cases l
  cases l'
  simp [Label.bytes]

/-- All fields of the table have fixed lengths, so vectors are equal exactly if their fields
are. -/
theorem bytes_of_eq_iff_fields :
    (of l a b).bytes = (of l' a' b').bytes ↔
      l = l' ∧ a.toList.take 2 = a'.toList.take 2 ∧
      combine ((a.toList.drop 2).take 6) (b.toList.take 6) =
        combine ((a'.toList.drop 2).take 6) (b'.toList.take 6) ∧
      b.toList.drop 6 = b'.toList.drop 6 ∧ a.toList.drop 8 = a'.toList.drop 8 := by
  constructor
  · intro h
    rw [bytes_of, bytes_of] at h
    obtain ⟨hlabel, h⟩ := List.append_inj h rfl
    obtain ⟨-, h⟩ := List.append_inj h rfl
    obtain ⟨hfront, h⟩ := List.append_inj h rfl
    obtain ⟨hmixed, h⟩ := List.append_inj h rfl
    obtain ⟨htag, hreader⟩ := List.append_inj h rfl
    exact ⟨bytes_label_inj.1 hlabel, hfront, hmixed, htag, hreader⟩
  · rintro ⟨rfl, hfront, hmixed, htag, hreader⟩
    rw [bytes_of, bytes_of, hfront, hmixed, htag, hreader]

/-! ### Collisions -/

/-- **Labels and nonces share a session vector exactly if** the labels are the same and one mask
of six bytes leads from the reader's nonce to the other one, from its third byte on, and from the
tag's nonce to the other one, from its first byte on. -/
theorem bytes_of_eq_iff :
    (of l a b).bytes = (of l' a' b').bytes ↔
      l = l' ∧ ∃ mask : Bytes, mask.length = 6 ∧
        a'.toList = maskedFrom 2 mask a.toList ∧ b'.toList = maskedFrom 0 mask b.toList := by
  have hmasks (mask : Bytes) (hmask : mask.length = 6) :
      (a'.toList = maskedFrom 2 mask a.toList ∧ b'.toList = maskedFrom 0 mask b.toList) ↔
        (a'.toList.take 2 = a.toList.take 2 ∧
          (a'.toList.drop 2).take 6 = combine ((a.toList.drop 2).take 6) mask ∧
          a'.toList.drop 8 = a.toList.drop 8) ∧
        b'.toList.take 6 = combine (b.toList.take 6) mask ∧
          b'.toList.drop 6 = b.toList.drop 6 := by
    rw [eq_maskedFrom_iff (by simp [hmask]), eq_maskedFrom_iff (by simp [hmask]), hmask]
    simp only [List.take_zero, List.drop_zero, true_and, Nat.zero_add, Nat.reduceAdd]
  have hmixed : combine ((a.toList.drop 2).take 6) (b.toList.take 6) =
      combine ((a'.toList.drop 2).take 6) (b'.toList.take 6) ↔
        ∃ mask : Bytes, mask.length = 6 ∧
          (a'.toList.drop 2).take 6 = combine ((a.toList.drop 2).take 6) mask ∧
          b'.toList.take 6 = combine (b.toList.take 6) mask :=
    combine_eq_combine_iff rfl rfl rfl rfl
  rw [bytes_of_eq_iff_fields, hmixed]
  constructor
  · rintro ⟨hlabel, hfront, ⟨mask, hmask, hreader, htag⟩, hb, ha⟩
    exact ⟨hlabel, mask, hmask,
      (hmasks mask hmask).2 ⟨⟨hfront.symm, hreader, ha.symm⟩, htag, hb.symm⟩⟩
  · rintro ⟨hlabel, mask, hmask, hnonces⟩
    obtain ⟨⟨hfront, hreader, ha⟩, htag, hb⟩ := (hmasks mask hmask).1 hnonces
    exact ⟨hlabel, hfront.symm, ⟨mask, hmask, hreader, htag⟩, hb.symm, ha.symm⟩

/-- The reader's nonce and the vector determine the tag's: a mask that leaves the one as it is
leaves the other as it is. -/
theorem bytes_of_eq_iff_tagNonce :
    (of l a b).bytes = (of l' a b').bytes ↔ l = l' ∧ b = b' := by
  constructor
  · intro h
    obtain ⟨hlabel, mask, hmask, hreader, htag⟩ := bytes_of_eq_iff.1 h
    have hsame : b.toList = maskedFrom 0 mask b.toList :=
      eq_maskedFrom_self_of_eq (by simp [hmask]) (by simp [hmask]) hreader
    exact ⟨hlabel, Block.toList_inj.1 (hsame.trans htag.symm)⟩
  · rintro ⟨rfl, rfl⟩
    rfl

/-- The tag's nonce and the vector determine the reader's. -/
theorem bytes_of_eq_iff_readerNonce :
    (of l a b).bytes = (of l' a' b).bytes ↔ l = l' ∧ a = a' := by
  constructor
  · intro h
    obtain ⟨hlabel, mask, hmask, hreader, htag⟩ := bytes_of_eq_iff.1 h
    have hsame : a.toList = maskedFrom 2 mask a.toList :=
      eq_maskedFrom_self_of_eq (by simp [hmask]) (by simp [hmask]) htag
    exact ⟨hlabel, Block.toList_inj.1 (hsame.trans hreader.symm)⟩
  · rintro ⟨rfl, rfl⟩
    rfl

/-- Vectors of the same nonces whose labels differ in both bytes differ in these two and in no
other. -/
theorem getElem?_bytes_of_eq_iff (hfirst : l.first ≠ l'.first) (hsecond : l.second ≠ l'.second)
    (i : Nat) : (of l a b).bytes[i]? = (of l' a b).bytes[i]? ↔ 2 ≤ i := by
  rw [bytes_of, bytes_of, Label.bytes, Label.bytes]
  match i with
  | 0 => simp [hfirst]
  | 1 => simp [hsecond]
  | i + 2 => simp

/-! ### Nonces as byte strings -/

/-- Two byte strings give a session vector exactly if both are nonces. -/
theorem ofBytes?_eq_ok_iff {a b : Bytes} {v : SessionVector} :
    ofBytes? l a b = .ok v ↔
      ∃ m n : Nonce, a = m.toList ∧ b = n.toList ∧ v = of l m n := by
  simp only [ofBytes?, bind_eq_ok_iff, Block.require_eq_ok_iff, pure, Except.pure,
    Except.ok.injEq]
  constructor
  · rintro ⟨m, hm, n, hn, rfl⟩
    exact ⟨m, n, hm, hn, rfl⟩
  · rintro ⟨m, n, hm, hn, rfl⟩
    exact ⟨m, hm, n, hn, rfl⟩

/-- **The first nonce that is not a block** is reported with its length. -/
theorem ofBytes?_eq_error_iff {a b : Bytes} {e : Fault} :
    ofBytes? l a b = .error e ↔
      (a.length ≠ 16 ∧ e = .invalidLength 16 a.length) ∨
      (a.length = 16 ∧ b.length ≠ 16 ∧ e = .invalidLength 16 b.length) := by
  have hblock : (∃ m : Nonce, a = m.toList) ↔ a.length = 16 := by
    constructor
    · rintro ⟨m, rfl⟩
      exact m.length_toList
    · exact Block.exists_toList_of_length
  simp only [ofBytes?, bind_eq_error_iff, Block.require_eq_ok_iff, Block.require_eq_error_iff, pure,
    Except.pure, reduceCtorEq, and_false, exists_false, or_false, exists_and_right, hblock]

/-! ### Both nonces -/

/-- **Session vectors use both nonces fully.** The nonces that share a vector are exactly those
that differ by one mask in the six places where they are combined; a vector and one of its nonces
determine the other; vectors of the two labels are always different, and those of the same nonces
exactly in their first two bytes. A nonce of any length but sixteen is refused, the reader's
first. -/
theorem collisions :
    (∀ (l l' : Label) (a b a' b' : Nonce), (of l a b).bytes = (of l' a' b').bytes ↔
      l = l' ∧ ∃ mask : Bytes, mask.length = 6 ∧
        a'.toList = maskedFrom 2 mask a.toList ∧ b'.toList = maskedFrom 0 mask b.toList) ∧
    (∀ (l l' : Label) (a b b' : Nonce),
      (of l a b).bytes = (of l' a b').bytes ↔ l = l' ∧ b = b') ∧
    (∀ (l l' : Label) (a a' b : Nonce),
      (of l a b).bytes = (of l' a' b).bytes ↔ l = l' ∧ a = a') ∧
    (∀ a b a' b' : Nonce, (of encryptionLabel a b).bytes ≠ (of macLabel a' b').bytes) ∧
    (∀ (a b : Nonce) (i : Nat),
      (of encryptionLabel a b).bytes[i]? = (of macLabel a b).bytes[i]? ↔ 2 ≤ i) ∧
    (∀ (l : Label) (a b : Bytes) (v : SessionVector), ofBytes? l a b = .ok v ↔
      ∃ m n : Nonce, a = m.toList ∧ b = n.toList ∧ v = of l m n) ∧
    (∀ (l : Label) (a b : Bytes) (e : Fault), ofBytes? l a b = .error e ↔
      (a.length ≠ 16 ∧ e = .invalidLength 16 a.length) ∨
      (a.length = 16 ∧ b.length ≠ 16 ∧ e = .invalidLength 16 b.length)) := by
  refine ⟨fun _ _ _ _ _ _ => bytes_of_eq_iff, fun _ _ _ _ _ => bytes_of_eq_iff_tagNonce,
    fun _ _ _ _ _ => bytes_of_eq_iff_readerNonce, fun a b a' b' hvector => ?_, fun a b i => ?_,
    fun _ _ _ _ => ofBytes?_eq_ok_iff, fun _ _ _ _ => ofBytes?_eq_error_iff⟩
  · have hlabel : encryptionLabel = macLabel := (bytes_of_eq_iff.1 hvector).1
    exact absurd hlabel (by decide)
  · exact getElem?_bytes_of_eq_iff (by decide) (by decide) i

end SessionVector

end Ev2Reader
