import Ev2Reader.Block

/-!
# Padding to Whole Blocks

The padding of ISO/IEC 7816-4: one byte `80` and then as many zero bytes as fill the last
block. A byte string of whole blocks gains a block, so the padding can always be told from
the data. It is looked for in the last block only.

## Main results

* `toList_close`, `strip?_eq_some_iff` — a padded last block is the data, the mark and
  zeros, and a block is stripped exactly if it has this form;
* `unpad?_eq_some_iff` — **padding and its removal are inverse to each other** on all
  sequences of blocks;
* `length_pad` — the number of blocks after padding.
-/

namespace Ev2Reader.Padding

/-- The byte that marks the end of the data. -/
def mark : UInt8 := 0x80

/-! ### The last block -/

/-- Closes a rest shorter than a block with the mark and zeros. -/
def close (tail : Bytes) : Block :=
  Block.ofFn fun i => (tail ++ [mark]).getD i 0

/-- Removes the zeros and the mark from the end of a block; there may be no mark. -/
def strip? (b : Block) : Option Bytes :=
  match b.toList.reverse.dropWhile (· = 0) with
  | [] => none
  | last :: rest => if last = mark then some rest.reverse else none

/-- A closed block is the data, the mark and zeros. -/
theorem toList_close {tail : Bytes} (h : tail.length < 16) :
    (close tail).toList = tail ++ mark :: List.replicate (15 - tail.length) 0 := by
  have hmap : (close tail).toList =
      (List.range 16).map fun i => (tail ++ [mark]).getD i 0 := rfl
  rw [hmap]
  apply List.ext_getElem
  · simp
    omega
  · intro i hi hi'
    simp only [List.getElem_map, List.getElem_range, List.getD_eq_getElem?_getD]
    simp only [List.length_map, List.length_range] at hi
    rcases Nat.lt_trichotomy i tail.length with hlt | rfl | hgt
    · simp [List.getElem?_append_left, List.getElem_append_left, hlt]
    · simp
    · rw [List.getElem?_eq_none (by simp; omega), List.getElem_append_right (by omega)]
      obtain ⟨k, hk⟩ : ∃ k, i - tail.length = k + 1 := ⟨i - tail.length - 1, by omega⟩
      simp [hk]

/-- **A block is stripped to a byte string exactly if closing the byte string gives the
block.** -/
theorem strip?_eq_some_iff {b : Block} {tail : Bytes} :
    strip? b = some tail ↔ tail.length < 16 ∧ b = close tail := by
  constructor
  · intro h
    unfold strip? at h
    split at h
    · cases h
    next last rest hdrop =>
    split at h
    next hlast =>
      cases h
      subst hlast
      -- From its end the block is zeros, the mark and what is in front of it.
      have hsplit := List.takeWhile_append_dropWhile (p := (· = (0 : UInt8)))
        (l := b.toList.reverse)
      rw [hdrop] at hsplit
      generalize hz : b.toList.reverse.takeWhile (· = 0) = zeros at hsplit
      have hzero : zeros = List.replicate zeros.length 0 := by
        refine List.eq_replicate_of_mem fun z hmem => ?_
        rw [← hz] at hmem
        simpa using List.all_eq_true.1 List.all_takeWhile z hmem
      have hb : b.toList = rest.reverse ++ mark :: List.replicate zeros.length 0 := by
        rw [← List.reverse_inj, ← hsplit, hzero]
        simp
      have hlen := congrArg List.length hb
      simp only [Block.length_toList, List.length_append, List.length_reverse,
        List.length_cons, List.length_replicate] at hlen
      have hlt : rest.reverse.length < 16 := by
        rw [List.length_reverse]
        omega
      refine ⟨hlt, Block.toList_inj.1 ?_⟩
      rw [hb, toList_close hlt, List.length_reverse]
      congr
      omega
    · cases h
  · rintro ⟨h, rfl⟩
    have hrev : (close tail).toList.reverse =
        List.replicate (15 - tail.length) 0 ++ mark :: tail.reverse := by
      rw [toList_close h]
      simp
    have hdrop : (close tail).toList.reverse.dropWhile (· = 0) = mark :: tail.reverse := by
      rw [hrev, List.dropWhile_append_of_pos]
      · simp [mark]
      · intro z hz
        simpa using (List.mem_replicate.1 hz).2
    unfold strip?
    rw [hdrop]
    simp

/-- Byte strings shorter than a block are closed differently. -/
theorem close_inj {tail tail' : Bytes} (h : tail.length < 16) (h' : tail'.length < 16) :
    close tail = close tail' ↔ tail = tail' := by
  refine ⟨fun hclose => ?_, congrArg close⟩
  have hstrip := strip?_eq_some_iff.2 ⟨h, rfl⟩
  rw [hclose, strip?_eq_some_iff.2 ⟨h', rfl⟩] at hstrip
  exact (Option.some.inj hstrip).symm

/-! ### Sequences of blocks -/

/-- The blocks of a byte string followed by its padding. -/
def pad (bytes : Bytes) : List Block :=
  (Block.split bytes).1 ++ [close (Block.split bytes).2]

/-- The byte string whose padding is a sequence of blocks, if there is one. -/
def unpad? : List Block → Option Bytes
  | [] => none
  | [b] => strip? b
  | b :: bs => (unpad? bs).map (b.toList ++ ·)

/-- A short byte string is padded to one block. -/
theorem pad_of_length_lt {tail : Bytes} (h : tail.length < 16) : pad tail = [close tail] := by
  rw [pad, Block.split_of_length_lt h]
  rfl

/-- Padding leaves the whole blocks in front as they are. -/
@[simp] theorem pad_append (b : Block) (rest : Bytes) :
    pad (b.toList ++ rest) = b :: pad rest := by
  rw [pad, Block.split_append]
  rfl

/-- There is always padding. -/
theorem pad_ne_nil (bytes : Bytes) : pad bytes ≠ [] := by
  simp [pad]

/-- The number of blocks after padding. -/
theorem length_pad (bytes : Bytes) : (pad bytes).length = bytes.length / 16 + 1 := by
  obtain ⟨hjoin, hlt⟩ := Block.joined_split bytes
  have hlen := congrArg List.length hjoin
  rw [List.length_append, Block.length_joined] at hlen
  rw [pad, List.length_append, List.length_singleton]
  omega

/-- Padding is removed again. -/
theorem unpad?_pad (bytes : Bytes) : unpad? (pad bytes) = some bytes := by
  fun_induction Block.split bytes with
  | case1 tail h =>
    have hlt := Block.take?_eq_none_iff.1 h
    rw [pad_of_length_lt hlt]
    exact strip?_eq_some_iff.2 ⟨hlt, rfl⟩
  | case2 bytes b rest h ih =>
    obtain rfl := Block.take?_eq_some_iff.1 h
    rw [pad_append, unpad?, ih]
    · rfl
    · exact pad_ne_nil rest

/-- **A sequence of blocks is the padding of a byte string exactly if removing the padding
gives that byte string.** -/
theorem unpad?_eq_some_iff {blocks : List Block} {bytes : Bytes} :
    unpad? blocks = some bytes ↔ blocks = pad bytes := by
  refine ⟨fun h => ?_, fun h => h ▸ unpad?_pad bytes⟩
  fun_induction unpad? blocks generalizing bytes with
  | case1 => cases h
  | case2 b =>
    obtain ⟨hlt, rfl⟩ := strip?_eq_some_iff.1 h
    exact (pad_of_length_lt hlt).symm
  | case3 b bs hbs ih =>
    obtain ⟨rest, hrest, rfl⟩ := Option.map_eq_some_iff.1 h
    rw [pad_append, ih hrest]

end Ev2Reader.Padding
