import Ev2Reader.Mode.Cmac

/-!
# Which Messages Share a Tag

A tag has far fewer bytes than messages can have, so some messages share one. This module is about
those that cannot. A block that is not the last is enciphered, and everything behind it maps
different cipher blocks to different ones, so a difference in one block alone survives to the tag.

## Main results

* `tag_joined` — the tag of whole blocks, with the last one apart;
* `tag_inj_of_length_le` — messages of one length that fit one block have different tags;
* `tag_inj_of_drop_eq` — **messages of one length that agree behind their first block have the same
  tag only if they are the same.**
-/

namespace Ev2Reader.Cmac

variable (cipher : BlockCipher)

/-! ### Whole blocks -/

/-- Of whole blocks only the last one is masked. The induction is on the blocks in front of it. -/
theorem maskedBlocks_joined (blocks : List Block) (b : Block) :
    maskedBlocks cipher (Block.joined (blocks ++ [b])) = blocks ++ [b ^^^ completeKey cipher] := by
  induction blocks with
  | nil =>
    rw [List.nil_append, maskedBlocks, Block.split_joined]
    rfl
  | cons c blocks ih =>
    have hrest : Block.joined (blocks ++ [b]) ≠ [] := by
      apply List.ne_nil_of_length_pos
      rw [Block.length_joined, List.length_append, List.length_singleton]
      omega
    rw [List.cons_append, Block.joined_cons, maskedBlocks_append cipher c hrest, ih,
      List.cons_append]

/-- **The tag of whole blocks:** the last one meets the chain of all others under its mask. -/
theorem tag_joined (blocks : List Block) (b : Block) :
    tag cipher (Block.joined (blocks ++ [b])) =
      cipher.encrypt (b ^^^ completeKey cipher ^^^ Chaining.chain cipher .zero blocks) := by
  rw [tag, maskedBlocks_joined, Chaining.chain_append]
  rfl

/-! ### One block -/

/-- The tag of one complete block. -/
theorem tag_toList (b : Block) :
    tag cipher b.toList = cipher.encrypt (b ^^^ completeKey cipher) := by
  have hjoined := tag_joined cipher [] b
  rwa [List.nil_append, Block.joined_cons, Block.joined_nil, List.append_nil, Chaining.chain,
    Block.xor_zero] at hjoined

/-- The tag of a message that is shorter than a block. -/
theorem tag_of_length_lt {message : Bytes} (h : message.length < 16) :
    tag cipher message = cipher.encrypt (Padding.close message ^^^ paddedKey cipher) := by
  rw [tag, maskedBlocks, Block.split_of_length_lt h, maskLast, Chaining.chain, Chaining.chain,
    Block.xor_zero]

/-- **Messages of one length that fit one block** have different tags. They are masked alike, all
as a complete block or all as a padded one. -/
theorem tag_inj_of_length_le {message message' : Bytes} (hle : message.length ≤ 16)
    (hlength : message.length = message'.length) :
    tag cipher message = tag cipher message' ↔ message = message' := by
  rcases Nat.lt_or_eq_of_le hle with hlt | hwhole
  · have hlt' : message'.length < 16 := by omega
    rw [tag_of_length_lt cipher hlt, tag_of_length_lt cipher hlt', cipher.encrypt_inj,
      Block.xor_left_inj, Padding.close_inj hlt hlt']
  · obtain ⟨b, rfl⟩ := Block.exists_toList_of_length hwhole
    obtain ⟨b', rfl⟩ := Block.exists_toList_of_length (hlength.symm.trans hwhole)
    rw [tag_toList, tag_toList, cipher.encrypt_inj, Block.xor_left_inj, Block.toList_inj]

/-! ### One block in front -/

/-- **A difference in the first block survives to the tag.** Messages of one length that agree
behind it have the same tag exactly if they are the same, however many blocks follow and whether
or not the last one is complete. -/
theorem tag_inj_of_drop_eq {message message' : Bytes} (hlength : message.length = message'.length)
    (hdrop : message.drop 16 = message'.drop 16) :
    tag cipher message = tag cipher message' ↔ message = message' := by
  rcases Nat.lt_or_ge 16 message.length with hlong | hshort
  · obtain ⟨b, rest, rfl⟩ := Block.exists_append_of_le_length (by omega : 16 ≤ message.length)
    obtain ⟨b', rest', rfl⟩ := Block.exists_append_of_le_length (by omega : 16 ≤ message'.length)
    obtain rfl : rest = rest' := by
      rwa [List.drop_left' b.length_toList, List.drop_left' b'.length_toList] at hdrop
    have hrest : rest ≠ [] := by
      apply List.ne_nil_of_length_pos
      rw [List.length_append, Block.length_toList] at hlong
      omega
    rw [tag_append_inj cipher hrest, List.append_left_inj, Block.toList_inj]
  · exact tag_inj_of_length_le cipher hshort hlength

end Ev2Reader.Cmac
