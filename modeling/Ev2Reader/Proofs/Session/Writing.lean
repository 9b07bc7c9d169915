import Ev2Reader.Proofs.Channel.Fit
import Ev2Reader.Proofs.Session.Operation

/-!
# Writing in Pieces

Data is written in pieces, each with a command of its own. The whole range is checked before
the first of them, and this module proves that the check is enough: every piece then has its
command, which fits a message and carries the exact offset and length of the piece.

## Main results

* `chunkCommands_available` — **every piece of data within the address space can be written**;
* `tail_commands_available` — so no operation finds out after its first command that another one
  cannot be made;
* `getElem_chunks`, `chunkCommands_eq_mapIdx` — the pieces one by one, and where they go;
* `divided` — **what the commands that write data carry**, all of it and each byte once.
-/

namespace Ev2Reader

/-! ### Pieces -/

/-- The number of pieces of one size. -/
theorem length_chunks {size : Nat} (hsize : 0 < size) (bytes : Bytes) :
    (chunks size bytes).length = (bytes.length + size - 1) / size := by
  fun_induction chunks size bytes with
  | case1 bytes h ih =>
    have hlength : bytes.length + size - 1 = (bytes.length - size) + size - 1 + size := by omega
    rw [List.length_cons, ih, List.length_drop, hlength, Nat.add_div_right _ hsize]
  | case2 => simp [Nat.div_eq_of_lt (Nat.sub_lt hsize Nat.one_pos)]
  | case3 bytes h hne =>
    have hpos := List.length_pos_iff.2 hne
    rw [List.length_singleton]
    exact (Nat.div_eq_of_lt_le (by omega) (by omega)).symm

/-- There is another piece as long as there is another byte. -/
theorem lt_length_chunks_iff {size : Nat} (hsize : 0 < size) {bytes : Bytes} {i : Nat} :
    i < (chunks size bytes).length ↔ i * size < bytes.length := by
  rw [length_chunks hsize, Nat.lt_iff_add_one_le, Nat.le_div_iff_mul_le hsize, Nat.add_mul]
  omega

/-- **The pieces one by one.** -/
theorem getElem_chunks {size : Nat} (hsize : 0 < size) {bytes : Bytes} {i : Nat}
    (h : i < (chunks size bytes).length) :
    (chunks size bytes)[i] = (bytes.drop (i * size)).take size := by
  fun_induction chunks size bytes generalizing i with
  | case1 bytes hlt ih =>
    cases i with
    | zero => simp
    | succ i =>
      rw [List.getElem_cons_succ, ih, List.drop_drop, Nat.succ_mul, Nat.add_comm size]
  | case2 => cases h
  | case3 bytes hlt hne =>
    obtain rfl : i = 0 := Nat.lt_one_iff.1 h
    rw [List.getElem_cons_zero, Nat.zero_mul, List.drop_zero, List.take_of_length_le (by omega)]

/-- The first pieces are the first bytes. -/
theorem flatten_take_chunks {size : Nat} (hsize : 0 < size) (bytes : Bytes) (i : Nat) :
    ((chunks size bytes).take i).flatten = bytes.take (i * size) := by
  fun_induction chunks size bytes generalizing i with
  | case1 bytes hlt ih =>
    cases i with
    | zero => simp
    | succ i =>
      rw [List.take_succ_cons, List.flatten_cons, ih, ← List.take_add, Nat.succ_mul,
        Nat.add_comm size]
  | case2 => simp
  | case3 bytes hlt hne =>
    cases i with
    | zero => simp
    | succ i =>
      have hsmall : bytes.length ≤ (i + 1) * size :=
        Nat.le_trans (by omega) (Nat.le_mul_of_pos_left size i.succ_pos)
      rw [List.take_succ_cons, List.take_nil, List.flatten_singleton,
        List.take_of_length_le hsmall]

/-! ### Commands -/

/-- An address is read back from its three bytes. -/
theorem threeBytes_ofNat {n : Nat} (h : n < SecureCommand.addressBound) :
    ∃ b0 b1 b2, threeBytes (UInt32.ofNat n) = [b0, b1, b2] ∧ (fromThree b0 b1 b2).toNat = n := by
  have hn : (UInt32.ofNat n).toNat = n := by
    rw [SecureCommand.addressBound] at h
    rw [UInt32.toNat_ofNat']
    omega
  refine ⟨_, _, _, rfl, ?_⟩
  rw [fromThree_threeBytes (by rw [hn]; exact h), hn]

/-- The number of commands that write data of a given length. -/
def SecureCommand.writeCount (protection : Protection) (length : Nat) : Nat :=
  (length + maxWriteChunk protection - 1) / maxWriteChunk protection

/-- The largest piece is not empty. -/
theorem SecureCommand.maxWriteChunk_pos (protection : Protection) :
    0 < maxWriteChunk protection := by
  cases protection <;> decide

/-- Data is written in as many pieces as there are commands. -/
theorem SecureCommand.length_chunks_maxWriteChunk (protection : Protection) (data : Bytes) :
    (chunks (maxWriteChunk protection) data).length = writeCount protection data.length :=
  length_chunks (maxWriteChunk_pos protection) data

/-- There is an `i`-th command exactly if there is data at the place where its piece would begin. -/
theorem SecureCommand.lt_writeCount_iff {protection : Protection} {data : Bytes} {i : Nat} :
    i < writeCount protection data.length ↔ i * maxWriteChunk protection < data.length := by
  rw [← length_chunks_maxWriteChunk, lt_length_chunks_iff (maxWriteChunk_pos protection)]

/-- **The `i`-th of the commands that write data.** -/
def SecureCommand.nthWrite (file : UInt8) (offset : UInt32) (data : Bytes)
    (protection : Protection) (i : Nat) : SecureCommand :=
  let size := maxWriteChunk protection
  let piece := (data.drop (i * size)).take size
  { ins := writeDataIns
    header := file :: threeBytes (UInt32.ofNat (offset.toNat + i * size)) ++
      threeBytes (UInt32.ofNat piece.length)
    data := piece
    protection }

/-- There is a command, and it fits. -/
def SecureCommand.Available (x : Except Fault SecureCommand) : Prop :=
  ∃ command, x = .ok command ∧ command.Fits

namespace Operation

variable {file : UInt8} {protection : Protection} {offset : UInt32} {pieces : List Bytes}
  {command : SecureCommand}

/-- A command that writes a piece does not end the session. -/
theorem endsSession_of_mem_chunkCommands
    (h : .ok command ∈ chunkCommands file protection offset pieces) :
    command.endsSession = false := by
  induction pieces generalizing offset with
  | nil => cases h
  | cons piece pieces ih =>
    rcases List.mem_cons.1 h with hfirst | hrest
    · obtain ⟨-, -, rfl⟩ := SecureCommand.writeData_eq_ok_iff.1 hfirst.symm
      rfl
    · exact ih hrest

/-- Within the address space an offset goes on without wrapping. -/
theorem toNat_add_ofNat {n : Nat} (h : offset.toNat + n ≤ SecureCommand.addressBound) :
    (offset + UInt32.ofNat n).toNat = offset.toNat + n := by
  rw [SecureCommand.addressBound] at h
  rw [UInt32.toNat_add, UInt32.toNat_ofNat']
  omega

/-- **Every piece of data within the address space can be written** with a command that fits.
The induction is on the pieces: each leaves room for those after it. -/
theorem chunkCommands_available
    (hrange : offset.toNat + pieces.flatten.length ≤ SecureCommand.addressBound)
    (hpieces : ∀ piece ∈ pieces,
      piece ≠ [] ∧ piece.length ≤ SecureCommand.maxWriteChunk protection) :
    ∀ x ∈ chunkCommands file protection offset pieces, SecureCommand.Available x := by
  induction pieces generalizing offset with
  | nil => exact fun _ hx => nomatch hx
  | cons piece pieces ih =>
    obtain ⟨hne, hlength⟩ := hpieces piece List.mem_cons_self
    have hpositive := List.length_pos_iff.2 hne
    rw [List.flatten_cons, List.length_append] at hrange
    have hoffset : offset.toNat < SecureCommand.addressBound := by omega
    have hnext : (offset + UInt32.ofNat piece.length).toNat = offset.toNat + piece.length :=
      toNat_add_ofNat (by omega)
    intro x hx
    rcases List.mem_cons.1 hx with rfl | hx
    · have hcommand : SecureCommand.writeData file offset piece protection = .ok _ :=
        SecureCommand.writeData_eq_ok_iff.2 ⟨hlength, hoffset, rfl⟩
      exact ⟨_, hcommand, SecureCommand.fits_of_writeData hcommand⟩
    · refine ih (by omega) (fun piece' hpiece' => ?_) x hx
      exact hpieces piece' (List.mem_cons_of_mem _ hpiece')

/-- **Each piece of data in range has its command,** and the command fits. -/
theorem chunkCommands_chunks_available {data : Bytes}
    (hrange : SecureCommand.checkDataRange offset data.length = .ok ()) :
    ∀ x ∈ chunkCommands file protection offset
        (chunks (SecureCommand.maxWriteChunk protection) data), SecureCommand.Available x := by
  rcases SecureCommand.checkDataRange_eq_ok_iff.1 hrange with hend | hempty
  · have hmax := SecureCommand.maxWriteChunk_pos protection
    refine chunkCommands_available (by rwa [flatten_chunks]) fun piece hpiece => ?_
    exact ⟨ne_nil_of_mem_chunks hpiece, length_le_of_mem_chunks hmax hpiece⟩
  · obtain rfl := List.length_eq_zero_iff.1 hempty
    rw [chunks_eq_nil_iff.2 rfl]
    exact fun _ hx => nomatch hx

/-- **After its first command no operation lacks another.** -/
theorem tail_commands_available (channel : Option Channel) (op : Operation) :
    ∀ x ∈ (op.commands channel).tail, SecureCommand.Available x := by
  cases op with
  | selectApplication | authenticate | close | execute | changeFileSettings | readData
  | cardUid => exact fun _ hx => nomatch hx
  | changeKey => cases channel <;> exact fun _ hx => nomatch hx
  | writeData file offset data protection =>
    intro x hx
    rw [commands] at hx
    split at hx
    · cases hx
    next hrange => exact chunkCommands_chunks_available hrange x (List.mem_of_mem_tail hx)

/-! ### What the commands carry -/

/-- The offset behind pieces of data, as it is counted while they are written. -/
def offsetAfter (offset : UInt32) (pieces : List Bytes) : UInt32 :=
  pieces.foldl (fun offset piece => offset + UInt32.ofNat piece.length) offset

/-- **The counted offset is exact** within the address space. -/
theorem toNat_offsetAfter
    (hrange : offset.toNat + pieces.flatten.length ≤ SecureCommand.addressBound) :
    (offsetAfter offset pieces).toNat = offset.toNat + pieces.flatten.length := by
  induction pieces generalizing offset with
  | nil => rfl
  | cons piece pieces ih =>
    rw [List.flatten_cons, List.length_append] at hrange ⊢
    have hnext : (offset + UInt32.ofNat piece.length).toNat = offset.toNat + piece.length :=
      toNat_add_ofNat (by omega)
    have hroom : (offset + UInt32.ofNat piece.length).toNat + pieces.flatten.length ≤
        SecureCommand.addressBound := by omega
    have hrest : (offsetAfter offset (piece :: pieces)).toNat =
        (offset + UInt32.ofNat piece.length).toNat + pieces.flatten.length := ih hroom
    omega

/-- **Each piece goes** to the offset behind the pieces in front of it. -/
theorem chunkCommands_eq_mapIdx (file : UInt8) (protection : Protection) (offset : UInt32)
    (pieces : List Bytes) :
    chunkCommands file protection offset pieces = pieces.mapIdx fun i piece =>
      SecureCommand.writeData file (offsetAfter offset (pieces.take i)) piece protection := by
  induction pieces generalizing offset with
  | nil => rfl
  | cons piece pieces ih =>
    rw [chunkCommands, ih, List.mapIdx_cons]
    rfl

/-- **What the commands that write data carry.** -/
structure Divided (file : UInt8) (offset : UInt32) (data : Bytes) (protection : Protection) :
    Prop where
  /-- These are the commands, and there is no fault in place of any. -/
  commands : ∀ channel, (writeData file offset data protection).commands channel =
    (List.range (SecureCommand.writeCount protection data.length)).map fun i =>
      .ok (SecureCommand.nthWrite file offset data protection i)
  /-- Their data joins to the whole. -/
  joined : ((List.range (SecureCommand.writeCount protection data.length)).map fun i =>
    (SecureCommand.nthWrite file offset data protection i).data).flatten = data
  /-- Each carries some data, and no more than it can. -/
  sizes : ∀ i < SecureCommand.writeCount protection data.length,
    (SecureCommand.nthWrite file offset data protection i).data ≠ [] ∧
      (SecureCommand.nthWrite file offset data protection i).data.length ≤
        SecureCommand.maxWriteChunk protection
  /-- The exact offset and length are read back from their three bytes each. -/
  fields : ∀ i < SecureCommand.writeCount protection data.length, ∃ a0 a1 a2 l0 l1 l2,
    (SecureCommand.nthWrite file offset data protection i).header =
        [file, a0, a1, a2, l0, l1, l2] ∧
      (fromThree a0 a1 a2).toNat = offset.toNat + i * SecureCommand.maxWriteChunk protection ∧
      (fromThree l0 l1 l2).toNat =
        (SecureCommand.nthWrite file offset data protection i).data.length
  /-- The counted offset is exact in front of each piece and behind the last. -/
  offsets : ∀ i ≤ SecureCommand.writeCount protection data.length,
    (offsetAfter offset ((chunks (SecureCommand.maxWriteChunk protection) data).take i)).toNat =
      offset.toNat + min (i * SecureCommand.maxWriteChunk protection) data.length

variable {data : Bytes}

/-- In front of the `i`-th piece the offset has moved on by `i` full pieces, and behind the last
piece by the whole data. -/
theorem toNat_offsetAfter_take (protection : Protection)
    (hrange : offset.toNat + data.length ≤ SecureCommand.addressBound) (i : Nat) :
    (offsetAfter offset ((chunks (SecureCommand.maxWriteChunk protection) data).take i)).toNat =
      offset.toNat + min (i * SecureCommand.maxWriteChunk protection) data.length := by
  have hflatten := flatten_take_chunks (SecureCommand.maxWriteChunk_pos protection) data i
  rw [toNat_offsetAfter, hflatten, List.length_take]
  rw [hflatten, List.length_take]
  omega

/-- The `i`-th piece has its command. -/
theorem writeData_eq_nthWrite
    (hrange : offset.toNat + data.length ≤ SecureCommand.addressBound) {i : Nat}
    (hi : i < SecureCommand.writeCount protection data.length) :
    SecureCommand.writeData file
        (offsetAfter offset ((chunks (SecureCommand.maxWriteChunk protection) data).take i))
        ((data.drop (i * SecureCommand.maxWriteChunk protection)).take
          (SecureCommand.maxWriteChunk protection)) protection =
      .ok (SecureCommand.nthWrite file offset data protection i) := by
  have hi := SecureCommand.lt_writeCount_iff.1 hi
  have hoffset := toNat_offsetAfter_take protection hrange i
  rw [Nat.min_eq_left (Nat.le_of_lt hi)] at hoffset
  refine SecureCommand.writeData_eq_ok_iff.2 ⟨List.length_take_le _ _, by omega, ?_⟩
  rw [SecureCommand.nthWrite, ← hoffset, UInt32.ofNat_toNat]

/-- Each command that writes data in range fits. -/
theorem fits_nthWrite (file : UInt8)
    (hrange : offset.toNat + data.length ≤ SecureCommand.addressBound) {i : Nat}
    (hi : i < SecureCommand.writeCount protection data.length) :
    (SecureCommand.nthWrite file offset data protection i).Fits :=
  SecureCommand.fits_of_writeData (writeData_eq_nthWrite hrange hi)

/-- **There is a command for each piece** of data within the address space. -/
theorem commands_writeData (file : UInt8) (protection : Protection)
    (hrange : offset.toNat + data.length ≤ SecureCommand.addressBound)
    (channel : Option Channel) :
    (writeData file offset data protection).commands channel =
      (List.range (SecureCommand.writeCount protection data.length)).map fun i =>
        .ok (SecureCommand.nthWrite file offset data protection i) := by
  have hcheck : SecureCommand.checkDataRange offset data.length = .ok () :=
    SecureCommand.checkDataRange_eq_ok_iff.2 (.inl hrange)
  simp only [Operation.commands, hcheck, chunkCommands_eq_mapIdx]
  refine List.ext_getElem (by simp [SecureCommand.length_chunks_maxWriteChunk]) fun i _ hi => ?_
  rw [List.length_map, List.length_range] at hi
  simp only [List.getElem_mapIdx, List.getElem_map, List.getElem_range]
  rw [getElem_chunks (SecureCommand.maxWriteChunk_pos protection), writeData_eq_nthWrite hrange hi]

/-- The data of the commands is the data in pieces. -/
theorem map_data_nthWrite (file : UInt8) (offset : UInt32) (data : Bytes)
    (protection : Protection) :
    ((List.range (SecureCommand.writeCount protection data.length)).map fun i =>
      (SecureCommand.nthWrite file offset data protection i).data) =
        chunks (SecureCommand.maxWriteChunk protection) data := by
  have hcount := SecureCommand.length_chunks_maxWriteChunk protection data
  refine List.ext_getElem (by simp [hcount]) fun i _ hi => ?_
  rw [getElem_chunks (SecureCommand.maxWriteChunk_pos protection) hi]
  simp [SecureCommand.nthWrite]

/-- The data of the `i`-th command is one of the pieces. -/
theorem data_nthWrite_mem (file : UInt8) (offset : UInt32) {i : Nat}
    (hi : i < SecureCommand.writeCount protection data.length) :
    (SecureCommand.nthWrite file offset data protection i).data ∈
      chunks (SecureCommand.maxWriteChunk protection) data := by
  rw [← map_data_nthWrite file offset]
  exact List.mem_map_of_mem (List.mem_range.2 hi)

/-- **The header of the `i`-th command** names the file, the address at which its piece begins and
the length of the piece. -/
theorem header_nthWrite (file : UInt8)
    (hrange : offset.toNat + data.length ≤ SecureCommand.addressBound) {i : Nat}
    (hi : i < SecureCommand.writeCount protection data.length) :
    ∃ a0 a1 a2 l0 l1 l2,
      (SecureCommand.nthWrite file offset data protection i).header =
          [file, a0, a1, a2, l0, l1, l2] ∧
        (fromThree a0 a1 a2).toNat = offset.toNat + i * SecureCommand.maxWriteChunk protection ∧
        (fromThree l0 l1 l2).toNat =
          (SecureCommand.nthWrite file offset data protection i).data.length := by
  have hstart := SecureCommand.lt_writeCount_iff.1 hi
  have hsize := length_le_of_mem_chunks (SecureCommand.maxWriteChunk_pos protection)
    (data_nthWrite_mem file offset hi)
  have hmax : SecureCommand.maxWriteChunk protection < SecureCommand.addressBound := by
    cases protection <;> decide
  obtain ⟨a0, a1, a2, haddress, ha⟩ := threeBytes_ofNat
    (Nat.lt_of_lt_of_le (Nat.add_lt_add_left hstart offset.toNat) hrange)
  obtain ⟨l0, l1, l2, hlength, hl⟩ := threeBytes_ofNat (Nat.lt_of_le_of_lt hsize hmax)
  refine ⟨a0, a1, a2, l0, l1, l2, ?_, ha, hl⟩
  have hheader : (SecureCommand.nthWrite file offset data protection i).header =
      file :: threeBytes (UInt32.ofNat
          (offset.toNat + i * SecureCommand.maxWriteChunk protection)) ++
        threeBytes (UInt32.ofNat
          (SecureCommand.nthWrite file offset data protection i).data.length) := rfl
  rw [hheader, haddress, hlength]
  rfl

/-- **Data within the address space is divided** among its commands. -/
theorem divided (file : UInt8) (protection : Protection)
    (hrange : offset.toNat + data.length ≤ SecureCommand.addressBound) :
    Divided file offset data protection where
  commands := commands_writeData file protection hrange
  joined := by rw [map_data_nthWrite, flatten_chunks]
  sizes i hi :=
    ⟨ne_nil_of_mem_chunks (data_nthWrite_mem file offset hi),
      length_le_of_mem_chunks (SecureCommand.maxWriteChunk_pos protection)
        (data_nthWrite_mem file offset hi)⟩
  fields i hi := header_nthWrite file hrange hi
  offsets i _ := toNat_offsetAfter_take protection hrange i

end Operation

end Ev2Reader
