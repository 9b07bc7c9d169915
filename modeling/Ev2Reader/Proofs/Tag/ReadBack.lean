import Ev2Reader.Proofs.Session.Discipline
import Ev2Reader.Proofs.Session.Lifetime
import Ev2Reader.Proofs.Tag.File

/-!
# What Is Written Is Read

A reader writes data to the file of an honest tag and reads it back. Each piece of the data is
written by a command of its own, which replaces its bytes in the file and leaves reader and tag
in step; together they replace the bytes of all the data and no others.

## Main results

* `splice_splice` — writing two pieces one after the other writes both;
* `run_writeChunks` — **the pieces of data come to stand in the file**;
* `run_readData` — what is read is what the file holds;
* `readBack` — **what is written is read**, by its length or to the end of the file.
-/

namespace Ev2Reader

/-! ### Bytes of a file -/

/-- Writing nothing changes nothing. -/
@[simp] theorem splice_nil (content : Bytes) (offset : Nat) :
    splice content offset [] = content := by
  simp [splice]

/-- Data that ends within a file leaves its length. -/
theorem length_splice {content data : Bytes} {offset : Nat}
    (h : offset + data.length ≤ content.length) :
    (splice content offset data).length = content.length := by
  simp only [splice, List.length_append, List.length_take, List.length_drop]
  omega

/-- **Writing two pieces** one after the other writes both. -/
theorem splice_splice {content piece rest : Bytes} {offset : Nat}
    (h : offset + piece.length ≤ content.length) :
    splice (splice content offset piece) (offset + piece.length) rest =
      splice content offset (piece ++ rest) := by
  have hfront : (content.take offset ++ piece).length = offset + piece.length := by
    rw [List.length_append, List.length_take]
    omega
  rw [splice, splice, List.take_left' hfront, List.drop_append, hfront, splice,
    List.drop_eq_nil_of_le (by omega), List.nil_append, List.drop_drop, List.length_append]
  simp only [List.append_assoc]
  congr 4
  omega

/-- From its offset on there is the data that was written, and then what was behind it before. -/
theorem drop_splice {content data : Bytes} {offset : Nat} (h : offset ≤ content.length) :
    (splice content offset data).drop offset = data ++ content.drop (offset + data.length) := by
  rw [splice, List.append_assoc, List.drop_left' (by rw [List.length_take]; omega)]

namespace FileTag

open Procedure Session

variable {s : Session FileTag} {c : Channel} {keys : SessionKeys} {command : SecureCommand}
  {data piece : Bytes} {offset length : UInt32}

/-! ### One command -/

/-- **A piece of data comes to stand in the file.** Its acknowledgement is a code alone, which
never has more than nine frames. -/
theorem execute_writeData (hchannel : s.channel = some c) (h : InStep c keys s.transport.tag)
    (hcounter : c.counter ≠ Channel.lastCounter)
    (hcommand : SecureCommand.writeData s.transport.number offset piece s.transport.protection =
      .ok command)
    (hrange : offset.toNat + piece.length ≤ s.transport.content.length) :
    ∃ tag events,
      (execute command : SessionM FileTag Unit Bytes).run s =
        ⟨.ok [], ⟨{ s.transport with
          tag, content := splice s.transport.content offset.toNat piece }, some c.next⟩, events⟩ ∧
      InStep c.next keys tag := by
  have hfits := SecureCommand.fits_of_writeData hcommand
  obtain ⟨hlength, hoffset, rfl⟩ := SecureCommand.writeData_eq_ok_iff.1 hcommand
  have hmax : SecureCommand.maxWriteChunk s.transport.protection ≤ 240 := by
    cases s.transport.protection <;> decide
  have hsize : (UInt32.ofNat piece.length).toNat = piece.length := by
    rw [UInt32.toNat_ofNat']
    omega
  have haddress : (UInt32.ofNat piece.length).toNat < SecureCommand.addressBound := by
    rw [hsize, SecureCommand.addressBound]
    omega
  have hacknowledged : s.transport.framing.frames
      (s.transport.answer (c.counterpart keys) []).data ≤ 16 := by
    refine Nat.le_trans (Framing.frames_le _ _) ?_
    rw [length_answer]
    cases s.transport.protection <;> decide
  obtain ⟨notices, hprotect⟩ :=
    SecureCommand.protect_of_fits h.keys_eq hcounter (SecureCommand.fits_iff.1 hfits)
  refine execute_inStep hchannel h hcounter hfits rfl rfl (.inl rfl) ?_ hacknowledged
  rw [carryOut?_eq h.keys_eq (congrArg Outcome.result hprotect) rfl rfl hoffset haddress, hsize,
    access_writeData hrange]

/-- **What is read is what the file holds**, if it comes in at most sixteen frames. -/
theorem run_readData (hchannel : s.channel = some c) (h : InStep c keys s.transport.tag)
    (hcounter : c.counter ≠ Channel.lastCounter)
    (hoffset : offset.toNat < SecureCommand.addressBound)
    (hlength : length.toNat < SecureCommand.addressBound)
    (hdone : access s.transport.content SecureCommand.readDataIns offset.toNat length.toNat [] =
      some (data, s.transport.content))
    (hframes : s.transport.framing.frames
      (s.transport.answer (c.counterpart keys) data).data ≤ 16) :
    ((readData s.transport.number offset length s.transport.protection :
      SessionM FileTag Unit Bytes).run s).result = .ok data := by
  obtain ⟨command, hcommand⟩ : ∃ command, SecureCommand.readData s.transport.number offset length
      s.transport.protection = .ok command :=
    ⟨_, SecureCommand.readData_eq_ok_iff.2 ⟨hoffset, hlength, rfl⟩⟩
  have hfits : command.Fits := by
    obtain ⟨-, -, rfl⟩ := SecureCommand.readData_eq_ok_iff.1 hcommand
    show 7 + s.transport.protection.wrappedLength 0 + 8 ≤ 255
    cases s.transport.protection <;> decide
  obtain ⟨notices, hprotect⟩ :=
    SecureCommand.protect_of_fits h.keys_eq hcounter (SecureCommand.fits_iff.1 hfits)
  obtain ⟨-, -, rfl⟩ := SecureCommand.readData_eq_ok_iff.1 hcommand
  obtain ⟨tag, events, hexecute, -⟩ :=
    execute_inStep hchannel h hcounter hfits rfl rfl (.inr rfl)
      (by rw [carryOut?_eq h.keys_eq (congrArg Outcome.result hprotect) rfl rfl hoffset hlength,
        hdone]) hframes
  rw [readData, hcommand, require_ok, pure_bind, hexecute]

/-! ### All the data -/

/-- **The pieces of data come to stand in the file.** The induction is on the pieces: each leaves
reader and tag in step, and the file as long as it was. -/
theorem run_writeChunks {pieces : List Bytes} (hchannel : s.channel = some c)
    (h : InStep c keys s.transport.tag)
    (hfile : s.transport.content.length ≤ SecureCommand.addressBound)
    (hpieces : ∀ piece ∈ pieces, piece ≠ [] ∧
      piece.length ≤ SecureCommand.maxWriteChunk s.transport.protection)
    (hrange : offset.toNat + pieces.flatten.length ≤ s.transport.content.length)
    (hcounter : c.counter.toNat + pieces.length ≤ 65535) :
    ∃ tag events,
      (writeChunks s.transport.number s.transport.protection offset pieces :
          SessionM FileTag Unit Unit).run s =
        ⟨.ok (), ⟨{ s.transport with
          tag, content := splice s.transport.content offset.toNat pieces.flatten },
          some (c.atCounter (c.counter.toNat + pieces.length))⟩, events⟩ ∧
      InStep (c.atCounter (c.counter.toNat + pieces.length)) keys tag := by
  induction pieces generalizing s c offset with
  | nil =>
    refine ⟨s.transport.tag, [], ?_, ?_⟩
    · rw [List.flatten_nil, splice_nil, List.length_nil, Nat.add_zero, c.atCounter_toNat,
        ← hchannel]
      rfl
    · rw [List.length_nil, Nat.add_zero, c.atCounter_toNat]
      exact h
  | cons piece pieces ih =>
    obtain ⟨hne, hlength⟩ := hpieces piece List.mem_cons_self
    have hpositive := List.length_pos_iff.2 hne
    rw [List.flatten_cons, List.length_append] at hrange
    rw [List.length_cons] at hcounter
    have hcommand : SecureCommand.writeData s.transport.number offset piece
        s.transport.protection = .ok _ :=
      SecureCommand.writeData_eq_ok_iff.2 ⟨hlength, by omega, rfl⟩
    have hlast : c.counter ≠ Channel.lastCounter := by
      intro heq
      rw [heq] at hcounter
      have : Channel.lastCounter.toNat = 65535 := rfl
      omega
    obtain ⟨tag, events, hexecute, hstep⟩ :=
      execute_writeData hchannel h hlast hcommand (by omega)
    have hnext : (offset + UInt32.ofNat piece.length).toNat = offset.toNat + piece.length :=
      Operation.toNat_add_ofNat (by omega)
    have hsplice : (splice s.transport.content offset.toNat piece).length =
        s.transport.content.length := length_splice (by omega)
    have hcount : c.next.counter.toNat = c.counter.toNat + 1 := by
      rw [c.next_eq_atCounter, c.toNat_counter_atCounter (by omega)]
    have hroom : (offset + UInt32.ofNat piece.length).toNat + pieces.flatten.length ≤
        (splice s.transport.content offset.toNat piece).length := by
      rw [hsplice, hnext]
      omega
    -- The rest is written on the next channel, into the file as the first piece leaves it.
    obtain ⟨tag', events', hrest, hstep'⟩ := ih
      (s := ⟨{ s.transport with
        tag, content := splice s.transport.content offset.toNat piece }, some c.next⟩)
      rfl hstep (by rw [hsplice]; exact hfile)
      (fun piece' hpiece' => hpieces piece' (List.mem_cons_of_mem _ hpiece'))
      hroom (by rw [hcount]; omega)
    have hend : c.next.atCounter (c.next.counter.toNat + pieces.length) =
        c.atCounter (c.counter.toNat + (piece :: pieces).length) := by
      rw [hcount, List.length_cons, Nat.add_right_comm, Nat.add_assoc]
      rfl
    rw [hend, hnext, splice_splice (by omega), ← List.flatten_cons] at hrest
    rw [hend] at hstep'
    refine ⟨tag', events ++ events', ?_, hstep'⟩
    rw [writeChunks, hcommand, require_ok, pure_bind, run_bind, hexecute, andThen_ok, hrest]

/-- **Data comes to stand in the file**, with one command for each piece of it. -/
theorem run_writeData (hchannel : s.channel = some c) (h : InStep c keys s.transport.tag)
    (hfile : s.transport.content.length ≤ SecureCommand.addressBound)
    (hrange : offset.toNat + data.length ≤ s.transport.content.length) {n : Nat}
    (hn : SecureCommand.writeCount s.transport.protection data.length = n)
    (hcounter : c.counter.toNat + n ≤ 65535) :
    ∃ tag events,
      (writeData s.transport.number offset data s.transport.protection :
          SessionM FileTag Unit Unit).run s =
        ⟨.ok (), ⟨{ s.transport with
          tag, content := splice s.transport.content offset.toNat data },
          some (c.atCounter (c.counter.toNat + n))⟩, events⟩ ∧
      InStep (c.atCounter (c.counter.toNat + n)) keys tag := by
  let size := SecureCommand.maxWriteChunk s.transport.protection
  have hsize : 0 < size := SecureCommand.maxWriteChunk_pos s.transport.protection
  have hcheck : SecureCommand.checkDataRange offset data.length = .ok () :=
    SecureCommand.checkDataRange_eq_ok_iff.2 (.inl (Nat.le_trans hrange hfile))
  have hcount : (chunks size data).length = n := (length_chunks hsize data).trans hn
  have hflatten : (chunks size data).flatten = data := flatten_chunks size data
  have hpieces : ∀ piece ∈ chunks size data, piece ≠ [] ∧ piece.length ≤ size :=
    fun piece hpiece => ⟨ne_nil_of_mem_chunks hpiece, length_le_of_mem_chunks hsize hpiece⟩
  have hwritten := run_writeChunks hchannel h hfile hpieces
    (by rw [hflatten]; exact hrange) (by rw [hcount]; exact hcounter)
  rw [hcount, hflatten] at hwritten
  rwa [writeData, hcheck, require_ok, pure_bind]

/-- **What is written is read.** A tag in step with the reader holds a file. Any data within it is
written by as many commands as it has pieces; then it stands in the file with all other bytes as
they were, reader and tag are in step, and the data is read back by its length, and with the rest
of the file by the length zero, if the protected answer has no more than sixteen frames. -/
theorem readBack (hchannel : s.channel = some c) (h : InStep c keys s.transport.tag)
    (hfile : s.transport.content.length ≤ SecureCommand.addressBound) (hdata : data ≠ [])
    (hrange : offset.toNat + data.length ≤ s.transport.content.length)
    (hcounter : c.counter.toNat +
      SecureCommand.writeCount s.transport.protection data.length + 1 ≤ 0xFFFF) :
    let c' := c.atCounter (c.counter.toNat +
      SecureCommand.writeCount s.transport.protection data.length)
    ∃ (t : FileTag) (events : List (Event Unit)),
      (writeData s.transport.number offset data s.transport.protection :
          SessionM FileTag Unit Unit).run s = ⟨.ok (), ⟨t, some c'⟩, events⟩ ∧
      t.content = s.transport.content.take offset.toNat ++ data ++
        s.transport.content.drop (offset.toNat + data.length) ∧
      InStep c' keys t.tag ∧
      (s.transport.framing.frames (s.transport.answer (c'.counterpart keys) data).data ≤ 16 →
        ((readData s.transport.number offset (UInt32.ofNat data.length) s.transport.protection :
          SessionM FileTag Unit Bytes).run ⟨t, some c'⟩).result = .ok data) ∧
      (s.transport.framing.frames
          (s.transport.answer (c'.counterpart keys) (t.content.drop offset.toNat)).data ≤ 16 →
        ((readData s.transport.number offset 0 s.transport.protection :
          SessionM FileTag Unit Bytes).run ⟨t, some c'⟩).result =
            .ok (t.content.drop offset.toNat)) := by
  intro c'
  obtain ⟨tag, events, hwritten, hstep⟩ :=
    run_writeData hchannel h hfile hrange rfl (Nat.le_of_succ_le hcounter)
  have hpositive := List.length_pos_iff.2 hdata
  have hoffset : offset.toNat < SecureCommand.addressBound := by omega
  have hcount : c'.counter.toNat = c.counter.toNat +
      SecureCommand.writeCount s.transport.protection data.length :=
    c.toNat_counter_atCounter (Nat.le_of_succ_le hcounter)
  have hlast : c'.counter ≠ Channel.lastCounter := by
    intro heq
    rw [heq] at hcount
    have : Channel.lastCounter.toNat = 65535 := rfl
    omega
  -- So many commands do not write more bytes than there are addresses.
  have hlength : data.length < SecureCommand.addressBound := by
    rw [SecureCommand.writeCount, SecureCommand.maxWriteChunk_eq] at hcounter
    rw [SecureCommand.addressBound]
    split at hcounter <;> omega
  have hsize : (UInt32.ofNat data.length).toNat = data.length := by
    rw [SecureCommand.addressBound] at hlength
    rw [UInt32.toNat_ofNat']
    omega
  have hcontent := length_splice hrange
  have hrest : (splice s.transport.content offset.toNat data).drop offset.toNat =
      data ++ s.transport.content.drop (offset.toNat + data.length) := drop_splice (by omega)
  let t : FileTag :=
    { s.transport with tag, content := splice s.transport.content offset.toNat data }
  refine ⟨t, events, hwritten, rfl, hstep, fun hframes => ?_, fun hframes => ?_⟩
  · refine run_readData (s := ⟨t, some c'⟩) rfl hstep hlast hoffset (by rw [hsize]; exact hlength)
      ?_ hframes
    rw [hsize, access_readData (Nat.ne_of_gt hpositive) (by rw [hcontent]; exact hrange), hrest,
      List.take_left' rfl]
  · exact run_readData (s := ⟨t, some c'⟩) rfl hstep hlast hoffset (by decide)
      (access_readRest (by rw [hcontent]; omega)) hframes

/-- Six hundred bytes in the middle of a file, written by three commands. The file from there on
fills sixteen frames. -/
theorem readBack_sixteenFrames :
    let keys : SessionKeys := ⟨.zero, Block.ofFn UInt8.ofNat⟩
    let ti : Word := ⟨0x0A, 0x0B, 0x0C, 0x0D⟩
    let c : Channel := ⟨2, ti, 0xFFFB, .authenticated keys⟩
    let refusal : Refusal := ⟨.integrityError, by decide, by decide⟩
    let choice : Choice :=
      ⟨refusal, none, false, ⟨.operationOk, by decide⟩, .zero, ti, (ti, ti, ti), [], []⟩
    let tag : Tag := ⟨fun _ => .zero, some (c.counterpart keys), none, none, 0⟩
    let data : Bytes := List.replicate 600 0x5A
    let s : Session FileTag :=
      ⟨⟨tag, 2, List.replicate 5000 0xAA, .full, .full, choice⟩, some c⟩
    (s.channel = some c ∧ InStep c keys s.transport.tag ∧
      s.transport.content.length ≤ SecureCommand.addressBound ∧ data ≠ [] ∧
      1024 + data.length ≤ s.transport.content.length ∧
      c.counter.toNat + SecureCommand.writeCount s.transport.protection data.length + 1 = 0xFFFF) ∧
    ∃ (t : FileTag) (events : List (Event Unit)),
      (writeData 2 1024 data .full : SessionM FileTag Unit Unit).run s =
        ⟨.ok (), ⟨t, some (c.atCounter 0xFFFE)⟩, events⟩ ∧
      t.content = (List.replicate 5000 0xAA).take 1024 ++ data ++
        (List.replicate 5000 0xAA).drop 1624 ∧
      ((readData 2 1024 600 .full : SessionM FileTag Unit Bytes).run
        ⟨t, some (c.atCounter 0xFFFE)⟩).result = .ok data ∧
      ((readData 2 1024 0 .full : SessionM FileTag Unit Bytes).run
        ⟨t, some (c.atCounter 0xFFFE)⟩).result = .ok (t.content.drop 1024) := by
  intro keys ti c refusal choice tag data s
  have hlength : data.length = 600 := List.length_replicate
  have hfile : s.transport.content.length = 5000 := List.length_replicate
  have hstep : InStep c keys s.transport.tag := ⟨rfl, rfl, rfl, rfl⟩
  have hne : data ≠ [] := List.ne_nil_of_length_pos (by omega)
  have hcount : SecureCommand.writeCount s.transport.protection data.length = 3 := by
    rw [hlength]
    decide
  have hcounter : c.counter.toNat +
      SecureCommand.writeCount s.transport.protection data.length + 1 = 0xFFFF := by
    rw [hcount]
    rfl
  have hbound : s.transport.content.length ≤ SecureCommand.addressBound := by
    rw [hfile]
    decide
  have hrange : (1024 : UInt32).toNat + data.length ≤ s.transport.content.length := by
    rw [hlength, hfile]
    decide
  obtain ⟨t, events, hwritten, hcontent, -, hread, hrest⟩ :=
    readBack (s := s) rfl hstep hbound hne hrange (Nat.le_of_eq hcounter)
  have hframes (session : TagSession) {answer : Bytes} {n : Nat} (hn : answer.length = n)
      (hfits : Protection.full.wrappedLength n + 8 ≤ 4096) :
      s.transport.framing.frames (s.transport.answer session answer).data ≤ 16 := by
    refine Framing.frames_full_le_iff.2 ?_
    rw [length_answer, hn]
    exact hfits
  have hcontent_length : (t.content.drop 1024).length = 3976 := by
    rw [hcontent]
    simp [hlength, hfile]
  have hread := hread (hframes _ hlength (by decide))
  have hrest := hrest (hframes _ hcontent_length (by decide))
  rw [hcount] at hwritten hread hrest
  rw [hlength] at hread hcontent
  exact ⟨⟨rfl, hstep, hbound, hne, hrange, hcounter⟩, t, events, hwritten, hcontent, hread, hrest⟩

end FileTag

end Ev2Reader
