import Ev2Reader.Proofs.Channel.Wrapping

/-!
# Commands That Fit

One byte counts the field of a message, so a command fits if its header, its data as it
travels and its code have at most 255 bytes. How many bytes the data travels as depends on
its length and its protection only, so it can be said of a command without a channel.

## Main results

* `fits_iff` — a command fits exactly if its field can be counted, under any keys;
* `not_fits_of_tooLarge` — **a channel refuses for its length only a command that does not fit**;
* `writeData_eq_ok_iff`, `readData_eq_ok_iff` — the data that one command can write or read;
* `wrappedLength_le_iff` — the largest chunk is the longest data that fits;
* `fits_of_writeData` — a piece of data that can be written fits.
-/

namespace Ev2Reader

/-- How many bytes data of a given length travels as. -/
def Protection.wrappedLength (protection : Protection) (n : Nat) : Nat :=
  match protection with
  | .mac => n
  | .full => if n = 0 then 0 else (n / 16 + 1) * 16

/-- Wrapped data has the length that its own length and the protection tell. -/
theorem Protection.length_wrap (protection : Protection) (keys : SessionKeys) (d : Direction)
    (ti : Word) (counter : UInt16) (data : Bytes) :
    (protection.wrap keys d ti counter data).length = protection.wrappedLength data.length := by
  cases protection with
  | mac => rfl
  | full =>
    by_cases hdata : data = []
    · rw [hdata]
      rfl
    · have hlength : data.length ≠ 0 := fun h => hdata (List.length_eq_zero_iff.1 h)
      simp only [wrap, wrappedLength, hdata, hlength, if_false, Cryptogram.length_encipher]

namespace SecureCommand

/-- **The command fits** a message. -/
def Fits (command : SecureCommand) : Prop :=
  command.header.length + command.protection.wrappedLength command.data.length + 8 ≤ 255

/-- Whether a command fits can be computed. -/
instance (command : SecureCommand) : Decidable command.Fits :=
  inferInstanceAs (Decidable (_ ≤ 255))

/-- **A command fits exactly if its field can be counted,** under any keys and counter. -/
theorem fits_iff {command : SecureCommand} {keys : SessionKeys} {ti : Word} {counter : UInt16} :
    command.Fits ↔ (command.field keys ti counter).length ≤ 255 := by
  rw [field, Channel.length_field, Protection.length_wrap, Fits]

open Procedure

variable {command : SecureCommand} {c : Channel} {keys : SessionKeys}

/-- **A command that is refused for its length does not fit**, at any counter value. -/
theorem not_fits_of_tooLarge (h : c.keys? = some keys) {largest : Nat}
    (hprotect : (command.protect.run c).result = .error (.payloadTooLarge largest)) :
    ¬ command.Fits := by
  rw [protect] at hprotect
  rcases Channel.protect_cases h command.protection command.ins command.header command.data with
    ⟨_, -, hlong⟩ | ⟨_, hrun, -⟩ | ⟨_, hrun, -⟩
  · exact fun hfits => absurd (fits_iff.1 hfits) (Nat.not_le.2 hlong)
  · rw [hrun] at hprotect
    cases hprotect
  · rw [hrun] at hprotect
    cases hprotect

/-! ### Writing -/

variable {file : UInt8} {offset length : UInt32} {data : Bytes} {protection : Protection}

/-- An address is accepted exactly if three bytes hold it. -/
theorem requireAddress_eq_ok_iff {n : UInt32} {u : Unit} :
    requireAddress n = .ok u ↔ n.toNat < addressBound :=
  check_eq_ok_iff

/-- The header of a data command is seven bytes, and there is one for all addresses. -/
theorem dataHeader_eq_ok_iff {header : Bytes} :
    dataHeader file offset length = .ok header ↔
      offset.toNat < addressBound ∧ length.toNat < addressBound ∧
        header = file :: threeBytes offset ++ threeBytes length := by
  simp only [dataHeader, bind_eq_ok_iff, requireAddress_eq_ok_iff, pure, Except.pure,
    Except.ok.injEq, exists_const, eq_comm (a := header)]

/-- Data can be written with one command exactly if it is short and its address exists. -/
theorem writeData_eq_ok_iff :
    writeData file offset data protection = .ok command ↔
      data.length ≤ maxWriteChunk protection ∧ offset.toNat < addressBound ∧
        command = ⟨writeDataIns,
          file :: threeBytes offset ++ threeBytes (UInt32.ofNat data.length), data, protection,
          false⟩ := by
  simp only [writeData, bind_eq_ok_iff, check_eq_ok_iff, exists_const, dataHeader_eq_ok_iff, pure,
    Except.pure, Except.ok.injEq]
  constructor
  · rintro ⟨hlength, header, ⟨hoffset, -, rfl⟩, rfl⟩
    exact ⟨hlength, hoffset, rfl⟩
  · rintro ⟨hlength, hoffset, rfl⟩
    have hmax : maxWriteChunk protection ≤ 240 := by cases protection <;> decide
    have haddress : (UInt32.ofNat data.length).toNat < addressBound := by
      rw [UInt32.toNat_ofNat', addressBound]
      omega
    exact ⟨hlength, _, ⟨hoffset, haddress, rfl⟩, rfl⟩

/-- Data can be read exactly if its address exists and its length is one. -/
theorem readData_eq_ok_iff :
    readData file offset length protection = .ok command ↔
      offset.toNat < addressBound ∧ length.toNat < addressBound ∧
        command = ⟨readDataIns, file :: threeBytes offset ++ threeBytes length, [], protection,
          false⟩ := by
  simp only [readData, bind_eq_ok_iff, dataHeader_eq_ok_iff, pure, Except.pure, Except.ok.injEq]
  constructor
  · rintro ⟨header, ⟨hoffset, hlength, rfl⟩, rfl⟩
    exact ⟨hoffset, hlength, rfl⟩
  · rintro ⟨hoffset, hlength, rfl⟩
    exact ⟨_, ⟨hoffset, hlength, rfl⟩, rfl⟩

/-- **The largest chunk is the longest data that fits** behind the header of a data command. -/
theorem wrappedLength_le_iff {n : Nat} :
    dataHeaderSize + protection.wrappedLength n + 8 ≤ 255 ↔ n ≤ maxWriteChunk protection := by
  rw [maxWriteChunk_eq, dataHeaderSize]
  cases protection with
  | mac =>
    simp only [Protection.wrappedLength]
    omega
  | full =>
    -- a block of padding is added to whole blocks, so 240 bytes travel as 256
    simp only [Protection.wrappedLength]
    split <;> omega

/-- **A piece of data that can be written fits.** -/
theorem fits_of_writeData (h : writeData file offset data protection = .ok command) :
    command.Fits := by
  obtain ⟨hlength, -, rfl⟩ := writeData_eq_ok_iff.1 h
  exact wrappedLength_le_iff.2 hlength

end SecureCommand

end Ev2Reader
