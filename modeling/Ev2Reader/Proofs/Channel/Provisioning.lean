import Ev2Reader.Proofs.Channel.Message
import Ev2Reader.Proofs.File.Admission

/-!
# Commands for Provisioning

A command can be made that is too long for its message. None of those that set up files and keys
and move data is: their arguments are refused before, or are bounded by what they are. The
settings of a file are at most 27 bytes and those of a key at most 21, so what is encrypted of
them stays far below the limit. Data to be written is the one argument of any length, and for it
the largest chunk is the exact bound: a byte more takes another block of padding, or has no room
beside the code.

## Main results

* `SecureCommand.Provisioning.fits` — every command for provisioning fits;
* `SecureCommand.run_protect_of_fits`, `SecureCommand.run_protect_of_not_fits` — before the last
  counter value a command has a message exactly if it fits;
* `Channel.provisioning` — **commands for provisioning have messages, and the largest chunk is
  the longest data that has one**.
-/

namespace Ev2Reader

/-- Encryption adds a block of padding at most. -/
theorem Protection.wrappedLength_le (protection : Protection) (n : Nat) :
    protection.wrappedLength n ≤ n + 16 := by
  cases protection with
  | mac => exact Nat.le_add_right n 16
  | full =>
    simp only [wrappedLength]
    split <;> omega

namespace SecureCommand

/-- **A command for provisioning**, made with any arguments that are not refused. -/
inductive Provisioning : SecureCommand → Prop where
  /-- It changes the settings of a file. -/
  | changeFileSettings (file : UInt8) (settings : FileSettings) :
      Provisioning (.changeFileSettings file settings)
  /-- It changes a key. -/
  | changeKey {authenticated number : KeyNumber} {newKey oldKey : Key} {version : UInt8}
      {command : SecureCommand}
      (h : changeKey authenticated number newKey version oldKey = .ok command) :
      Provisioning command
  /-- It writes data. -/
  | writeData {file : UInt8} {offset : UInt32} {data : Bytes} {protection : Protection}
      {command : SecureCommand} (h : writeData file offset data protection = .ok command) :
      Provisioning command
  /-- It reads data. -/
  | readData {file : UInt8} {offset length : UInt32} {protection : Protection}
      {command : SecureCommand} (h : readData file offset length protection = .ok command) :
      Provisioning command
  /-- It reads the identifier of the tag. -/
  | cardUid : Provisioning .cardUid

variable {command : SecureCommand}

/-! ### What fits -/

/-- A command with little data fits, whatever its protection. -/
theorem fits_of_length_le (h : command.header.length + command.data.length ≤ 231) :
    command.Fits := by
  have hwrapped := command.protection.wrappedLength_le command.data.length
  rw [Fits]
  omega

/-- **Every command for provisioning fits.** -/
theorem Provisioning.fits (h : command.Provisioning) : command.Fits := by
  cases h with
  | changeFileSettings file settings =>
    have hrecord : settings.encoded.length ≤ 27 := settings.length_encoded_le
    refine fits_of_length_le ?_
    simp only [SecureCommand.changeFileSettings, List.length_singleton]
    omega
  | changeKey h =>
    obtain ⟨-, rfl⟩ := changeKey_eq_ok_iff.1 h
    refine fits_of_length_le ?_
    rw [length_keyData, List.length_singleton]
    split <;> decide
  | writeData h => exact fits_of_writeData h
  | readData h =>
    obtain ⟨-, -, rfl⟩ := readData_eq_ok_iff.1 h
    exact fits_of_length_le (by simp)
  | cardUid => exact fits_of_length_le (by decide)

/-- The message of a command that fits is that of a short command. -/
theorem length_message_le (hfits : command.Fits) (keys : SessionKeys) (ti : Word)
    (counter : UInt16) : (command.message keys ti counter).length ≤ 261 := by
  rw [message, Apdu.nativeMessage_eq_bytes command.ins (fits_iff.1 hfits)]
  exact Apdu.Command.length_bytes_le _

/-! ### What has a message -/

variable {c : Channel} {keys : SessionKeys}

/-- **A command that fits has a message** before the last counter value, and nothing changes. -/
theorem run_protect_of_fits (h : c.keys? = some keys) (hcounter : c.counter ≠ Channel.lastCounter)
    (hfits : command.Fits) :
    ∃ message notices, command.protect.run c = ⟨.ok message, c, notices⟩ ∧
      message.length ≤ 261 := by
  obtain ⟨notices, hrun⟩ := protect_of_fits h hcounter (fits_iff.1 hfits)
  exact ⟨_, notices, hrun, length_message_le hfits ..⟩

/-- **A command that does not fit is refused** there for its length, and nothing changes. -/
theorem run_protect_of_not_fits (h : c.keys? = some keys)
    (hcounter : c.counter ≠ Channel.lastCounter) (hfits : ¬ command.Fits) :
    command.protect.run c = ⟨.error (.payloadTooLarge 255), c, []⟩ := by
  have hrun := Channel.run_protect h hcounter command.protection command.ins command.header
    command.data
  have hlong : ¬ (command.field keys c.transactionId c.counter).length ≤ 255 :=
    fun hshort => hfits (fits_iff.2 hshort)
  rw [field] at hlong
  rwa [if_pos (Nat.not_le.1 hlong)] at hrun

/-- A command with the header of a data command fits exactly if its data is no longer than the
largest chunk. -/
theorem fits_iff_of_length_header {ins : UInt8} {header data : Bytes} {protection : Protection}
    {endsSession : Bool} (hheader : header.length = 7) :
    (⟨ins, header, data, protection, endsSession⟩ : SecureCommand).Fits ↔
      data.length ≤ maxWriteChunk protection := by
  rw [← wrappedLength_le_iff, Fits, hheader, dataHeaderSize]

end SecureCommand

namespace Channel

open SecureCommand

/-- **Every command for provisioning has a message** on an open channel before the last counter
value, and the message is that of a short command. Data behind a header of seven bytes has one if
it is no longer than the largest chunk, and is refused for its length otherwise. The channel stays
as it is. -/
theorem provisioning {c : Channel} (hopen : c.isOpen = true) (hcounter : c.counter < lastCounter) :
    (∀ command : SecureCommand, command.Provisioning →
      ∃ message notices, command.protect.run c = ⟨.ok message, c, notices⟩ ∧
        message.length ≤ 261) ∧
    ∀ (protection : Protection) (ins : UInt8) (header data : Bytes), header.length = 7 →
      (data.length ≤ maxWriteChunk protection →
        ∃ message notices, (protect protection ins header data).run c =
          ⟨.ok message, c, notices⟩ ∧ message.length ≤ 261) ∧
      (maxWriteChunk protection < data.length →
        (protect protection ins header data).run c = ⟨.error (.payloadTooLarge 255), c, []⟩) := by
  obtain ⟨keys, hkeys⟩ := Option.isSome_iff_exists.1 hopen
  have hcounter : c.counter ≠ lastCounter := UInt16.ne_of_lt hcounter
  refine ⟨fun command h => run_protect_of_fits hkeys hcounter h.fits, ?_⟩
  intro protection ins header data hheader
  let command : SecureCommand := ⟨ins, header, data, protection, false⟩
  have hfits : command.Fits ↔ data.length ≤ maxWriteChunk protection :=
    fits_iff_of_length_header hheader
  constructor
  · intro hlength
    obtain ⟨message, notices, hrun, hshort⟩ :=
      run_protect_of_fits hkeys hcounter (hfits.2 hlength)
    exact ⟨message, notices, hrun, hshort⟩
  · intro hlength
    have hnot : ¬ command.Fits := fun h => Nat.not_lt.2 (hfits.1 h) hlength
    exact run_protect_of_not_fits hkeys hcounter hnot

/-- At the last counter value that protects a command: the longest data that can be enciphered,
and a byte more. -/
theorem provisioning_lastValue :
    let keys : SessionKeys := ⟨.zero, Block.ofFn UInt8.ofNat⟩
    let c : Channel := ⟨1, ⟨0x0A, 0x0B, 0x0C, 0x0D⟩, 0xFFFE, .authenticated keys⟩
    let header : Bytes := [0x02, 0x10, 0x00, 0x00, 0xEF, 0x00, 0x00]
    (c.isOpen = true ∧ c.counter < lastCounter ∧ header.length = 7) ∧
    (∀ settings, ∃ message notices, (changeFileSettings 2 settings).protect.run c =
      ⟨.ok message, c, notices⟩ ∧ message.length ≤ 261) ∧
    (∃ message notices, (protect .full 0x8D header (List.replicate 239 0x5A)).run c =
      ⟨.ok message, c, notices⟩ ∧ message.length ≤ 261) ∧
    (protect .full 0x8D header (List.replicate 240 0x5A)).run c =
      ⟨.error (.payloadTooLarge 255), c, []⟩ := by
  intro keys c header
  obtain ⟨hcommands, hdata⟩ := provisioning (c := c) rfl (by decide)
  have hchunk : maxWriteChunk .full = 239 := rfl
  refine ⟨⟨rfl, by decide, rfl⟩, fun settings => hcommands _ (.changeFileSettings 2 settings),
    (hdata .full 0x8D header _ rfl).1 ?_, (hdata .full 0x8D header _ rfl).2 ?_⟩
  · rw [hchunk]
    exact Nat.le_of_eq List.length_replicate
  · rw [List.length_replicate, hchunk]
    decide

end Channel

end Ev2Reader
