import Ev2Reader.Channel.Frame
import Ev2Reader.Check
import Ev2Reader.Checksum
import Ev2Reader.File.Settings

/-!
# Secure Commands

The commands that set up files and keys and move data, ready to be protected by a channel.

## Main results

* `changeKey_eq_ok_iff` — which keys can be changed, and what is sent for them;
* `checkDataRange_eq_ok_iff` — a range is accepted exactly if it ends within the address
  space.
-/

namespace Ev2Reader

/-- **A command for a secure channel.** -/
structure SecureCommand where
  /-- The instruction byte. -/
  ins : UInt8
  /-- The header, which is sent as it is. -/
  header : Bytes
  /-- The data. -/
  data : Bytes
  /-- How the data is protected. -/
  protection : Protection
  /-- Whether the tag ends the session after this command. -/
  endsSession : Bool := false
deriving DecidableEq

namespace SecureCommand

/-- The instruction byte for changing the settings of a file. -/
def changeFileSettingsIns : UInt8 := 0x5F

/-- The instruction byte for changing a key. -/
def changeKeyIns : UInt8 := 0xC4

/-- The instruction byte for writing data. -/
def writeDataIns : UInt8 := 0x8D

/-- The instruction byte for reading data. -/
def readDataIns : UInt8 := 0xAD

/-- The instruction byte for reading the identifier of the tag. -/
def cardUidIns : UInt8 := 0x51

/-- The text of a command in descriptions; of its data it shows the length only. -/
def summary (c : SecureCommand) : String :=
  "SecureCommand \x7b ins: " ++ toString c.ins.toNat ++ ", header: [" ++
    ", ".intercalate (c.header.map fun b => toString b.toNat) ++ "], data_len: " ++
    toString c.data.length ++ ", protection: " ++ c.protection.name ++ ", ends_session: " ++
    toString c.endsSession ++ " \x7d"

/-! ### Protection -/

/-- **The protected message of a command.** -/
def protect (c : SecureCommand) : ChannelM Bytes :=
  Channel.protect c.protection c.ins c.header c.data

/-- **The data of the answer to a command.** The end of a session carries none. -/
def receive (c : SecureCommand) (answer : Response) : ChannelM Bytes :=
  if c.endsSession then do
    Channel.readSessionEnd answer
    pure []
  else Channel.readAnswer c.protection answer

/-! ### Settings and keys -/

/-- Changes the settings of a file. -/
def changeFileSettings (file : UInt8) (settings : FileSettings) : SecureCommand where
  ins := changeFileSettingsIns
  header := [file]
  data := settings.encoded
  protection := .full

/-- What is sent for a new key. The key of the session itself is sent as it is; any other
one is combined with its old value and followed by the checksum of the new one. -/
def keyData (sameKey : Bool) (newKey : Key) (version : UInt8) (oldKey : Key) : Bytes :=
  if sameKey then newKey.toList ++ [version]
  else (newKey ^^^ oldKey).toList ++ version :: (Checksum.ofKey newKey).toList

/-- The data for the key of the session is 17 bytes long, and for any other key 21. -/
theorem length_keyData (sameKey : Bool) (newKey : Key) (version : UInt8) (oldKey : Key) :
    (keyData sameKey newKey version oldKey).length = if sameKey then 17 else 21 := by
  cases sameKey <;> simp [keyData]

/-- **Changes a key.** Changing the key of the session itself ends the session. -/
def changeKey (authenticated number : KeyNumber) (newKey : Key) (version : UInt8)
    (oldKey : Key) : Except Fault SecureCommand := do
  check number.Named (.invalidKeyNumber number)
  return {
    ins := changeKeyIns
    header := [number]
    data := keyData (number == authenticated) newKey version oldKey
    protection := .full
    endsSession := number == authenticated }

/-- A key can be changed exactly if it exists. -/
theorem changeKey_eq_ok_iff {authenticated number : KeyNumber} {newKey oldKey : Key}
    {version : UInt8} {c : SecureCommand} :
    changeKey authenticated number newKey version oldKey = .ok c ↔
      number.Named ∧
        c = ⟨changeKeyIns, [number], keyData (number == authenticated) newKey version oldKey,
          .full, number == authenticated⟩ := by
  simp only [changeKey, bind_eq_ok_iff, check_eq_ok_iff, exists_const, pure, Except.pure,
    Except.ok.injEq, eq_comm (a := c)]

/-- Reads the identifier of the tag. -/
def cardUid : SecureCommand where
  ins := cardUidIns
  header := []
  data := []
  protection := .full

/-! ### Data -/

/-- Offsets and lengths are below this bound. -/
def addressBound : Nat := 16777216

/-- Number of bytes in the header of a data command. -/
def dataHeaderSize : Nat := 7

/-- Refuses a number that does not fit three bytes. -/
def requireAddress (n : UInt32) : Except Fault Unit :=
  check (n.toNat < addressBound) (.invalidLength (addressBound - 1) n.toNat)

/-- The header of a data command: file, offset and length. -/
def dataHeader (file : UInt8) (offset length : UInt32) : Except Fault Bytes := do
  requireAddress offset
  requireAddress length
  return file :: threeBytes offset ++ threeBytes length

/-- The largest number of bytes that one command can write. Full protection needs whole
blocks with at least one byte of padding. -/
def maxWriteChunk : Protection → Nat
  | .mac => Apdu.maxDataBytes - dataHeaderSize - AuthenticationCode.size
  | .full =>
    (Apdu.maxDataBytes - dataHeaderSize - AuthenticationCode.size) / Block.size * Block.size - 1

/-- Writes data that one command can carry. -/
def writeData (file : UInt8) (offset : UInt32) (data : Bytes) (protection : Protection) :
    Except Fault SecureCommand := do
  check (data.length ≤ maxWriteChunk protection) (.payloadTooLarge (maxWriteChunk protection))
  let header ← dataHeader file offset (UInt32.ofNat data.length)
  return { ins := writeDataIns, header, data, protection }

/-- Reads data; a length of zero reads to the end of the file. -/
def readData (file : UInt8) (offset length : UInt32) (protection : Protection) :
    Except Fault SecureCommand := do
  let header ← dataHeader file offset length
  return { ins := readDataIns, header, data := [], protection }

/-- Refuses a range of bytes that ends beyond the address space. -/
def checkDataRange (offset : UInt32) (length : Nat) : Except Fault Unit :=
  check (length ≤ addressBound - offset.toNat)
    (.invalidLength (addressBound - offset.toNat) length)

/-- The largest chunks of the two protections. -/
theorem maxWriteChunk_eq (protection : Protection) :
    maxWriteChunk protection = match protection with | .mac => 240 | .full => 239 := by
  cases protection <;> rfl

/-- A range is accepted exactly if it ends within the address space, or is empty. -/
theorem checkDataRange_eq_ok_iff {offset : UInt32} {length : Nat} :
    checkDataRange offset length = .ok () ↔
      offset.toNat + length ≤ addressBound ∨ length = 0 := by
  rw [checkDataRange, check_eq_ok_iff]
  omega

/-- A range of no bytes is accepted, wherever it begins. -/
theorem checkDataRange_zero (offset : UInt32) : checkDataRange offset 0 = .ok () :=
  checkDataRange_eq_ok_iff.2 (.inr rfl)

end SecureCommand

/-! ### Selection -/

/-- The instruction byte for selecting an application. -/
def selectIns : UInt8 := 0xA4

/-- The name of the application. -/
def applicationName : Bytes := [0xD2, 0x76, 0x00, 0x00, 0x85, 0x01, 0x01]

/-- The message that selects the application by its name. -/
def selectMessage : Bytes :=
  Apdu.Command.bytes
    { cla := 0x00, ins := selectIns, p1 := 0x04, p2 := 0x00, data := applicationName,
      le := some 0x00 }

end Ev2Reader
