import Ev2Reader.File.DynamicMessaging

/-!
# Defects of File Settings

The reasons why settings cannot be written as a record, with their texts.
-/

namespace Ev2Reader

/-- Why file settings cannot be written. -/
inductive Defect where
  /-- An access condition names a key that does not exist. -/
  | unknownKey
  /-- A required number is not given. -/
  | missing (field : DynamicMessaging.Field)
  /-- A required number does not fit three bytes. -/
  | tooWide
  /-- The length of the encrypted file data is zero or no multiple of its block. -/
  | unevenLength
  /-- There is no key to encrypt the file data with. -/
  | dataWithoutKey
deriving DecidableEq

/-- What is wrong when a required number is not given. -/
def DynamicMessaging.Field.missingText : DynamicMessaging.Field → String
  | .uidOffset => "UID mirroring requires a UID offset"
  | .readCounterOffset => "read counter mirroring requires a read counter offset"
  | .piccDataOffset => "encrypted PICC data requires a PICC data offset"
  | .macInputOffset => "SDM MAC requires a MAC input offset"
  | .encryptedOffset => "encrypted file data requires an offset"
  | .encryptedLength => "encrypted file data requires a length"
  | .macOffset => "SDM MAC requires a MAC offset"
  | .readCounterLimit => "read counter limit option requires a limit"

/-- The text of a defect. -/
def Defect.text : Defect → String
  | unknownKey => "access condition names a key above 4"
  | missing field => field.missingText
  | tooWide => "offset does not fit three bytes"
  | unevenLength => "encrypted file data length must be a non-zero multiple of 32"
  | dataWithoutKey => "encrypted file data requires FileRead to be a key"

end Ev2Reader
