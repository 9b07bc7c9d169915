import Ev2Reader.Text.Hexadecimal

/-!
# Status Words

Every answer of the tag ends in a status word of two bytes. `9000` and `9100` report
success, `91AF` that the tag has more to send or expects more; all others are errors.

## Main results

* `isSuccess_iff` — the two success words;
* `bytes_inj`, `bytes_ofBytes` — a status word and its two bytes determine each other.
-/

namespace Ev2Reader

/-- A **status word**. -/
structure StatusWord where
  /-- The two bytes as one number. -/
  value : UInt16
deriving DecidableEq

namespace StatusWord

/-- A native command completed. -/
def operationOk : StatusWord := ⟨0x9100⟩

/-- An interindustry command completed. -/
def normalProcessing : StatusWord := ⟨0x9000⟩

/-- Another frame follows or is expected. -/
def additionalFrame : StatusWord := ⟨0x91AF⟩

/-- The message authentication code or the padding of a command is wrong. -/
def integrityError : StatusWord := ⟨0x911E⟩

/-- The status word of two bytes. -/
def ofBytes (first second : UInt8) : StatusWord :=
  ⟨fromHighLow first second⟩

/-- The two bytes of a status word. -/
def bytes (s : StatusWord) : Bytes :=
  bigEndian s.value

/-- The second byte, which native commands use as their return code. -/
def returnCode (s : StatusWord) : UInt8 :=
  lowByte s.value

/-- Whether the command completed. -/
def isSuccess (s : StatusWord) : Bool :=
  s = operationOk || s = normalProcessing

/-- **Success is one of two words.** -/
theorem isSuccess_iff {s : StatusWord} :
    s.isSuccess = true ↔ s = operationOk ∨ s = normalProcessing := by
  simp [isSuccess]

/-- **Two status words report success,** 9000 and 9100. -/
theorem isSuccess_iff_value {s : StatusWord} :
    s.isSuccess = true ↔ s.value = 0x9000 ∨ s.value = 0x9100 := by
  cases s
  rw [isSuccess_iff, or_comm, operationOk, normalProcessing, mk.injEq, mk.injEq]

/-- More frames are not yet success. -/
theorem isSuccess_additionalFrame : additionalFrame.isSuccess = false := by decide

/-- A status word has two bytes. -/
@[simp] theorem length_bytes (s : StatusWord) : s.bytes.length = 2 := rfl

/-- The bytes determine the status word. -/
theorem bytes_inj {s t : StatusWord} : s.bytes = t.bytes ↔ s = t := by
  cases s
  cases t
  simp only [bytes, bigEndian_inj, mk.injEq]

/-- The bytes of a status word composed of two bytes are those two. -/
@[simp] theorem bytes_ofBytes (first second : UInt8) :
    (ofBytes first second).bytes = [first, second] := by
  simp [bytes, ofBytes, bigEndian]

/-! ### Text -/

/-- What a status word means: a symbolic name and a short description. -/
structure Meaning where
  /-- The symbolic name. -/
  name : String
  /-- The description. -/
  description : String

/-- The status words with a meaning of their own. -/
def meanings : List (UInt16 × Meaning) :=
  [(0x9100, "OPERATION_OK", "successful operation"),
    (0x910B, "COMMAND_NOT_FOUND", "command code not supported"),
    (0x910C, "COMMAND_FORMAT_ERROR", "invalid command length or address format"),
    (0x911C, "ILLEGAL_COMMAND_CODE", "instruction not allowed with CLA 90"),
    (0x911E, "INTEGRITY_ERROR", "CMAC, CRC or padding verification failed"),
    (0x9140, "NO_SUCH_KEY", "key number does not exist"),
    (0x917E, "LENGTH_ERROR", "command data length is invalid"),
    (0x919D, "PERMISSION_DENIED", "current access rights forbid the command"),
    (0x919E, "PARAMETER_ERROR", "parameter value out of range"),
    (0x91AD, "AUTHENTICATION_DELAY", "failed authentications, delay in progress"),
    (0x91AE, "AUTHENTICATION_ERROR", "wrong authentication or session state"),
    (0x91AF, "ADDITIONAL_FRAME", "additional frame expected"),
    (0x91BE, "BOUNDARY_ERROR", "access beyond the file boundary"),
    (0x91CA, "COMMAND_ABORTED", "chained command not completed"),
    (0x91EE, "MEMORY_ERROR", "non-volatile memory failure"),
    (0x91F0, "FILE_NOT_FOUND", "file number does not exist"),
    (0x9000, "NORMAL_PROCESSING", "successful operation"),
    (0x6300, "VERIFICATION_FAILED", "verification failed"),
    (0x6581, "MEMORY_FAILURE", "non-volatile memory failure"),
    (0x6700, "WRONG_LENGTH", "wrong length"),
    (0x6982, "SECURITY_STATUS_NOT_SATISFIED", "security status not satisfied"),
    (0x6985, "CONDITIONS_OF_USE_NOT_SATISFIED", "conditions of use not satisfied"),
    (0x6A80, "INCORRECT_PARAMETERS_IN_DATA", "incorrect parameters in the data field"),
    (0x6A82, "FILE_OR_APPLICATION_NOT_FOUND", "file or application not found"),
    (0x6A86, "INCORRECT_P1P2", "incorrect P1 or P2"),
    (0x6A87, "LC_INCONSISTENT_WITH_P1P2", "Lc inconsistent with P1 and P2"),
    (0x6D00, "INSTRUCTION_NOT_SUPPORTED", "instruction not supported"),
    (0x6E00, "CLASS_NOT_SUPPORTED", "class not supported")].map
    fun (value, name, description) => (value, ⟨name, description⟩)

/-- The meaning of every word that starts with `6C`. -/
def wrongLe : Meaning :=
  ⟨"WRONG_LE", "wrong Le, SW2 holds the exact length"⟩

/-- The meaning of a status word, if it has one. -/
def meaning? (s : StatusWord) : Option Meaning :=
  match meanings.lookup s.value with
  | some m => some m
  | none => if highByte s.value = 0x6C then some wrongLe else none

/-- The four digits of a status word. -/
def code (s : StatusWord) : String :=
  Hexadecimal.upper s.bytes

/-- The text of a status word in messages: its digits, and its meaning if it has one. -/
def text (s : StatusWord) : String :=
  match s.meaning? with
  | some m => s.code ++ " " ++ m.name ++ " (" ++ m.description ++ ")"
  | none => s.code

/-- The text of a status word in the description of a larger value. -/
def summary (s : StatusWord) : String :=
  "StatusWord(" ++ s.code ++ ")"

end StatusWord

end Ev2Reader
