import Ev2Reader.Session.Exchange

/-!
# Operations on a Session

Selecting the application, authenticating, and the commands that set up files and keys and
move data.

## Main results

* `run_writeData_out_of_range` — a range that ends beyond the address space is refused before
  anything is sent;
* `run_changeKey_none` — without a channel no key is changed.
-/

namespace Ev2Reader.Session

open Procedure

variable {τ ε : Type} [Transport τ ε]

/-- Selects the application, which ends a session that was there. -/
def selectApplication : SessionM τ ε Unit := do
  close
  let answer ← transmit selectMessage
  note (.selectionAnswered answer.status)
  if answer.status.isSuccess = false then
    failWith (.protocolViolation (.unexpectedStatus answer.status))

/-- **Authenticates** with an application key and the reader's nonce, in place of a session
that was there. -/
def authenticate (keyNumber : KeyNumber) (key : Key) (nonce : Nonce) : SessionM τ ε Unit := do
  close
  let started ← require (Handshake.start keyNumber key nonce)
  let answer ← transmit started.firstCommand
  let challenged ← step (started.receiveChallenge answer)
  let answer ← transmit challenged.secondCommand
  let channel ← step (challenged.receiveConfirmation answer)
  modify fun s => { s with channel := some channel }

/-- Changes the settings of a file. -/
def changeFileSettings (file : UInt8) (settings : FileSettings) : SessionM τ ε Unit := do
  let _ ← execute (SecureCommand.changeFileSettings file settings)

/-- Changes a key. Changing the key of the session itself ends the session. -/
def changeKey (number : KeyNumber) (newKey : Key) (version : UInt8) (oldKey : Key) :
    SessionM τ ε Unit := do
  match (← get).channel with
  | none => failWith .channelClosed
  | some c =>
    let command ← require (SecureCommand.changeKey c.keyNumber number newKey version oldKey)
    let _ ← execute command

/-- Writes pieces of data one after the other, each with a command of its own. -/
def writeChunks (file : UInt8) (protection : Protection) : UInt32 → List Bytes →
    SessionM τ ε Unit
  | _, [] => pure ()
  | offset, chunk :: rest => do
    let command ← require (SecureCommand.writeData file offset chunk protection)
    let _ ← execute command
    writeChunks file protection (offset + UInt32.ofNat chunk.length) rest

/-- **Writes data** with as many commands as it needs. The whole range is checked before the
first of them. -/
def writeData (file : UInt8) (offset : UInt32) (data : Bytes) (protection : Protection) :
    SessionM τ ε Unit := do
  require (SecureCommand.checkDataRange offset data.length)
  writeChunks file protection offset (chunks (SecureCommand.maxWriteChunk protection) data)

/-- Reads data; a length of zero reads to the end of the file. -/
def readData (file : UInt8) (offset length : UInt32) (protection : Protection) :
    SessionM τ ε Bytes := do
  let command ← require (SecureCommand.readData file offset length protection)
  execute command

/-- Reads the identifier of the tag. -/
def cardUid : SessionM τ ε Bytes :=
  execute SecureCommand.cardUid

/-! ### What is refused -/

/-- **A range that ends beyond the address space is refused** before anything is sent. -/
theorem run_writeData_out_of_range {file : UInt8} {offset : UInt32} {data : Bytes}
    {protection : Protection} (h : SecureCommand.addressBound - offset.toNat < data.length)
    (s : Session τ) :
    (writeData file offset data protection : SessionM τ ε Unit).run s =
      ⟨.error (.internal (.invalidLength (SecureCommand.addressBound - offset.toNat)
        data.length)), s, []⟩ := by
  have hcheck : SecureCommand.checkDataRange offset data.length =
      .error (.invalidLength (SecureCommand.addressBound - offset.toNat) data.length) :=
    check_eq_error_iff.2 ⟨by omega, rfl⟩
  simp [writeData, hcheck]

/-- Without a channel no key is changed. -/
theorem run_changeKey_none {number : KeyNumber} {newKey oldKey : Key} {version : UInt8}
    {s : Session τ} (h : s.channel = none) :
    (changeKey number newKey version oldKey : SessionM τ ε Unit).run s =
      ⟨.error (.internal .channelClosed), s, []⟩ := by
  simp [changeKey, h]

end Ev2Reader.Session
