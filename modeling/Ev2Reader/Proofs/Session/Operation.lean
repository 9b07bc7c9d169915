import Ev2Reader.Proofs.Session.Authentication

/-!
# Operations and Their Runs

Every operation on a session is of one of three kinds: it authenticates or selects, and then
gives up the channel before it sends anything; it closes the channel; or it executes a list
of commands one after the other, up to the first that fails. This module names the
operations and their runs one after the other, and proves that the kinds are these.

## Main results

* `run_selectApplication`, `run_perform_close` — what selecting and closing leave;
* `run_perform` — **an operation that is neither of the first two kinds executes its
  commands in order**;
* `executeEach_induction` — what holds of doing nothing, of a command that there is not, of
  a failed command and of a command in front of others holds of all lists of commands.
-/

namespace Ev2Reader

/-- **What a caller can do** with a session. -/
inductive Operation where
  /-- Selects the application. -/
  | selectApplication
  /-- Authenticates with an application key and the reader's nonce. -/
  | authenticate (keyNumber : KeyNumber) (key : Key) (nonce : Nonce)
  /-- Executes a command. -/
  | execute (command : SecureCommand)
  /-- Changes the settings of a file. -/
  | changeFileSettings (file : UInt8) (settings : FileSettings)
  /-- Changes a key. -/
  | changeKey (number : KeyNumber) (newKey : Key) (version : UInt8) (oldKey : Key)
  /-- Writes data. -/
  | writeData (file : UInt8) (offset : UInt32) (data : Bytes) (protection : Protection)
  /-- Reads data. -/
  | readData (file : UInt8) (offset length : UInt32) (protection : Protection)
  /-- Reads the identifier of the tag. -/
  | cardUid
  /-- Closes the channel. -/
  | close

namespace Operation

/-- The operation gives up the channel before it sends anything, for another one or none. -/
def beginsAnew : Operation → Bool
  | selectApplication | authenticate .. => true
  | _ => false

/-- The commands that write pieces of data one after the other. -/
def chunkCommands (file : UInt8) (protection : Protection) :
    UInt32 → List Bytes → List (Except Fault SecureCommand)
  | _, [] => []
  | offset, chunk :: rest =>
    SecureCommand.writeData file offset chunk protection ::
      chunkCommands file protection (offset + UInt32.ofNat chunk.length) rest

/-- **The commands of an operation** on a session with a given channel; a fault stands where
there is no such command. -/
def commands (channel : Option Channel) : Operation → List (Except Fault SecureCommand)
  | selectApplication | authenticate .. | close => []
  | execute command => [.ok command]
  | changeFileSettings file settings => [.ok (SecureCommand.changeFileSettings file settings)]
  | changeKey number newKey version oldKey =>
    match channel with
    | none => [.error .channelClosed]
    | some c => [SecureCommand.changeKey c.keyNumber number newKey version oldKey]
  | writeData file offset data protection =>
    match SecureCommand.checkDataRange offset data.length with
    | .error e => [.error e]
    | .ok () =>
      chunkCommands file protection offset (chunks (SecureCommand.maxWriteChunk protection) data)
  | readData file offset length protection =>
    [SecureCommand.readData file offset length protection]
  | cardUid => [.ok SecureCommand.cardUid]

/-! ### Missing commands -/

/-- Refusing an address does not cost the channel. -/
theorem requireAddress_harmless {n : UInt32} {e : Fault}
    (h : SecureCommand.requireAddress n = .error e) : e.isSessionFatal = false := by
  obtain ⟨-, rfl⟩ := check_eq_error_iff.1 h
  rfl

/-- Refusing the header of a data command does not cost the channel. -/
theorem dataHeader_harmless {file : UInt8} {offset length : UInt32} {e : Fault}
    (h : SecureCommand.dataHeader file offset length = .error e) : e.isSessionFatal = false := by
  rcases bind_eq_error_iff.1 h with hoffset | ⟨_, -, h⟩
  · exact requireAddress_harmless hoffset
  · rcases bind_eq_error_iff.1 h with hlength | ⟨_, -, h⟩
    · exact requireAddress_harmless hlength
    · cases h

/-- Refusing a command that writes does not cost the channel, be it for its length or its address.
-/
theorem writeData_harmless {file : UInt8} {offset : UInt32} {data : Bytes}
    {protection : Protection} {e : Fault}
    (h : SecureCommand.writeData file offset data protection = .error e) :
    e.isSessionFatal = false := by
  rcases bind_eq_error_iff.1 h with hlong | ⟨_, -, h⟩
  · obtain ⟨-, rfl⟩ := check_eq_error_iff.1 hlong
    rfl
  · rcases bind_eq_error_iff.1 h with hheader | ⟨_, -, h⟩
    · exact dataHeader_harmless hheader
    · cases h

/-- **No piece of a write costs the channel** when there is no command for it. -/
theorem chunkCommands_harmless {file : UInt8} {protection : Protection} {offset : UInt32}
    {pieces : List Bytes} {e : Fault}
    (h : .error e ∈ chunkCommands file protection offset pieces) : e.isSessionFatal = false := by
  induction pieces generalizing offset with
  | nil => cases h
  | cons piece pieces ih =>
    rcases List.mem_cons.1 h with hfirst | hrest
    · exact writeData_harmless hfirst.symm
    · exact ih hrest

/-- **A command that there is not** is missing for want of a channel, or for a reason that has
nothing to do with the session. -/
theorem commands_harmless {channel : Option Channel} {op : Operation} {e : Fault}
    (h : .error e ∈ op.commands channel) :
    (channel = none ∧ e = .channelClosed) ∨ e.isSessionFatal = false := by
  cases op with
  | selectApplication | authenticate | close => cases h
  | execute | changeFileSettings | cardUid => simp [commands] at h
  | changeKey number newKey version oldKey =>
    cases channel with
    | none => exact .inl ⟨rfl, by simpa [commands] using h⟩
    | some c =>
      have hcommand := (List.mem_singleton.1 h).symm
      rcases bind_eq_error_iff.1 hcommand with hnamed | ⟨_, -, h⟩
      · obtain ⟨-, rfl⟩ := check_eq_error_iff.1 hnamed
        exact .inr rfl
      · cases h
  | writeData file offset data protection =>
    rw [commands] at h
    split at h
    next hrange =>
      obtain ⟨-, rfl⟩ := check_eq_error_iff.1 hrange
      cases List.mem_singleton.1 h
      exact .inr rfl
    · exact .inr (chunkCommands_harmless h)
  | readData file offset length protection =>
    have hcommand := (List.mem_singleton.1 h).symm
    rcases bind_eq_error_iff.1 hcommand with hheader | ⟨_, -, h⟩
    · exact .inr (dataHeader_harmless hheader)
    · cases h

end Operation

namespace Session

open Procedure

variable {τ ε : Type}

/-- A result that is already there is given. -/
theorem require_ok {α : Type} (a : α) : (require (.ok a) : SessionM τ ε α) = pure a := rfl

/-- After a fault that is already there nothing runs. -/
theorem require_bind_error {α β : Type} (e : Fault) (f : α → SessionM τ ε β) :
    require (.error e) >>= f = failWith e := rfl

variable [Transport τ ε]

/-- **Performs an operation.** One that gives no data gives none. -/
def perform : Operation → SessionM τ ε Bytes
  | .selectApplication => do
    selectApplication
    pure []
  | .authenticate keyNumber key nonce => do
    authenticate keyNumber key nonce
    pure []
  | .execute command => execute command
  | .changeFileSettings file settings => do
    changeFileSettings file settings
    pure []
  | .changeKey number newKey version oldKey => do
    changeKey number newKey version oldKey
    pure []
  | .writeData file offset data protection => do
    writeData file offset data protection
    pure []
  | .readData file offset length protection => readData file offset length protection
  | .cardUid => cardUid
  | .close => do
    close
    pure []

/-- The session after operations one after the other, whatever they end in. -/
def after : List Operation → Session τ → Session τ
  | [], s => s
  | op :: ops, s => after ops ((perform op : SessionM τ ε Bytes).run s).state

/-- What happens in a session during operations one after the other. -/
def history : List Operation → Session τ → List (Event ε)
  | [], _ => []
  | op :: ops, s =>
    let o := (perform op : SessionM τ ε Bytes).run s
    o.events ++ history ops o.state

/-! ### The kinds of operations -/

/-- Selecting leaves no channel, whatever the tag says, and reports nothing but a failure of
the transport or the status of the answer. -/
theorem run_selectApplication (s : Session τ) :
    ((perform .selectApplication : SessionM τ ε Bytes).run s).state =
        ⟨(Transport.transmit s.transport selectMessage).2, none⟩ ∧
      ((perform .selectApplication : SessionM τ ε Bytes).run s).result =
        match (Transport.transmit s.transport selectMessage).1 with
        | .error failure => .error (.transport failure)
        | .ok answer =>
          if answer.status.isSuccess = true then .ok []
          else .error (.internal (.protocolViolation (.unexpectedStatus answer.status))) := by
  obtain ⟨t, channel⟩ := s
  rcases h : Transport.transmit t selectMessage with ⟨failure | answer, t'⟩
  · cases channel <;>
      simp [perform, selectApplication, close, run_transmit_of_error (s := ⟨t, none⟩) h]
  · cases channel <;> cases hstatus : answer.status.isSuccess <;>
      simp [perform, selectApplication, close, run_transmit_of_ok (s := ⟨t, none⟩) h, hstatus]

/-- As an operation, authenticating gives no data and is otherwise the same. -/
theorem run_perform_authenticate (keyNumber : KeyNumber) (key : Key) (nonce : Nonce)
    (s : Session τ) :
    (perform (.authenticate keyNumber key nonce) : SessionM τ ε Bytes).run s =
      ⟨((authenticate keyNumber key nonce : SessionM τ ε Unit).run s).result.map fun _ => [],
        ((authenticate keyNumber key nonce : SessionM τ ε Unit).run s).state,
        ((authenticate keyNumber key nonce : SessionM τ ε Unit).run s).events⟩ :=
  andThen_pure ((authenticate keyNumber key nonce).run s) fun _ => []

/-- Closing leaves no channel and sends nothing. -/
theorem run_perform_close (s : Session τ) :
    ((perform .close : SessionM τ ε Bytes).run s).result = .ok [] ∧
      ((perform .close : SessionM τ ε Bytes).run s).state = ⟨s.transport, none⟩ ∧
      Event.messages ((perform .close : SessionM τ ε Bytes).run s).events = [] := by
  rw [perform, run_bind_of_ok (run_close s), run_pure, List.append_nil]
  exact ⟨rfl, rfl, messages_close s⟩

/-- Executes commands one after the other, up to the first that fails. -/
def executeEach : List (Except Fault SecureCommand) → SessionM τ ε Unit
  | [] => pure ()
  | command :: rest => do
    let command ← require command
    let _ ← execute command
    executeEach rest

/-- A missing command ends the list with its fault, before anything is sent. -/
theorem run_executeEach_error (e : Fault) (rest : List (Except Fault SecureCommand))
    (s : Session τ) :
    (executeEach (.error e :: rest) : SessionM τ ε Unit).run s = ⟨.error (.internal e), s, []⟩ :=
  rfl

/-- A command is executed, and the rest after it if it succeeds. -/
theorem run_executeEach_ok (command : SecureCommand) (rest : List (Except Fault SecureCommand))
    (s : Session τ) :
    (executeEach (.ok command :: rest) : SessionM τ ε Unit).run s =
      andThen ((execute command).run s) fun _ => executeEach rest := by
  simp [executeEach]

/-- Writing pieces is executing their commands one after the other. -/
theorem writeChunks_eq (file : UInt8) (protection : Protection) (offset : UInt32)
    (pieces : List Bytes) :
    (writeChunks file protection offset pieces : SessionM τ ε Unit) =
      executeEach (Operation.chunkCommands file protection offset pieces) := by
  induction pieces generalizing offset with
  | nil => rfl
  | cons piece pieces ih =>
    rw [writeChunks, Operation.chunkCommands, executeEach]
    simp only [ih]

/-- **Writing data is executing the commands of its pieces,** or failing if its range is refused. -/
theorem writeData_eq (channel : Option Channel) (file : UInt8) (offset : UInt32) (data : Bytes)
    (protection : Protection) :
    (writeData file offset data protection : SessionM τ ε Unit) =
      executeEach ((Operation.writeData file offset data protection).commands channel) := by
  cases hrange : SecureCommand.checkDataRange offset data.length with
  | error e => simp [writeData, Operation.commands, hrange, executeEach, require_bind_error]
  | ok => simp [writeData, Operation.commands, hrange, require_ok, writeChunks_eq]

/-- No data is written without a command, at any offset. -/
theorem run_writeData_nil (file : UInt8) (offset : UInt32) (protection : Protection)
    (s : Session τ) :
    (writeData file offset [] protection : SessionM τ ε Unit).run s = ⟨.ok (), s, []⟩ := by
  rw [writeData, List.length_nil, SecureCommand.checkDataRange_zero, require_ok, pure_bind,
    chunks_eq_nil_iff.2 rfl]
  rfl

/-- **An operation on the channel executes its commands** one after the other. -/
theorem run_perform {op : Operation} (hanew : op.beginsAnew = false) (hclose : op ≠ .close)
    (s : Session τ) :
    (executeEach (op.commands s.channel) : SessionM τ ε Unit).run s =
      ⟨((perform op : SessionM τ ε Bytes).run s).result.map fun _ => (),
        ((perform op : SessionM τ ε Bytes).run s).state,
        ((perform op : SessionM τ ε Bytes).run s).events⟩ := by
  rw [← andThen_pure, ← run_bind]
  cases op with
  | selectApplication | authenticate => cases hanew
  | close => exact absurd rfl hclose
  | execute | changeFileSettings | cardUid =>
    simp [Operation.commands, perform, changeFileSettings, cardUid, executeEach, require_ok]
  | changeKey number newKey version oldKey =>
    cases hchannel : s.channel with
    | none => simp [Operation.commands, perform, run_changeKey_none hchannel,
        run_executeEach_error]
    | some c =>
      cases hcommand : SecureCommand.changeKey c.keyNumber number newKey version oldKey with
      | error e =>
        simp [Operation.commands, perform, changeKey, hchannel, hcommand, executeEach,
          require_bind_error]
      | ok command =>
        simp [Operation.commands, perform, changeKey, hchannel, hcommand, executeEach,
          require_ok]
  | writeData file offset data protection =>
    simp [perform, ← writeData_eq s.channel]
  | readData file offset length protection =>
    cases hcommand : SecureCommand.readData file offset length protection <;>
      simp [Operation.commands, perform, readData, hcommand, executeEach, require_ok,
        require_bind_error]

/-- **What holds of all lists of commands:** the induction is on the list, and follows a run
from each command to the next. -/
theorem executeEach_induction {motive : List (Except Fault SecureCommand) → Session τ →
      Outcome (Session τ) (Event ε) (SessionFault ε) Unit → Prop}
    (done : ∀ s, motive [] s ⟨.ok (), s, []⟩)
    (missing : ∀ e rest s, motive (.error e :: rest) s ⟨.error (.internal e), s, []⟩)
    (failed : ∀ command rest s fault s' events,
      (execute command : SessionM τ ε Bytes).run s = ⟨.error fault, s', events⟩ →
      motive (.ok command :: rest) s ⟨.error fault, s', events⟩)
    (next : ∀ command rest s data s' events o,
      (execute command : SessionM τ ε Bytes).run s = ⟨.ok data, s', events⟩ →
      motive rest s' o → motive (.ok command :: rest) s ⟨o.result, o.state, events ++ o.events⟩)
    (commands : List (Except Fault SecureCommand)) (s : Session τ) :
    motive commands s ((executeEach commands : SessionM τ ε Unit).run s) := by
  induction commands generalizing s with
  | nil => exact done s
  | cons command rest ih =>
    cases command with
    | error e => exact missing e rest s
    | ok command =>
      rw [run_executeEach_ok]
      rcases hrun : (execute command : SessionM τ ε Bytes).run s with ⟨fault | data, s', events⟩
      · exact failed command rest s fault s' events hrun
      · exact next command rest s data s' events _ hrun (ih s')

end Session

end Ev2Reader
