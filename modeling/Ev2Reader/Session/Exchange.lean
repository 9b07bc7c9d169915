import Ev2Reader.SecureCommand
import Ev2Reader.Session.Basic

/-!
# Executing Secure Commands

A secure command is protected, sent and answered, and its answer is read. The tag may split
a long answer into frames; all but the last one have the status `91AF`, and each further
frame is asked for. The reader takes at most sixteen.

Whatever leaves the reader and the tag in doubt about the channel drops it: a fatal fault
while protecting the command, a failed exchange, or an answer that closed it.

## Main results

* `run_execute_none` — without a channel nothing is executed;
* `gather_of_ne`, `gather_zero` — when the frames of an answer are complete, and when there
  are too many.
-/

namespace Ev2Reader.Session

open Procedure

variable {τ ε α : Type} [Transport τ ε]

/-- The largest number of frames in an answer. -/
def maxFrames : Nat := 16

/-! ### Frames -/

/-- Goes on with an answer in frames: `collected` is the data of the frames so far, `frame`
the last one received and `left` the number that may still follow. -/
def gather : (left : Nat) → (collected : Bytes) → (frame : Response) → SessionM τ ε Response
  | left, collected, frame =>
    if frame.status = .additionalFrame then
      match left with
      | 0 =>
        failWith (.protocolViolation (.responseLength (collected.length + frame.data.length)))
      | left + 1 => do
        let frame' ← transmit Apdu.additionalFrameRequest
        gather left (collected ++ frame.data) frame'
    else do
      note (.framesCollected (maxFrames - left))
      pure ⟨frame.status, collected ++ frame.data⟩

/-- **Sends a message and collects the frames of its answer.** -/
def exchange (message : Bytes) : SessionM τ ε Response := do
  let frame ← transmit message
  if frame.status = .additionalFrame then
    gather (maxFrames - 1) [] frame
  else
    pure frame

/-! ### Commands -/

/-- Protects a command. A fatal fault drops the channel. -/
def protect (command : SecureCommand) : SessionM τ ε Bytes := do
  match ← attempt (onChannel command.protect) with
  | .ok message => pure message
  | .error (.internal fault) =>
    if fault.isSessionFatal then
      note (.commandNotSent command.ins fault)
      close
    failWith fault
  | .error (.transport failure) => fail (.transport failure)

/-- Exchanges the message of a command. A failure drops the channel. -/
def exchangeFor (command : SecureCommand) (message : Bytes) : SessionM τ ε Response := do
  match ← attempt (exchange message) with
  | .ok answer => pure answer
  | .error fault =>
    note (.exchangeFailed command.ins)
    close
    fail fault

/-- Reads the answer to a command. A channel that this closes is dropped. -/
def receive (command : SecureCommand) (answer : Response) : SessionM τ ε Bytes := do
  let result ← attempt (onChannel (command.receive answer))
  dropClosed
  ofExcept result

/-- **Executes a command** and gives the data of its answer. -/
def execute (command : SecureCommand) : SessionM τ ε Bytes := do
  if (← get).channel.isNone then
    failWith .channelClosed
  else
    let message ← protect command
    let answer ← exchangeFor command message
    receive command answer

/-! ### What is done -/

/-- An answer whose last frame is there is complete. -/
theorem gather_of_ne {left : Nat} {collected : Bytes} {frame : Response}
    (h : frame.status ≠ .additionalFrame) (s : Session τ) :
    (gather left collected frame : SessionM τ ε Response).run s =
      ⟨.ok ⟨frame.status, collected ++ frame.data⟩, s,
        [.note (.framesCollected (maxFrames - left))]⟩ := by
  unfold gather
  simp [h]

/-- An answer of too many frames is refused. -/
theorem gather_zero {collected : Bytes} {frame : Response}
    (h : frame.status = .additionalFrame) (s : Session τ) :
    (gather 0 collected frame : SessionM τ ε Response).run s =
      ⟨.error (.internal (.protocolViolation
        (.responseLength (collected.length + frame.data.length)))), s, []⟩ := by
  unfold gather
  simp [h]

/-- **Without a channel nothing is executed.** -/
theorem run_execute_none (command : SecureCommand) {s : Session τ} (h : s.channel = none) :
    (execute command : SessionM τ ε Bytes).run s =
      ⟨.error (.internal .channelClosed), s, []⟩ := by
  simp [execute, h]

end Ev2Reader.Session
