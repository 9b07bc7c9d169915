import Ev2Reader.Proofs.Channel.Fit
import Ev2Reader.Proofs.Session.Execution

/-!
# How a Command Fails

A command that fails was not sent, or its exchange broke off, or its answer was refused. What
is reported tells which: the faults of an exchange and of an answer are all fatal, and none of
them is that the counter is used up. This module derives from the six ways of execution the
four ways to fail.

## Main results

* `SecureCommand.receive_fault`, `isFatal_of_exchange` — the faults of an answer and of an
  exchange;
* `failed` — **the four ways a command can fail**, by what is reported and what is left.
-/

namespace Ev2Reader

/-- Whether reader and tag may disagree about the channel after a fault. A failure of the
transport always leaves that open. -/
def SessionFault.isFatal {ε : Type} : SessionFault ε → Bool
  | transport _ => true
  | internal fault => fault.isSessionFatal

/-- An answer is refused by a fatal fault, and not for the want of a counter value if there is one.
-/
theorem Channel.Refused.fault {c c' : Channel} {answer : Response} {protection : Protection}
    {e : Fault} (h : c.Refused answer protection e c') (hcounter : c.counter ≠ lastCounter) :
    e.isSessionFatal = true ∧ e ≠ .counterExhausted := by
  cases h with
  | exhausted _ _ hlast => exact absurd hlast hcounter
  | closed | unsuccessful | short | forged | ragged | unpadded => exact ⟨rfl, by simp⟩

namespace SecureCommand

/-- **An answer is refused with a fatal fault**, which is not that the counter is used up if
there was a value left for the answer. -/
theorem receive_fault {c : Channel} {keys : SessionKeys} (h : c.keys? = some keys)
    (hcounter : c.counter ≠ Channel.lastCounter) {command : SecureCommand} {answer : Response}
    {e : Fault} (hreceive : ((command.receive answer).run c).result = .error e) :
    e.isSessionFatal = true ∧ e ≠ .counterExhausted := by
  cases hends : command.endsSession with
  | true =>
    rw [run_receive_of_endsSession h hends] at hreceive
    dsimp only at hreceive
    split at hreceive
    · cases hreceive
    · cases hreceive
      exact ⟨rfl, by simp⟩
  | false =>
    rw [receive_of_not_endsSession hends] at hreceive
    obtain ⟨c', hrefused⟩ := Channel.refused_of_error hreceive
    exact hrefused.fault hcounter

end SecureCommand

namespace Session

open Procedure

variable {τ ε : Type} [Transport τ ε] {s : Session τ} {fault : SessionFault ε}

/-! ### Exchanges -/

/-- An exchange fails fatally, and not for the want of a counter value. -/
theorem isFatal_of_exchange {message : Bytes}
    (h : ((exchange message : SessionM τ ε Response).run s).result = .error fault) :
    fault.isFatal = true ∧ fault ≠ .internal .counterExhausted := by
  rcases exchange_fault h with ⟨failure, rfl⟩ | ⟨received, rfl⟩
  · exact ⟨rfl, by simp⟩
  · exact ⟨rfl, by simp⟩

/-! ### Commands -/

/-- **How a command can fail.** -/
inductive Failed (command : SecureCommand) (s : Session τ) :
    Outcome (Session τ) (Event ε) (SessionFault ε) Bytes → Prop where
  /-- There is no channel. -/
  | absent (hchannel : s.channel = none) :
      Failed command s ⟨.error (.internal .channelClosed), s, []⟩
  /-- The command does not fit a message. Nothing is sent, and nothing changes. -/
  | tooLong (notices : List Notice) (hfits : ¬ command.Fits) :
      Failed command s ⟨.error (.internal (.payloadTooLarge 255)), s, notices.map .note⟩
  /-- The counter is used up. Nothing is sent, and the channel is dropped. -/
  | exhausted (notices : List Notice) :
      Failed command s
        ⟨.error (.internal .counterExhausted), ⟨s.transport, none⟩, notices.map .note⟩
  /-- The command is sent and fails after that. The channel is dropped. -/
  | dropped (t : τ) (events : List (Event ε)) {fault : SessionFault ε}
      (hfatal : fault.isFatal = true) (hcounter : fault ≠ .internal .counterExhausted) :
      Failed command s ⟨.error fault, ⟨t, none⟩, events⟩

/-- Executing a command on a channel that is open ends in one of the six ways. -/
theorem executed_of_isOpen (hopen : ∀ c ∈ s.channel, c.isOpen = true) {c : Channel}
    (hchannel : s.channel = some c) (command : SecureCommand) :
    ∃ keys, c.keys? = some keys ∧
      Executed command s c ((execute command : SessionM τ ε Bytes).run s) := by
  obtain ⟨keys, hkeys⟩ := Option.isSome_iff_exists.1 (hopen c hchannel)
  exact ⟨keys, hkeys, executed hchannel hkeys command⟩

/-- **A command fails in one of the four ways** in a session whose channel, if there is one, is
open. -/
theorem failed (hopen : ∀ c ∈ s.channel, c.isOpen = true) {command : SecureCommand}
    (h : ((execute command : SessionM τ ε Bytes).run s).result = .error fault) :
    Failed command s ((execute command : SessionM τ ε Bytes).run s) := by
  cases hchannel : s.channel with
  | none =>
    rw [run_execute_none command hchannel]
    exact .absent hchannel
  | some c =>
    obtain ⟨keys, hkeys, hexecuted⟩ := executed_of_isOpen (ε := ε) hopen hchannel command
    generalize (execute command : SessionM τ ε Bytes).run s = o at h hexecuted ⊢
    cases hexecuted with
    | tooLong notices hprotect =>
      exact .tooLong notices (SecureCommand.not_fits_of_tooLarge hkeys hprotect)
    | exhausted notices => exact .exhausted notices
    | lost _ _ _ _ hexchange =>
      obtain ⟨hfatal, hcounter⟩ := isFatal_of_exchange hexchange
      exact .dropped _ _ hfatal hcounter
    | refused _ _ _ hcounter _ hreceive =>
      obtain ⟨hfatal, hexhausted⟩ := SecureCommand.receive_fault hkeys hcounter hreceive
      exact .dropped _ _ hfatal (by simpa using hexhausted)
    | ended | accepted => cases h

end Session

end Ev2Reader
