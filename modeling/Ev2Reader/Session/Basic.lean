import Ev2Reader.Handshake
import Ev2Reader.Session.Transport

/-!
# Sessions

A session is a transport and at most one secure channel. This module holds the steps that
all operations on a session are made of.

## Main results

* `run_close`, `messages_close` — closing a session leaves no channel and sends nothing;
* `run_onChannel_some` — what is done on the channel of a session is done to that channel;
* `run_transmit` — a message goes to the transport and nowhere else.
-/

namespace Ev2Reader

open Procedure

/-- A **session** over a transport. -/
structure Session (τ : Type) where
  /-- The transport. -/
  transport : τ
  /-- The secure channel, if there is one. -/
  channel : Option Channel

/-- What is done in a session. -/
abbrev SessionM (τ ε : Type) := Procedure (Session τ) (Event ε) (SessionFault ε)

namespace Session

variable {τ ε α : Type}

/-- A session that has not authenticated yet. -/
def begin (transport : τ) : Session τ :=
  ⟨transport, none⟩

/-- Ends with a fault between reader and tag. -/
def failWith (e : Fault) : SessionM τ ε α :=
  fail (.internal e)

/-- Notes something down. -/
def note (notice : Notice) : SessionM τ ε Unit :=
  record (.note notice)

/-- Ends with a result or a fault between reader and tag that is already there. -/
def require (x : Except Fault α) : SessionM τ ε α :=
  ofExcept (x.mapError .internal)

/-- Takes a step of a handshake. -/
def step (p : Handshake.StepM α) : SessionM τ ε α :=
  ⟨fun s =>
    let o := p.run ()
    ⟨o.result.mapError .internal, s, o.events.map .note⟩⟩

/-- Works on the channel, which has to be there. -/
def onChannel (p : ChannelM α) : SessionM τ ε α :=
  ⟨fun s =>
    match s.channel with
    | none => ⟨.error (.internal .channelClosed), s, []⟩
    | some c =>
      let o := p.run c
      ⟨o.result.mapError .internal, { s with channel := some o.state }, o.events.map .note⟩⟩

/-- Closes the channel, if there is one, and drops it. -/
def close : SessionM τ ε Unit :=
  ⟨fun s =>
    match s.channel with
    | none => ⟨.ok (), s, []⟩
    | some c => ⟨.ok (), { s with channel := none }, (Channel.close.run c).events.map .note⟩⟩

/-- Drops the channel if it was closed. -/
def dropClosed : SessionM τ ε Unit :=
  ⟨fun s => ⟨.ok (), { s with channel := s.channel.filter Channel.isOpen }, []⟩⟩

/-- Sends a message and waits for the answer. -/
def transmit [Transport τ ε] (message : Bytes) : SessionM τ ε Response :=
  ⟨fun s =>
    let (answer, transport) := Transport.transmit s.transport message
    ⟨answer.mapError .transport, { s with transport }, [.exchange message answer]⟩⟩

/-! ### What the steps do -/

/-- Noting something down leaves the session as it is. -/
@[simp] theorem run_note (notice : Notice) (s : Session τ) :
    (note notice : SessionM τ ε Unit).run s = ⟨.ok (), s, [.note notice]⟩ := rfl

/-- Failing leaves the session as it is. -/
@[simp] theorem run_failWith (e : Fault) (s : Session τ) :
    (failWith e : SessionM τ ε α).run s = ⟨.error (.internal e), s, []⟩ := rfl

/-- What is already there leaves the session as it is. -/
@[simp] theorem run_require (x : Except Fault α) (s : Session τ) :
    (require x : SessionM τ ε α).run s = ⟨x.mapError .internal, s, []⟩ := rfl

/-- A step of a handshake leaves the session as it is. -/
theorem run_step (p : Handshake.StepM α) (s : Session τ) :
    (step p : SessionM τ ε α).run s =
      ⟨(p.run ()).result.mapError .internal, s, (p.run ()).events.map .note⟩ := rfl

/-- **What is done on the channel** is done to nothing else. -/
theorem run_onChannel_some (p : ChannelM α) {s : Session τ} {c : Channel}
    (h : s.channel = some c) :
    (onChannel p : SessionM τ ε α).run s =
      ⟨(p.run c).result.mapError .internal, { s with channel := some (p.run c).state },
        (p.run c).events.map .note⟩ := by
  simp [onChannel, h]

/-- **Closing a session leaves no channel** and the transport as it is. -/
theorem run_close (s : Session τ) :
    (close : SessionM τ ε Unit).run s =
      ⟨.ok (), ⟨s.transport, none⟩, ((close : SessionM τ ε Unit).run s).events⟩ := by
  obtain ⟨transport, channel⟩ := s
  cases channel <;> rfl

/-- Closing a session sends nothing. -/
theorem messages_close (s : Session τ) :
    Event.messages ((close : SessionM τ ε Unit).run s).events = [] := by
  obtain ⟨transport, channel⟩ := s
  cases channel with
  | none => rfl
  | some c => exact Event.messages_map_note _

/-- A message goes to the transport and nowhere else. -/
theorem run_transmit [Transport τ ε] (message : Bytes) (s : Session τ) :
    (transmit message : SessionM τ ε Response).run s =
      ⟨(Transport.transmit s.transport message).1.mapError .transport,
        ⟨(Transport.transmit s.transport message).2, s.channel⟩,
        [.exchange message (Transport.transmit s.transport message).1]⟩ := rfl

end Session

end Ev2Reader
