import Ev2Reader.Proofs.Channel.Answer
import Ev2Reader.Proofs.Session.Frames

/-!
# The Execution of a Command

Executing a command on an open channel can end in six ways, and this module says once what
each of them does to the session: what was handed to the transport, what channel is left and
what is reported. Everything that holds of all runs of a session is derived from this list.

## Main results

* `run_protect_fatal`, `run_exchangeFor_failed`, `run_receive_some` — what the steps of a command
  leave;
* `run_execute_unsent_fatal`, `run_execute_unsent` — what becomes of a command that is not sent;
* `run_execute_of_answer`, `run_execute_of_failure` — what a command that is sent comes to, by
  what comes of its exchange;
* `executed` — **the six ways a command can be executed**.
-/

namespace Ev2Reader

/-- An outcome with a known result. -/
theorem Outcome.eq_of_result {σ ω ε α : Type} {o : Outcome σ ω ε α} {x : Except ε α}
    (h : o.result = x) : o = ⟨x, o.state, o.events⟩ := by
  cases h
  rfl

/-- Mapping a value keeps the fault. -/
theorem map_eq_error_iff {ε α β : Type} {x : Except ε α} {f : α → β} {e : ε} :
    x.map f = .error e ↔ x = .error e := by
  cases x <;> simp [Except.map]

/-- Going on with a value alone maps the result and nothing else. -/
theorem Procedure.andThen_pure {σ ω ε α β : Type} (o : Outcome σ ω ε α) (f : α → β) :
    andThen o (fun a => pure (f a)) = ⟨o.result.map f, o.state, o.events⟩ := by
  obtain ⟨e | a, s, events⟩ := o
  · rfl
  · rw [andThen_ok, run_pure, List.append_nil]
    rfl

namespace Session

open Procedure

variable {τ ε : Type}

/-! ### Before and after the exchange -/

variable {s : Session τ} {c c' : Channel} {command : SecureCommand} {notices : List Notice}

/-- Putting the channel of a session back changes nothing. -/
theorem with_channel (h : s.channel = some c) : { s with channel := some c } = s := by
  rw [← h]

/-- A command that is protected leaves a session whose channel is unchanged as it was. -/
theorem run_protect_of_ok (h : s.channel = some c) {message : Bytes}
    (hprotect : command.protect.run c = ⟨.ok message, c, notices⟩) :
    (protect command : SessionM τ ε Bytes).run s = ⟨.ok message, s, notices.map .note⟩ := by
  have hrun := run_onChannel_some (τ := τ) (ε := ε) command.protect h
  rw [hprotect, with_channel h] at hrun
  simp [protect, hrun]

/-- A fatal fault is noted and drops the channel. -/
theorem run_protect_fatal (h : s.channel = some c) {e : Fault}
    (hprotect : command.protect.run c = ⟨.error e, c', notices⟩)
    (hfatal : e.isSessionFatal = true) :
    (protect command : SessionM τ ε Bytes).run s =
      ⟨.error (.internal e), ⟨s.transport, none⟩,
        (notices ++ .commandNotSent command.ins e :: (Channel.close.run c').events).map .note⟩ := by
  have hrun := run_onChannel_some (τ := τ) (ε := ε) command.protect h
  rw [hprotect] at hrun
  simp [protect, hrun, hfatal, close]

/-- Any other fault leaves the channel as it is. -/
theorem run_protect_of_harmless (h : s.channel = some c) {e : Fault}
    (hprotect : command.protect.run c = ⟨.error e, c, notices⟩)
    (hfatal : e.isSessionFatal = false) :
    (protect command : SessionM τ ε Bytes).run s =
      ⟨.error (.internal e), s, notices.map .note⟩ := by
  have hrun := run_onChannel_some (τ := τ) (ε := ε) command.protect h
  rw [hprotect, with_channel h] at hrun
  simp [protect, hrun, hfatal]

/-- Reading the answer leaves the channel if it is still open. -/
theorem run_receive_some (h : s.channel = some c) {answer : Response}
    {result : Except Fault Bytes}
    (hreceive : (command.receive answer).run c = ⟨result, c', notices⟩) :
    (receive command answer : SessionM τ ε Bytes).run s =
      ⟨result.mapError .internal, ⟨s.transport, (some c').filter Channel.isOpen⟩,
        notices.map .note⟩ := by
  simp [receive, run_onChannel_some _ h, hreceive, dropClosed]

/-- A closed channel is dropped. -/
theorem filter_isOpen_of_closed (h : c.keys? = none) :
    (some c).filter Channel.isOpen = none := by
  simp [Option.filter, Channel.isOpen, h]

/-- An open channel is kept. -/
theorem filter_isOpen_of_open {keys : SessionKeys} (h : c.keys? = some keys) :
    (some c).filter Channel.isOpen = some c := by
  simp [Option.filter, Channel.isOpen, h]

variable [Transport τ ε]

/-- Nothing is added to an exchange that succeeds. -/
theorem run_exchangeFor_of_ok {message : Bytes} {answer : Response}
    (h : ((exchange message : SessionM τ ε Response).run s).result = .ok answer) :
    (exchangeFor command message : SessionM τ ε Response).run s =
      (exchange message : SessionM τ ε Response).run s := by
  rw [Outcome.eq_of_result h]
  simp [exchangeFor, h]

/-- A failed exchange is noted and closes the channel. -/
theorem run_exchangeFor_failed {message : Bytes} {fault : SessionFault ε} {s' : Session τ}
    {events : List (Event ε)}
    (h : (exchange message : SessionM τ ε Response).run s = ⟨.error fault, s', events⟩) :
    (exchangeFor command message : SessionM τ ε Response).run s =
      ⟨.error fault, ⟨s'.transport, none⟩, events ++ .note (.exchangeFailed command.ins) ::
        ((close : SessionM τ ε Unit).run s').events⟩ := by
  obtain ⟨transport, channel⟩ := s'
  cases channel <;> simp [exchangeFor, h, close]

/-! ### The whole of a command -/

/-- **What executing a command comes to** in a session with the channel `c`. -/
inductive Executed (command : SecureCommand) (s : Session τ) (c : Channel) :
    Outcome (Session τ) (Event ε) (SessionFault ε) Bytes → Prop where
  /-- The command is too long. Nothing is sent, and nothing changes. -/
  | tooLong (notices : List Notice)
      (hprotect : (command.protect.run c).result = .error (.payloadTooLarge 255)) :
      Executed command s c
        ⟨.error (.internal (.payloadTooLarge 255)), s, notices.map .note⟩
  /-- The counter is used up. Nothing is sent, and the channel is dropped. -/
  | exhausted (notices : List Notice)
      (hprotect : (command.protect.run c).result = .error .counterExhausted) :
      Executed command s c
        ⟨.error (.internal .counterExhausted), ⟨s.transport, none⟩, notices.map .note⟩
  /-- No complete answer comes. The channel is dropped. -/
  | lost (before after : List Notice) {message : Bytes} {fault : SessionFault ε}
      (hprotect : (command.protect.run c).result = .ok message)
      (hcounter : c.counter ≠ Channel.lastCounter)
      (hexchange : ((exchange message : SessionM τ ε Response).run s).result = .error fault) :
      Executed command s c
        ⟨.error fault,
          ⟨((exchange message : SessionM τ ε Response).run s).state.transport, none⟩,
          before.map .note ++ (((exchange message : SessionM τ ε Response).run s).events ++
            after.map .note)⟩
  /-- The answer is refused. The channel is dropped. -/
  | refused (before after : List Notice) {message : Bytes} {answer : Response} {e : Fault}
      (hprotect : (command.protect.run c).result = .ok message)
      (hcounter : c.counter ≠ Channel.lastCounter)
      (hexchange : ((exchange message : SessionM τ ε Response).run s).result = .ok answer)
      (hreceive : ((command.receive answer).run c).result = .error e) :
      Executed command s c
        ⟨.error (.internal e),
          ⟨((exchange message : SessionM τ ε Response).run s).state.transport, none⟩,
          before.map .note ++ (((exchange message : SessionM τ ε Response).run s).events ++
            after.map .note)⟩
  /-- The command ends the session. The channel is dropped. -/
  | ended (before after : List Notice) {message : Bytes} {answer : Response}
      (hprotect : (command.protect.run c).result = .ok message)
      (hcounter : c.counter ≠ Channel.lastCounter)
      (hexchange : ((exchange message : SessionM τ ε Response).run s).result = .ok answer)
      (hends : command.endsSession = true) :
      Executed command s c
        ⟨.ok [],
          ⟨((exchange message : SessionM τ ε Response).run s).state.transport, none⟩,
          before.map .note ++ (((exchange message : SessionM τ ε Response).run s).events ++
            after.map .note)⟩
  /-- The answer is accepted. The channel stays, at the next counter. -/
  | accepted (before after : List Notice) {message : Bytes} {answer : Response} {data : Bytes}
      (hprotect : (command.protect.run c).result = .ok message)
      (hcounter : c.counter ≠ Channel.lastCounter)
      (hexchange : ((exchange message : SessionM τ ε Response).run s).result = .ok answer)
      (hends : command.endsSession = false)
      (haccepted : c.Accepted answer command.protection data) :
      Executed command s c
        ⟨.ok data,
          ⟨((exchange message : SessionM τ ε Response).run s).state.transport, some c.next⟩,
          before.map .note ++ (((exchange message : SessionM τ ε Response).run s).events ++
            after.map .note)⟩

/-- With a channel, executing is protecting, exchanging and reading the answer. -/
theorem run_execute_some (h : s.channel = some c) :
    (execute command : SessionM τ ε Bytes).run s =
      (do
        let message ← protect command
        let answer ← exchangeFor command message
        receive command answer : SessionM τ ε Bytes).run s := by
  rw [execute]
  simp [h]

/-- **A command that is not sent** for a fatal fault drops the channel. -/
theorem run_execute_unsent_fatal (h : s.channel = some c) {e : Fault}
    (hprotect : command.protect.run c = ⟨.error e, c', notices⟩)
    (hfatal : e.isSessionFatal = true) :
    (execute command : SessionM τ ε Bytes).run s =
      ⟨.error (.internal e), ⟨s.transport, none⟩,
        (notices ++ .commandNotSent command.ins e :: (Channel.close.run c').events).map .note⟩ := by
  rw [run_execute_some h, run_bind_of_error (run_protect_fatal h hprotect hfatal)]

/-- A command that is not sent for any other fault changes nothing. -/
theorem run_execute_unsent (h : s.channel = some c) {e : Fault}
    (hprotect : command.protect.run c = ⟨.error e, c, notices⟩)
    (hfatal : e.isSessionFatal = false) :
    (execute command : SessionM τ ε Bytes).run s =
      ⟨.error (.internal e), s, notices.map .note⟩ := by
  rw [run_execute_some h, run_bind_of_error (run_protect_of_harmless h hprotect hfatal)]

/-- The events of an exchange leave the channel alone. -/
theorem channel_of_exchange {message : Bytes} {x : Except (SessionFault ε) Response}
    {s' : Session τ} {events : List (Event ε)}
    (hexchange : (exchange message : SessionM τ ε Response).run s = ⟨x, s', events⟩) :
    s'.channel = s.channel := by
  have hchannel := (exchange_spec (ε := ε) message s).1
  rwa [hexchange] at hchannel

/-- **A command that is answered** comes to what its answer is read as. -/
theorem run_execute_of_answer (h : s.channel = some c) {message : Bytes}
    (hprotect : command.protect.run c = ⟨.ok message, c, notices⟩) {answer : Response}
    {s' : Session τ} {events : List (Event ε)}
    (hexchange : (exchange message : SessionM τ ε Response).run s = ⟨.ok answer, s', events⟩) :
    let received := (command.receive answer).run c
    (execute command : SessionM τ ε Bytes).run s =
      ⟨received.result.mapError .internal,
        ⟨s'.transport, (some received.state).filter Channel.isOpen⟩,
        notices.map .note ++ (events ++ received.events.map .note)⟩ := by
  have hchannel := (channel_of_exchange hexchange).trans h
  rw [run_execute_some h, run_bind, run_protect_of_ok h hprotect, andThen_ok, run_bind,
    run_exchangeFor_of_ok (congrArg Outcome.result hexchange), hexchange, andThen_ok,
    run_receive_some hchannel rfl]

/-- **A command that is not answered** closes the channel. -/
theorem run_execute_of_failure (h : s.channel = some c) {message : Bytes}
    (hprotect : command.protect.run c = ⟨.ok message, c, notices⟩) {fault : SessionFault ε}
    {s' : Session τ} {events : List (Event ε)}
    (hexchange : (exchange message : SessionM τ ε Response).run s = ⟨.error fault, s', events⟩) :
    (execute command : SessionM τ ε Bytes).run s =
      ⟨.error fault, ⟨s'.transport, none⟩, notices.map .note ++ (events ++
        (.exchangeFailed command.ins :: (Channel.close.run c).events).map .note)⟩ := by
  obtain ⟨t, channel⟩ := s'
  obtain rfl : channel = some c := (channel_of_exchange hexchange).trans h
  rw [run_execute_some h, run_bind, run_protect_of_ok h hprotect, andThen_ok, run_bind,
    run_exchangeFor_failed hexchange, andThen_error]
  rfl

/-- **A command that is protected** is sent, and ends in one of the four ways of a command that is
sent: its exchange fails, or its answer is refused, ends the session or is accepted. -/
theorem executed_of_protected (h : s.channel = some c) {keys : SessionKeys}
    (hkeys : c.keys? = some keys) {message : Bytes}
    (hprotect : command.protect.run c = ⟨.ok message, c, notices⟩)
    (hcounter : c.counter ≠ Channel.lastCounter) :
    Executed command s c ((execute command : SessionM τ ε Bytes).run s) := by
  have hresult : (command.protect.run c).result = .ok message := by rw [hprotect]
  cases hexchange : ((exchange message : SessionM τ ε Response).run s).result with
  | error fault =>
    rw [run_execute_of_failure h hprotect (Outcome.eq_of_result hexchange)]
    exact .lost notices _ hresult hcounter hexchange
  | ok answer =>
    rw [run_execute_of_answer h hprotect (Outcome.eq_of_result hexchange)]
    rcases SecureCommand.receive_cases hkeys command answer with
      ⟨e, c', after, hreceive, hclosed⟩ | ⟨hends, after, hreceive⟩ |
      ⟨hends, -, data, after, hreceive, haccepted⟩
    · rw [hreceive, filter_isOpen_of_closed hclosed]
      exact .refused notices after hresult hcounter hexchange (by rw [hreceive])
    · rw [hreceive, filter_isOpen_of_closed rfl]
      exact .ended notices after hresult hcounter hexchange hends
    · have hopen : c.next.keys? = some keys := hkeys
      rw [hreceive, filter_isOpen_of_open hopen]
      exact .accepted notices after hresult hcounter hexchange hends haccepted

/-- **Executing a command** on an open channel ends in one of the six ways. -/
theorem executed (h : s.channel = some c) {keys : SessionKeys} (hkeys : c.keys? = some keys)
    (command : SecureCommand) :
    Executed command s c ((execute command : SessionM τ ε Bytes).run s) := by
  rcases Channel.protect_cases hkeys command.protection command.ins command.header
    command.data with ⟨notices, hrun, -⟩ | ⟨notices, hrun, -⟩ | ⟨notices, hrun, hcounter, -⟩
  · have hprotect : command.protect.run c = ⟨.error (.payloadTooLarge 255), c, notices⟩ := hrun
    rw [run_execute_unsent h hprotect rfl]
    exact .tooLong notices (by rw [hprotect])
  · have hprotect : command.protect.run c = ⟨.error .counterExhausted, c.shut, notices⟩ := hrun
    rw [run_execute_unsent_fatal h hprotect rfl]
    exact .exhausted _ (by rw [hprotect])
  · exact executed_of_protected h hkeys hrun hcounter

end Session

/-! ### Fixed answers -/

/-- A transport whose answers are fixed beforehand. After the last of them it fails. -/
structure Script where
  /-- The answers that are still to come. -/
  answers : List Response

/-- A script ignores what is sent, and gives its answers in their order. -/
instance : Transport Script Unit where
  transmit
    | ⟨[]⟩, _ => (.error (), ⟨[]⟩)
    | ⟨answer :: answers⟩, _ => (.ok answer, ⟨answers⟩)

end Ev2Reader
