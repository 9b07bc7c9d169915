import Ev2Reader.Proofs.Session.Execution

/-!
# Chained Answers

An answer in frames is read as if it had come in one: what is reported, and what becomes of the
channel, depends on the last status and the joined data only. What the transport can do instead
is to fail, or to promise one frame too many, and then the channel is dropped.

## Main results

* `chained_of_yields` — what a command comes to, by what the transport brings;
* `chaining` — **chaining is transparent and bounded**, whatever the transport does and however
  an answer is cut.
-/

namespace Ev2Reader.Session

open Procedure Transport

variable {τ ε : Type}

/-- **What a command comes to** on the channel `c` when its message is answered by pieces of data
and an ending, which leave the transport in `t'`. -/
structure Chained (command : SecureCommand) (c : Channel) (message : Bytes)
    (pieces : List Bytes) (ending : Ending ε) (t' : τ)
    (o : Outcome (Session τ) (Event ε) (SessionFault ε) Bytes) : Prop where
  /-- The message is sent once, and then every further answer is asked for. -/
  messages : Event.messages o.events = message ::
    List.replicate (pieces.length + ending.count - 1) Apdu.additionalFrameRequest
  /-- No more than sixteen messages are sent. -/
  length_messages : (Event.messages o.events).length ≤ 16
  /-- The transport is left where the ending left it. -/
  transport : o.state.transport = t'
  /-- An answer with a last frame is read as one frame with all the data. A channel that this
  closes is dropped. -/
  last : ∀ frame, ending = .last frame →
    let received := (command.receive ⟨frame.status, pieces.flatten ++ frame.data⟩).run c
    o.result = received.result.mapError .internal ∧
      o.state.channel = (some received.state).filter Channel.isOpen
  /-- A failure is passed on, and the channel is dropped. -/
  broken : ∀ failure, ending = .broken failure →
    o.result = .error (.transport failure) ∧ o.state.channel = none
  /-- Sixteen promises are refused with the length of all their data, and the channel is
  dropped. -/
  endless : ending = .endless →
    pieces.length = 16 ∧
      o.result = .error (.internal (.protocolViolation
        (.responseLength pieces.flatten.length))) ∧
      o.state.channel = none

variable [Transport τ ε] {s : Session τ} {c : Channel} {command : SecureCommand}
  {message : Bytes} {notices : List Notice} {pieces : List Bytes} {t' : τ}

/-- A command whose answer has a last frame is read from the joined data. -/
theorem run_execute_of_last (hchannel : s.channel = some c)
    (hprotect : command.protect.run c = ⟨.ok message, c, notices⟩) {frame : Response}
    (h : Yields maxFrames s.transport message pieces (.last frame : Ending ε) t') :
    let received := (command.receive ⟨frame.status, pieces.flatten ++ frame.data⟩).run c
    ∃ events : List (Event ε),
      (execute command : SessionM τ ε Bytes).run s =
        ⟨received.result.mapError .internal,
          ⟨t', (some received.state).filter Channel.isOpen⟩, events⟩ ∧
      Event.messages events = message ::
        List.replicate (pieces.length + 1 - 1) Apdu.additionalFrameRequest := by
  intro received
  obtain ⟨events, hexchange, hmessages⟩ := run_exchange_of_yields h
  refine ⟨_, run_execute_of_answer hchannel hprotect hexchange, ?_⟩
  simp only [Event.messages_append, Event.messages_map_note, List.nil_append, List.append_nil]
  exact hmessages

/-- A command whose answer has no last frame fails and drops the channel. -/
theorem run_execute_of_fault (hchannel : s.channel = some c)
    (hprotect : command.protect.run c = ⟨.ok message, c, notices⟩) {ending : Ending ε}
    (h : Yields maxFrames s.transport message pieces ending t') {fault : SessionFault ε}
    (hfault : ending.answer pieces.flatten = .error fault) :
    ∃ events : List (Event ε),
      (execute command : SessionM τ ε Bytes).run s = ⟨.error fault, ⟨t', none⟩, events⟩ ∧
      Event.messages events = message ::
        List.replicate (pieces.length + ending.count - 1) Apdu.additionalFrameRequest := by
  obtain ⟨events, hexchange, hmessages⟩ := run_exchange_of_yields h
  rw [hfault] at hexchange
  refine ⟨_, run_execute_of_failure hchannel hprotect hexchange, ?_⟩
  simp only [Event.messages_append, Event.messages_map_note, List.nil_append, List.append_nil]
  exact hmessages

/-- **What a command comes to** follows from what the transport brings. -/
theorem chained_of_yields (hchannel : s.channel = some c)
    (hprotect : command.protect.run c = ⟨.ok message, c, notices⟩) {ending : Ending ε}
    (h : Yields maxFrames s.transport message pieces ending t') :
    Chained command c message pieces ending t'
      ((execute command : SessionM τ ε Bytes).run s) := by
  have hcount : pieces.length + ending.count ≤ 16 := h.count_le
  have hlength (sent : List Bytes) (hsent : sent = message ::
      List.replicate (pieces.length + ending.count - 1) Apdu.additionalFrameRequest) :
      sent.length ≤ 16 := by
    rw [hsent, List.length_cons, List.length_replicate]
    omega
  cases ending with
  | last frame =>
    obtain ⟨events, hrun, hmessages⟩ := run_execute_of_last hchannel hprotect h
    rw [hrun]
    refine ⟨hmessages, hlength _ hmessages, rfl, ?_, (fun _ heq => nomatch heq),
      fun heq => nomatch heq⟩
    intro frame' heq
    cases heq
    exact ⟨rfl, rfl⟩
  | broken failure =>
    obtain ⟨events, hrun, hmessages⟩ := run_execute_of_fault hchannel hprotect h rfl
    rw [hrun]
    refine ⟨hmessages, hlength _ hmessages, rfl, (fun _ heq => nomatch heq), ?_,
      fun heq => nomatch heq⟩
    intro failure' heq
    cases heq
    exact ⟨rfl, rfl⟩
  | endless =>
    obtain ⟨events, hrun, hmessages⟩ := run_execute_of_fault hchannel hprotect h rfl
    have hpieces : pieces.length = 16 := h.length_of_endless
    rw [hrun]
    exact ⟨hmessages, hlength _ hmessages, rfl, (fun _ heq => nomatch heq),
      (fun _ heq => nomatch heq), fun _ => ⟨hpieces, rfl, rfl⟩⟩

/-- **Chaining is transparent and bounded.** A command that has a message on an open channel is
told by what the transport brings in answer to it, and the transport brings something; and two
answers of the same data and the same last status, however each is cut, leave the same. -/
theorem chaining (hchannel : s.channel = some c) (hopen : c.isOpen = true)
    (hprotect : (command.protect.run c).result = .ok message) :
    (∃ pieces, ∃ ending : Ending ε, ∃ t',
      Yields maxFrames s.transport message pieces ending t') ∧
    (∀ pieces (ending : Ending ε) t', Yields maxFrames s.transport message pieces ending t' →
      Chained command c message pieces ending t'
        ((execute command : SessionM τ ε Bytes).run s)) ∧
    ∀ s' : Session τ, s'.channel = some c → ∀ pieces pieces' frame frame' t' t'',
      Yields maxFrames s.transport message pieces (.last frame : Ending ε) t' →
      Yields maxFrames s'.transport message pieces' (.last frame' : Ending ε) t'' →
      frame.status = frame'.status →
      pieces.flatten ++ frame.data = pieces'.flatten ++ frame'.data →
      ((execute command : SessionM τ ε Bytes).run s).result =
          ((execute command : SessionM τ ε Bytes).run s').result ∧
        ((execute command : SessionM τ ε Bytes).run s).state.channel =
          ((execute command : SessionM τ ε Bytes).run s').state.channel := by
  obtain ⟨keys, hkeys⟩ := Option.isSome_iff_exists.1 hopen
  obtain ⟨rfl, hcounter, hfits⟩ := SecureCommand.of_protect_ok hkeys hprotect
  obtain ⟨notices, hrun⟩ := SecureCommand.protect_of_fits hkeys hcounter hfits
  refine ⟨exists_yields _ _ _, fun _ _ _ => chained_of_yields hchannel hrun, ?_⟩
  intro s' hchannel' pieces pieces' frame frame' t' t'' h h' hstatus hdata
  have hreceived := (chained_of_yields hchannel hrun h).last frame rfl
  have hreceived' := (chained_of_yields hchannel' hrun h').last frame' rfl
  rw [hstatus, hdata] at hreceived
  exact ⟨hreceived.1.trans hreceived'.1.symm, hreceived.2.trans hreceived'.2.symm⟩

/-- The identifier of a tag in three frames, one of them empty, and in a single one. -/
theorem chaining_cardUid :
    let keys : SessionKeys := ⟨.zero, Block.ofFn UInt8.ofNat⟩
    let c : Channel := ⟨2, ⟨0x0A, 0x0B, 0x0C, 0x0D⟩, 7, .authenticated keys⟩
    let command := SecureCommand.cardUid
    let message := command.message keys c.transactionId c.counter
    let uid : Bytes := [0x04, 0x1E, 0x3C, 0x8A, 0x2D, 0x6B, 0x80]
    let answer := command.answer keys c.transactionId 8 .operationOk uid
    let pieces : List Bytes := [answer.data.take 5, []]
    let last : Response := ⟨.operationOk, answer.data.drop 5⟩
    let s : Session Script := ⟨⟨pieces.map (Response.mk .additionalFrame) ++ [last]⟩, some c⟩
    let s' : Session Script := ⟨⟨[answer]⟩, some c⟩
    (s.channel = some c ∧ c.isOpen = true ∧ (command.protect.run c).result = .ok message) ∧
      Chained command c message pieces (.last last) ⟨[]⟩
        ((execute command : SessionM Script Unit Bytes).run s) ∧
      ((execute command : SessionM Script Unit Bytes).run s).result =
        ((execute command : SessionM Script Unit Bytes).run s').result ∧
      ((execute command : SessionM Script Unit Bytes).run s).state.channel =
        ((execute command : SessionM Script Unit Bytes).run s').state.channel := by
  intro keys c command message uid answer pieces last s s'
  have hfits : (command.field keys c.transactionId c.counter).length ≤ 255 := by
    rw [SecureCommand.field, Channel.length_field]
    decide
  obtain ⟨notices, hrun⟩ := SecureCommand.protect_of_fits (c := c) rfl (by decide) hfits
  have hprotect : (command.protect.run c).result = .ok message := by rw [hrun]
  have hcut (data : Bytes) : [data.take 5, []].flatten ++ data.drop 5 = [].flatten ++ data := by
    simp
  have hfinal : StatusWord.operationOk ≠ .additionalFrame := by decide
  have hframes : Yields maxFrames s.transport message pieces (.last last : Ending Unit) ⟨[]⟩ :=
    .more rfl (.more rfl (.last rfl hfinal))
  have hframe : Yields maxFrames s'.transport message [] (.last answer : Ending Unit) ⟨[]⟩ :=
    .last rfl hfinal
  obtain ⟨-, hchained, halike⟩ := chaining (s := s) (c := c) rfl rfl hprotect
  exact ⟨⟨rfl, rfl, hprotect⟩, hchained _ _ _ hframes,
    halike s' rfl _ _ _ _ _ _ hframes hframe rfl (hcut answer.data)⟩

end Ev2Reader.Session
