import Ev2Reader.Proofs.Channel.Peer
import Ev2Reader.Proofs.Session.Execution

/-!
# Round Trips

A command goes to a peer that holds the same keys, and its answer comes back in frames. This
module proves that the reader gets what the peer answered, however the answer is cut, and
the peer what the reader sent.

## Main results

* `run_exchange_of_delivers` — collecting the frames of an answer joins them again, and each
  frame after the first is asked for once;
* `execute_of_delivers` — **the round trip of a command**.
-/

namespace Ev2Reader

/-- **A transport brings an answer in frames:** pieces of its data, each with the promise of
another frame, and then the last one with its status. The first frame answers a message, and
each further one a request. -/
inductive Transport.Delivers {τ ε : Type} [Transport τ ε] (last : Response) :
    τ → Bytes → List Bytes → τ → Prop where
  /-- The last frame answers the message. -/
  | last {t t' : τ} {message : Bytes} (hframe : Transport.transmit t message = (.ok last, t')) :
      Delivers last t message [] t'
  /-- A piece answers the message, and the rest is asked for. -/
  | more {t t' t'' : τ} {message piece : Bytes} {pieces : List Bytes}
      (hframe : Transport.transmit t message = (.ok ⟨.additionalFrame, piece⟩, t'))
      (hrest : Delivers last t' Apdu.additionalFrameRequest pieces t'') :
      Delivers last t message (piece :: pieces) t''

/-- What is delivered is what the transport brings, if it is not more than is taken. -/
theorem Transport.Delivers.yields {τ ε : Type} [Transport τ ε] {last : Response}
    (hlast : last.status ≠ .additionalFrame) {t t' : τ} {message : Bytes} {pieces : List Bytes}
    (h : Delivers last t message pieces t') {most : Nat} (hcount : pieces.length < most) :
    Yields most t message pieces (.last last) t' := by
  induction h generalizing most with
  | last hframe =>
    obtain ⟨most, rfl⟩ := Nat.exists_eq_succ_of_ne_zero (Nat.ne_of_gt hcount)
    exact .last hframe hlast
  | more hframe _ ih =>
    obtain ⟨most, rfl⟩ := Nat.exists_eq_succ_of_ne_zero (Nat.ne_zero_of_lt hcount)
    exact .more hframe (ih (Nat.lt_of_succ_lt_succ hcount))

namespace Session

open Procedure

variable {τ ε : Type} [Transport τ ε]

/-- **An exchange joins the frames of its answer**, and asks for each frame after the first. -/
theorem run_exchange_of_delivers {pieces : List Bytes} {last : Response}
    (hlast : last.status ≠ .additionalFrame) (hcount : pieces.length < maxFrames)
    {message : Bytes} {s : Session τ} {t' : τ}
    (h : Transport.Delivers last s.transport message pieces t') :
    ∃ events, (exchange message : SessionM τ ε Response).run s =
        ⟨.ok ⟨last.status, pieces.flatten ++ last.data⟩, ⟨t', s.channel⟩, events⟩ ∧
      Event.messages events =
        message :: List.replicate pieces.length Apdu.additionalFrameRequest :=
  run_exchange_of_yields (h.yields hlast hcount)

/-- **The round trip of a command** on an open channel: the answer of a peer with the same
keys, cut into at most sixteen frames, gives the data that the peer put into it and moves the
channel on; what was sent is the protected command and a request for each further frame; and
the peer reads the command from it. -/
theorem execute_of_delivers {s : Session τ} {c : Channel} (hchannel : s.channel = some c)
    {keys : SessionKeys} (hkeys : c.keys? = some keys) (hcounter : c.counter ≠ Channel.lastCounter)
    {command : SecureCommand} (hends : command.endsSession = false)
    (hfits : (command.field keys c.transactionId c.counter).length ≤ 255)
    {data : Bytes} {pieces : List Bytes} {last : Response} (hstatus : last.status.isSuccess = true)
    (hcut : pieces.flatten ++ last.data =
      (command.answer keys c.transactionId (c.counter + 1) last.status data).data)
    (hcount : pieces.length < maxFrames) {t' : τ}
    (hdelivers : Transport.Delivers last s.transport
      (command.message keys c.transactionId c.counter) pieces t') :
    ∃ message events,
      (command.protect.run c).result = .ok message ∧
      (execute command : SessionM τ ε Bytes).run s = ⟨.ok data, ⟨t', some c.next⟩, events⟩ ∧
      Event.messages events =
        message :: List.replicate pieces.length Apdu.additionalFrameRequest ∧
      readCommand? keys c.transactionId c.counter command.protection command.header.length
        message = some (command.ins, command.header, command.data) := by
  obtain ⟨notices, hprotect⟩ := SecureCommand.protect_of_fits hkeys hcounter hfits
  have hresult : (command.protect.run c).result =
      .ok (command.message keys c.transactionId c.counter) := by rw [hprotect]
  have hlast : last.status ≠ .additionalFrame := by
    intro heq
    rw [heq, StatusWord.isSuccess_additionalFrame] at hstatus
    cases hstatus
  obtain ⟨events, hexchange, hmessages⟩ := run_exchange_of_delivers hlast hcount hdelivers
  have hsuccess : (Response.mk last.status (pieces.flatten ++ last.data)).status.isSuccess = true :=
    hstatus
  have hcoded : c.Coded keys ⟨last.status, pieces.flatten ++ last.data⟩ (command.protection.wrap
      keys .response c.transactionId c.next.counter data) := hcut
  have hreceive := Channel.run_readAnswer_of_coded hkeys command.protection hsuccess hcounter
    hcoded
  rw [← SecureCommand.receive_of_not_endsSession hends, Protection.unwrap_wrap] at hreceive
  have hexchanged : ((exchange (command.message keys c.transactionId c.counter) :
      SessionM τ ε Response).run s).result = .ok ⟨last.status, pieces.flatten ++ last.data⟩ := by
    rw [hexchange]
  have hopen : c.next.keys? = some keys := hkeys
  obtain ⟨after, hexecute⟩ : ∃ after : List Notice,
      (execute command : SessionM τ ε Bytes).run s = ⟨.ok data, ⟨t', some c.next⟩,
        notices.map .note ++ (events ++ after.map .note)⟩ := by
    rw [run_execute_some hchannel, run_bind, run_protect_of_ok hchannel hprotect, andThen_ok,
      run_bind, run_exchangeFor_of_ok hexchanged, hexchange, andThen_ok,
      run_receive_some (s := ⟨t', s.channel⟩) hchannel hreceive, filter_isOpen_of_open hopen]
    exact ⟨_, rfl⟩
  refine ⟨_, _, hresult, hexecute, ?_, readCommand?_protected hkeys hresult⟩
  simp [hmessages]

/-- The identifier of a tag in three frames, the second of them empty. -/
theorem execute_cardUid_in_three_frames :
    let keys : SessionKeys := ⟨.zero, Block.ofFn UInt8.ofNat⟩
    let c : Channel := ⟨2, ⟨0x0A, 0x0B, 0x0C, 0x0D⟩, 7, .authenticated keys⟩
    let command := SecureCommand.cardUid
    let uid : Bytes := [0x04, 0x1E, 0x3C, 0x8A, 0x2D, 0x6B, 0x80]
    let answer := command.answer keys c.transactionId 8 .operationOk uid
    let pieces := [answer.data.take 11, []]
    let last : Response := ⟨.operationOk, answer.data.drop 11⟩
    let s : Session Script := ⟨⟨pieces.map (Response.mk .additionalFrame) ++ [last]⟩, some c⟩
    (c.keys? = some keys ∧ c.counter ≠ Channel.lastCounter ∧ command.endsSession = false ∧
      (command.field keys c.transactionId c.counter).length ≤ 255 ∧
      last.status.isSuccess = true ∧ pieces.flatten ++ last.data = answer.data ∧
      pieces.length < maxFrames ∧
      Transport.Delivers last s.transport (command.message keys c.transactionId c.counter) pieces
        ⟨[]⟩) ∧
    ∃ message events,
      (command.protect.run c).result = .ok message ∧
      (execute command : SessionM Script Unit Bytes).run s =
        ⟨.ok uid, ⟨⟨[]⟩, some c.next⟩, events⟩ ∧
      Event.messages events = [message, Apdu.additionalFrameRequest, Apdu.additionalFrameRequest] ∧
      readCommand? keys c.transactionId c.counter command.protection command.header.length
        message = some (command.ins, command.header, command.data) := by
  intro keys c command uid answer pieces last s
  have hcut : pieces.flatten ++ last.data = answer.data := by
    simp [pieces, last]
  have hdelivers : Transport.Delivers last s.transport
      (command.message keys c.transactionId c.counter) pieces ⟨[]⟩ :=
    .more rfl (.more rfl (.last rfl))
  have hfits : (command.field keys c.transactionId c.counter).length ≤ 255 := by
    rw [SecureCommand.field, Channel.length_field]
    decide
  exact ⟨⟨rfl, by decide, rfl, hfits, rfl, hcut, by decide, hdelivers⟩,
    execute_of_delivers (s := s) (c := c) rfl rfl (by decide) rfl hfits rfl hcut (by decide)
      hdelivers⟩

end Session

end Ev2Reader
