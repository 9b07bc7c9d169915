import Ev2Reader.Proofs.Channel.Fit
import Ev2Reader.Proofs.Session.Execution

/-!
# What Can Be Seen of a Command

Of an exchange an onlooker sees the status and the length of the answer, or that there is none;
of a command its instruction, header, protection and lengths; of a channel the number of its key
and its counter; and of a result whether it is one, or which fault there is instead. This module
proves that the notices about a command say no more: they are a function of what can be seen.

## Main results

* `seen_exchange` — what is noted and seen of an exchange;
* `SecureCommand.received` — the notices about an answer follow from its status and the result;
* `execute_seen` — **what is noted of a command** on an open channel, however it ends.
-/

namespace Ev2Reader

/-! ### What can be seen -/

/-- **What is seen of an answer**: its status and the length of its data, or that there is
none. -/
abbrev Sight := Option (StatusWord × Nat)

/-- What is seen of an answer or a failure. -/
def Sight.of {ε : Type} : Except ε Response → Sight
  | .ok answer => some (answer.status, answer.data.length)
  | .error _ => none

namespace Event

variable {ε : Type}

/-- What is seen of an event, if it is an exchange. -/
def sight? : Event ε → Option Sight
  | note _ => none
  | exchange _ answer => some (Sight.of answer)

/-- What is seen of the exchanges among events. -/
def sights (events : List (Event ε)) : List Sight :=
  events.filterMap sight?

/-- What is seen of events one after the other is seen one after the other. -/
@[simp] theorem sights_append (events events' : List (Event ε)) :
    sights (events ++ events') = sights events ++ sights events' :=
  List.filterMap_append

/-- Nothing is seen of notes. -/
@[simp] theorem sights_map_note (ns : List Notice) :
    sights (ns.map note : List (Event ε)) = [] := by
  induction ns with
  | nil => rfl
  | cons n ns ih => exact ih

end Event

/-- **What is seen of a result**, which says nothing of its data or of a failure's kind. -/
inductive Verdict where
  /-- There is a result. -/
  | done
  /-- Something went wrong between reader and tag. -/
  | fault (e : Fault)
  /-- The transport failed. -/
  | lost
deriving DecidableEq

namespace Verdict

/-- What is seen of a fault in a session. -/
def ofFault {ε : Type} : SessionFault ε → Verdict
  | .internal e => fault e
  | .transport _ => lost

/-- What is seen of a result in a session. -/
def of {ε α : Type} : Except (SessionFault ε) α → Verdict
  | .ok _ => done
  | .error e => ofFault e

/-- What is seen of a result on a channel. -/
def ofChannel {α : Type} : Except Fault α → Verdict
  | .ok _ => done
  | .error e => fault e

/-- A fault between reader and tag is seen in a session as it is on its channel. -/
@[simp] theorem of_mapError {ε α : Type} (x : Except Fault α) :
    of (x.mapError .internal : Except (SessionFault ε) α) = ofChannel x := by
  cases x <;> rfl

/-- Nothing is seen of the data of a result. -/
@[simp] theorem of_map {ε α β : Type} (x : Except (SessionFault ε) α) (f : α → β) :
    of (x.map f) = of x := by
  cases x <;> rfl

/-- Only after a message was sent something can be wrong in this way. -/
def isOfAnswer : Verdict → Bool
  | lost | fault (.protocolViolation _) | fault .integrityFailure => true
  | _ => false

end Verdict

/-- **What is seen of a channel.** -/
structure Mark where
  /-- The number of its key. -/
  keyNumber : KeyNumber
  /-- Its counter. -/
  counter : UInt16
deriving DecidableEq

/-- What is seen of a channel. -/
def Channel.mark (c : Channel) : Mark :=
  ⟨c.keyNumber, c.counter⟩

namespace SecureCommand

/-- **What is seen of a command.** -/
structure Shape where
  /-- The instruction byte. -/
  ins : UInt8
  /-- The header. -/
  header : Bytes
  /-- The length of the data. -/
  length : Nat
  /-- How the data is protected. -/
  protection : Protection
  /-- Whether the tag ends the session after this command. -/
  endsSession : Bool
deriving DecidableEq

/-- What is seen of a command. -/
def shape (command : SecureCommand) : Shape :=
  ⟨command.ins, command.header, command.data.length, command.protection, command.endsSession⟩

namespace Shape

/-- The length of the field of the message. -/
def fieldLength (x : Shape) : Nat :=
  x.header.length + x.protection.wrappedLength x.length + 8

/-- The notices about a whole answer. -/
def answered (x : Shape) (counter : UInt16) (status : StatusWord) (verdict : Verdict) :
    List Notice :=
  if x.endsSession then [.channelClosing counter, .sessionEndAnswered status]
  else .commandAnswered status ::
    if status.isSuccess = false then [.channelClosing counter]
    else .counterAdvanced (counter + 1) ::
      match verdict with
      | .done => []
      | .fault .integrityFailure => [.codeMismatch (counter + 1), .channelClosing (counter + 1)]
      | _ => [.channelClosing (counter + 1)]

/-- The notices about the exchange of a command and what follows it, by the last that is seen of
it. -/
def exchanged (x : Shape) (counter : UInt16) (frames : Nat) (last : Sight) (verdict : Verdict) :
    List Notice :=
  match last with
  | none => [.exchangeFailed x.ins, .channelClosing counter]
  | some (status, _) =>
    if status = .additionalFrame then [.exchangeFailed x.ins, .channelClosing counter]
    else (if 1 < frames then [.framesCollected frames] else []) ++
      x.answered counter status verdict

/-- **The notices about a command**, by what is seen of its exchanges and its result. -/
def log (x : Shape) (counter : UInt16) (sights : List Sight) (verdict : Verdict) : List Notice :=
  match sights.getLast? with
  | none =>
    if verdict = .fault .counterExhausted then
      [.channelClosing counter, .commandNotSent x.ins .counterExhausted]
    else []
  | some last =>
    .commandProtected x.ins x.protection counter :: .commandLength x.ins x.fieldLength ::
      x.exchanged counter sights.length last verdict

/-- The notices about a command of which something is seen. -/
theorem log_concat (x : Shape) (counter : UInt16) (sights : List Sight)
    (last : Sight) (verdict : Verdict) :
    x.log counter (sights ++ [last]) verdict =
      .commandProtected x.ins x.protection counter :: .commandLength x.ins x.fieldLength ::
        x.exchanged counter (sights.length + 1) last verdict := by
  rw [log, List.getLast?_concat, List.length_append]
  rfl

/-- After a last frame that promises another one, or a failure of the transport, the exchange has
failed. -/
theorem exchanged_of_promise {x : Shape} {counter : UInt16} {frames : Nat}
    {last : Sight} {verdict : Verdict} (h : ∀ seen ∈ last, seen.1 = .additionalFrame) :
    x.exchanged counter frames last verdict =
      [.exchangeFailed x.ins, .channelClosing counter] := by
  cases last with
  | none => rfl
  | some seen => exact if_pos (h seen rfl)

/-- What is seen of the channel after a command. -/
def leaves (x : Shape) (mark : Mark) (verdict : Verdict) : Option Mark :=
  match verdict with
  | .done => if x.endsSession then none else some { mark with counter := mark.counter + 1 }
  | .fault (.payloadTooLarge _) => some mark
  | _ => none

end Shape

end SecureCommand

/-! ### Exchanges -/

/-- What is seen of the first whole answer, and of what comes after it. -/
def firstAnswer : (most : Nat) → List Sight → List Sight × List Sight
  | 0, sights => ([], sights)
  | _ + 1, [] => ([], [])
  | most + 1, sight :: sights =>
    if sight.map Prod.fst = some .additionalFrame then
      (sight :: (firstAnswer most sights).1, (firstAnswer most sights).2)
    else ([sight], sights)

/-- A frame that promises another one is part of the first answer. -/
theorem firstAnswer_of_promise (most n : Nat) (sights : List Sight) :
    firstAnswer (most + 1) (some (.additionalFrame, n) :: sights) =
      (some (.additionalFrame, n) :: (firstAnswer most sights).1, (firstAnswer most sights).2) :=
  if_pos rfl

namespace Transport

variable {τ ε : Type} [Transport τ ε] {most : Nat} {t t' : τ} {message : Bytes}
  {pieces : List Bytes} {ending : Ending ε}

/-- What is seen of an ending. -/
def Ending.sights : Ending ε → List Sight
  | last frame => [some (frame.status, frame.data.length)]
  | broken _ => [none]
  | endless => []

/-- What is seen of pieces with the promise of another frame. -/
def pieceSights (pieces : List Bytes) : List Sight :=
  pieces.map fun piece => some (.additionalFrame, piece.length)

/-- A last frame does not promise another. -/
theorem Yields.status_ne {frame : Response}
    (h : Yields most t message pieces (.last frame : Ending ε) t') :
    frame.status ≠ .additionalFrame := by
  generalize hending : Ending.last frame = ending at h
  induction h with
  | last _ hlast =>
    cases hending
    exact hlast
  | broken | endless => cases hending
  | more _ _ ih => exact ih hending

/-- **What a transport brings is one whole answer**, whatever is seen after it. -/
theorem Yields.firstAnswer_eq (h : Yields most t message pieces ending t')
    (others : List Sight) :
    firstAnswer most (pieceSights pieces ++ ending.sights ++ others) =
      (pieceSights pieces ++ ending.sights, others) := by
  induction h with
  | @last _ _ _ _ frame _ hlast =>
    have hstatus : (some (frame.status, frame.data.length)).map Prod.fst ≠
        some .additionalFrame := fun heq => hlast (Option.some.inj heq)
    exact if_neg hstatus
  | broken => rfl
  | endless => rfl
  | more _ _ ih =>
    simp only [pieceSights, List.map_cons, List.cons_append] at ih ⊢
    rw [firstAnswer_of_promise, ih]

/-- An answer that is not whole ends in a failure or in a promise. -/
theorem Yields.last_of_fault {fault : SessionFault ε} {data : Bytes}
    (h : Yields Session.maxFrames t message pieces ending t')
    (hfault : ending.answer data = .error fault) :
    ∃ before last, pieceSights pieces ++ ending.sights = before ++ [last] ∧
      ∀ seen ∈ last, seen.1 = .additionalFrame := by
  cases ending with
  | last => cases hfault
  | broken => exact ⟨_, none, rfl, (fun _ hseen => nomatch hseen)⟩
  | endless =>
    have hlength := h.length_of_endless
    rcases List.eq_nil_or_concat pieces with rfl | ⟨pieces, piece, rfl⟩
    · cases hlength
    · refine ⟨pieceSights pieces, some (.additionalFrame, piece.length), ?_, ?_⟩
      · simp [pieceSights, Ending.sights]
      · intro seen hseen
        cases hseen
        rfl

end Transport

namespace Session

open Procedure Transport

variable {τ ε : Type} [Transport τ ε] {s : Session τ} {message : Bytes} {pieces : List Bytes}
  {ending : Ending ε} {t t' : τ}

/-- What is noted of an answer with a given number of pieces in front of its ending. -/
def endingNotices (count : Nat) : Ending ε → List Notice
  | .last _ => if 1 < count + 1 then [.framesCollected (count + 1)] else []
  | _ => []

/-- What is noted and seen of the frames after the first. The induction is on what the transport
brings. -/
theorem seen_gather {left : Nat}
    (h : Yields left t Apdu.additionalFrameRequest pieces ending t') (hleft : left < maxFrames)
    (channel : Option Channel) (collected piece : Bytes) :
    let o := (gather left collected ⟨.additionalFrame, piece⟩ : SessionM τ ε Response).run
      ⟨t, channel⟩
    Event.notices o.events = endingNotices (maxFrames - left + pieces.length) ending ∧
      Event.sights o.events = pieceSights pieces ++ ending.sights := by
  generalize hrequest : Apdu.additionalFrameRequest = request at h
  induction h generalizing collected piece with
  | @last left _ _ _ frame hframe hlast =>
    subst hrequest
    have hcount : maxFrames - left = maxFrames - (left + 1) + 0 + 1 := by omega
    have hmany : 1 < maxFrames - (left + 1) + 0 + 1 := by omega
    dsimp only
    rw [gather_of_ok (s := ⟨_, channel⟩) rfl hframe, gather_of_ne hlast, hcount]
    exact ⟨(if_pos hmany).symm, rfl⟩
  | broken hframe =>
    subst hrequest
    dsimp only
    rw [gather_of_error (s := ⟨_, channel⟩) rfl hframe]
    exact ⟨rfl, rfl⟩
  | endless =>
    dsimp only
    rw [gather_zero rfl]
    exact ⟨rfl, rfl⟩
  | @more left _ _ _ _ piece' pieces ending hframe _ ih =>
    subst hrequest
    obtain ⟨hnotices, hsights⟩ := ih (by omega) (collected ++ piece) piece' rfl
    dsimp only
    rw [gather_of_ok (s := ⟨_, channel⟩) rfl hframe, List.length_cons]
    have hcount : maxFrames - left + pieces.length =
        maxFrames - (left + 1) + (pieces.length + 1) := by omega
    rw [← hcount]
    exact ⟨hnotices, congrArg (List.cons _) hsights⟩

/-- **What is noted and seen of an exchange.** -/
theorem seen_exchange (h : Yields maxFrames s.transport message pieces ending t') :
    let o := (exchange message : SessionM τ ε Response).run s
    Event.notices o.events = endingNotices pieces.length ending ∧
      Event.sights o.events = pieceSights pieces ++ ending.sights := by
  dsimp only
  cases h with
  | last hframe hlast =>
    rw [exchange_of_ne hframe hlast]
    exact ⟨rfl, rfl⟩
  | broken hframe =>
    rw [exchange_of_error hframe]
    exact ⟨rfl, rfl⟩
  | @more _ _ _ _ _ piece pieces _ hframe hrest =>
    obtain ⟨hnotices, hsights⟩ := seen_gather hrest (by decide) s.channel [] piece
    rw [exchange_of_eq hframe rfl, List.length_cons, Nat.add_comm]
    exact ⟨hnotices, congrArg (List.cons _) hsights⟩

end Session

/-! ### Answers -/

/-- An open channel is seen after an operation. -/
theorem Channel.mark_of_open {c : Channel} {keys : SessionKeys} (h : c.keys? = some keys) :
    ((some c).filter isOpen).map mark = some c.mark := by
  rw [Session.filter_isOpen_of_open h]
  rfl

/-- Nothing is seen of a closed channel. -/
theorem Channel.mark_of_closed {c : Channel} (h : c.keys? = none) :
    ((some c).filter isOpen).map mark = none := by
  rw [Session.filter_isOpen_of_closed h]
  rfl

namespace SecureCommand

open Procedure

variable {c : Channel} {keys : SessionKeys} {command : SecureCommand} {answer : Response}

/-- **What is noted and seen of an answer** follows from its status and the result. -/
structure Received (command : SecureCommand) (c : Channel) (answer : Response)
    (o : Outcome Channel Notice Fault Bytes) : Prop where
  /-- The notices follow from the status and the verdict. -/
  notices : o.events =
    command.shape.answered c.counter answer.status (Verdict.ofChannel o.result)
  /-- So does what is seen of the channel. -/
  mark : ((some o.state).filter Channel.isOpen).map Channel.mark =
    command.shape.leaves c.mark (Verdict.ofChannel o.result)
  /-- An answer gives a result, or one of the faults of an answer. -/
  verdict : Verdict.ofChannel o.result = .done ∨
    (Verdict.ofChannel o.result).isOfAnswer = true

/-- The notices about an answer that reports success. -/
theorem answered_of_isSuccess (hends : command.endsSession = false)
    (hstatus : answer.status.isSuccess = true) (verdict : Verdict) :
    command.shape.answered c.counter answer.status verdict =
      .commandAnswered answer.status :: .counterAdvanced c.next.counter ::
        match verdict with
        | .done => []
        | .fault .integrityFailure =>
          [.codeMismatch c.next.counter, .channelClosing c.next.counter]
        | _ => [.channelClosing c.next.counter] := by
  simp only [Shape.answered, shape, hends, hstatus]
  rfl

/-- An answer under the session's keys. The cases are split in the order of the checks. -/
theorem received_readAnswer (h : c.keys? = some keys) (hcounter : c.counter ≠ Channel.lastCounter)
    (hends : command.endsSession = false) :
    Received command c answer ((Channel.readAnswer command.protection answer).run c) := by
  have hleaves : command.shape.leaves c.mark .done = some c.next.mark := by
    simp [Shape.leaves, shape, hends, Channel.mark, Channel.next]
  have hopen := (Channel.mark_of_open (c := c.next) h).trans hleaves.symm
  have hclosed := Channel.mark_of_closed c.next.keys?_shut
  cases hstatus : answer.status.isSuccess with
  | false =>
    rw [Channel.run_readAnswer_failure h _ hstatus]
    exact ⟨by simp [Shape.answered, shape, hends, hstatus], Channel.mark_of_closed c.keys?_shut,
      .inr rfl⟩
  | true =>
    have hanswered := answered_of_isSuccess (c := c) hends hstatus
    have hdone := (hanswered .done).symm
    have hviolation (v : Violation) := (hanswered (.fault (.protocolViolation v))).symm
    by_cases hlength : answer.data.length < 8
    · rw [Channel.run_readAnswer_short h _ hstatus hcounter hlength]
      exact ⟨hviolation _, hclosed, .inr rfl⟩
    obtain ⟨body, code, hdata, hcode⟩ : ∃ body code, answer.data = body ++ code ∧
        code.length = 8 :=
      ⟨_, _, (List.take_append_drop (answer.data.length - 8) _).symm, by
        rw [List.length_drop]; omega⟩
    rw [Channel.run_readAnswer_coded h _ hstatus hcounter hdata hcode]
    split
    · split
      · exact ⟨hdone, hopen, .inl rfl⟩
      · split
        · exact ⟨hdone, hopen, .inl rfl⟩
        · split
          · exact ⟨hdone, hopen, .inl rfl⟩
          · exact ⟨hviolation _, hclosed, .inr rfl⟩
    · exact ⟨(hanswered (.fault .integrityFailure)).symm, hclosed, .inr rfl⟩

/-- **What is noted and seen of the answer to a command** on an open channel. -/
theorem received (h : c.keys? = some keys) (hcounter : c.counter ≠ Channel.lastCounter) :
    Received command c answer ((command.receive answer).run c) := by
  cases hends : command.endsSession with
  | true =>
    have hclosed := Channel.mark_of_closed c.keys?_shut
    have hanswered (verdict : Verdict) :
        command.shape.answered c.counter answer.status verdict =
          [.channelClosing c.counter, .sessionEndAnswered answer.status] := by
      simp [Shape.answered, shape, hends]
    have hleaves : command.shape.leaves c.mark .done = none := by
      simp [Shape.leaves, shape, hends]
    rw [run_receive_of_endsSession h hends]
    cases answer.status.isSuccess with
    | true => exact ⟨(hanswered _).symm, hclosed.trans hleaves.symm, .inl rfl⟩
    | false => exact ⟨(hanswered _).symm, hclosed, .inr rfl⟩
  | false =>
    rw [receive_of_not_endsSession hends]
    exact received_readAnswer h hcounter hends

end SecureCommand

/-! ### Commands -/

namespace Session

open Procedure Transport

variable {τ ε : Type} {s : Session τ} {c : Channel} {keys : SessionKeys}
  {command : SecureCommand}

/-- **What is noted and seen of a command** on the channel `c`. -/
structure Seen (command : SecureCommand) (c : Channel)
    (o : Outcome (Session τ) (Event ε) (SessionFault ε) Bytes) : Prop where
  /-- The notices follow from what is seen of the exchanges and the result. -/
  notices : Event.notices o.events =
    command.shape.log c.counter (Event.sights o.events) (Verdict.of o.result)
  /-- What is seen of the channel follows from the result. -/
  mark : o.state.channel.map Channel.mark = command.shape.leaves c.mark (Verdict.of o.result)
  /-- A command without an exchange fails for a reason of its own. -/
  unsent : Event.sights o.events = [] →
    Verdict.of o.result ≠ .done ∧ (Verdict.of o.result).isOfAnswer = false
  /-- The exchanges of a command are one whole answer. -/
  sent : Event.sights o.events ≠ [] →
    (Verdict.of o.result = .done ∨ (Verdict.of o.result).isOfAnswer = true) ∧
      ∀ others, firstAnswer maxFrames (Event.sights o.events ++ others) =
        (Event.sights o.events, others)

variable [Transport τ ε]

/-- Nothing is noted or seen of a command that is too long. -/
theorem seen_of_tooLong (hchannel : s.channel = some c)
    (hprotect : command.protect.run c = ⟨.error (.payloadTooLarge 255), c, []⟩) :
    Seen command c ((execute command : SessionM τ ε Bytes).run s) := by
  rw [run_execute_unsent hchannel hprotect rfl]
  refine ⟨rfl, ?_, fun _ => ⟨(fun heq => nomatch heq), rfl⟩, fun hsent => absurd rfl hsent⟩
  rw [hchannel]
  rfl

/-- At the last counter value the channel is given up before anything is sent, and that is noted. -/
theorem seen_of_exhausted (hchannel : s.channel = some c)
    (hprotect : command.protect.run c =
      ⟨.error .counterExhausted, c.shut, [.channelClosing c.counter]⟩) :
    Seen command c ((execute command : SessionM τ ε Bytes).run s) := by
  rw [run_execute_unsent_fatal hchannel hprotect rfl,
    Channel.run_close_closed (Channel.keys?_shut c)]
  exact ⟨rfl, rfl, fun _ => ⟨(fun heq => nomatch heq), rfl⟩, fun hsent => absurd rfl hsent⟩

/-- A command whose answer has a last frame. -/
theorem seen_of_last (hchannel : s.channel = some c) (hkeys : c.keys? = some keys)
    (hcounter : c.counter ≠ Channel.lastCounter) {message : Bytes}
    (hprotect : command.protect.run c = ⟨.ok message, c,
      [.commandProtected command.ins command.protection c.counter,
        .commandLength command.ins command.shape.fieldLength]⟩)
    {pieces : List Bytes} {frame : Response} {t' : τ}
    (hyields : Yields maxFrames s.transport message pieces (.last frame : Ending ε) t') :
    Seen command c ((execute command : SessionM τ ε Bytes).run s) := by
  obtain ⟨events, hexchange, -⟩ := run_exchange_of_yields hyields
  obtain ⟨hnotices, hsights⟩ := seen_exchange hyields
  rw [hexchange] at hnotices hsights
  have hreceived : command.Received c ⟨frame.status, pieces.flatten ++ frame.data⟩ _ :=
    SecureCommand.received hkeys hcounter
  rw [run_execute_of_answer hchannel hprotect hexchange]
  have hall (after : List Notice) : Event.sights (List.map Event.note
      [.commandProtected command.ins command.protection c.counter,
        .commandLength command.ins command.shape.fieldLength] ++ (events ++ after.map .note)) =
      pieceSights pieces ++ [some (frame.status, frame.data.length)] := by
    simp only [Event.sights_append, Event.sights_map_note, hsights, List.nil_append,
      List.append_nil]
    rfl
  have hexchanged (verdict : Verdict) : command.shape.exchanged c.counter (pieces.length + 1)
      (some (frame.status, frame.data.length)) verdict =
      endingNotices pieces.length (.last frame : Ending ε) ++
        command.shape.answered c.counter frame.status verdict := if_neg hyields.status_ne
  refine ⟨?_, ?_, fun hnone => ?_, fun _ => ⟨?_, ?_⟩⟩
  · rw [hall, SecureCommand.Shape.log_concat, pieceSights, List.length_map, hexchanged,
      Verdict.of_mapError,
      ← hreceived.notices]
    simp only [Event.notices_append, Event.notices_map_note, hnotices]
    rfl
  · rw [Verdict.of_mapError]
    exact hreceived.mark
  · rw [hall] at hnone
    simp at hnone
  · rw [Verdict.of_mapError]
    exact hreceived.verdict
  · rw [hall]
    exact hyields.firstAnswer_eq

/-- A command whose answer has no last frame. -/
theorem seen_of_fault (hchannel : s.channel = some c) (hkeys : c.keys? = some keys)
    {message : Bytes}
    (hprotect : command.protect.run c = ⟨.ok message, c,
      [.commandProtected command.ins command.protection c.counter,
        .commandLength command.ins command.shape.fieldLength]⟩)
    {pieces : List Bytes} {ending : Ending ε} {t' : τ} {fault : SessionFault ε}
    (hyields : Yields maxFrames s.transport message pieces ending t')
    (hfault : ending.answer pieces.flatten = .error fault) :
    Seen command c ((execute command : SessionM τ ε Bytes).run s) := by
  obtain ⟨events, hexchange, -⟩ := run_exchange_of_yields hyields
  obtain ⟨hnotices, hsights⟩ := seen_exchange hyields
  rw [hexchange] at hnotices hsights
  rw [hfault] at hexchange
  rw [run_execute_of_failure hchannel hprotect hexchange, Channel.run_close_open hkeys]
  obtain ⟨before, last, hlast, hpromise⟩ := hyields.last_of_fault hfault
  have hverdict : (Verdict.of (.error fault : Except (SessionFault ε) Bytes)).isOfAnswer = true ∧
      command.shape.leaves c.mark (.of (.error fault : Except (SessionFault ε) Bytes)) = none ∧
      endingNotices pieces.length ending = [] := by
    cases ending <;> cases hfault <;> exact ⟨rfl, rfl, rfl⟩
  obtain ⟨hanswer, hleaves, hending⟩ := hverdict
  have hall : Event.sights (List.map Event.note
      [.commandProtected command.ins command.protection c.counter,
        .commandLength command.ins command.shape.fieldLength] ++ (events ++ List.map Event.note
      [.exchangeFailed command.ins, .channelClosing c.counter])) = before ++ [last] := by
    simp only [Event.sights_append, Event.sights_map_note, hsights, List.nil_append,
      List.append_nil, hlast]
  refine ⟨?_, hleaves.symm, fun hnone => ?_, fun _ => ⟨.inr hanswer, ?_⟩⟩
  · rw [hall, SecureCommand.Shape.log_concat,
      SecureCommand.Shape.exchanged_of_promise hpromise]
    simp only [Event.notices_append, Event.notices_map_note, hnotices, hending]
    rfl
  · rw [hall] at hnone
    simp at hnone
  · rw [hall, ← hlast]
    exact hyields.firstAnswer_eq

/-- **What is noted and seen of a command** on an open channel. -/
theorem execute_seen (hchannel : s.channel = some c) (hkeys : c.keys? = some keys)
    (command : SecureCommand) :
    Seen command c ((execute command : SessionM τ ε Bytes).run s) := by
  by_cases hcounter : c.counter = Channel.lastCounter
  · rcases Channel.run_protect_exhausted hkeys hcounter command.protection command.ins
      command.header command.data with ⟨hrun, -⟩ | hrun
    · exact seen_of_tooLong hchannel hrun
    · exact seen_of_exhausted hchannel hrun
  · have hrun := Channel.run_protect hkeys hcounter command.protection command.ins command.header
      command.data
    rw [Channel.length_field, Protection.length_wrap] at hrun
    split at hrun
    · exact seen_of_tooLong hchannel hrun
    · obtain ⟨pieces, ending, t', hyields⟩ := exists_yields (ε := ε) maxFrames s.transport
        (Apdu.nativeMessage command.ins (Channel.field keys c.transactionId c.counter
          command.protection command.ins command.header command.data))
      cases ending with
      | last => exact seen_of_last hchannel hkeys hcounter hrun hyields
      | broken | endless => exact seen_of_fault hchannel hkeys hrun hyields rfl

end Session

end Ev2Reader
