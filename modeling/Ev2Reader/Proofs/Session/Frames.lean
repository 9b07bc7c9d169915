import Ev2Reader.Session.Operations

/-!
# Answers in Frames

A tag may cut an answer into frames, all but the last with the promise of another one. What a
transport does when it is sent a message and then asked for frames, up to a given number of
answers, is described here without the reader: pieces of data that each come with the promise,
and then a last frame, a failure, or nothing because there were too many. An exchange is told
by this description alone.

## Main results

* `Transport.exists_yields` — the description covers everything a transport can do;
* `run_exchange_of_yields` — **an exchange joins the pieces**, asks for each frame after the
  first and stops where the description does;
* `exchange_spec`, `exchange_fault` — what all exchanges hand over, and how they fail.
-/

namespace Ev2Reader

namespace Event

variable {ε : Type}

/-- No events, no messages. -/
@[simp] theorem messages_nil : messages ([] : List (Event ε)) = [] := rfl

/-- A note is no message. -/
@[simp] theorem messages_cons_note (notice : Notice) (events : List (Event ε)) :
    messages (.note notice :: events) = messages events := rfl

/-- An exchange is one message, whatever the answer. -/
@[simp] theorem messages_cons_exchange (message : Bytes) (answer : Except ε Response)
    (events : List (Event ε)) :
    messages (.exchange message answer :: events) = message :: messages events := rfl

end Event

namespace Transport

/-! ### What a transport brings -/

/-- What comes after the pieces of an answer. -/
inductive Ending (ε : Type) where
  /-- The last frame. -/
  | last (frame : Response)
  /-- A failure in place of a frame. -/
  | broken (failure : ε)
  /-- Nothing, because as many frames have come as are taken. -/
  | endless

/-- The number of answers that an ending is. -/
def Ending.count {ε : Type} : Ending ε → Nat
  | last _ | broken _ => 1
  | endless => 0

/-- What an ending makes of the data in front of it. -/
def Ending.answer {ε : Type} (data : Bytes) : Ending ε → Except (SessionFault ε) Response
  | last frame => .ok ⟨frame.status, data ++ frame.data⟩
  | broken failure => .error (.transport failure)
  | endless => .error (.internal (.protocolViolation (.responseLength data.length)))

/-- **What a transport brings** when it is sent a message and then asked for frames, with at most
`most` answers: pieces of data with the promise of another frame, and an ending. -/
inductive Yields {τ ε : Type} [Transport τ ε] :
    (most : Nat) → τ → (message : Bytes) → List Bytes → Ending ε → τ → Prop where
  /-- The first frame without the promise of another is the last. -/
  | last {most : Nat} {t t' : τ} {message : Bytes} {frame : Response}
      (hframe : transmit t message = (.ok frame, t')) (hlast : frame.status ≠ .additionalFrame) :
      Yields (most + 1) t message [] (.last frame) t'
  /-- The first failure ends the answer. -/
  | broken {most : Nat} {t t' : τ} {message : Bytes} {failure : ε}
      (hframe : transmit t message = (.error failure, t')) :
      Yields (most + 1) t message [] (.broken failure) t'
  /-- No more answers are taken. -/
  | endless {t : τ} {message : Bytes} : Yields 0 t message [] .endless t
  /-- A piece comes with the promise of another frame, which is asked for. -/
  | more {most : Nat} {t t' t'' : τ} {message piece : Bytes} {pieces : List Bytes}
      {ending : Ending ε} (hframe : transmit t message = (.ok ⟨.additionalFrame, piece⟩, t'))
      (hrest : Yields most t' Apdu.additionalFrameRequest pieces ending t'') :
      Yields (most + 1) t message (piece :: pieces) ending t''

variable {τ ε : Type} [Transport τ ε] {most : Nat} {t t' : τ} {message : Bytes}
  {pieces : List Bytes} {ending : Ending ε}

/-- **Every transport brings something of this form.** The induction is on the number of answers
that may still come. -/
theorem exists_yields (most : Nat) (t : τ) (message : Bytes) :
    ∃ pieces, ∃ ending : Ending ε, ∃ t', Yields most t message pieces ending t' := by
  induction most generalizing t message with
  | zero => exact ⟨[], .endless, t, .endless⟩
  | succ most ih =>
    rcases htransmit : transmit t message with ⟨failure | ⟨status, piece⟩, t'⟩
    · exact ⟨[], .broken failure, t', .broken htransmit⟩
    · by_cases hframe : status = .additionalFrame
      · obtain ⟨pieces, ending, t'', hrest⟩ := ih t' Apdu.additionalFrameRequest
        rw [hframe] at htransmit
        exact ⟨piece :: pieces, ending, t'', .more htransmit hrest⟩
      · exact ⟨[], .last ⟨status, piece⟩, t', .last htransmit hframe⟩

/-- No more answers come than are taken. -/
theorem Yields.count_le (h : Yields most t message pieces ending t') :
    pieces.length + ending.count ≤ most := by
  induction h with
  | last | broken => exact Nat.succ_le_succ (Nat.zero_le _)
  | endless => exact Nat.le_refl 0
  | more _ _ ih =>
    rw [List.length_cons]
    omega

/-- There is no ending only after as many pieces as are taken. -/
theorem Yields.length_of_endless
    (h : Yields most t message pieces (.endless : Ending ε) t') : pieces.length = most := by
  generalize hending : Ending.endless = ending at h
  induction h with
  | last | broken => cases hending
  | endless => rfl
  | more _ _ ih => rw [List.length_cons, ih hending]

end Transport

namespace Session

open Procedure

variable {τ ε : Type} [Transport τ ε] {s : Session τ} {message : Bytes}

/-! ### One message -/

/-- Sending a message that is answered gives the answer. -/
theorem run_transmit_of_ok {s : Session τ} {message : Bytes} {answer : Response} {t : τ}
    (h : Transport.transmit s.transport message = (.ok answer, t)) :
    (transmit message : SessionM τ ε Response).run s =
      ⟨.ok answer, ⟨t, s.channel⟩, [.exchange message (.ok answer)]⟩ := by
  rw [run_transmit, h]
  rfl

/-- Sending a message that is not answered gives the failure of the transport. -/
theorem run_transmit_of_error {s : Session τ} {message : Bytes} {failure : ε} {t : τ}
    (h : Transport.transmit s.transport message = (.error failure, t)) :
    (transmit message : SessionM τ ε Response).run s =
      ⟨.error (.transport failure), ⟨t, s.channel⟩, [.exchange message (.error failure)]⟩ := by
  rw [run_transmit, h]
  rfl

/-! ### Frames -/

/-- The next frame is asked for and comes. -/
theorem gather_of_ok {s : Session τ} {left : Nat} {collected : Bytes} {frame frame' : Response}
    {t : τ} (hframe : frame.status = .additionalFrame)
    (h : Transport.transmit s.transport Apdu.additionalFrameRequest = (.ok frame', t)) :
    let rest := (gather left (collected ++ frame.data) frame' : SessionM τ ε Response).run
      ⟨t, s.channel⟩
    (gather (left + 1) collected frame : SessionM τ ε Response).run s =
      ⟨rest.result, rest.state,
        .exchange Apdu.additionalFrameRequest (.ok frame') :: rest.events⟩ := by
  rw [gather]
  simp [hframe, run_transmit_of_ok h]

/-- The next frame is asked for and does not come. -/
theorem gather_of_error {s : Session τ} {left : Nat} {collected : Bytes} {frame : Response}
    {failure : ε} {t : τ} (hframe : frame.status = .additionalFrame)
    (h : Transport.transmit s.transport Apdu.additionalFrameRequest = (.error failure, t)) :
    (gather (left + 1) collected frame : SessionM τ ε Response).run s =
      ⟨.error (.transport failure), ⟨t, s.channel⟩,
        [.exchange Apdu.additionalFrameRequest (.error failure)]⟩ := by
  rw [gather]
  simp [hframe, run_transmit_of_error h]

/-- An exchange whose message is not answered gives the failure of the transport. -/
theorem exchange_of_error {s : Session τ} {message : Bytes} {failure : ε} {t : τ}
    (h : Transport.transmit s.transport message = (.error failure, t)) :
    (exchange message : SessionM τ ε Response).run s =
      ⟨.error (.transport failure), ⟨t, s.channel⟩, [.exchange message (.error failure)]⟩ := by
  simp [exchange, run_transmit_of_error h]

/-- A first frame that promises no other is the whole answer. -/
theorem exchange_of_ne {s : Session τ} {message : Bytes} {frame : Response} {t : τ}
    (h : Transport.transmit s.transport message = (.ok frame, t))
    (hframe : frame.status ≠ .additionalFrame) :
    (exchange message : SessionM τ ε Response).run s =
      ⟨.ok frame, ⟨t, s.channel⟩, [.exchange message (.ok frame)]⟩ := by
  simp [exchange, run_transmit_of_ok h, hframe]

/-- A first frame that promises another one begins the collection of frames. -/
theorem exchange_of_eq {s : Session τ} {message : Bytes} {frame : Response} {t : τ}
    (h : Transport.transmit s.transport message = (.ok frame, t))
    (hframe : frame.status = .additionalFrame) :
    let rest := (gather (maxFrames - 1) [] frame : SessionM τ ε Response).run ⟨t, s.channel⟩
    (exchange message : SessionM τ ε Response).run s =
      ⟨rest.result, rest.state, .exchange message (.ok frame) :: rest.events⟩ := by
  simp [exchange, run_transmit_of_ok h, hframe]

open Transport in
/-- **Collecting frames joins the pieces** that the transport brings, and asks for each of its
answers. The induction is on what the transport brings. -/
theorem run_gather_of_yields {left : Nat} {t t' : τ} {pieces : List Bytes} {ending : Ending ε}
    (h : Yields left t Apdu.additionalFrameRequest pieces ending t') (channel : Option Channel)
    (collected piece : Bytes) :
    ∃ events, (gather left collected ⟨.additionalFrame, piece⟩ : SessionM τ ε Response).run
        ⟨t, channel⟩ =
        ⟨ending.answer (collected ++ piece ++ pieces.flatten), ⟨t', channel⟩, events⟩ ∧
      Event.messages events =
        List.replicate (pieces.length + ending.count) Apdu.additionalFrameRequest := by
  generalize hrequest : Apdu.additionalFrameRequest = request at h
  induction h generalizing collected piece with
  | last hframe hlast =>
    subst hrequest
    rw [gather_of_ok (s := ⟨_, channel⟩) rfl hframe, gather_of_ne hlast, List.flatten_nil,
      List.append_nil]
    exact ⟨_, rfl, rfl⟩
  | broken hframe =>
    subst hrequest
    exact ⟨_, gather_of_error (s := ⟨_, channel⟩) rfl hframe, rfl⟩
  | endless =>
    refine ⟨[], ?_, rfl⟩
    rw [gather_zero rfl, List.flatten_nil, List.append_nil, Ending.answer, List.length_append]
  | @more _ _ t _ _ piece' pieces ending hframe _ ih =>
    subst hrequest
    obtain ⟨events, hrun, hmessages⟩ := ih (collected ++ piece) piece' rfl
    refine ⟨.exchange Apdu.additionalFrameRequest (.ok ⟨.additionalFrame, piece'⟩) :: events,
      ?_, ?_⟩
    · rw [gather_of_ok (s := ⟨_, channel⟩) rfl hframe]
      simp only [hrun, List.flatten_cons, List.append_assoc]
    · rw [Event.messages_cons_exchange, hmessages, List.length_cons, Nat.add_right_comm]
      rfl

open Transport in
/-- **An exchange joins the pieces** that the transport brings, hands over its message and asks
for each answer after the first. -/
theorem run_exchange_of_yields {pieces : List Bytes} {ending : Ending ε} {t' : τ}
    (h : Yields maxFrames s.transport message pieces ending t') :
    ∃ events, (exchange message : SessionM τ ε Response).run s =
        ⟨ending.answer pieces.flatten, ⟨t', s.channel⟩, events⟩ ∧
      Event.messages events = message ::
        List.replicate (pieces.length + ending.count - 1) Apdu.additionalFrameRequest := by
  cases h with
  | last hframe hlast => exact ⟨_, exchange_of_ne hframe hlast, rfl⟩
  | broken hframe => exact ⟨_, exchange_of_error hframe, rfl⟩
  | @more _ _ t _ _ piece pieces _ hframe hrest =>
    obtain ⟨events, hrun, hmessages⟩ := run_gather_of_yields hrest s.channel [] piece
    refine ⟨.exchange message (.ok ⟨.additionalFrame, piece⟩) :: events, ?_, ?_⟩
    · rw [exchange_of_eq hframe rfl]
      simp only [maxFrames, Nat.add_one_sub_one, hrun, List.nil_append, List.flatten_cons]
    · rw [Event.messages_cons_exchange, hmessages, List.length_cons, Nat.add_right_comm,
        Nat.add_sub_cancel]

/-- **An exchange** hands over its message and then at most fifteen frame requests, and
leaves the channel alone. -/
theorem exchange_spec (message : Bytes) (s : Session τ) :
    ((exchange message : SessionM τ ε Response).run s).state.channel = s.channel ∧
      ∃ k ≤ maxFrames - 1,
        Event.messages ((exchange message : SessionM τ ε Response).run s).events =
          message :: List.replicate k Apdu.additionalFrameRequest := by
  obtain ⟨pieces, ending, t', h⟩ :=
    Transport.exists_yields (ε := ε) maxFrames s.transport message
  obtain ⟨events, hrun, hmessages⟩ := run_exchange_of_yields h
  rw [hrun]
  exact ⟨rfl, _, Nat.sub_le_sub_right h.count_le 1, hmessages⟩

/-- **An exchange fails** with the transport, or because the answer has too many frames. -/
theorem exchange_fault {fault : SessionFault ε}
    (h : ((exchange message : SessionM τ ε Response).run s).result = .error fault) :
    (∃ failure, fault = .transport failure) ∨
      ∃ received, fault = .internal (.protocolViolation (.responseLength received)) := by
  obtain ⟨pieces, ending, t', hyields⟩ :=
    Transport.exists_yields (ε := ε) maxFrames s.transport message
  obtain ⟨events, hrun, -⟩ := run_exchange_of_yields hyields
  rw [hrun] at h
  cases ending with
  | last => cases h
  | broken failure =>
    cases h
    exact .inl ⟨failure, rfl⟩
  | endless =>
    cases h
    exact .inr ⟨_, rfl⟩

end Session

end Ev2Reader
