import Ev2Reader.Proofs.Channel.Answer
import Ev2Reader.Proofs.Session.Execution
import Ev2Reader.Proofs.Tag.Basic

/-!
# Reader and Tag in Step

A channel and a tag are in step if the tag holds a session with the key number, the
transaction identifier, the session keys and the counter of the channel, and waits for
nothing else. This module proves what a tag in step makes of a secure command, and what of
it arrives over a link that loses exchanges.

The reader counts before it checks an answer and the tag before it sends one, so a command
brings both out of step in between. Either the whole answer arrives, and both are in step
again, or what arrives makes the reader give up its channel.

## Main results

* `respond_inStep` — how a tag in step reacts to a secure command;
* `exchange_inStep` — **what comes of the exchange of a secure command**.
-/

namespace Ev2Reader

open Procedure

/-- **Channel and tag are in step.** -/
structure InStep (c : Channel) (keys : SessionKeys) (tag : Tag) : Prop where
  /-- The channel is open with these keys. -/
  keys_eq : c.keys? = some keys
  /-- The tag holds the session of the channel, at the same counter value. -/
  session : tag.session = some ⟨c.keyNumber, c.transactionId, keys, c.counter⟩
  /-- The tag waits for no second message of a handshake. -/
  challenge : tag.challenge = none
  /-- The tag has no frames left to send. -/
  unsent : tag.unsent = none

/-! ### How the tag reacts -/

/-- A whole answer to a secure command, and the tag behind it: only an answer with the right
code leaves the tag in step with the next counter value. -/
inductive Answered (c : Channel) (keys : SessionKeys) : Response → Tag → Prop where
  /-- The command is refused. -/
  | refused {answer : Response} {tag : Tag} (hstatus : answer.status.isSuccess = false) :
      Answered c keys answer tag
  /-- The session is over. -/
  | bare {answer : Response} {tag : Tag} (hdata : answer.data = []) : Answered c keys answer tag
  /-- The command is carried out. -/
  | coded {answer : Response} {tag : Tag} {body : Bytes} (hcoded : c.Coded keys answer body)
      (hstep : InStep c.next keys tag) : Answered c keys answer tag

/-- How a tag reacts to a secure command of the reader. -/
inductive Reacts (c : Channel) (keys : SessionKeys) (tag : Tag) : Response × Tag → Prop where
  /-- It answers, perhaps in frames. -/
  | answers {tag' : Tag} {pieces : List Bytes} {last : Response}
      (hlast : last.status ≠ .additionalFrame) (hforged : tag'.forged = tag.forged)
      (hanswered : Answered c keys ⟨last.status, pieces.flatten ++ last.data⟩
        { tag' with unsent := none }) :
      Reacts c keys tag (tag'.serve pieces last)
  /-- It takes the command for the first message of a handshake. -/
  | challenges {tag' : Tag} {challenge : Bytes} (hforged : tag'.forged = tag.forged)
      (hunsent : tag'.unsent = none) :
      Reacts c keys tag (⟨.additionalFrame, challenge⟩, tag')

namespace Tag

variable {c : Channel} {keys : SessionKeys} {tag tag' : Tag} {choice : Choice}

/-- Without pieces the last answer is the whole one, and nothing is left to send. -/
theorem serve_nil (hunsent : tag.unsent = none) (last : Response) :
    tag.serve [] last = (last, tag) := by
  obtain ⟨_, _, _, _, _⟩ := tag
  cases hunsent
  rfl

/-- A refusal is a reaction. It is an answer in one frame that reports no success. -/
theorem reacts_refused (hforged : tag'.forged = tag.forged) (hunsent : tag'.unsent = none)
    (refusal : Refusal) : Reacts c keys tag (⟨refusal.status, []⟩, tag') := by
  rw [← serve_nil hunsent]
  exact .answers refusal.final hforged (.refused refusal.unsuccessful)

/-- Success without data is a reaction. It is the answer that ends a session. -/
theorem reacts_bare (hforged : tag'.forged = tag.forged) (hunsent : tag'.unsent = none)
    (completion : Completion) : Reacts c keys tag (⟨completion.status, []⟩, tag') := by
  rw [← serve_nil hunsent]
  exact .answers completion.final hforged (.bare rfl)

/-- Refusing is a reaction, whether the session is kept or not. -/
theorem reacts_reject (hforged : tag'.forged = tag.forged) (hunsent : tag'.unsent = none)
    (choice : Choice) : Reacts c keys tag (tag'.reject choice) := by
  rw [reject]
  split
  · exact reacts_refused hforged hunsent choice.rejection
  · refine reacts_refused ?_ ?_ choice.rejection <;> assumption

/-- **Answering at the next counter value** is a reaction: the code is right, and the tag is in step
with the reader's next channel, however the answer is cut. -/
theorem reacts_answer (hkeys : c.keys? = some keys) (hforged : tag'.forged = tag.forged)
    (hchallenge : tag'.challenge = none) (choice : Choice) :
    Reacts c keys tag
      (tag'.answer choice ⟨c.keyNumber, c.transactionId, keys, c.counter⟩) :=
  .answers choice.completion.final hforged
    (.coded (flatten_cut _ _) ⟨hkeys, rfl, hchallenge, rfl⟩)

/-- **Carrying out a command** is a reaction: the command is answered, unless it is a change of key
that is refused or that ends the session. -/
theorem reacts_carryOut (hkeys : c.keys? = some keys) (hforged : tag'.forged = tag.forged)
    (hchallenge : tag'.challenge = none) (hunsent : tag'.unsent = none) (choice : Choice)
    (ins : UInt8) (payload : Bytes) :
    Reacts c keys tag
      (tag'.carryOut choice ⟨c.keyNumber, c.transactionId, keys, c.counter⟩ ins payload) := by
  rw [carryOut]
  split
  · split
    · exact reacts_reject hforged hunsent choice
    · split
      · refine reacts_bare ?_ ?_ choice.completion <;> assumption
      · refine reacts_answer hkeys ?_ ?_ choice <;> assumption
  · exact reacts_answer hkeys hforged hchallenge choice

/-- A tag in step finds the code of the reader right. -/
theorem reacts_secure (hkeys : c.keys? = some keys) (hforged : tag'.forged = tag.forged)
    (hsession : tag'.session = some ⟨c.keyNumber, c.transactionId, keys, c.counter⟩)
    (hchallenge : tag'.challenge = none) (hunsent : tag'.unsent = none) (choice : Choice)
    (command : SecureCommand) :
    Reacts c keys tag
      (tag'.secure choice command.ins (command.field keys c.transactionId c.counter)) := by
  have hcode := AuthenticationCode.ofCommand_append keys.mac command.ins c.counter
    c.transactionId command.header
    (command.protection.wrap keys .command c.transactionId c.counter command.data)
  simp only [secure, hsession, SecureCommand.field, Channel.splitCode_field, hcode, if_true]
  split
  · exact reacts_reject hforged hunsent _
  · exact reacts_carryOut hkeys hforged hchallenge hunsent choice command.ins _

/-- Beginning a handshake is a reaction, be it a challenge or a refusal. -/
theorem reacts_beginHandshake (hforged : tag'.forged = tag.forged) (hunsent : tag'.unsent = none)
    (choice : Choice) (field : Bytes) : Reacts c keys tag (tag'.beginHandshake choice field) := by
  rw [beginHandshake.eq_def]
  split
  · split
    · exact .challenges hforged hunsent
    · refine reacts_refused ?_ ?_ choice.rejection <;> assumption
  · refine reacts_refused ?_ ?_ choice.rejection <;> assumption

end Tag

/-- **How a tag in step reacts** to a secure command of the reader, whatever its choice. -/
theorem respond_inStep {c : Channel} {keys : SessionKeys} {tag : Tag} (h : InStep c keys tag)
    {command : SecureCommand} {message : Bytes}
    (hprotect : (command.protect.run c).result = .ok message) (choice : Choice) :
    Reacts c keys tag (tag.respond choice message) := by
  obtain ⟨rfl, -, hfits⟩ := SecureCommand.of_protect_ok h.keys_eq hprotect
  simp only [Tag.respond, SecureCommand.message, Apdu.readNative?_nativeMessage _ hfits]
  split
  · simp only [h.unsent, Tag.endHandshake, h.challenge]
    refine Tag.reacts_reject ?_ ?_ choice <;> rfl
  · split
    · refine Tag.reacts_beginHandshake ?_ ?_ choice _ <;> rfl
    · refine Tag.reacts_secure h.keys_eq ?_ ?_ ?_ ?_ choice command
      · rfl
      · exact h.session
      · rfl
      · rfl

/-! ### What arrives -/

/-- What comes of the exchange of a secure command: a whole answer, or a failure that is not
blamed on its code. In neither case the tag has found a code wrong. -/
inductive Exchanged (c : Channel) (keys : SessionKeys) (tag : Tag) :
    Except (SessionFault Unit) Response → Tag → Prop where
  /-- The whole answer arrives, and the tag is as it was when it gave it. -/
  | answered {answer : Response} {tag' : Tag} (hforged : tag'.forged = tag.forged)
      (hanswered : Answered c keys answer tag') : Exchanged c keys tag (.ok answer) tag'
  /-- No answer arrives. The tag may be anywhere, but has found no code wrong. -/
  | failed {fault : SessionFault Unit} {tag' : Tag} (hforged : tag'.forged = tag.forged)
      (hfault : fault ≠ .internal .integrityFailure) : Exchanged c keys tag (.error fault) tag'

/-- A request for a frame is answered by the next frame if there is one. -/
theorem Tag.respond_request {tag : Tag} {pieces : List Bytes} {last : Response}
    (hunsent : tag.unsent = some (pieces, last)) (choice : Choice) :
    tag.respond choice Apdu.additionalFrameRequest = tag.serve pieces last := by
  simp only [respond, Apdu.readNative?_additionalFrameRequest, if_true, hunsent]

/-- A request for a frame is refused if there is none to send. -/
theorem Tag.respond_request_of_none {tag : Tag} (hunsent : tag.unsent = none) (choice : Choice) :
    tag.respond choice Apdu.additionalFrameRequest =
      ({ tag with challenge := none }).reject choice := by
  have hsplit : Block.split [] = ([], []) := Block.split_of_length_lt (by decide)
  simp only [respond, Apdu.readNative?_additionalFrameRequest, if_true, hunsent, endHandshake,
    hsplit]
  cases tag.challenge <;> rfl

/-- Sending a frame finds no code wrong. -/
theorem Tag.forged_serve (tag : Tag) (pieces : List Bytes) (last : Response) :
    (tag.serve pieces last).2.forged = tag.forged := by
  cases pieces <;> rfl

/-- Refusing finds no code wrong. -/
theorem Tag.forged_reject (tag : Tag) (choice : Choice) :
    (tag.reject choice).2.forged = tag.forged := by
  rw [reject]
  split <;> rfl

variable {c : Channel} {keys : SessionKeys} {tag : Tag}

/-- **No reaction finds a code wrong.** -/
theorem Reacts.forged {p : Response × Tag} (h : Reacts c keys tag p) : p.2.forged = tag.forged := by
  cases h with
  | answers _ hforged => rw [Tag.forged_serve, hforged]
  | challenges hforged => exact hforged

namespace Session

/-- The rest of an answer arrives whole or not at all. The induction is on the number of
frames that may still come. -/
theorem gather_unsent {last : Response} (hlast : last.status ≠ .additionalFrame) (left : Nat)
    (collected piece : Bytes) (pieces : List Bytes)
    {s : Session Link} (hforged : s.transport.tag.forged = tag.forged)
    (hunsent : s.transport.tag.unsent = some (pieces, last))
    (hanswered : Answered c keys ⟨last.status, collected ++ piece ++ pieces.flatten ++ last.data⟩
      { s.transport.tag with unsent := none }) :
    let o := (gather left collected ⟨.additionalFrame, piece⟩ : SessionM Link Unit Response).run s
    Exchanged c keys tag o.result o.state.transport.tag := by
  induction left generalizing collected piece pieces s with
  | zero =>
    rw [gather_zero rfl]
    exact .failed hforged (by simp)
  | succ left ih =>
    have hrespond := Tag.respond_request hunsent
    rcases htransmit : Transport.transmit s.transport Apdu.additionalFrameRequest with
      ⟨failure | frame, link⟩
    · have hlost := Link.forged_of_transmit
        (fun choice => by rw [hrespond, Tag.forged_serve]) htransmit
      rw [gather_of_error rfl htransmit]
      exact .failed (hlost.trans hforged) (by simp)
    · obtain ⟨choice, hframe⟩ := Link.respond_of_transmit htransmit
      rw [hrespond] at hframe
      rw [gather_of_ok rfl htransmit]
      cases pieces with
      | nil =>
        -- The last frame has come, so what was collected is the whole answer.
        obtain ⟨rfl, htag⟩ := Prod.mk.inj hframe
        rw [gather_of_ne hlast]
        rw [List.flatten_nil, List.append_nil] at hanswered
        refine .answered ?_ ?_
        · exact htag ▸ hforged
        · exact htag ▸ hanswered
      | cons piece' pieces =>
        obtain ⟨rfl, htag⟩ := Prod.mk.inj hframe
        refine ih (collected ++ piece) piece' pieces (s := ⟨link, s.channel⟩) ?_ ?_ ?_
        · exact htag ▸ hforged
        · exact htag ▸ rfl
        · rw [List.flatten_cons, ← List.append_assoc] at hanswered
          exact htag ▸ hanswered

/-- A tag that waits for the second message of a handshake refuses the request for a frame. -/
theorem gather_challenged (left : Nat) (collected challenge : Bytes) {s : Session Link}
    (hforged : s.transport.tag.forged = tag.forged) (hunsent : s.transport.tag.unsent = none) :
    let o := (gather left collected ⟨.additionalFrame, challenge⟩ :
      SessionM Link Unit Response).run s
    Exchanged c keys tag o.result o.state.transport.tag := by
  cases left with
  | zero =>
    rw [gather_zero rfl]
    exact .failed hforged (by simp)
  | succ left =>
    have hrespond := Tag.respond_request_of_none hunsent
    rcases htransmit : Transport.transmit s.transport Apdu.additionalFrameRequest with
      ⟨failure | frame, link⟩
    · have hlost := Link.forged_of_transmit
        (fun choice => by rw [hrespond, Tag.forged_reject]) htransmit
      rw [gather_of_error rfl htransmit]
      exact .failed (hlost.trans hforged) (by simp)
    · obtain ⟨choice, hframe⟩ := Link.respond_of_transmit htransmit
      rw [hrespond] at hframe
      obtain ⟨rfl, htag⟩ := Prod.mk.inj hframe
      rw [gather_of_ok rfl htransmit, gather_of_ne choice.rejection.final]
      refine .answered ?_ (.refused choice.rejection.unsuccessful)
      show link.tag.forged = tag.forged
      rw [← htag]
      exact (Tag.forged_reject _ choice).trans hforged

/-- **What comes of the exchange of a secure command** with a tag in step. -/
theorem exchange_inStep {s : Session Link} (h : InStep c keys s.transport.tag)
    {command : SecureCommand} {message : Bytes}
    (hprotect : (command.protect.run c).result = .ok message) :
    let o := (exchange message : SessionM Link Unit Response).run s
    Exchanged c keys s.transport.tag o.result o.state.transport.tag := by
  have hreacts := respond_inStep h hprotect
  rcases htransmit : Transport.transmit s.transport message with ⟨failure | frame, link⟩
  · rw [exchange_of_error htransmit]
    exact .failed (Link.forged_of_transmit (fun choice => (hreacts choice).forged) htransmit)
      (by simp)
  · obtain ⟨choice, hframe⟩ := Link.respond_of_transmit htransmit
    have hreaction := hreacts choice
    generalize s.transport.tag.respond choice message = p at hreaction hframe
    cases hreaction with
    | @answers tag' pieces last hlast hforged hanswered =>
      cases pieces with
      | nil =>
        obtain ⟨rfl, htag⟩ := Prod.mk.inj hframe
        rw [exchange_of_ne htransmit hlast]
        refine .answered ?_ ?_
        · exact htag ▸ hforged
        · exact htag ▸ hanswered
      | cons piece pieces =>
        obtain ⟨rfl, htag⟩ := Prod.mk.inj hframe
        rw [exchange_of_eq htransmit rfl]
        refine gather_unsent hlast _ [] piece pieces (s := ⟨link, s.channel⟩) ?_ ?_ ?_
        · exact htag ▸ hforged
        · exact htag ▸ rfl
        · exact htag ▸ hanswered
    | @challenges tag' challenge hforged hunsent =>
      obtain ⟨rfl, htag⟩ := Prod.mk.inj hframe
      rw [exchange_of_eq htransmit rfl]
      refine gather_challenged _ [] challenge (s := ⟨link, s.channel⟩) ?_ ?_
      · exact htag ▸ hforged
      · exact htag ▸ hunsent

/-- An exchange that fails has made the tag find no code wrong, and is not blamed on a code. -/
theorem forged_of_exchange_error {s : Session Link} (h : InStep c keys s.transport.tag)
    {command : SecureCommand} {message : Bytes}
    (hprotect : (command.protect.run c).result = .ok message) {fault : SessionFault Unit}
    (hexchange : ((exchange message : SessionM Link Unit Response).run s).result =
      .error fault) :
    ((exchange message : SessionM Link Unit Response).run s).state.transport.tag.forged =
        s.transport.tag.forged ∧
      fault ≠ .internal .integrityFailure := by
  have hexchanged := exchange_inStep h hprotect
  dsimp only at hexchanged
  rw [hexchange] at hexchanged
  cases hexchanged with
  | failed hforged hfault => exact ⟨hforged, hfault⟩

/-- An exchange that gives an answer gives it whole, and the tag is as it was when it gave it. -/
theorem answered_of_exchange_ok {s : Session Link} (h : InStep c keys s.transport.tag)
    {command : SecureCommand} {message : Bytes}
    (hprotect : (command.protect.run c).result = .ok message) {answer : Response}
    (hexchange : ((exchange message : SessionM Link Unit Response).run s).result = .ok answer) :
    ((exchange message : SessionM Link Unit Response).run s).state.transport.tag.forged =
        s.transport.tag.forged ∧
      Answered c keys answer
        ((exchange message : SessionM Link Unit Response).run s).state.transport.tag := by
  have hexchanged := exchange_inStep h hprotect
  dsimp only at hexchanged
  rw [hexchange] at hexchanged
  cases hexchanged with
  | answered hforged hanswered => exact ⟨hforged, hanswered⟩

end Session

end Ev2Reader
