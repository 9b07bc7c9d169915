import Mathlib.Data.List.Forall2
import Ev2Reader.Proofs.Session.Discipline
import Ev2Reader.Proofs.Session.Visible

/-!
# Notices and Secrets

The reader notes down nothing that an onlooker does not see. Two runs of the same operations may
differ in all keys, nonces, data and answers: if what is seen of them is the same, so are their
notices. The proof computes the notices of a run, and what is seen of its channel, from what is
seen of the operations alone.

## Main results

* `executeEach_seen`, `handshake_seen`, `perform_seen` — the notices about commands, about a
  handshake and about an operation follow from what is seen;
* `Operation.Alike.trail_eq` — what follows is the same for operations that differ in their
  secrets;
* `secrecy` — **no secret is noted down**.
-/

namespace Ev2Reader

/-! ### Following what is seen -/

/-- **What is noted of commands** one after the other, and what is seen of the channel after
them. A command is the last to be sent if nothing is seen after it and the fault is about an
answer. -/
def follow : List (Except Fault SecureCommand.Shape) → Option Mark → List Sight → Verdict →
    List Notice × Option Mark
  | .ok x :: rest, some mark, sights, verdict =>
    let mine := (firstAnswer Session.maxFrames sights).1
    let others := (firstAnswer Session.maxFrames sights).2
    if mine = [] ∨ (others = [] ∧ verdict.isOfAnswer = true) then
      (x.log mark.counter sights verdict, x.leaves mark verdict)
    else
      (x.log mark.counter mine .done ++ (follow rest (x.leaves mark .done) others verdict).1,
        (follow rest (x.leaves mark .done) others verdict).2)
  | _, mark, _, _ => ([], mark)

section Follow

variable (x : SecureCommand.Shape) (rest : List (Except Fault SecureCommand.Shape)) (mark : Mark)
  {verdict : Verdict}

/-- A command that is not sent is the last. -/
theorem follow_of_nil (verdict : Verdict) :
    follow (.ok x :: rest) (some mark) [] verdict =
      (x.log mark.counter [] verdict, x.leaves mark verdict) := by
  rw [follow]
  exact if_pos (.inl rfl)

/-- A command whose answer is found wrong is the last. -/
theorem follow_of_isOfAnswer {mine : List Sight}
    (hwhole : ∀ others, firstAnswer Session.maxFrames (mine ++ others) = (mine, others))
    (hanswer : verdict.isOfAnswer = true) :
    follow (.ok x :: rest) (some mark) mine verdict =
      (x.log mark.counter mine verdict, x.leaves mark verdict) := by
  have hmine := hwhole []
  rw [List.append_nil] at hmine
  rw [follow, hmine]
  exact if_pos (.inr ⟨rfl, hanswer⟩)

/-- The commands after one that is carried out. -/
theorem follow_of_done {mine others : List Sight}
    (hwhole : firstAnswer Session.maxFrames (mine ++ others) = (mine, others)) (hmine : mine ≠ [])
    (hothers : others = [] → verdict.isOfAnswer = false) :
    follow (.ok x :: rest) (some mark) (mine ++ others) verdict =
      (x.log mark.counter mine .done ++ (follow rest (x.leaves mark .done) others verdict).1,
        (follow rest (x.leaves mark .done) others verdict).2) := by
  rw [follow, hwhole]
  refine if_neg ?_
  rintro (hnone | ⟨hnone, hanswer⟩)
  · exact hmine hnone
  · rw [hothers hnone] at hanswer
    cases hanswer

end Follow

namespace Session

open Procedure

variable {τ ε : Type} {s s' : Session τ}

/-- **What is noted of commands follows from what is seen of them.** -/
structure Followed (commands : List (Except Fault SecureCommand)) (s : Session τ)
    (o : Outcome (Session τ) (Event ε) (SessionFault ε) Unit) : Prop where
  /-- Without an answer there is no fault about one. -/
  unsent : Event.sights o.events = [] → (Verdict.of o.result).isOfAnswer = false
  /-- The notices, and what is seen of the channel after them. -/
  notices : (Event.notices o.events, o.state.channel.map Channel.mark) =
    follow (commands.map (Except.map SecureCommand.shape)) (s.channel.map Channel.mark)
      (Event.sights o.events) (Verdict.of o.result)

variable [Transport τ ε] {command : SecureCommand} {events : List (Event ε)}

/-- A command that fails is the last to be sent. -/
theorem Followed.of_error (hopen : ∀ c ∈ s.channel, c.isOpen = true)
    (rest : List (Except Fault SecureCommand)) {fault : SessionFault ε}
    (hrun : (execute command : SessionM τ ε Bytes).run s = ⟨.error fault, s', events⟩) :
    Followed (.ok command :: rest) s ⟨.error fault, s', events⟩ := by
  cases hchannel : s.channel with
  | none =>
    rw [run_execute_none command hchannel] at hrun
    cases hrun
    exact ⟨fun _ => rfl, by rw [hchannel]; rfl⟩
  | some c =>
    obtain ⟨keys, hkeys⟩ := Option.isSome_iff_exists.1 (hopen c hchannel)
    have hseen := execute_seen (ε := ε) hchannel hkeys command
    rw [hrun] at hseen
    obtain ⟨hnotices, hmark, hunsent, hsent⟩ := hseen
    dsimp only at hnotices hmark hunsent hsent
    refine ⟨fun hnone => (hunsent hnone).2, ?_⟩
    dsimp only
    rw [hnotices, hmark, hchannel]
    -- The fault is one of the command itself, or one about its answer.
    by_cases hnone : Event.sights events = []
    · rw [hnone]
      exact (follow_of_nil command.shape _ c.mark _).symm
    · obtain ⟨hverdict, hwhole⟩ := hsent hnone
      refine (follow_of_isOfAnswer command.shape _ c.mark hwhole
        (hverdict.resolve_left fun hdone => ?_)).symm
      cases fault <;> cases hdone

/-- After a command that is carried out the other commands are sent. Its own exchanges are the
first whole answer that is seen. -/
theorem Followed.of_ok (hopen : ∀ c ∈ s.channel, c.isOpen = true)
    {rest : List (Except Fault SecureCommand)} {data : Bytes}
    (hrun : (execute command : SessionM τ ε Bytes).run s = ⟨.ok data, s', events⟩)
    {o : Outcome (Session τ) (Event ε) (SessionFault ε) Unit} (h : Followed rest s' o) :
    Followed (.ok command :: rest) s ⟨o.result, o.state, events ++ o.events⟩ := by
  cases hchannel : s.channel with
  | none =>
    rw [run_execute_none command hchannel] at hrun
    cases hrun
  | some c =>
    obtain ⟨keys, hkeys⟩ := Option.isSome_iff_exists.1 (hopen c hchannel)
    have hseen := execute_seen (ε := ε) hchannel hkeys command
    rw [hrun] at hseen
    obtain ⟨hnotices, hmark, hunsent, hsent⟩ := hseen
    dsimp only [Verdict.of] at hnotices hmark
    have hmine : Event.sights events ≠ [] := fun hnone => (hunsent hnone).1 rfl
    obtain ⟨-, hwhole⟩ := hsent hmine
    have hfollow := follow_of_done command.shape (rest.map (Except.map SecureCommand.shape)) c.mark
      (hwhole (Event.sights o.events)) hmine h.unsent
    rw [← hmark, ← h.notices] at hfollow
    refine ⟨fun hnone => ?_, ?_⟩
    · rw [Event.sights_append] at hnone
      exact absurd (List.append_eq_nil_iff.1 hnone).1 hmine
    · dsimp only
      rw [Event.sights_append, Event.notices_append, hnotices, hchannel]
      exact hfollow.symm

/-- **What is noted of commands follows from what is seen of them.** The induction is on the run
of the commands. -/
theorem executeEach_seen (hopen : ∀ c ∈ s.channel, c.isOpen = true)
    {commands : List (Except Fault SecureCommand)}
    (hmissing : ∀ e, .error e ∈ commands → (Verdict.fault e).isOfAnswer = false) :
    Followed commands s ((executeEach commands : SessionM τ ε Unit).run s) := by
  refine executeEach_induction (ε := ε) (motive := fun commands s o =>
    (∀ c ∈ s.channel, c.isOpen = true) →
    (∀ e, .error e ∈ commands → (Verdict.fault e).isOfAnswer = false) → Followed commands s o)
    ?done ?missing ?failed ?next commands s hopen hmissing
  case done =>
    intro s _ _
    exact ⟨fun _ => rfl, rfl⟩
  case missing =>
    intro e rest s _ hmissing
    exact ⟨fun _ => hmissing e List.mem_cons_self, rfl⟩
  case failed =>
    intro command rest s fault s' events hrun hopen _
    exact .of_error hopen rest hrun
  case next =>
    intro command rest s data s' events o hrun ih hopen hmissing
    have hleaves := execute_leaves (ε := ε) hopen command
    rw [hrun] at hleaves
    exact .of_ok hopen hrun (ih hleaves.isOpen fun e he => hmissing e (List.mem_cons_of_mem _ he))

end Session

/-! ### Giving up a channel -/

/-- What is noted of giving up a channel. -/
def closingNotices (mark : Option Mark) : List Notice :=
  (mark.map fun mark => Notice.channelClosing mark.counter).toList

namespace Session

open Procedure

/-- Giving up an open channel is noted, with its counter and nothing else. -/
theorem events_close {τ ε : Type} {s : Session τ} (hopen : ∀ c ∈ s.channel, c.isOpen = true) :
    ((close : SessionM τ ε Unit).run s).events =
      (closingNotices (s.channel.map Channel.mark)).map Event.note := by
  obtain ⟨t, channel⟩ := s
  cases channel with
  | none => rfl
  | some c =>
    obtain ⟨keys, hkeys⟩ := Option.isSome_iff_exists.1 (hopen c rfl)
    show (Channel.close.run c).events.map Event.note = _
    rw [Channel.run_close_open hkeys]
    rfl

end Session

/-! ### Handshakes -/

namespace Handshake

open Procedure

/-- What is noted of the end of a handshake that was answered twice. -/
def ended (keyNumber : KeyNumber) : Verdict → List Notice
  | .done => [.authenticated keyNumber]
  | .fault .authenticationFailure => [.proofFailed keyNumber]
  | _ => []

/-- What is noted of a handshake after its challenge. -/
def confirmationLog (keyNumber : KeyNumber) : List Sight → Verdict → List Notice
  | some (status, _) :: _, verdict => .confirmationAnswered status :: ended keyNumber verdict
  | _, _ => []

/-- **The notices about a handshake**, by what is seen of its exchanges and its result. -/
def log (keyNumber : KeyNumber) : List Sight → Verdict → List Notice
  | some (status, _) :: rest, verdict =>
    .challengeAnswered keyNumber status :: confirmationLog keyNumber rest verdict
  | _, _ => []

/-- What is seen of the channel after a handshake. -/
def leaves (keyNumber : KeyNumber) : Verdict → Option Mark
  | .done => some ⟨keyNumber, 0⟩
  | _ => none

/-- Reading a challenge notes the key number and the status. -/
theorem events_receiveChallenge (s : Started) (answer : Response) :
    ((s.receiveChallenge answer).run ()).events =
      [.challengeAnswered s.keyNumber answer.status] := by
  simp only [Started.receiveChallenge, run_bind, run_record, andThen_ok]
  split
  · split <;> rfl
  · rfl

/-- Reading a confirmation notes the status, and how the handshake ends. -/
theorem events_receiveConfirmation (s : Challenged) (answer : Response) :
    ((s.receiveConfirmation answer).run ()).events =
      .confirmationAnswered answer.status ::
        ended s.keyNumber (.ofChannel ((s.receiveConfirmation answer).run ()).result) := by
  simp only [Challenged.receiveConfirmation, run_bind, run_record, andThen_ok]
  split
  · rfl
  · split
    · split <;> rfl
    · rfl

/-- The channel of a confirmed handshake is seen with its key number, at the counter value 0. -/
theorem mark_receiveConfirmation (s : Challenged) (answer : Response) :
    ((s.receiveConfirmation answer).run ()).result.toOption.map Channel.mark =
      leaves s.keyNumber (.ofChannel ((s.receiveConfirmation answer).run ()).result) := by
  cases hresult : ((s.receiveConfirmation answer).run ()).result with
  | error => rfl
  | ok c =>
    obtain ⟨-, _, -, -, rfl⟩ := receiveConfirmation_eq_ok_iff.1 hresult
    rfl

end Handshake

namespace Session

open Procedure

variable {τ ε : Type} [Transport τ ε] {s : Session τ}

/-- What is noted and seen of the second exchange of a handshake. -/
theorem confirmation_seen (challenged : Handshake.Challenged) (s : Session τ) :
    let o := (transmit challenged.secondCommand >>= fun answer =>
      step (challenged.receiveConfirmation answer) : SessionM τ ε Channel).run s
    Event.notices o.events =
        Handshake.confirmationLog challenged.keyNumber (Event.sights o.events)
          (Verdict.of o.result) ∧
      o.result.toOption.map Channel.mark =
        Handshake.leaves challenged.keyNumber (Verdict.of o.result) := by
  rcases hsecond : Transport.transmit s.transport challenged.secondCommand with
    ⟨failure | answer, t⟩
  · rw [run_bind_of_error (run_transmit_of_error hsecond)]
    exact ⟨rfl, rfl⟩
  · have hmark := Handshake.mark_receiveConfirmation challenged answer
    rw [run_bind_of_ok (run_transmit_of_ok hsecond), run_step,
      Handshake.events_receiveConfirmation]
    generalize ((challenged.receiveConfirmation answer).run ()).result = x at hmark
    simp only [Verdict.of_mapError, Event.notices_append, Event.sights_append,
      Event.notices_map_note, Event.sights_map_note, List.append_nil]
    refine ⟨rfl, ?_⟩
    rw [← hmark]
    cases x <;> rfl

/-- **What is noted and seen of a handshake.** The cases are split in the order of its steps. -/
theorem handshake_seen (keyNumber : KeyNumber) (key : Key) (nonce : Nonce) (s : Session τ) :
    let o := (handshake keyNumber key nonce : SessionM τ ε Channel).run s
    Event.notices o.events =
        Handshake.log keyNumber (Event.sights o.events) (Verdict.of o.result) ∧
      o.result.toOption.map Channel.mark = Handshake.leaves keyNumber (Verdict.of o.result) := by
  dsimp only
  cases hstart : Handshake.start keyNumber key nonce with
  | error e =>
    rw [Handshake.start] at hstart
    split at hstart <;> cases hstart
    rw [handshake, Handshake.start, dif_neg ‹_›]
    exact ⟨rfl, rfl⟩
  | ok started =>
    obtain rfl : started.keyNumber = keyNumber := by
      rw [Handshake.start] at hstart
      split at hstart <;> cases hstart
      rfl
    rw [handshake, hstart]
    rcases hfirst : Transport.transmit s.transport started.firstCommand with ⟨failure | answer, t⟩
    · simp only [run_bind, run_require, mapError_ok, andThen_ok, run_transmit_of_error hfirst,
        andThen_error]
      exact ⟨rfl, rfl⟩
    have hnoted := Handshake.events_receiveChallenge started answer
    cases hchallenge : ((started.receiveChallenge answer).run ()).result with
    | error e =>
      simp only [run_bind, run_require, mapError_ok, andThen_ok, run_transmit_of_ok hfirst,
        run_step_of_eq hchallenge, hnoted]
      exact ⟨rfl, rfl⟩
    | ok challenged =>
      obtain ⟨-, challenge, -, rfl⟩ := Handshake.receiveChallenge_eq_ok_iff.1 hchallenge
      simp only [run_bind, run_require, mapError_ok, andThen_ok, run_transmit_of_ok hfirst,
        run_step_of_eq hchallenge, hnoted]
      obtain ⟨hnotices, hmark⟩ := confirmation_seen (ε := ε) ⟨started, challenge⟩ ⟨t, s.channel⟩
      exact ⟨congrArg (List.cons _) hnotices, hmark⟩

end Session

/-! ### Operations -/

namespace Operation

/-- The notices about a selection, by what is seen of its exchange. -/
def selectionNotices : List Sight → List Notice
  | some (status, _) :: _ => [.selectionAnswered status]
  | _ => []

/-- **What is noted of an operation**, and what is seen of the channel after it. -/
def trail (op : Operation) (channel : Option Channel) (sights : List Sight) (verdict : Verdict) :
    List Notice × Option Mark :=
  match op with
  | selectApplication =>
    (closingNotices (channel.map Channel.mark) ++ selectionNotices sights, none)
  | authenticate keyNumber _ _ =>
    (closingNotices (channel.map Channel.mark) ++ Handshake.log keyNumber sights verdict,
      Handshake.leaves keyNumber verdict)
  | close => (closingNotices (channel.map Channel.mark), none)
  | op =>
    follow ((op.commands channel).map (Except.map SecureCommand.shape))
      (channel.map Channel.mark) sights verdict

/-- What is noted of an operation on a channel is noted of its commands. -/
theorem trail_of_commands {op : Operation} (hanew : op.beginsAnew = false) (hclose : op ≠ close)
    (channel : Option Channel) (sights : List Sight) (verdict : Verdict) :
    op.trail channel sights verdict =
      follow ((op.commands channel).map (Except.map SecureCommand.shape))
        (channel.map Channel.mark) sights verdict := by
  cases op with
  | selectApplication | authenticate => cases hanew
  | close => exact absurd rfl hclose
  | execute | changeFileSettings | changeKey | writeData | readData | cardUid => rfl

/-- The fault in place of a command is never one about an answer. -/
theorem isOfAnswer_of_mem_commands {channel : Option Channel} {op : Operation} {e : Fault}
    (h : .error e ∈ op.commands channel) : (Verdict.fault e).isOfAnswer = false := by
  rcases commands_harmless h with ⟨-, rfl⟩ | hharmless
  · rfl
  · cases e with
    | protocolViolation | integrityFailure => cases hharmless
    | _ => rfl

end Operation

namespace Session

open Procedure

variable {τ ε : Type} [Transport τ ε] {s : Session τ}

/-- **What is noted of selecting the application** is told by what is seen of it. -/
theorem perform_seen_selectApplication (hopen : ∀ c ∈ s.channel, c.isOpen = true) :
    let o := (perform .selectApplication : SessionM τ ε Bytes).run s
    Event.notices o.events = closingNotices (s.channel.map Channel.mark) ++
      Operation.selectionNotices (Event.sights o.events) := by
  dsimp only
  rw [perform, selectApplication, bind_assoc, run_bind_of_ok (run_close s), events_close hopen]
  dsimp only
  rw [Event.notices_append, Event.notices_map_note, Event.sights_append, Event.sights_map_note]
  congr 1
  rcases h : Transport.transmit s.transport selectMessage with ⟨failure | answer, t⟩
  · rw [bind_assoc, run_bind_of_error (run_transmit_of_error (s := ⟨s.transport, none⟩) h)]
    rfl
  · rw [bind_assoc, run_bind_of_ok (run_transmit_of_ok (s := ⟨s.transport, none⟩) h)]
    cases answer.status.isSuccess <;> rfl

/-- **What is noted of an authentication,** and what is seen of its channel, is told by the key
number, what is seen of it and the verdict. -/
theorem perform_seen_authenticate (hopen : ∀ c ∈ s.channel, c.isOpen = true)
    (keyNumber : KeyNumber) (key : Key) (nonce : Nonce) :
    let o := (perform (.authenticate keyNumber key nonce) : SessionM τ ε Bytes).run s
    Event.notices o.events = closingNotices (s.channel.map Channel.mark) ++
        Handshake.log keyNumber (Event.sights o.events) (Verdict.of o.result) ∧
      o.state.channel.map Channel.mark = Handshake.leaves keyNumber (Verdict.of o.result) := by
  obtain ⟨hnotices, hmark⟩ := handshake_seen (ε := ε) keyNumber key nonce ⟨s.transport, none⟩
  dsimp only
  rw [run_perform_authenticate, run_authenticate, events_close hopen]
  dsimp only at hnotices hmark ⊢
  rw [Event.notices_append, Event.notices_map_note, Event.sights_append, Event.sights_map_note,
    Verdict.of_map, Verdict.of_map, hnotices]
  exact ⟨rfl, hmark⟩

/-- **What is noted of an operation follows from what is seen of it.** -/
theorem perform_seen (hopen : ∀ c ∈ s.channel, c.isOpen = true) (op : Operation) :
    let o := (perform op : SessionM τ ε Bytes).run s
    (Event.notices o.events, o.state.channel.map Channel.mark) =
      op.trail s.channel (Event.sights o.events) (Verdict.of o.result) := by
  dsimp only
  by_cases hclose : op = .close
  · subst hclose
    rw [perform, run_bind_of_ok (run_close s), events_close hopen]
    simp [Operation.trail]
  cases hanew : op.beginsAnew with
  | true =>
    cases op with
    | selectApplication =>
      have hnotices := perform_seen_selectApplication (ε := ε) hopen
      obtain ⟨hstate, -⟩ := run_selectApplication (ε := ε) s
      rw [Operation.trail, ← hnotices, hstate]
      rfl
    | authenticate keyNumber key nonce =>
      obtain ⟨hnotices, hmark⟩ := perform_seen_authenticate (ε := ε) hopen keyNumber key nonce
      rw [Operation.trail, ← hnotices, ← hmark]
    | execute | changeFileSettings | changeKey | writeData | readData | cardUid | close =>
      cases hanew
  | false =>
    have hmissing : ∀ e, .error e ∈ op.commands s.channel →
        (Verdict.fault e).isOfAnswer = false := fun _ => Operation.isOfAnswer_of_mem_commands
    have hseen := executeEach_seen (ε := ε) hopen hmissing
    rw [run_perform hanew hclose] at hseen
    have hnotices := hseen.notices
    dsimp only at hnotices
    rw [Verdict.of_map] at hnotices
    rw [hnotices, Operation.trail_of_commands hanew hclose]

end Session

/-! ### Operations that differ in their secrets -/

/-- What is seen of the pieces of a byte string depends on its length only. -/
theorem map_length_chunks {size : Nat} {bytes bytes' : Bytes}
    (h : bytes.length = bytes'.length) :
    (chunks size bytes).map List.length = (chunks size bytes').map List.length := by
  fun_induction chunks size bytes generalizing bytes' with
  | case1 bytes hlong ih =>
    have hrest : (chunks size (bytes.drop size)).map List.length =
        (chunks size (bytes'.drop size)).map List.length :=
      ih (by rw [List.length_drop, List.length_drop, h])
    rw [h] at hlong
    rw [chunks.eq_def size bytes', if_pos hlong, List.map_cons, List.map_cons, hrest,
      List.length_take, List.length_take, h]
  | case2 hlong =>
    obtain rfl := List.length_eq_zero_iff.1 h.symm
    simp [chunks]
  | case3 bytes hlong hne =>
    have hne' : bytes' ≠ [] := by
      rintro rfl
      exact hne (List.length_eq_zero_iff.1 h)
    rw [h] at hlong
    rw [chunks.eq_def size bytes', if_neg hlong, if_neg hne', List.map_singleton,
      List.map_singleton, h]

namespace SecureCommand

/-- What is seen of a change of key is its number, and whether the session ends. -/
theorem shape_changeKey (authenticated number : KeyNumber) (newKey newKey' : Key)
    (version version' : UInt8) (oldKey oldKey' : Key) :
    (changeKey authenticated number newKey version oldKey).map shape =
      (changeKey authenticated number newKey' version' oldKey').map shape := by
  by_cases hnamed : number.Named
  · rw [changeKey_eq_ok_iff.2 ⟨hnamed, rfl⟩, changeKey_eq_ok_iff.2 ⟨hnamed, rfl⟩]
    simp [Except.map, shape, length_keyData]
  · simp [changeKey, check, hnamed]

/-- Only the length of the data shows in the command that writes it. -/
theorem shape_writeData (file : UInt8) (offset : UInt32) {data data' : Bytes}
    (h : data.length = data'.length) (protection : Protection) :
    (writeData file offset data protection).map shape =
      (writeData file offset data' protection).map shape := by
  rw [writeData, writeData, h]
  cases check (data'.length ≤ maxWriteChunk protection)
    (.payloadTooLarge (maxWriteChunk protection) : Fault) with
  | error => rfl
  | ok =>
    cases dataHeader file offset (UInt32.ofNat data'.length) with
    | error => rfl
    | ok header => simp [bind, Except.bind, pure, Except.pure, Except.map, shape, h]

end SecureCommand

namespace Operation

/-- **Operations that differ in their secrets only**: in keys and key versions, in nonces and in
data of the same length. -/
inductive Alike : Operation → Operation → Prop where
  /-- Selecting has no secrets. -/
  | selectApplication : Alike selectApplication selectApplication
  /-- The keys and the nonces may differ. -/
  | authenticate (keyNumber : KeyNumber) (key key' : Key) (nonce nonce' : Nonce) :
      Alike (authenticate keyNumber key nonce) (authenticate keyNumber key' nonce')
  /-- The data may differ, and all else that does not show in the shape of a command. -/
  | execute {command command' : SecureCommand} (h : command.shape = command'.shape) :
      Alike (execute command) (execute command')
  /-- The settings may differ if their records have the same length. -/
  | changeFileSettings (file : UInt8) {settings settings' : FileSettings}
      (h : settings.encoded.length = settings'.encoded.length) :
      Alike (changeFileSettings file settings) (changeFileSettings file settings')
  /-- The keys and their versions may differ. -/
  | changeKey (number : KeyNumber) (newKey newKey' : Key) (version version' : UInt8)
      (oldKey oldKey' : Key) :
      Alike (changeKey number newKey version oldKey) (changeKey number newKey' version' oldKey')
  /-- The data may differ if it has the same length. -/
  | writeData (file : UInt8) (offset : UInt32) {data data' : Bytes}
      (h : data.length = data'.length) (protection : Protection) :
      Alike (writeData file offset data protection) (writeData file offset data' protection)
  /-- Reading has no secrets. -/
  | readData (file : UInt8) (offset length : UInt32) (protection : Protection) :
      Alike (readData file offset length protection) (readData file offset length protection)
  /-- Nor has asking for the identifier of the card. -/
  | cardUid : Alike cardUid cardUid
  /-- Nor has closing. -/
  | close : Alike close close

/-- Only the lengths of the pieces show in the commands that write them. -/
theorem chunkCommands_shape (file : UInt8) (protection : Protection) (offset : UInt32)
    {pieces pieces' : List Bytes} (h : pieces.map List.length = pieces'.map List.length) :
    (chunkCommands file protection offset pieces).map (Except.map SecureCommand.shape) =
      (chunkCommands file protection offset pieces').map (Except.map SecureCommand.shape) := by
  induction pieces generalizing pieces' offset with
  | nil =>
    obtain rfl := List.map_eq_nil_iff.1 h.symm
    rfl
  | cons piece pieces ih =>
    obtain ⟨piece', rest', rfl, hpiece, hrest⟩ := List.map_eq_cons_iff.1 h.symm
    rw [chunkCommands, chunkCommands, List.map_cons, List.map_cons, ih _ hrest.symm, hpiece,
      SecureCommand.shape_writeData file offset hpiece.symm protection]

/-- **What is seen of the commands of an operation** does not depend on its secrets. -/
theorem Alike.commands_shape {op op' : Operation} (h : Alike op op')
    {channel channel' : Option Channel}
    (hmark : channel.map Channel.mark = channel'.map Channel.mark) :
    (op.commands channel).map (Except.map SecureCommand.shape) =
      (op'.commands channel').map (Except.map SecureCommand.shape) := by
  cases h with
  | selectApplication | authenticate | readData | cardUid | close => rfl
  | execute h => simp [commands, Except.map, h]
  | changeFileSettings file h =>
    simp [commands, Except.map, SecureCommand.shape, SecureCommand.changeFileSettings, h]
  | changeKey number newKey newKey' version version' oldKey oldKey' =>
    cases channel with
    | none =>
      obtain rfl := Option.map_eq_none_iff.1 hmark.symm
      rfl
    | some c =>
      -- Whether the session ends depends on the number of its key, which is seen.
      obtain ⟨c', rfl, heq⟩ := Option.map_eq_some_iff.1 hmark.symm
      have hnumber : c'.keyNumber = c.keyNumber := congrArg Mark.keyNumber heq
      rw [commands, commands, List.map_singleton, List.map_singleton, hnumber,
        SecureCommand.shape_changeKey]
  | writeData file offset h protection =>
    rw [commands, commands, h]
    split
    · rfl
    · exact chunkCommands_shape file protection offset (map_length_chunks h)

/-- **What follows from what is seen of an operation** does not depend on its secrets. -/
theorem Alike.trail_eq {op op' : Operation} (h : Alike op op') {channel channel' : Option Channel}
    (hmark : channel.map Channel.mark = channel'.map Channel.mark) (sights : List Sight)
    (verdict : Verdict) :
    op.trail channel sights verdict = op'.trail channel' sights verdict := by
  have hcommands := h.commands_shape hmark
  cases h with
  | selectApplication | authenticate | close => simp only [trail, hmark]
  | execute | changeFileSettings | changeKey | writeData | readData | cardUid =>
    simp only [trail, hmark, hcommands]

end Operation

/-! ### Runs -/

/-- The level and the text of a notice. -/
def Notice.record (notice : Notice) : Notice.Level × String :=
  (notice.level, notice.text)

namespace Session

variable {τ ε τ' ε' : Type} [Transport τ ε] [Transport τ' ε']

/-- **What is seen of operations** one after the other: of each of them its exchanges and its
result. -/
def sightings : List Operation → Session τ → List (List Sight × Verdict)
  | [], _ => []
  | op :: ops, s =>
    let o := (perform op : SessionM τ ε Bytes).run s
    (Event.sights o.events, Verdict.of o.result) :: sightings ops o.state

/-- The notices about operations from two sessions with open channels. The induction is on the
operations; what is seen of the channels stays the same in both runs. -/
theorem notices_eq_of_alike {ops ops' : List Operation}
    (halike : List.Forall₂ Operation.Alike ops ops') {s : Session τ} {s' : Session τ'}
    (hopen : ∀ c ∈ s.channel, c.isOpen = true) (hopen' : ∀ c ∈ s'.channel, c.isOpen = true)
    (hmark : s.channel.map Channel.mark = s'.channel.map Channel.mark)
    (hseen : sightings (ε := ε) ops s = sightings (ε := ε') ops' s') :
    Event.notices (history (ε := ε) ops s) = Event.notices (history (ε := ε') ops' s') := by
  induction halike generalizing s s' with
  | nil => rfl
  | @cons op op' ops ops' hop _ ih =>
    obtain ⟨hfirst, hrest⟩ := List.cons.inj hseen
    obtain ⟨hsights, hverdict⟩ := Prod.mk.inj hfirst
    have hnoted := perform_seen (ε := ε) hopen op
    have hnoted' := perform_seen (ε := ε') hopen' op'
    dsimp only at hnoted hnoted'
    rw [← hsights, ← hverdict, ← hop.trail_eq hmark, ← hnoted] at hnoted'
    obtain ⟨hnotices, hleft⟩ := Prod.mk.inj hnoted'
    rw [history, history, Event.notices_append, Event.notices_append, hnotices]
    exact congrArg _ (ih (perform_disciplined hopen op).isOpen
      (perform_disciplined hopen' op').isOpen hleft.symm hrest)

/-- **No secret is noted down.** Over any two transports, two readers perform operations that
differ in their secrets only. If what is seen of them is the same, they note down the same
records in the same order. -/
theorem secrecy {ops ops' : List Operation} (halike : List.Forall₂ Operation.Alike ops ops')
    (t : τ) (t' : τ')
    (hseen : sightings (ε := ε) ops (begin t) = sightings (ε := ε') ops' (begin t')) :
    (Event.notices (history (ε := ε) ops (begin t))).map Notice.record =
      (Event.notices (history (ε := ε') ops' (begin t'))).map Notice.record := by
  have hopen := isOpen_after_begin (ε := ε) t []
  have hopen' := isOpen_after_begin (ε := ε') t' []
  exact congrArg (List.map Notice.record) (notices_eq_of_alike halike hopen hopen' rfl hseen)

/-- A tag that authenticates the reader and answers its first command with a wrong code. -/
def forgesOnce (key : Key) (a b : Nonce) (ti : Word) (code : Bytes) : Script :=
  ⟨[Handshake.challengeAnswer key b,
    Handshake.Confirmation.answer key .operationOk ⟨ti, a.rotateLeft, .zero, .zero, .zero⟩,
    ⟨.operationOk, code⟩, ⟨.normalProcessing, []⟩]⟩

/-- Two readers with different keys, nonces and data, whose command fails. -/
theorem secrecy_forgesOnce :
    let key : Key := Block.ofFn UInt8.ofNat
    let nonce : Nonce := Block.ofFn fun i => UInt8.ofNat (7 * i)
    let ops : List Operation :=
      [.authenticate 2 .factoryDefault .zero, .writeData 3 8 [0x05] .full, .close,
        .selectApplication]
    let ops' : List Operation :=
      [.authenticate 2 key nonce, .writeData 3 8 [0xFF] .full, .close, .selectApplication]
    let t := forgesOnce .factoryDefault .zero nonce ⟨1, 2, 3, 4⟩ [0, 1, 2, 3, 4, 5, 6, 7]
    let t' := forgesOnce key nonce .zero ⟨9, 9, 9, 9⟩ [7, 6, 5, 4, 3, 2, 1, 0]
    (List.Forall₂ Operation.Alike ops ops' ∧
      sightings ops (begin t) = sightings ops' (begin t')) ∧
    (Event.notices (history ops (begin t))).map Notice.record =
      (Event.notices (history ops' (begin t'))).map Notice.record := by
  intro key nonce ops ops' t t'
  have halike : List.Forall₂ Operation.Alike ops ops' :=
    .cons (.authenticate ..) (.cons (.writeData _ _ (by rfl) _)
      (.cons .close (.cons .selectApplication .nil)))
  have hseen : sightings ops (begin t) = sightings ops' (begin t') := by decide +kernel
  exact ⟨⟨halike, hseen⟩, secrecy halike t t' hseen⟩

end Session

end Ev2Reader
