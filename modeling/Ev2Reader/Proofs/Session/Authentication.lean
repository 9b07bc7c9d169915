import Ev2Reader.Proofs.Session.Execution

/-!
# Authentication

An authentication gives up the channel of the session, makes a handshake of two exchanges
and keeps the channel that comes of it. This module says once how a handshake can go, and
which answers of the tag it accepts.

## Main results

* `receiveChallenge_eq_ok_iff`, `receiveConfirmation_eq_ok_iff` — the answers that a
  handshake accepts, as the tag makes them;
* `handshaken` — **the six ways a handshake can go**;
* `run_authenticate` — what an authentication leaves of the session.
-/

namespace Ev2Reader

namespace Handshake

open Procedure

/-- The challenge of a tag: its nonce under the key, and the promise of another frame. -/
def challengeAnswer (key : Key) (nonce : Nonce) : Response :=
  ⟨.additionalFrame, ((Aes.withKey key).encrypt nonce).toList⟩

/-- The cipher blocks of a confirmation determine it. -/
theorem Confirmation.cipherBlocks_inj {cipher : BlockCipher} {c c' : Confirmation} :
    c.cipherBlocks cipher = c'.cipherBlocks cipher ↔ c = c' := by
  obtain ⟨x, y, hblocks⟩ : ∃ x y, c'.cipherBlocks cipher = [x, y] := ⟨_, _, rfl⟩
  rw [hblocks, decrypted_cipherBlocks, decrypted_cipherBlocks.1 hblocks]
  exact eq_comm

/-- The answer that carries a confirmation. -/
def Confirmation.answer (key : Key) (status : StatusWord) (c : Confirmation) : Response :=
  ⟨status, Block.joined (c.cipherBlocks (Aes.withKey key))⟩

variable {answer : Response}

/-- A challenge is one block and the promise of another frame. -/
theorem receiveChallenge_eq_ok_iff {started : Started} {challenged : Challenged} :
    ((started.receiveChallenge answer).run ()).result = .ok challenged ↔
      answer.status = .additionalFrame ∧
        ∃ challenge : Block, answer.data = challenge.toList ∧
          challenged = ⟨started, challenge⟩ := by
  by_cases hstatus : answer.status = .additionalFrame
  · cases hblock : Block.ofBytes? answer.data with
    | none =>
      have hnot (b : Block) : answer.data ≠ b.toList := by
        intro hb
        rw [hb, Block.ofBytes?_toList] at hblock
        cases hblock
      simp [Started.receiveChallenge, hstatus, hblock, hnot]
    | some challenge =>
      have hdata := Block.ofBytes?_eq_some_iff.1 hblock
      simp [Started.receiveChallenge, hstatus, hdata, Block.toList_inj, eq_comm]
  · simp [Started.receiveChallenge, hstatus]

/-- A confirmation proves the key by the reader's nonce and brings the transaction
identifier of the new channel. -/
theorem receiveConfirmation_eq_ok_iff {challenged : Challenged} {c : Channel} :
    ((challenged.receiveConfirmation answer).run ()).result = .ok c ↔
      answer.status.isSuccess = true ∧ ∃ confirmation : Confirmation,
        answer.data = Block.joined (confirmation.cipherBlocks challenged.cipher) ∧
        confirmation.rotatedNonce = challenged.nonce.rotateLeft ∧
        c = Channel.fresh challenged.keyNumber confirmation.transactionId
          challenged.sessionKeys := by
  constructor
  · intro h
    cases hstatus : answer.status.isSuccess with
    | false => simp [Challenged.receiveConfirmation, hstatus] at h
    | true =>
      simp only [Challenged.receiveConfirmation, run_bind, run_record, andThen_ok, hstatus,
        Bool.true_eq_false, if_false] at h
      split at h
      next x y hsplit =>
        have hdata := (Block.split_eq_iff.1 hsplit).1
        rw [List.append_nil] at hdata
        split at h
        next hproof =>
          cases h
          refine ⟨rfl, Confirmation.decrypted challenged.cipher x y, ?_, hproof, rfl⟩
          rw [Confirmation.cipherBlocks_decrypted, hdata]
        · cases h
      · cases h
  · rintro ⟨hstatus, confirmation, hdata, hproof, rfl⟩
    obtain ⟨x, y, hblocks⟩ : ∃ x y, confirmation.cipherBlocks challenged.cipher = [x, y] :=
      ⟨_, _, rfl⟩
    have hdecrypted := Confirmation.decrypted_cipherBlocks.1 hblocks
    have hsplit : Block.split answer.data = ([x, y], []) := by
      rw [hdata, hblocks, Block.split_joined]
    simp [Challenged.receiveConfirmation, hstatus, hsplit, hdecrypted, hproof]

end Handshake

namespace Session

open Procedure

variable {τ ε : Type}

/-- A step of a handshake gives its result to the session. -/
theorem run_step_of_eq {α : Type} {p : Handshake.StepM α} {x : Except Fault α}
    (h : (p.run ()).result = x) (s : Session τ) :
    (step p : SessionM τ ε α).run s =
      ⟨x.mapError .internal, s, (p.run ()).events.map .note⟩ := by
  rw [run_step, h]

/-- A handshake with a key that there is begins. -/
theorem start_of_named {keyNumber : KeyNumber} (hnamed : keyNumber.Named) (key : Key)
    (nonce : Nonce) :
    Handshake.start keyNumber key nonce = .ok ⟨keyNumber, key, nonce, hnamed⟩ :=
  dif_pos hnamed

variable [Transport τ ε]

/-- The part of an authentication between giving up the old channel and keeping the new. -/
def handshake (keyNumber : KeyNumber) (key : Key) (nonce : Nonce) : SessionM τ ε Channel := do
  let started ← require (Handshake.start keyNumber key nonce)
  let answer ← transmit started.firstCommand
  let challenged ← step (started.receiveChallenge answer)
  let answer ← transmit challenged.secondCommand
  step (challenged.receiveConfirmation answer)

/-- **How a handshake can go.** -/
inductive Handshaken (keyNumber : KeyNumber) (key : Key) (nonce : Nonce) (s : Session τ) :
    Outcome (Session τ) (Event ε) (SessionFault ε) Channel → Prop where
  /-- There is no such key. -/
  | unnamed (hnamed : ¬ keyNumber.Named) :
      Handshaken keyNumber key nonce s ⟨.error (.internal (.invalidKeyNumber keyNumber)), s, []⟩
  /-- The first message is lost. -/
  | unanswered (hnamed : keyNumber.Named) {failure : ε} {t : τ}
      (hfirst : Transport.transmit s.transport
        (Handshake.Started.firstCommand ⟨keyNumber, key, nonce, hnamed⟩) = (.error failure, t))
      (events : List (Event ε)) :
      Handshaken keyNumber key nonce s ⟨.error (.transport failure), ⟨t, s.channel⟩, events⟩
  /-- The answer to the first message is no challenge. -/
  | unchallenged (hnamed : keyNumber.Named) {answer : Response} {t : τ} {e : Fault}
      (hfirst : Transport.transmit s.transport
        (Handshake.Started.firstCommand ⟨keyNumber, key, nonce, hnamed⟩) = (.ok answer, t))
      (hchallenge : ((Handshake.Started.receiveChallenge ⟨keyNumber, key, nonce, hnamed⟩
        answer).run ()).result = .error e)
      (events : List (Event ε)) :
      Handshaken keyNumber key nonce s ⟨.error (.internal e), ⟨t, s.channel⟩, events⟩
  /-- The second message is lost. -/
  | unproved (hnamed : keyNumber.Named) {answer : Response} {t t' : τ} {failure : ε}
      {challenged : Handshake.Challenged}
      (hfirst : Transport.transmit s.transport
        (Handshake.Started.firstCommand ⟨keyNumber, key, nonce, hnamed⟩) = (.ok answer, t))
      (hchallenge : ((Handshake.Started.receiveChallenge ⟨keyNumber, key, nonce, hnamed⟩
        answer).run ()).result = .ok challenged)
      (hsecond : Transport.transmit t challenged.secondCommand = (.error failure, t'))
      (events : List (Event ε)) :
      Handshaken keyNumber key nonce s ⟨.error (.transport failure), ⟨t', s.channel⟩, events⟩
  /-- The answer to the second message is no confirmation. -/
  | unconfirmed (hnamed : keyNumber.Named) {answer answer' : Response} {t t' : τ} {e : Fault}
      {challenged : Handshake.Challenged}
      (hfirst : Transport.transmit s.transport
        (Handshake.Started.firstCommand ⟨keyNumber, key, nonce, hnamed⟩) = (.ok answer, t))
      (hchallenge : ((Handshake.Started.receiveChallenge ⟨keyNumber, key, nonce, hnamed⟩
        answer).run ()).result = .ok challenged)
      (hsecond : Transport.transmit t challenged.secondCommand = (.ok answer', t'))
      (hconfirmation : ((challenged.receiveConfirmation answer').run ()).result = .error e)
      (events : List (Event ε)) :
      Handshaken keyNumber key nonce s ⟨.error (.internal e), ⟨t', s.channel⟩, events⟩
  /-- The tag is authenticated. -/
  | confirmed (hnamed : keyNumber.Named) {answer answer' : Response} {t t' : τ} {c : Channel}
      {challenged : Handshake.Challenged}
      (hfirst : Transport.transmit s.transport
        (Handshake.Started.firstCommand ⟨keyNumber, key, nonce, hnamed⟩) = (.ok answer, t))
      (hchallenge : ((Handshake.Started.receiveChallenge ⟨keyNumber, key, nonce, hnamed⟩
        answer).run ()).result = .ok challenged)
      (hsecond : Transport.transmit t challenged.secondCommand = (.ok answer', t'))
      (hconfirmation : ((challenged.receiveConfirmation answer').run ()).result = .ok c)
      (events : List (Event ε)) :
      Handshaken keyNumber key nonce s ⟨.ok c, ⟨t', s.channel⟩, events⟩

/-- **A handshake goes in one of the six ways.** -/
theorem handshaken (keyNumber : KeyNumber) (key : Key) (nonce : Nonce) (s : Session τ) :
    Handshaken keyNumber key nonce s
      ((handshake keyNumber key nonce : SessionM τ ε Channel).run s) := by
  by_cases hnamed : keyNumber.Named
  · rw [handshake, start_of_named hnamed]
    rcases hfirst : Transport.transmit s.transport
      (Handshake.Started.firstCommand ⟨keyNumber, key, nonce, hnamed⟩) with ⟨failure | answer, t⟩
    · simp only [run_bind, run_require, mapError_ok, andThen_ok,
        run_transmit_of_error hfirst, andThen_error]
      exact .unanswered hnamed hfirst _
    cases hchallenge : ((Handshake.Started.receiveChallenge ⟨keyNumber, key, nonce, hnamed⟩
        answer).run ()).result with
    | error e =>
      simp only [run_bind, run_require, mapError_ok, andThen_ok, run_transmit_of_ok hfirst,
        run_step_of_eq hchallenge]
      exact .unchallenged hnamed hfirst hchallenge _
    | ok challenged =>
      rcases hsecond : Transport.transmit t challenged.secondCommand with ⟨failure | answer', t'⟩
      · simp only [run_bind, run_require, mapError_ok, andThen_ok, run_transmit_of_ok hfirst,
          run_step_of_eq hchallenge]
        rw [run_transmit_of_error (s := ⟨t, s.channel⟩) hsecond, andThen_error]
        exact .unproved hnamed hfirst hchallenge hsecond _
      · simp only [run_bind, run_require, mapError_ok, andThen_ok, run_transmit_of_ok hfirst,
          run_step_of_eq hchallenge]
        rw [run_transmit_of_ok (s := ⟨t, s.channel⟩) hsecond, andThen_ok]
        cases hconfirmation : ((challenged.receiveConfirmation answer').run ()).result with
        | error e =>
          rw [run_step_of_eq hconfirmation]
          exact .unconfirmed hnamed hfirst hchallenge hsecond hconfirmation _
        | ok c =>
          rw [run_step_of_eq hconfirmation]
          exact .confirmed hnamed hfirst hchallenge hsecond hconfirmation _
  · rw [handshake, Handshake.start, dif_neg hnamed]
    exact .unnamed hnamed

/-- A handshake leaves the channel alone. -/
theorem handshake_channel (keyNumber : KeyNumber) (key : Key) (nonce : Nonce) (s : Session τ) :
    ((handshake keyNumber key nonce : SessionM τ ε Channel).run s).state.channel =
      s.channel := by
  have h := handshaken (ε := ε) keyNumber key nonce s
  generalize (handshake keyNumber key nonce : SessionM τ ε Channel).run s = o at h ⊢
  cases h <;> rfl

/-- **Authenticating** gives up the channel, makes the handshake and keeps the channel that
comes of it. -/
theorem run_authenticate (keyNumber : KeyNumber) (key : Key) (nonce : Nonce) (s : Session τ) :
    (authenticate keyNumber key nonce : SessionM τ ε Unit).run s =
      let o := (handshake keyNumber key nonce : SessionM τ ε Channel).run ⟨s.transport, none⟩
      ⟨o.result.map fun _ => (), ⟨o.state.transport, o.result.toOption⟩,
        ((close : SessionM τ ε Unit).run s).events ++ o.events⟩ := by
  have hparts : (authenticate keyNumber key nonce : SessionM τ ε Unit) =
      (close >>= fun _ => handshake keyNumber key nonce >>= fun c =>
        modify fun s => { s with channel := some c }) := by
    simp [authenticate, handshake, bind_assoc]
  rw [hparts, run_bind_of_ok (run_close s), run_bind]
  have hgone := handshake_channel (ε := ε) keyNumber key nonce ⟨s.transport, none⟩
  generalize (handshake keyNumber key nonce : SessionM τ ε Channel).run ⟨s.transport, none⟩ = o
    at hgone ⊢
  obtain ⟨_ | c, ⟨t, channel⟩, events⟩ := o
  · obtain rfl : channel = none := hgone
    rfl
  · show Outcome.mk (.ok ()) _ (_ ++ (events ++ [])) = _
    rw [List.append_nil]
    rfl

/-- **An authentication that succeeds** leaves a fresh channel. -/
theorem channel_of_authenticate {keyNumber : KeyNumber} {key : Key} {nonce : Nonce}
    {s s' : Session τ} {events : List (Event ε)}
    (h : (authenticate keyNumber key nonce : SessionM τ ε Unit).run s = ⟨.ok (), s', events⟩) :
    ∃ ti keys, s'.channel = some (Channel.fresh keyNumber ti keys) := by
  have hrun := run_authenticate (ε := ε) keyNumber key nonce s
  have hhandshake := handshaken (ε := ε) keyNumber key nonce ⟨s.transport, none⟩
  rw [h] at hrun
  generalize (handshake keyNumber key nonce : SessionM τ ε Channel).run ⟨s.transport, none⟩ = o
    at hrun hhandshake
  cases hhandshake with
  | unnamed | unanswered | unchallenged | unproved | unconfirmed => cases hrun
  | confirmed hnamed hfirst hchallenge hsecond hconfirmation =>
    obtain ⟨-, confirmation, -, -, rfl⟩ :=
      Handshake.receiveConfirmation_eq_ok_iff.1 hconfirmation
    obtain ⟨-, challenge, -, rfl⟩ := Handshake.receiveChallenge_eq_ok_iff.1 hchallenge
    cases hrun
    exact ⟨_, _, rfl⟩

end Session

end Ev2Reader
