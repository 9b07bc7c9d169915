import Ev2Reader.Proofs.Handshake.Acceptance

/-!
# Agreement

A tag that holds the reader's key makes its two answers from buffers: its own nonce, and the
transaction identifier in front of the reader's rotated nonce. This module proves that such
answers are taken, and that both sides then hold the same session keys. What carries the
argument is that a buffer is deciphered to what was enciphered, in each of the three chains.

## Main results

* `run_authenticate_of_answers` — an authentication that is answered keeps the channel of its
  handshake, and has sent the two messages of the handshake and nothing else;
* `agreement` — **a tag that holds the key is believed, and can believe the reader.**
-/

namespace Ev2Reader

open Procedure Chaining

namespace Handshake

namespace Challenged

variable (s : Challenged)

/-- The nonce that was enciphered as the challenge is found again. -/
theorem tagNonce_of_challenge {nonce : Nonce} (h : s.challenge = s.cipher.encrypt nonce) :
    s.tagNonce = nonce := by
  rw [tagNonce, h, BlockCipher.decrypt_encrypt]

/-- The proof has two blocks. -/
theorem length_proof : (Block.joined s.proof).length = 32 := by
  rw [Block.length_joined, proof, length_encrypt]
  rfl

/-- The second message is a frame of 32 bytes. -/
theorem secondCommand_eq :
    s.secondCommand = [0x90, 0xAF, 0x00, 0x00, 0x20] ++ Block.joined s.proof ++ [0x00] := rfl

/-- **The proof is read back** in a chain from the tag's cipher block. -/
theorem decryptBuffer_proof :
    decryptBuffer s.cipher s.challenge (Block.joined s.proof) =
      .ok (s.nonce.toList ++ s.tagNonce.toList.rotateLeft 1) :=
  encryptBuffer_eq_ok_iff.1 s.encryptBuffer_proof

/-- **A confirmation that a holder of the key has enciphered proves the key.** -/
theorem confirmationRead_of_encryptBuffer {ti : Word} {capabilities : Bytes}
    (hcapabilities : capabilities.length = 12) {answer : Response}
    (hstatus : answer.status.isSuccess = true)
    (h : encryptBuffer s.cipher .zero (ti.toList ++ s.nonce.toList.rotateLeft 1 ++ capabilities) =
      .ok answer.data) :
    ConfirmationRead s answer
      (.ok ⟨s.keyNumber, ti, 0, .authenticated (.derive s.key s.nonce s.tagNonce)⟩) := by
  have hrotated : (s.nonce.toList.rotateLeft 1).length = 16 := by
    rw [Block.rotateLeft_toList, Block.length_toList]
  have hlength : answer.data.length = 32 := by
    rw [length_of_encryptBuffer h, List.length_append, List.length_append, hrotated,
      hcapabilities, Word.length_toList]
  have hproof : ((ti.toList ++ s.nonce.toList.rotateLeft 1 ++ capabilities).drop 4).take 16 =
      s.nonce.toList.rotateLeft 1 := by
    rw [List.append_assoc, List.drop_left' (Word.length_toList ti), List.take_left' hrotated]
  have hti : (ti.toList ++ s.nonce.toList.rotateLeft 1 ++ capabilities).take 4 = ti.toList := by
    rw [List.append_assoc, List.take_left' (Word.length_toList ti)]
  exact .proved hstatus hlength (encryptBuffer_eq_ok_iff.1 h) hproof hti

end Challenged

end Handshake

namespace Session

variable {τ ε : Type} [Transport τ ε]

section Answered

variable {keyNumber : KeyNumber} {key : Key} {nonce : Nonce} {hnamed : keyNumber.Named}
  {s : Session τ} {t t' : τ} {answer answer' : Response} {challenged : Handshake.Challenged}
  {c : Channel}

/-- **A handshake whose two answers are accepted** succeeds, and sends its two messages and nothing
else. -/
theorem run_handshake_of_answers
    (hfirst : Transport.transmit s.transport
      (Handshake.Started.firstCommand ⟨keyNumber, key, nonce, hnamed⟩) = (.ok answer, t))
    (hchallenge : ((Handshake.Started.receiveChallenge ⟨keyNumber, key, nonce, hnamed⟩
      answer).run ()).result = .ok challenged)
    (hsecond : Transport.transmit t challenged.secondCommand = (.ok answer', t'))
    (hconfirmation : ((challenged.receiveConfirmation answer').run ()).result = .ok c) :
    ∃ events,
      (handshake keyNumber key nonce : SessionM τ ε Channel).run s =
        ⟨.ok c, ⟨t', s.channel⟩, events⟩ ∧
      Event.messages events =
        [Handshake.Started.firstCommand ⟨keyNumber, key, nonce, hnamed⟩,
          challenged.secondCommand] := by
  rw [handshake, start_of_named hnamed]
  simp only [run_bind, run_require, mapError_ok, andThen_ok, run_transmit_of_ok hfirst,
    run_step_of_eq hchallenge]
  rw [run_transmit_of_ok (s := ⟨t, s.channel⟩) hsecond, andThen_ok, run_step_of_eq hconfirmation]
  exact ⟨_, rfl, by simp⟩

/-- **An authentication that is answered** keeps the channel of its handshake, whatever there
was before. -/
theorem run_authenticate_of_answers
    (hfirst : Transport.transmit s.transport
      (Handshake.Started.firstCommand ⟨keyNumber, key, nonce, hnamed⟩) = (.ok answer, t))
    (hchallenge : ((Handshake.Started.receiveChallenge ⟨keyNumber, key, nonce, hnamed⟩
      answer).run ()).result = .ok challenged)
    (hsecond : Transport.transmit t challenged.secondCommand = (.ok answer', t'))
    (hconfirmation : ((challenged.receiveConfirmation answer').run ()).result = .ok c) :
    ∃ events,
      (authenticate keyNumber key nonce : SessionM τ ε Unit).run s =
        ⟨.ok (), ⟨t', some c⟩, events⟩ ∧
      Event.messages events =
        [Handshake.Started.firstCommand ⟨keyNumber, key, nonce, hnamed⟩,
          challenged.secondCommand] := by
  have hrun := run_authenticate (ε := ε) keyNumber key nonce s
  obtain ⟨events, hhandshake, hmessages⟩ := run_handshake_of_answers (ε := ε)
    (s := ⟨s.transport, none⟩) hfirst hchallenge hsecond hconfirmation
  rw [hhandshake] at hrun
  refine ⟨((close : SessionM τ ε Unit).run s).events ++ events, hrun, ?_⟩
  rw [Event.messages_append, messages_close, List.nil_append, hmessages]

end Answered

/-- **A tag that holds the key** is answered by a fresh channel under the keys of both nonces. -/
theorem run_authenticate_of_holder {keyNumber : KeyNumber} (hnamed : keyNumber.Named) (key : Key)
    (a b : Nonce) (confirmation : Handshake.Confirmation)
    (hproof : confirmation.rotatedNonce = a.rotateLeft) (status : StatusWord)
    (hstatus : status.isSuccess = true) {s : Session τ} {t t' : τ}
    (hfirst : Transport.transmit s.transport
      (Handshake.Started.firstCommand ⟨keyNumber, key, a, hnamed⟩) =
        (.ok (Handshake.challengeAnswer key b), t))
    (hsecond : Transport.transmit t (Handshake.Challenged.secondCommand
      ⟨⟨keyNumber, key, a, hnamed⟩, (Aes.withKey key).encrypt b⟩) =
        (.ok (confirmation.answer key status), t')) :
    ∃ events, (authenticate keyNumber key a : SessionM τ ε Unit).run s =
      ⟨.ok (), ⟨t', some (.fresh keyNumber confirmation.transactionId (.derive key a b))⟩,
        events⟩ := by
  let challenged : Handshake.Challenged :=
    ⟨⟨keyNumber, key, a, hnamed⟩, (Aes.withKey key).encrypt b⟩
  have hkeys : challenged.sessionKeys = .derive key a b := by
    rw [Handshake.Challenged.sessionKeys, challenged.tagNonce_of_challenge rfl]
  have hchallenge :
      ((challenged.receiveChallenge (Handshake.challengeAnswer key b)).run ()).result =
        .ok challenged :=
    Handshake.receiveChallenge_eq_ok_iff.2 ⟨rfl, _, rfl, rfl⟩
  have hconfirmation :
      ((challenged.receiveConfirmation (confirmation.answer key status)).run ()).result =
        .ok (.fresh keyNumber confirmation.transactionId challenged.sessionKeys) :=
    Handshake.receiveConfirmation_eq_ok_iff.2 ⟨hstatus, confirmation, rfl, hproof, rfl⟩
  rw [hkeys] at hconfirmation
  obtain ⟨events, hrun, -⟩ := run_authenticate_of_answers (ε := ε) hfirst hchallenge hsecond
    hconfirmation
  exact ⟨events, hrun⟩

/-- **A tag that holds the key is believed, and can believe the reader.** If it answers with
its nonce `b` enciphered, the reader's proof deciphers to both nonces in a chain from the
tag's cipher block. If it then answers with a transaction identifier and the reader's nonce
`a` enciphered, the reader has an open channel with the session keys that the tag derives from
the bytes it knows. An authentication over such a tag keeps this channel, whatever there was
before, and has sent these two messages and nothing else. -/
theorem agreement {keyNumber : KeyNumber} (hnamed : keyNumber.toNat < 5) (key : Key) (a b : Nonce)
    (ti : Word) {capabilities : Bytes} (hcapabilities : capabilities.length = 12)
    {status : StatusWord} (hstatus : status = ⟨0x9000⟩ ∨ status = ⟨0x9100⟩)
    {challenge confirmation : Bytes}
    (hchallenge : encryptBuffer (Aes.withKey key) .zero b.toList = .ok challenge)
    (hconfirmation : encryptBuffer (Aes.withKey key) .zero
      (ti.toList ++ a.toList.rotateLeft 1 ++ capabilities) = .ok confirmation) :
    ∃ started challenged iv proof keys,
      Handshake.start keyNumber key a = .ok started ∧
      started.firstCommand = [0x90, 0x71, 0x00, 0x00, 0x02, keyNumber, 0x00, 0x00] ∧
      ((started.receiveChallenge ⟨⟨0x91AF⟩, challenge⟩).run ()).result = .ok challenged ∧
      challenged.secondCommand = [0x90, 0xAF, 0x00, 0x00, 0x20] ++ proof ++ [0x00] ∧
      challenged.secondCommand.length = 38 ∧
      challenge = iv.toList ∧
      decryptBuffer (Aes.withKey key) iv proof = .ok (a.toList ++ b.toList.rotateLeft 1) ∧
      SessionKeys.derive? key.toList a.toList b.toList = .ok keys ∧
      ((challenged.receiveConfirmation ⟨status, confirmation⟩).run ()).result =
        .ok ⟨keyNumber, ti, 0, .authenticated keys⟩ ∧
      ∀ {τ ε : Type} [Transport τ ε] (s : Session τ) (t t' : τ),
        Transport.transmit s.transport started.firstCommand = (.ok ⟨⟨0x91AF⟩, challenge⟩, t) →
        Transport.transmit t challenged.secondCommand = (.ok ⟨status, confirmation⟩, t') →
        ∃ events,
          (authenticate keyNumber key a : SessionM τ ε Unit).run s =
            ⟨.ok (), ⟨t', some ⟨keyNumber, ti, 0, .authenticated keys⟩⟩, events⟩ ∧
          Event.messages events = [started.firstCommand, challenged.secondCommand] := by
  have hnamed : keyNumber.Named := hnamed
  rw [encryptBuffer_block] at hchallenge
  obtain rfl := Except.ok.inj hchallenge
  let started : Handshake.Started := ⟨keyNumber, key, a, hnamed⟩
  let challenged : Handshake.Challenged := ⟨started, (Aes.withKey key).encrypt b⟩
  have htagNonce : challenged.tagNonce = b := challenged.tagNonce_of_challenge rfl
  have hproof := challenged.decryptBuffer_proof
  rw [htagNonce] at hproof
  have hlength : challenged.secondCommand.length = 38 := by
    rw [challenged.secondCommand_eq, List.length_append, List.length_append,
      challenged.length_proof]
    rfl
  have hchallenged : ((started.receiveChallenge ⟨⟨0x91AF⟩, challenged.challenge.toList⟩).run
      ()).result = .ok challenged :=
    Handshake.result_of_challengeRead (.of_block started rfl rfl)
  have hsuccess : status.isSuccess = true := StatusWord.isSuccess_iff.2 hstatus.symm
  have hconfirmed : ((challenged.receiveConfirmation ⟨status, confirmation⟩).run ()).result =
      .ok ⟨keyNumber, ti, 0, .authenticated (.derive key a challenged.tagNonce)⟩ :=
    Handshake.result_of_confirmationRead
      (challenged.confirmationRead_of_encryptBuffer hcapabilities hsuccess hconfirmation)
  rw [htagNonce] at hconfirmed
  have hderive : SessionKeys.derive? key.toList a.toList b.toList = .ok (.derive key a b) :=
    SessionKeys.derive?_eq_ok_iff.2 ⟨key, a, b, rfl, rfl, rfl, rfl⟩
  refine ⟨started, challenged, (Aes.withKey key).encrypt b, Block.joined challenged.proof,
    .derive key a b, start_of_named hnamed key a, rfl, hchallenged, challenged.secondCommand_eq,
    hlength, rfl, hproof, hderive, hconfirmed, ?_⟩
  intro τ ε _ s t t' hfirst hsecond
  exact run_authenticate_of_answers hfirst hchallenged hsecond hconfirmed

/-- A session that holds a channel of key zero authenticates with key two. -/
theorem agreement_reauthenticated :
    let key : Key := ⟨⟨1, 2, 3, 4⟩, ⟨5, 6, 7, 8⟩, ⟨9, 10, 11, 12⟩, ⟨13, 14, 15, 16⟩⟩
    let a : Nonce := ⟨⟨17, 18, 19, 20⟩, .zero, .zero, .zero⟩
    let b : Nonce := ⟨.zero, ⟨21, 22, 23, 24⟩, .zero, .zero⟩
    let ti : Word := ⟨25, 26, 27, 28⟩
    let capabilities : Bytes := List.replicate 12 0
    let challenge := ((Aes.withKey key).encrypt b).toList
    let confirmation := Block.joined (Handshake.Confirmation.cipherBlocks (Aes.withKey key)
      ⟨ti, a.rotateLeft, .zero, .zero, .zero⟩)
    let s : Session Script := ⟨⟨[⟨⟨0x91AF⟩, challenge⟩, ⟨⟨0x9000⟩, confirmation⟩]⟩,
      some (.fresh 0 .zero ⟨key, key⟩)⟩
    ((2 : KeyNumber).toNat < 5 ∧ capabilities.length = 12 ∧
      encryptBuffer (Aes.withKey key) .zero b.toList = .ok challenge ∧
      encryptBuffer (Aes.withKey key) .zero (ti.toList ++ a.toList.rotateLeft 1 ++ capabilities) =
        .ok confirmation) ∧
    ∃ keys events,
      SessionKeys.derive? key.toList a.toList b.toList = .ok keys ∧
      (authenticate 2 key a : SessionM Script Unit Unit).run s =
        ⟨.ok (), ⟨⟨[]⟩, some ⟨2, ti, 0, .authenticated keys⟩⟩, events⟩ ∧
      (Event.messages events).map List.length = [8, 38] := by
  intro key a b ti capabilities challenge confirmation s
  have hchallenge : encryptBuffer (Aes.withKey key) .zero b.toList = .ok challenge :=
    encryptBuffer_block (Aes.withKey key) b
  have hconfirmation : encryptBuffer (Aes.withKey key) .zero
      (ti.toList ++ a.toList.rotateLeft 1 ++ capabilities) = .ok confirmation :=
    encryptBuffer_eq_ok_iff.2 (Handshake.Confirmation.decryptBuffer_cipherBlocks ..)
  refine ⟨⟨by decide, rfl, hchallenge, hconfirmation⟩, ?_⟩
  obtain ⟨started, challenged, iv, proof, keys, -, hfirst, -, -, hlength, -, -, hderive, -,
    hrun⟩ := agreement (show (2 : KeyNumber).toNat < 5 by decide) key a b ti rfl (.inl rfl)
      hchallenge hconfirmation
  obtain ⟨events, hauthenticate, hmessages⟩ := hrun s ⟨[⟨⟨0x9000⟩, confirmation⟩]⟩ ⟨[]⟩ rfl rfl
  refine ⟨keys, events, hderive, hauthenticate, ?_⟩
  rw [hmessages, List.map_cons, List.map_cons, hfirst, hlength]
  rfl

end Session

end Ev2Reader
