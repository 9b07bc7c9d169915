import Ev2Reader.Proofs.Tag.InStep

/-!
# Handshakes with an Honest Tag

A handshake with a tag that holds the reader's key derives the same session keys on both
sides, from the nonces that they have told each other. Each side has the other's nonce only
enciphered, so the argument is that each decryption undoes the other side's encryption.

## Main results

* `respond_firstCommand`, `respond_secondCommand` — what an honest tag answers to the two
  messages of a handshake;
* `handshake_inStep` — **a handshake under the tag's key brings reader and tag in step.**
-/

namespace Ev2Reader

open Procedure

namespace Tag

/-- The application key of a number. -/
def key? (tag : Tag) (number : KeyNumber) : Option Key :=
  (index? number).map tag.keys

/-- The number of a key that there is, is its index. -/
theorem index?_of_named {number : KeyNumber} (hnamed : number.Named) :
    index? number = some ⟨number.toNat, hnamed⟩ :=
  dif_pos hnamed

variable {tag : Tag} {choice : Choice}

/-- **The first message of a handshake** is answered by a challenge. -/
theorem respond_firstCommand (started : Handshake.Started) (choice : Choice) :
    tag.respond choice started.firstCommand =
      (Handshake.challengeAnswer (tag.keys ⟨started.keyNumber.toNat, started.named⟩) choice.nonce,
        { tag with
          session := none
          challenge := some (⟨started.keyNumber.toNat, started.named⟩, choice.nonce)
          unsent := none }) := by
  have hread : Apdu.readNative? started.firstCommand =
      some (Handshake.authenticateIns, [started.keyNumber, 0x00]) :=
    Apdu.readNative?_nativeMessage _ (by simp)
  have hins : Handshake.authenticateIns ≠ Apdu.additionalFrameIns := by decide
  simp only [respond, hread, hins, if_false, if_true, beginHandshake,
    index?_of_named started.named]

/-- The tag reads the proof from the second message: both its blocks, joined. -/
theorem readNative?_secondCommand (challenged : Handshake.Challenged) :
    Apdu.readNative? challenged.secondCommand =
      some (Apdu.additionalFrameIns, Block.joined challenged.proof) := by
  refine Apdu.readNative?_nativeMessage _ ?_
  rw [Block.length_joined, Handshake.Challenged.proof, Chaining.length_encrypt]
  simp

/-- **The second message of a handshake** proves the key and begins the session. -/
theorem respond_secondCommand {challenged : Handshake.Challenged} {i : Fin 5} {nonce : Nonce}
    (hwaiting : tag.challenge = some (i, nonce)) (hunsent : tag.unsent = none)
    (hkey : challenged.key = tag.keys i)
    (hchallenge : challenged.challenge = (Aes.withKey (tag.keys i)).encrypt nonce)
    (choice : Choice) :
    tag.respond choice challenged.secondCommand =
      (Handshake.Confirmation.answer (tag.keys i) choice.completion.status
          ⟨choice.transactionId, challenged.nonce.rotateLeft, choice.capabilities⟩,
        { tag with
          challenge := none
          session := some ⟨UInt8.ofNat i, choice.transactionId, challenged.sessionKeys, 0⟩ }) := by
  have hnonce : challenged.tagNonce = nonce := by
    rw [Handshake.Challenged.tagNonce, Handshake.Challenged.cipher, hkey, hchallenge]
    exact (Aes.withKey (tag.keys i)).decrypt_encrypt nonce
  have hproof : Chaining.decrypt (Aes.withKey (tag.keys i))
      ((Aes.withKey (tag.keys i)).encrypt nonce) challenged.proof =
        [challenged.nonce, nonce.rotateLeft] := by
    rw [Handshake.Challenged.proof, Handshake.Challenged.cipher, hkey, hchallenge, hnonce,
      Chaining.decrypt_encrypt]
  obtain ⟨x, y, hblocks⟩ : ∃ x y, challenged.proof = [x, y] := ⟨_, _, rfl⟩
  have hread := readNative?_secondCommand challenged
  rw [hblocks] at hread hproof
  have hkeys : challenged.sessionKeys = .derive (tag.keys i) challenged.nonce nonce := by
    rw [Handshake.Challenged.sessionKeys, hkey, hnonce]
  simp only [respond, hread, if_true, hunsent, endHandshake, hwaiting, Block.split_joined, hproof,
    hkeys]

/-- Ending a handshake finds no code wrong, whether it succeeds or not. -/
theorem forged_endHandshake (tag : Tag) (choice : Choice) (field : Bytes) :
    (tag.endHandshake choice field).2.forged = tag.forged := by
  simp only [endHandshake]
  split
  · split
    · split
      · rfl
      · exact forged_reject _ choice
    · exact forged_reject _ choice
  · exact forged_reject _ choice

/-- The second message of a handshake makes the tag find no code wrong, whatever it waits for. -/
theorem forged_secondCommand (challenged : Handshake.Challenged) (choice : Choice) :
    (tag.respond choice challenged.secondCommand).2.forged = tag.forged := by
  simp only [respond, readNative?_secondCommand, if_true]
  cases tag.unsent with
  | none => exact forged_endHandshake tag choice _
  | some unsent => exact forged_serve tag _ _

end Tag

namespace Handshake

variable {answer : Response} {e : Fault}

/-- Reading a challenge is never blamed on a code. -/
theorem receiveChallenge_ne {started : Started}
    (h : ((started.receiveChallenge answer).run ()).result = .error e) :
    e ≠ .integrityFailure := by
  rintro rfl
  simp only [Started.receiveChallenge, run_bind, run_record, andThen_ok] at h
  split at h
  · split at h <;> cases h
  · cases h

/-- Reading a confirmation is never blamed on a code. -/
theorem receiveConfirmation_ne {challenged : Challenged}
    (h : ((challenged.receiveConfirmation answer).run ()).result = .error e) :
    e ≠ .integrityFailure := by
  rintro rfl
  simp only [Challenged.receiveConfirmation, run_bind, run_record, andThen_ok] at h
  split at h
  · cases h
  · split at h
    · split at h <;> cases h
    · cases h

end Handshake

namespace Session

/-- **A handshake that is confirmed under the tag's key brings both in step.** The link has
delivered both answers as the tag gave them. -/
theorem inStep_of_confirmed {number : KeyNumber} {key : Key} {nonce : Nonce}
    (hnamed : number.Named) {link link' link'' : Link} (hkey : link.tag.key? number = some key)
    {answer answer' : Response} {challenged : Handshake.Challenged} {c : Channel}
    (hfirst : Transport.transmit link
      (Handshake.Started.firstCommand ⟨number, key, nonce, hnamed⟩) = (.ok answer, link'))
    (hchallenge : ((Handshake.Started.receiveChallenge ⟨number, key, nonce, hnamed⟩
      answer).run ()).result = .ok challenged)
    (hsecond : Transport.transmit link' challenged.secondCommand = (.ok answer', link''))
    (hconfirmation : ((challenged.receiveConfirmation answer').run ()).result = .ok c) :
    InStep c challenged.sessionKeys link''.tag := by
  rw [Tag.key?, Tag.index?_of_named hnamed] at hkey
  obtain rfl := Option.some.inj hkey
  -- The challenge is the tag's nonce under the key.
  obtain ⟨choice, hrespond⟩ := Link.respond_of_transmit hfirst
  rw [Tag.respond_firstCommand] at hrespond
  obtain ⟨rfl, htag⟩ := Prod.mk.inj hrespond
  obtain ⟨tag', script'⟩ := link'
  obtain rfl : _ = tag' := htag
  obtain ⟨-, challenge, hdata, rfl⟩ := Handshake.receiveChallenge_eq_ok_iff.1 hchallenge
  have hchallenge' := Block.toList_inj.1 hdata
  -- So the tag takes the proof, and its confirmation is what the reader reads.
  obtain ⟨choice', hrespond'⟩ := Link.respond_of_transmit hsecond
  rw [Tag.respond_secondCommand rfl rfl rfl hchallenge'.symm] at hrespond'
  obtain ⟨rfl, htag'⟩ := Prod.mk.inj hrespond'
  obtain ⟨-, confirmation, hdata', -, rfl⟩ :=
    Handshake.receiveConfirmation_eq_ok_iff.1 hconfirmation
  obtain rfl := Handshake.Confirmation.cipherBlocks_inj.1 (Block.joined_inj.1 hdata')
  rw [← htag']
  refine ⟨rfl, ?_, rfl, rfl⟩
  simp [Channel.fresh, UInt8.ofNat_toNat]

/-- What comes of a handshake on a link. -/
structure Agreed (tag : Tag) (number : KeyNumber) (key : Key)
    (result : Except (SessionFault Unit) Channel) (tag' : Tag) : Prop where
  /-- The tag has found no code wrong. -/
  forged : tag'.forged = tag.forged
  /-- The handshake is not blamed on a code. -/
  harmless : result ≠ .error (.internal .integrityFailure)
  /-- Under the tag's key a channel is in step with the tag. -/
  inStep : tag.key? number = some key → ∀ c, result = .ok c → ∃ keys, InStep c keys tag'

/-- **A handshake under the tag's key** brings reader and tag in step. -/
theorem handshake_inStep (number : KeyNumber) (key : Key) (nonce : Nonce) (s : Session Link) :
    let o := (handshake number key nonce : SessionM Link Unit Channel).run s
    Agreed s.transport.tag number key o.result o.state.transport.tag := by
  have hhandshake := handshaken (ε := Unit) number key nonce s
  generalize (handshake number key nonce : SessionM Link Unit Channel).run s = o at hhandshake
  -- However far the handshake gets, neither message makes the tag find a code wrong.
  have hbegun (hnamed : number.Named) {x : Except Unit Response} {link : Link} :=
    @Link.forged_of_transmit s.transport link _ x
      fun choice => by rw [Tag.respond_firstCommand ⟨number, key, nonce, hnamed⟩]
  have hended (challenged : Handshake.Challenged) {x : Except Unit Response} {link link' : Link} :=
    @Link.forged_of_transmit link link' _ x (Tag.forged_secondCommand challenged)
  cases hhandshake with
  | unnamed hnamed => exact ⟨rfl, by simp, fun _ c h => nomatch h⟩
  | unanswered hnamed hfirst => exact ⟨hbegun hnamed hfirst, by simp, fun _ c h => nomatch h⟩
  | unchallenged hnamed hfirst hchallenge =>
    have hfault := Handshake.receiveChallenge_ne hchallenge
    exact ⟨hbegun hnamed hfirst, by simpa using hfault, fun _ c h => nomatch h⟩
  | unproved hnamed hfirst hchallenge hsecond =>
    exact ⟨(hended _ hsecond).trans (hbegun hnamed hfirst), by simp, fun _ c h => nomatch h⟩
  | unconfirmed hnamed hfirst hchallenge hsecond hconfirmation =>
    have hfault := Handshake.receiveConfirmation_ne hconfirmation
    exact ⟨(hended _ hsecond).trans (hbegun hnamed hfirst), by simpa using hfault,
      fun _ c h => nomatch h⟩
  | confirmed hnamed hfirst hchallenge hsecond hconfirmation =>
    refine ⟨(hended _ hsecond).trans (hbegun hnamed hfirst), by simp, fun hkey c hc => ?_⟩
    cases hc
    exact ⟨_, inStep_of_confirmed hnamed hkey hfirst hchallenge hsecond hconfirmation⟩

end Session

end Ev2Reader
