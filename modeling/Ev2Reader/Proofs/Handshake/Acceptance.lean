import Mathlib.Data.List.Basic
import Ev2Reader.Proofs.Handshake.Buffer
import Ev2Reader.Proofs.Session.Authentication

/-!
# What a Handshake Accepts

Two answers of the tag decide a handshake. `ChallengeRead` and `ConfirmationRead` say what
becomes of each of them, by its status word, its length and the buffer that is deciphered
from it. Every check but the last looks at the status word and the length, so the ciphers
are only ever given whole blocks.

## Main results

* `result_receiveChallenge_iff`, `result_receiveConfirmation_iff` — the descriptions are right,
  and they leave nothing out;
* `run_receiveConfirmation_congr` — the capabilities of the tag are not looked at;
* `acceptance` — **each answer has exactly the outcome that is described**.
-/

namespace Ev2Reader.Handshake

open Procedure Chaining

variable {answer answer' : Response}

/-! ### The challenge -/

namespace Challenged

/-- The tag's nonce is deciphered from its challenge, in a chain from zero. -/
theorem decryptBuffer_challenge (s : Challenged) :
    decryptBuffer s.cipher .zero s.challenge.toList = .ok s.tagNonce.toList :=
  decryptBuffer_block s.cipher s.challenge

/-- The proof enciphers both nonces, in a chain from the tag's cipher block. -/
theorem encryptBuffer_proof (s : Challenged) :
    encryptBuffer s.cipher s.challenge (s.nonce.toList ++ s.tagNonce.toList.rotateLeft 1) =
      .ok (Block.joined s.proof) := by
  have hjoined : s.nonce.toList ++ s.tagNonce.toList.rotateLeft 1 =
      Block.joined [s.nonce, s.tagNonce.rotateLeft] := rfl
  rw [hjoined, encryptBuffer_joined]
  rfl

end Challenged

/-- **What becomes of a challenge.** -/
inductive ChallengeRead (s : Started) (answer : Response) : Except Fault Challenged → Prop where
  /-- No other frame is promised. -/
  | unexpected (hstatus : answer.status ≠ .additionalFrame) :
      ChallengeRead s answer (.error (.protocolViolation (.unexpectedStatus answer.status)))
  /-- The data is not one block. -/
  | ragged (hstatus : answer.status = .additionalFrame) (hlength : answer.data.length ≠ 16) :
      ChallengeRead s answer (.error (.protocolViolation (.responseLength answer.data.length)))
  /-- The data is one block. Neither cipher refuses it. -/
  | taken {challenged : Challenged} (hstatus : answer.status = .additionalFrame)
      (hstarted : challenged.toStarted = s) (hdata : answer.data = challenged.challenge.toList)
      (hnonce : decryptBuffer (Aes.withKey s.key) .zero answer.data =
        .ok challenged.tagNonce.toList)
      (hproof : encryptBuffer (Aes.withKey s.key) challenged.challenge
        (s.nonce.toList ++ challenged.tagNonce.toList.rotateLeft 1) =
          .ok (Block.joined challenged.proof)) :
      ChallengeRead s answer (.ok challenged)

/-- **The reading of a challenge is its result.** -/
theorem result_of_challengeRead {s : Started} {x : Except Fault Challenged}
    (h : ChallengeRead s answer x) : ((s.receiveChallenge answer).run ()).result = x := by
  cases h with
  | unexpected hstatus => simp [Started.receiveChallenge, hstatus]
  | ragged hstatus hlength =>
    have hblock := Block.ofBytes?_eq_none_iff.2 hlength
    simp [Started.receiveChallenge, hstatus, hblock]
  | taken hstatus hstarted hdata hnonce hproof =>
    subst hstarted
    exact receiveChallenge_eq_ok_iff.2 ⟨hstatus, _, hdata, rfl⟩

/-- A block with the promise of another frame is taken. -/
theorem ChallengeRead.of_block (s : Started) (hstatus : answer.status = .additionalFrame)
    {challenge : Block} (hdata : answer.data = challenge.toList) :
    ChallengeRead s answer (.ok ⟨s, challenge⟩) := by
  have hnonce := Challenged.decryptBuffer_challenge ⟨s, challenge⟩
  have hproof := Challenged.encryptBuffer_proof ⟨s, challenge⟩
  rw [← hdata] at hnonce
  exact .taken hstatus rfl hdata hnonce hproof

/-- Every answer has a reading as a challenge. -/
theorem exists_challengeRead (s : Started) (answer : Response) :
    ∃ x, ChallengeRead s answer x := by
  by_cases hstatus : answer.status = .additionalFrame
  · cases hblock : Block.ofBytes? answer.data with
    | none => exact ⟨_, .ragged hstatus (Block.ofBytes?_eq_none_iff.1 hblock)⟩
    | some challenge => exact ⟨_, .of_block s hstatus (Block.ofBytes?_eq_some_iff.1 hblock)⟩
  · exact ⟨_, .unexpected hstatus⟩

/-- A challenge has exactly the outcome that is described. -/
theorem result_receiveChallenge_iff {s : Started} {x : Except Fault Challenged} :
    ((s.receiveChallenge answer).run ()).result = x ↔ ChallengeRead s answer x := by
  constructor
  · rintro rfl
    obtain ⟨x, hread⟩ := exists_challengeRead s answer
    rwa [result_of_challengeRead hread]
  · exact result_of_challengeRead

/-- A challenge is taken exactly if it is one block with the promise of another frame. -/
theorem exists_challenged_iff {s : Started} :
    (∃ challenged, ((s.receiveChallenge answer).run ()).result = .ok challenged) ↔
      answer.status = .additionalFrame ∧ answer.data.length = 16 := by
  constructor
  · rintro ⟨challenged, hok⟩
    obtain ⟨hstatus, challenge, hdata, -⟩ := receiveChallenge_eq_ok_iff.1 hok
    exact ⟨hstatus, by rw [hdata, Block.length_toList]⟩
  · rintro ⟨hstatus, hlength⟩
    obtain ⟨x, hread⟩ := exists_challengeRead s answer
    rw [result_of_challengeRead hread]
    cases hread with
    | unexpected hunexpected => exact absurd hstatus hunexpected
    | ragged _ hragged => exact absurd hlength hragged
    | taken => exact ⟨_, rfl⟩

/-! ### The confirmation -/

namespace Confirmation

/-- A confirmation is read back from its buffer. -/
theorem decryptBuffer_cipherBlocks (cipher : BlockCipher) (c : Confirmation) :
    decryptBuffer cipher .zero (Block.joined (c.cipherBlocks cipher)) =
      .ok (Block.joined c.blocks) := by
  rw [decryptBuffer_joined, cipherBlocks, Chaining.decrypt_encrypt]

/-- Every buffer of two blocks carries a confirmation. -/
theorem exists_cipherBlocks (cipher : BlockCipher) {buffer : Bytes} (h : buffer.length = 32) :
    ∃ c : Confirmation, buffer = Block.joined (c.cipherBlocks cipher) := by
  have hjoined : buffer = Block.joined (Block.split buffer).1 :=
    Block.eq_joined_of_length (by omega)
  have hlength := congrArg List.length hjoined
  rw [h, Block.length_joined] at hlength
  obtain ⟨x, y, hblocks⟩ := List.length_eq_two.1 (show (Block.split buffer).1.length = 2 by omega)
  refine ⟨decrypted cipher x y, ?_⟩
  rw [cipherBlocks_decrypted, ← hblocks]
  exact hjoined

/-- A confirmation starts with the transaction identifier. -/
theorem take_blocks (c : Confirmation) :
    (Block.joined c.blocks).take 4 = c.transactionId.toList := rfl

/-- The rotated nonce comes next. -/
theorem slice_blocks (c : Confirmation) :
    ((Block.joined c.blocks).drop 4).take 16 = c.rotatedNonce.toList := rfl

end Confirmation

/-- **What becomes of a confirmation.** -/
inductive ConfirmationRead (s : Challenged) (answer : Response) :
    Except Fault Channel → Prop where
  /-- The status word does not report success. -/
  | unsuccessful (hstatus : answer.status.isSuccess = false) :
      ConfirmationRead s answer (.error (.protocolViolation (.unexpectedStatus answer.status)))
  /-- The data is not two blocks. -/
  | ragged (hstatus : answer.status.isSuccess = true) (hlength : answer.data.length ≠ 32) :
      ConfirmationRead s answer (.error (.protocolViolation (.responseLength answer.data.length)))
  /-- The reader's nonce does not come back. -/
  | unproved {plain : Bytes} (hstatus : answer.status.isSuccess = true)
      (hlength : answer.data.length = 32)
      (hplain : decryptBuffer s.cipher .zero answer.data = .ok plain)
      (hproof : (plain.drop 4).take 16 ≠ s.nonce.toList.rotateLeft 1) :
      ConfirmationRead s answer (.error .authenticationFailure)
  /-- The reader's nonce comes back, behind the transaction identifier of the channel. -/
  | proved {plain : Bytes} {ti : Word} (hstatus : answer.status.isSuccess = true)
      (hlength : answer.data.length = 32)
      (hplain : decryptBuffer s.cipher .zero answer.data = .ok plain)
      (hproof : (plain.drop 4).take 16 = s.nonce.toList.rotateLeft 1)
      (hti : plain.take 4 = ti.toList) :
      ConfirmationRead s answer (.ok ⟨s.keyNumber, ti, 0, .authenticated
        (.derive s.key s.nonce ((Aes.withKey s.key).decrypt s.challenge))⟩)

/-- Reading a confirmation looks at the transaction identifier and the rotated nonce. -/
theorem run_receiveConfirmation (s : Challenged) {c : Confirmation}
    (hstatus : answer.status.isSuccess = true)
    (hdata : answer.data = Block.joined (c.cipherBlocks s.cipher)) :
    (s.receiveConfirmation answer).run () =
      if c.rotatedNonce = s.nonce.rotateLeft then
        ⟨.ok (Channel.fresh s.keyNumber c.transactionId s.sessionKeys), (),
          [.confirmationAnswered answer.status, .authenticated s.keyNumber]⟩
      else
        ⟨.error .authenticationFailure, (),
          [.confirmationAnswered answer.status, .proofFailed s.keyNumber]⟩ := by
  obtain ⟨x, y, hblocks⟩ : ∃ x y, c.cipherBlocks s.cipher = [x, y] := ⟨_, _, rfl⟩
  have hdecrypted := Confirmation.decrypted_cipherBlocks.1 hblocks
  have hsplit : Block.split answer.data = ([x, y], []) := by
    rw [hdata, hblocks, Block.split_joined]
  by_cases hproof : c.rotatedNonce = s.nonce.rotateLeft <;>
    simp [Challenged.receiveConfirmation, hstatus, hsplit, hdecrypted, hproof]

/-- A confirmation that is not of two blocks is refused for its length. -/
theorem receiveConfirmation_of_length_ne (s : Challenged)
    (hstatus : answer.status.isSuccess = true) (hlength : answer.data.length ≠ 32) :
    ((s.receiveConfirmation answer).run ()).result =
      .error (.protocolViolation (.responseLength answer.data.length)) := by
  simp only [Challenged.receiveConfirmation, run_bind, run_record, andThen_ok, hstatus,
    Bool.true_eq_false, if_false]
  split
  next x y hsplit =>
    have hdata := (Block.split_eq_iff.1 hsplit).1
    rw [hdata] at hlength
    exact absurd rfl hlength
  · rfl

/-- **The reading of a confirmation is its result.** -/
theorem result_of_confirmationRead {s : Challenged} {x : Except Fault Channel}
    (h : ConfirmationRead s answer x) : ((s.receiveConfirmation answer).run ()).result = x := by
  cases h with
  | unsuccessful hstatus => simp [Challenged.receiveConfirmation, hstatus]
  | ragged hstatus hlength => exact receiveConfirmation_of_length_ne s hstatus hlength
  | unproved hstatus hlength hplain hproof =>
    obtain ⟨c, hdata⟩ := Confirmation.exists_cipherBlocks s.cipher hlength
    rw [hdata, Confirmation.decryptBuffer_cipherBlocks] at hplain
    cases hplain
    rw [Confirmation.slice_blocks, Block.rotateLeft_toList, Ne, Block.toList_inj] at hproof
    rw [run_receiveConfirmation s hstatus hdata, if_neg hproof]
  | proved hstatus hlength hplain hproof hti =>
    obtain ⟨c, hdata⟩ := Confirmation.exists_cipherBlocks s.cipher hlength
    rw [hdata, Confirmation.decryptBuffer_cipherBlocks] at hplain
    cases hplain
    rw [Confirmation.slice_blocks, Block.rotateLeft_toList, Block.toList_inj] at hproof
    rw [Confirmation.take_blocks, Word.toList_inj] at hti
    rw [run_receiveConfirmation s hstatus hdata, if_pos hproof, hti]
    rfl

/-- Every answer is read. The cases are split in the order of the checks. -/
theorem exists_confirmationRead (s : Challenged) (answer : Response) :
    ∃ x, ConfirmationRead s answer x := by
  cases hstatus : answer.status.isSuccess with
  | false => exact ⟨_, .unsuccessful hstatus⟩
  | true =>
    by_cases hlength : answer.data.length = 32
    · obtain ⟨c, hdata⟩ := Confirmation.exists_cipherBlocks s.cipher hlength
      have hplain := Confirmation.decryptBuffer_cipherBlocks s.cipher c
      rw [← hdata] at hplain
      by_cases hproof : ((Block.joined c.blocks).drop 4).take 16 = s.nonce.toList.rotateLeft 1
      · exact ⟨_, .proved hstatus hlength hplain hproof c.take_blocks⟩
      · exact ⟨_, .unproved hstatus hlength hplain hproof⟩
    · exact ⟨_, .ragged hstatus hlength⟩

/-- A confirmation has exactly the outcome that is described. -/
theorem result_receiveConfirmation_iff {s : Challenged} {x : Except Fault Channel} :
    ((s.receiveConfirmation answer).run ()).result = x ↔ ConfirmationRead s answer x := by
  constructor
  · rintro rfl
    obtain ⟨x, hread⟩ := exists_confirmationRead s answer
    rwa [result_of_confirmationRead hread]
  · exact result_of_confirmationRead

/-- **The last twelve bytes of a confirmation are not looked at:** two that agree before them
are read alike. -/
theorem run_receiveConfirmation_congr (s : Challenged) {plain plain' : Bytes}
    (hstatus : answer.status = answer'.status)
    (hlength : answer.data.length = 32) (hlength' : answer'.data.length = 32)
    (hplain : decryptBuffer s.cipher .zero answer.data = .ok plain)
    (hplain' : decryptBuffer s.cipher .zero answer'.data = .ok plain')
    (hagree : plain.take 20 = plain'.take 20) :
    (s.receiveConfirmation answer).run () = (s.receiveConfirmation answer').run () := by
  cases hsuccess : answer.status.isSuccess with
  | false => simp [Challenged.receiveConfirmation, ← hstatus, hsuccess]
  | true =>
    obtain ⟨c, hdata⟩ := Confirmation.exists_cipherBlocks s.cipher hlength
    obtain ⟨c', hdata'⟩ := Confirmation.exists_cipherBlocks s.cipher hlength'
    rw [hdata, Confirmation.decryptBuffer_cipherBlocks] at hplain
    rw [hdata', Confirmation.decryptBuffer_cipherBlocks] at hplain'
    cases hplain
    cases hplain'
    have hti : c.transactionId = c'.transactionId := by
      have h := congrArg (List.take 4) hagree
      rwa [List.take_take, List.take_take, Nat.min_eq_left (by omega), c.take_blocks,
        c'.take_blocks, Word.toList_inj] at h
    have hnonce : c.rotatedNonce = c'.rotatedNonce := by
      have h := congrArg (List.drop 4) hagree
      rwa [List.drop_take, List.drop_take, c.slice_blocks, c'.slice_blocks,
        Block.toList_inj] at h
    rw [run_receiveConfirmation s hsuccess hdata,
      run_receiveConfirmation s (hstatus ▸ hsuccess) hdata', hstatus, hti, hnonce]

/-! ### Both answers -/

/-- **Each answer of the tag has exactly the outcome that is described.** A challenge is taken
exactly if it is one block with the promise of another frame. The outcomes of a challenge and
of a confirmation are those of `ChallengeRead` and `ConfirmationRead` and no others. A
confirmation is read alike whatever its last twelve bytes are. -/
theorem acceptance (s : Started) (challenge : Block) (answer answer' : Response) :
    ((∃ challenged, ((s.receiveChallenge answer).run ()).result = .ok challenged) ↔
      answer.status = ⟨0x91AF⟩ ∧ answer.data.length = 16) ∧
    (∀ x, ((s.receiveChallenge answer).run ()).result = x ↔ ChallengeRead s answer x) ∧
    (answer'.status.isSuccess = true ↔ answer'.status = ⟨0x9100⟩ ∨ answer'.status = ⟨0x9000⟩) ∧
    (∀ x, ((Challenged.receiveConfirmation ⟨s, challenge⟩ answer').run ()).result = x ↔
      ConfirmationRead ⟨s, challenge⟩ answer' x) ∧
    (∀ (data plain plain' : Bytes), answer'.data.length = 32 → data.length = 32 →
      decryptBuffer (Aes.withKey s.key) .zero answer'.data = .ok plain →
      decryptBuffer (Aes.withKey s.key) .zero data = .ok plain' →
      plain.take 20 = plain'.take 20 →
      (Challenged.receiveConfirmation ⟨s, challenge⟩ answer').run () =
        (Challenged.receiveConfirmation ⟨s, challenge⟩ ⟨answer'.status, data⟩).run ()) := by
  refine ⟨exists_challenged_iff, fun x => result_receiveChallenge_iff,
    StatusWord.isSuccess_iff, fun x => result_receiveConfirmation_iff, ?_⟩
  intro data plain plain' hlength hlength' hplain hplain' hagree
  exact run_receiveConfirmation_congr ⟨s, challenge⟩ rfl hlength hlength' hplain hplain' hagree

end Ev2Reader.Handshake
