import Ev2Reader.Channel.Frame

/-!
# Mutual Authentication

Reader and tag prove to each other that they hold the same application key, and agree on
session keys.

1. The reader names the key. The tag answers with its nonce, encrypted under that key.
2. The reader sends its own nonce and the tag's nonce rotated by one byte, encrypted in a
   chain that starts from the tag's cipher block.
3. The tag answers with the transaction identifier, the reader's nonce rotated by one byte
   and twelve bytes of capabilities, encrypted in a chain that starts from zero.
4. Both derive the session keys from the two nonces.

Each step consumes the one before it, so a failed authentication cannot be taken up again.

## Main results

* `Challenged.receiveConfirmation` accepts exactly the confirmations that
  `Confirmation.cipherBlocks` makes for the rotated nonce: `decrypted_cipherBlocks`,
  `cipherBlocks_decrypted`.
-/

namespace Ev2Reader.Handshake

open Procedure

/-- What is done in a handshake; there is no state but the step itself. -/
abbrev StepM := Procedure Unit Notice Fault

/-! ### The three steps -/

/-- A handshake before its first message: the reader has chosen its nonce. -/
structure Started where
  /-- The number of the key. -/
  keyNumber : KeyNumber
  /-- The key that both sides are to hold. -/
  key : Key
  /-- The reader's nonce. -/
  nonce : Nonce
  /-- The application has a key of this number. -/
  named : keyNumber.Named

/-- A handshake after the tag's challenge. -/
structure Challenged extends Started where
  /-- The cipher block of the tag. -/
  challenge : Block

/-- Starts a handshake for a key that exists. -/
def start (keyNumber : KeyNumber) (key : Key) (nonce : Nonce) : Except Fault Started :=
  if h : keyNumber.Named then .ok ⟨keyNumber, key, nonce, h⟩
  else .error (.invalidKeyNumber keyNumber)

/-- The instruction byte of the first message. -/
def authenticateIns : UInt8 := 0x71

/-- The first message: the number of the key and an empty list of capabilities. -/
def Started.firstCommand (s : Started) : Bytes :=
  Apdu.nativeMessage authenticateIns [s.keyNumber, 0x00]

/-- Takes the tag's challenge, one cipher block with the promise of another frame. -/
def Started.receiveChallenge (s : Started) (answer : Response) : StepM Challenged := do
  record (.challengeAnswered s.keyNumber answer.status)
  if answer.status = .additionalFrame then
    match Block.ofBytes? answer.data with
    | some challenge => pure ⟨s, challenge⟩
    | none => fail (.protocolViolation (.responseLength answer.data.length))
  else
    fail (.protocolViolation (.unexpectedStatus answer.status))

namespace Challenged

/-- The cipher under the key of the handshake. -/
def cipher (s : Challenged) : BlockCipher :=
  Aes.withKey s.key

/-- The nonce in the tag's challenge. -/
def tagNonce (s : Challenged) : Nonce :=
  s.cipher.decrypt s.challenge

/-- The reader's proof: both nonces, the tag's one rotated. -/
def proof (s : Challenged) : List Block :=
  Chaining.encrypt s.cipher s.challenge [s.nonce, s.tagNonce.rotateLeft]

/-- The second message carries the reader's proof. -/
def secondCommand (s : Challenged) : Bytes :=
  Apdu.nativeMessage Apdu.additionalFrameIns (Block.joined s.proof)

/-- The keys of the session. -/
def sessionKeys (s : Challenged) : SessionKeys :=
  SessionKeys.derive s.key s.nonce s.tagNonce

end Challenged

/-! ### The confirmation -/

/-- What the tag's last answer says. -/
structure Confirmation where
  /-- The transaction identifier of the session. -/
  transactionId : Word
  /-- The reader's nonce, rotated by one byte. -/
  rotatedNonce : Block
  /-- The capabilities of the tag and the reader, which are not looked at. -/
  capabilities : Word × Word × Word
deriving DecidableEq

namespace Confirmation

/-- The two blocks of a confirmation. -/
def blocks (c : Confirmation) : List Block :=
  [⟨c.transactionId, c.rotatedNonce.c0, c.rotatedNonce.c1, c.rotatedNonce.c2⟩,
    ⟨c.rotatedNonce.c3, c.capabilities.1, c.capabilities.2.1, c.capabilities.2.2⟩]

/-- The confirmation of two blocks. -/
def ofBlocks (first second : Block) : Confirmation where
  transactionId := first.c0
  rotatedNonce := ⟨first.c1, first.c2, first.c3, second.c0⟩
  capabilities := (second.c1, second.c2, second.c3)

/-- The confirmation in two cipher blocks. -/
def decrypted (cipher : BlockCipher) (x y : Block) : Confirmation :=
  ofBlocks (cipher.decrypt x) (cipher.decrypt y ^^^ x)

/-- The cipher blocks of a confirmation, in a chain from zero. -/
def cipherBlocks (cipher : BlockCipher) (c : Confirmation) : List Block :=
  Chaining.encrypt cipher .zero c.blocks

/-- Reading the blocks of a confirmation gives it back. -/
theorem ofBlocks_blocks (c : Confirmation) :
    ∃ first second, c.blocks = [first, second] ∧ ofBlocks first second = c :=
  ⟨_, _, rfl, rfl⟩

/-- The blocks of the confirmation of two blocks are those two. -/
@[simp] theorem blocks_ofBlocks (first second : Block) :
    (ofBlocks first second).blocks = [first, second] := rfl

/-- Two cipher blocks are those of the confirmation in them. -/
theorem cipherBlocks_decrypted (cipher : BlockCipher) (x y : Block) :
    cipherBlocks cipher (decrypted cipher x y) = [x, y] := by
  rw [cipherBlocks, Chaining.encrypt_eq_iff, decrypted, blocks_ofBlocks]
  simp [Chaining.decrypt]

/-- **A confirmation is read back from its cipher blocks.** -/
theorem decrypted_cipherBlocks {cipher : BlockCipher} {c : Confirmation} {x y : Block} :
    cipherBlocks cipher c = [x, y] ↔ decrypted cipher x y = c := by
  constructor
  · intro h
    have h' := Chaining.decrypt_encrypt cipher .zero c.blocks
    rw [cipherBlocks] at h
    rw [h] at h'
    simp only [Chaining.decrypt, Block.xor_zero, blocks, List.cons.injEq, and_true] at h'
    rw [decrypted, h'.1, h'.2]
    rfl
  · rintro rfl
    exact cipherBlocks_decrypted cipher x y

end Confirmation

/-- Takes the tag's confirmation and, if it proves the key, begins the session. -/
def Challenged.receiveConfirmation (s : Challenged) (answer : Response) : StepM Channel := do
  record (.confirmationAnswered answer.status)
  if answer.status.isSuccess = false then
    fail (.protocolViolation (.unexpectedStatus answer.status))
  else
    match Block.split answer.data with
    | ([x, y], []) =>
      let confirmation := Confirmation.decrypted s.cipher x y
      if confirmation.rotatedNonce = s.nonce.rotateLeft then
        record (.authenticated s.keyNumber)
        pure (Channel.fresh s.keyNumber confirmation.transactionId s.sessionKeys)
      else
        record (.proofFailed s.keyNumber)
        fail .authenticationFailure
    | _ => fail (.protocolViolation (.responseLength answer.data.length))

end Ev2Reader.Handshake
