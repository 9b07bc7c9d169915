import Ev2Reader.Proofs.Channel.Peer
import Ev2Reader.Proofs.Session.Authentication

/-!
# An Honest Tag

The tag holds five application keys and at most one session. It answers a handshake, checks
the code of every secure command under its own counter, carries the command out or refuses
it, and sends its answers in frames. What the protocol leaves open is up to a `Choice`: its
nonces and transaction identifiers, which commands it refuses, what its answers say and how
they are cut.

A `Link` carries messages to such a tag and may lose any exchange, before or after the tag
saw the message.

## Main results

* `flatten_cut` — however an answer is cut, its pieces join to it;
* `Link.respond_of_transmit` — what comes over a link comes from the tag.
-/

namespace Ev2Reader

/-! ### What is up to the tag -/

/-- A status word that refuses a command. -/
structure Refusal where
  /-- The status word. -/
  status : StatusWord
  /-- It does not report success. -/
  unsuccessful : status.isSuccess = false
  /-- It does not promise another frame. -/
  final : status ≠ .additionalFrame

/-- A status word that reports success. -/
structure Completion where
  /-- The status word. -/
  status : StatusWord
  /-- It reports success. -/
  success : status.isSuccess = true

/-- A status word that reports success does not promise another frame. -/
theorem Completion.final (completion : Completion) : completion.status ≠ .additionalFrame := by
  intro heq
  have hsuccess := completion.success
  rw [heq, StatusWord.isSuccess_additionalFrame] at hsuccess
  cases hsuccess

/-- **What the protocol leaves open** when the tag sees a message. -/
structure Choice where
  /-- The status of a message that has to be refused. -/
  rejection : Refusal
  /-- The status of a command that is refused although it could be carried out. -/
  refusal : Option Refusal
  /-- Whether a refused command leaves the session. -/
  keepsSession : Bool
  /-- The status of an answer that is not refused. -/
  completion : Completion
  /-- The tag's nonce in a challenge. -/
  nonce : Nonce
  /-- The transaction identifier of a new session. -/
  transactionId : Word
  /-- The capabilities in a confirmation. -/
  capabilities : Word × Word × Word
  /-- The data of an answer as it travels. -/
  body : Bytes
  /-- The lengths of the frames in front of the last one. -/
  cuts : List Nat

/-- Cuts off pieces of given lengths, and keeps the rest. -/
def cut : List Nat → Bytes → List Bytes × Bytes
  | [], data => ([], data)
  | n :: lengths, data =>
    let (pieces, rest) := cut lengths (data.drop n)
    (data.take n :: pieces, rest)

/-- The pieces and the rest, joined, are the data. -/
theorem flatten_cut (lengths : List Nat) (data : Bytes) :
    (cut lengths data).1.flatten ++ (cut lengths data).2 = data := by
  induction lengths generalizing data with
  | nil => rfl
  | cons n lengths ih =>
    show (data.take n :: (cut lengths (data.drop n)).1).flatten ++ _ = data
    rw [List.flatten_cons, List.append_assoc]
    exact (congrArg _ (ih (data.drop n))).trans (List.take_append_drop n data)

/-! ### The tag -/

/-- The tag's side of a session. -/
structure TagSession where
  /-- The number of the key that was proved. -/
  keyNumber : KeyNumber
  /-- The transaction identifier. -/
  transactionId : Word
  /-- The session keys. -/
  keys : SessionKeys
  /-- The command counter. -/
  counter : UInt16

/-- **An honest tag.** -/
structure Tag where
  /-- The application keys. -/
  keys : Fin 5 → Key
  /-- The session, if there is one. -/
  session : Option TagSession
  /-- The key and the nonce of a handshake that waits for the reader's proof. -/
  challenge : Option (Fin 5 × Nonce)
  /-- What was not asked for yet of an answer in frames: the data of the frames in front of
  the last one, and the last one. -/
  unsent : Option (List Bytes × Response)
  /-- How many secure commands had a wrong code. -/
  forged : Nat

namespace Tag

/-- The index of a key that exists. -/
def index? (number : KeyNumber) : Option (Fin 5) :=
  if h : number.toNat < 5 then some ⟨number.toNat, h⟩ else none

/-- Refuses a message. -/
def reject (choice : Choice) (tag : Tag) : Response × Tag :=
  (⟨choice.rejection.status, []⟩,
    if choice.keepsSession then tag else { tag with session := none })

/-- **The first message of a handshake** gives up the session and is answered by a nonce. -/
def beginHandshake (choice : Choice) (tag : Tag) : Bytes → Response × Tag
  | number :: _ =>
    match index? number with
    | some i =>
      (Handshake.challengeAnswer (tag.keys i) choice.nonce,
        { tag with session := none, challenge := some (i, choice.nonce) })
    | none => (⟨choice.rejection.status, []⟩, { tag with session := none })
  | [] => (⟨choice.rejection.status, []⟩, { tag with session := none })

/-- **The second message of a handshake**, if it proves the key, begins a session. -/
def endHandshake (choice : Choice) (tag : Tag) (field : Bytes) : Response × Tag :=
  let idle := { tag with challenge := none }
  match tag.challenge, Block.split field with
  | some (i, nonce), ([x, y], []) =>
    let cipher := Aes.withKey (tag.keys i)
    match Chaining.decrypt cipher (cipher.encrypt nonce) [x, y] with
    | [readerNonce, proof] =>
      if proof = nonce.rotateLeft then
        (Handshake.Confirmation.answer (tag.keys i) choice.completion.status
            ⟨choice.transactionId, readerNonce.rotateLeft, choice.capabilities⟩,
          { idle with session := some ⟨UInt8.ofNat i, choice.transactionId,
              .derive (tag.keys i) readerNonce nonce, 0⟩ })
      else reject choice idle
    | _ => reject choice idle
  | _, _ => reject choice idle

/-- The key that a command to change one brings, if it is well-formed. -/
def newKey? (tag : Tag) (session : TagSession) : Bytes → Option (Fin 5 × Key)
  | [] => none
  | number :: body =>
    match index? number, Protection.full.unwrap session.keys .command session.transactionId
      session.counter body with
    | some i, .ok data =>
      match Block.take? data with
      | some (key, [_version]) => if number = session.keyNumber then some (i, key) else none
      | some (key, _version :: checksum) =>
        if number ≠ session.keyNumber ∧
          checksum = (Checksum.ofKey (key ^^^ tag.keys i)).toList
        then some (i, key ^^^ tag.keys i) else none
      | _ => none
    | _, _ => none

/-- Sends the next frame of an answer, and keeps the others until they are asked for. -/
def serve (tag : Tag) : List Bytes → Response → Response × Tag
  | [], last => (last, { tag with unsent := none })
  | piece :: pieces, last => (⟨.additionalFrame, piece⟩, { tag with unsent := some (pieces, last) })

/-- Answers a command under the raised counter, in frames. -/
def answer (choice : Choice) (tag : Tag) (session : TagSession) : Response × Tag :=
  let counter := session.counter + 1
  let answer := Response.coded session.keys session.transactionId counter choice.completion.status
    choice.body
  let (pieces, rest) := cut choice.cuts answer.data
  serve { tag with session := some { session with counter } } pieces ⟨answer.status, rest⟩

/-- Carries out a command with the right code. A new key is taken over; that of the session
itself ends the session. -/
def carryOut (choice : Choice) (tag : Tag) (session : TagSession) (ins : UInt8)
    (payload : Bytes) : Response × Tag :=
  if ins = SecureCommand.changeKeyIns then
    match tag.newKey? session payload with
    | none => reject choice tag
    | some (i, key) =>
      let tag := { tag with keys := fun j => if j = i then key else tag.keys j }
      if session.keyNumber.toNat = i then
        (⟨choice.completion.status, []⟩, { tag with session := none })
      else tag.answer choice session
  else tag.answer choice session

/-- **A secure command** with a wrong code ends the session; any other one is refused or
carried out. -/
def secure (choice : Choice) (tag : Tag) (ins : UInt8) (field : Bytes) : Response × Tag :=
  match tag.session with
  | none => reject choice tag
  | some session =>
    let (payload, code) := Channel.splitCode field
    if code = AuthenticationCode.ofCommand session.keys.mac ins session.counter
        session.transactionId payload [] then
      match choice.refusal with
      | some refusal => reject { choice with rejection := refusal } tag
      | none => carryOut choice tag session ins payload
    else (⟨.integrityError, []⟩, { tag with session := none, forged := tag.forged + 1 })

/-- **The answer of the tag to a message**, and the tag after it. A message that is not a
native command selects an application, which ends the session. -/
def respond (choice : Choice) (tag : Tag) (message : Bytes) : Response × Tag :=
  match Apdu.readNative? message with
  | none =>
    (⟨.normalProcessing, []⟩, { tag with session := none, challenge := none, unsent := none })
  | some (ins, field) =>
    if ins = Apdu.additionalFrameIns then
      match tag.unsent with
      | some (pieces, last) => tag.serve pieces last
      | none => tag.endHandshake choice field
    else
      let tag := { tag with challenge := none, unsent := none }
      if ins = Handshake.authenticateIns then tag.beginHandshake choice field
      else tag.secure choice ins field

end Tag

/-! ### The link -/

/-- What becomes of an exchange with the tag. -/
inductive Delivery where
  /-- The message does not reach the tag. -/
  | lostBefore
  /-- The answer does not reach the reader. -/
  | lostAfter (choice : Choice)
  /-- The exchange takes place. -/
  | delivered (choice : Choice)

/-- **A link to an honest tag**, with what will become of the exchanges on it. After the last
of them it is down. -/
structure Link where
  /-- The tag at the other end. -/
  tag : Tag
  /-- What becomes of the exchanges, in their order. -/
  script : List Delivery

/-- A message meets the fate that the script has for it, and a tag that it reaches answers. -/
instance : Transport Link Unit where
  transmit link message :=
    match link.script with
    | [] => (.error (), link)
    | .lostBefore :: script => (.error (), ⟨link.tag, script⟩)
    | .lostAfter choice :: script => (.error (), ⟨(link.tag.respond choice message).2, script⟩)
    | .delivered choice :: script =>
      (.ok (link.tag.respond choice message).1, ⟨(link.tag.respond choice message).2, script⟩)

namespace Link

variable {link link' : Link} {message : Bytes}

/-- **An answer on a link** comes from the tag. -/
theorem respond_of_transmit {answer : Response}
    (h : Transport.transmit link message = (.ok answer, link')) :
    ∃ choice, link.tag.respond choice message = (answer, link'.tag) := by
  obtain ⟨tag, _ | ⟨delivery, script⟩⟩ := link
  · cases h
  · cases delivery with
    | lostBefore | lostAfter => cases h
    | delivered choice =>
      cases h
      exact ⟨choice, rfl⟩

/-- A message that the tag does not find forged is not found so if the exchange is lost. -/
theorem forged_of_transmit {x : Except Unit Response}
    (hforged : ∀ choice, (link.tag.respond choice message).2.forged = link.tag.forged)
    (h : Transport.transmit link message = (x, link')) : link'.tag.forged = link.tag.forged := by
  obtain ⟨tag, _ | ⟨delivery, script⟩⟩ := link
  · cases h
    rfl
  · cases delivery with
    | lostBefore =>
      cases h
      rfl
    | lostAfter choice | delivered choice =>
      cases h
      exact hforged choice

end Link

end Ev2Reader
