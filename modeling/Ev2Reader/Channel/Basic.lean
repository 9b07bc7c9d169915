import Ev2Reader.AuthenticationCode
import Ev2Reader.Cryptogram
import Ev2Reader.Notice
import Ev2Reader.Procedure

/-!
# The Secure Channel

What the reader keeps of a session: the key that was proved, the transaction identifier, the
session keys and the command counter. The counter is the only value that changes while the
channel is open; whatever goes wrong closes the channel, and with it the keys are gone.

No command is protected at the last counter value, because its answer would come under a
value that does not exist.

## Main results

* `run_close` — closing a channel keeps everything but its keys;
* `run_currentKeys_open`, `run_currentKeys_closed`, `run_sendingKeys_open`,
  `run_sendingKeys_exhausted` — when the keys can be used;
* `run_advance` — the counter goes up by one, and never past its last value;
* `run_verify`, `run_decryptAnswer` — what becomes of an answer, and of the channel.
-/

namespace Ev2Reader

/-- Whether a channel can be used; a closed channel has no keys. -/
inductive ChannelState where
  /-- Both sides hold the session keys. -/
  | authenticated (keys : SessionKeys)
  /-- The channel was given up. -/
  | closed
deriving DecidableEq

/-- **A secure channel**, the reader's side of a session. -/
structure Channel where
  /-- The number of the key that the session was authenticated with. -/
  keyNumber : KeyNumber
  /-- The transaction identifier that the tag chose. -/
  transactionId : Word
  /-- The counter that protects the next command. -/
  counter : UInt16
  /-- Whether the channel can be used, and with which keys. -/
  state : ChannelState
deriving DecidableEq

/-- What is done on a channel. -/
abbrev ChannelM := Procedure Channel Notice Fault

namespace Channel

open Procedure

/-- The last value of the command counter. -/
def lastCounter : UInt16 := 0xFFFF

/-- The channel of a new session. -/
def fresh (keyNumber : KeyNumber) (ti : Word) (keys : SessionKeys) : Channel :=
  ⟨keyNumber, ti, 0, .authenticated keys⟩

/-- The session keys of an open channel. -/
def keys? (c : Channel) : Option SessionKeys :=
  match c.state with
  | .authenticated keys => some keys
  | .closed => none

/-- Whether the channel can still protect commands. -/
def isOpen (c : Channel) : Bool :=
  c.keys?.isSome

/-- The same channel without its keys. -/
def shut (c : Channel) : Channel :=
  { c with state := .closed }

/-- The same channel with the next counter value. -/
def next (c : Channel) : Channel :=
  { c with counter := c.counter + 1 }

/-- The name of the state of a channel. -/
def stateName (c : Channel) : String :=
  match c.state with
  | .authenticated _ => "Authenticated"
  | .closed => "Closed"

/-- The text of a channel in descriptions; it never shows the keys. -/
def summary (c : Channel) : String :=
  "SecureChannel \x7b key_number: " ++ toString c.keyNumber.toNat ++ ", transaction_id: [" ++
    ", ".intercalate (c.transactionId.toList.map fun b => toString b.toNat) ++
    "], command_counter: " ++ toString c.counter.toNat ++ ", state: " ++ c.stateName ++
    ", .. \x7d"

/-! ### Operations -/

/-- Gives an open channel up. -/
def close : ChannelM Unit := do
  let c ← get
  if c.isOpen then
    record (.channelClosing c.counter)
    set c.shut

/-- Gives the channel up because of a fault. -/
def closeWith {α : Type} (e : Fault) : ChannelM α := do
  close
  fail e

/-- The keys of a channel that was not given up. -/
def currentKeys : ChannelM SessionKeys := do
  match (← get).keys? with
  | some keys => pure keys
  | none => fail .channelClosed

/-- The keys of a channel that can protect another command. -/
def sendingKeys : ChannelM SessionKeys := do
  let keys ← currentKeys
  if (← get).counter = lastCounter then
    closeWith .counterExhausted
  else
    pure keys

/-- The initialization vector of a message at the current counter. -/
def initialVector (d : Direction) : ChannelM Block := do
  let keys ← currentKeys
  let c ← get
  pure (Cryptogram.initialVector keys.encryption d c.transactionId c.counter)

/-- Encrypts the data of a command at the current counter. -/
def encryptCommand (plaintext : Bytes) : ChannelM Bytes := do
  let keys ← sendingKeys
  let iv ← initialVector .command
  pure (Cryptogram.encipher keys.encryption iv plaintext)

/-- The authentication code of a command at the current counter. -/
def commandCode (ins : UInt8) (header data : Bytes) : ChannelM Bytes := do
  let keys ← sendingKeys
  let c ← get
  pure (AuthenticationCode.ofCommand keys.mac ins c.counter c.transactionId header data)

/-- Advances the counter after the tag has carried out a command. -/
def advance : ChannelM Unit := do
  let _ ← currentKeys
  let c ← get
  if c.counter = lastCounter then
    closeWith .counterExhausted
  else
    set c.next
    record (.counterAdvanced c.next.counter)

/-- Checks the authentication code of an answer at the current counter, which has to be
advanced before. -/
def verify (status : StatusWord) (data code : Bytes) : ChannelM Unit := do
  let keys ← currentKeys
  let c ← get
  if code = AuthenticationCode.ofResponse keys.mac status c.counter c.transactionId data then
    pure ()
  else
    record (.codeMismatch c.counter)
    closeWith .integrityFailure

/-- Decrypts the data of an answer at the current counter. -/
def decryptAnswer (ciphertext : Bytes) : ChannelM Bytes := do
  let keys ← currentKeys
  let iv ← initialVector .response
  match Cryptogram.decipher keys.encryption iv ciphertext with
  | .ok plaintext => pure plaintext
  | .error violation => closeWith (.protocolViolation violation)

/-! ### What the operations do -/

/-- A fresh channel is open. -/
@[simp] theorem keys?_fresh (keyNumber : KeyNumber) (ti : Word) (keys : SessionKeys) :
    (fresh keyNumber ti keys).keys? = some keys := rfl

/-- A channel without its keys is closed. -/
@[simp] theorem keys?_shut (c : Channel) : c.shut.keys? = none := rfl

/-- Advancing keeps the keys. -/
@[simp] theorem keys?_next (c : Channel) : c.next.keys? = c.keys? := rfl

/-- Advancing keeps the transaction identifier. -/
@[simp] theorem transactionId_next (c : Channel) : c.next.transactionId = c.transactionId := rfl

/-- Before its last value the counter does not wrap around. -/
theorem toNat_next {c : Channel} (h : c.counter ≠ lastCounter) :
    c.next.counter.toNat = c.counter.toNat + 1 := by
  have hlast : c.counter.toNat ≠ 65535 := fun heq => h (UInt16.toNat_inj.1 heq)
  have hbound := c.counter.toNat_lt
  rw [next, UInt16.toNat_add, UInt16.toNat_one]
  omega

/-- Closing a closed channel changes nothing. -/
theorem shut_of_closed {c : Channel} (h : c.keys? = none) : c.shut = c := by
  obtain ⟨_, _, _, state⟩ := c
  cases state with
  | authenticated => simp [keys?] at h
  | closed => rfl

/-- **Closing a channel** keeps everything but its keys, and is noted if it was open. -/
theorem run_close (c : Channel) :
    close.run c = ⟨.ok (), c.shut, if c.isOpen then [.channelClosing c.counter] else []⟩ := by
  cases h : c.keys? with
  | none => simp [close, isOpen, h, shut_of_closed h]
  | some keys => simp [close, isOpen, h]

/-- Closing an open channel is noted. -/
theorem run_close_open {c : Channel} {keys : SessionKeys} (h : c.keys? = some keys) :
    close.run c = ⟨.ok (), c.shut, [.channelClosing c.counter]⟩ := by
  simp [run_close, isOpen, h]

/-- Closing a closed channel does nothing. -/
theorem run_close_closed {c : Channel} (h : c.keys? = none) :
    close.run c = ⟨.ok (), c, []⟩ := by
  simp [run_close, isOpen, h, shut_of_closed h]

/-- Closing an open channel because of a fault. -/
theorem run_closeWith_open {α : Type} {c : Channel} {keys : SessionKeys}
    (h : c.keys? = some keys) (e : Fault) :
    (closeWith e : ChannelM α).run c = ⟨.error e, c.shut, [.channelClosing c.counter]⟩ := by
  simp [closeWith, run_close_open h]

/-- The keys of an open channel. -/
theorem run_currentKeys_open {c : Channel} {keys : SessionKeys} (h : c.keys? = some keys) :
    currentKeys.run c = ⟨.ok keys, c, []⟩ := by
  simp [currentKeys, h]

/-- A closed channel has no keys. -/
theorem run_currentKeys_closed {c : Channel} (h : c.keys? = none) :
    currentKeys.run c = ⟨.error .channelClosed, c, []⟩ := by
  simp [currentKeys, h]

/-- The keys of an open channel before the last counter value. -/
theorem run_sendingKeys_open {c : Channel} {keys : SessionKeys} (h : c.keys? = some keys)
    (hcounter : c.counter ≠ lastCounter) : sendingKeys.run c = ⟨.ok keys, c, []⟩ := by
  simp [sendingKeys, run_currentKeys_open h, hcounter]

/-- At the last counter value the channel is given up. -/
theorem run_sendingKeys_exhausted {c : Channel} {keys : SessionKeys}
    (h : c.keys? = some keys) (hcounter : c.counter = lastCounter) :
    sendingKeys.run c =
      ⟨.error .counterExhausted, c.shut, [.channelClosing c.counter]⟩ := by
  simp [sendingKeys, run_currentKeys_open h, hcounter, run_closeWith_open h]

/-- A closed channel protects nothing. -/
theorem run_sendingKeys_closed {c : Channel} (h : c.keys? = none) :
    sendingKeys.run c = ⟨.error .channelClosed, c, []⟩ := by
  simp [sendingKeys, run_currentKeys_closed h]

/-- The initialization vector of an open channel. -/
theorem run_initialVector_open {c : Channel} {keys : SessionKeys} (h : c.keys? = some keys)
    (d : Direction) :
    (initialVector d).run c =
      ⟨.ok (Cryptogram.initialVector keys.encryption d c.transactionId c.counter), c, []⟩ := by
  simp [initialVector, run_currentKeys_open h]

/-- **Encrypting the data of a command** on an open channel before the last counter value. -/
theorem run_encryptCommand_open {c : Channel} {keys : SessionKeys} (h : c.keys? = some keys)
    (hcounter : c.counter ≠ lastCounter) (plaintext : Bytes) :
    (encryptCommand plaintext).run c =
      ⟨.ok (Cryptogram.encipher keys.encryption
        (Cryptogram.initialVector keys.encryption .command c.transactionId c.counter)
        plaintext), c, []⟩ := by
  simp [encryptCommand, run_sendingKeys_open h hcounter, run_initialVector_open h]

/-- **The authentication code of a command** on an open channel before the last counter
value. -/
theorem run_commandCode_open {c : Channel} {keys : SessionKeys} (h : c.keys? = some keys)
    (hcounter : c.counter ≠ lastCounter) (ins : UInt8) (header data : Bytes) :
    (commandCode ins header data).run c =
      ⟨.ok (AuthenticationCode.ofCommand keys.mac ins c.counter c.transactionId header data),
        c, []⟩ := by
  simp [commandCode, run_sendingKeys_open h hcounter]

/-- **Advancing the counter** of an open channel. At its last value the channel is given up
instead. -/
theorem run_advance {c : Channel} {keys : SessionKeys} (h : c.keys? = some keys) :
    advance.run c =
      if c.counter = lastCounter then
        ⟨.error .counterExhausted, c.shut, [.channelClosing c.counter]⟩
      else
        ⟨.ok (), c.next, [.counterAdvanced c.next.counter]⟩ := by
  by_cases hcounter : c.counter = lastCounter
  · simp [advance, run_currentKeys_open h, hcounter, run_closeWith_open h]
  · simp [advance, run_currentKeys_open h, hcounter]

/-- **Checking the code of an answer** on an open channel. A wrong code closes it. -/
theorem run_verify {c : Channel} {keys : SessionKeys} (h : c.keys? = some keys)
    (status : StatusWord) (data code : Bytes) :
    (verify status data code).run c =
      if code = AuthenticationCode.ofResponse keys.mac status c.counter c.transactionId data
      then ⟨.ok (), c, []⟩
      else
        ⟨.error .integrityFailure, c.shut,
          [.codeMismatch c.counter, .channelClosing c.counter]⟩ := by
  split <;> simp_all [verify, run_currentKeys_open, run_closeWith_open]

/-- **Decrypting an answer** on an open channel. Malformed data closes it. -/
theorem run_decryptAnswer {c : Channel} {keys : SessionKeys} (h : c.keys? = some keys)
    (ciphertext : Bytes) :
    (decryptAnswer ciphertext).run c =
      match Cryptogram.decipher keys.encryption
          (Cryptogram.initialVector keys.encryption .response c.transactionId c.counter)
          ciphertext with
      | .ok plaintext => ⟨.ok plaintext, c, []⟩
      | .error violation =>
        ⟨.error (.protocolViolation violation), c.shut, [.channelClosing c.counter]⟩ := by
  simp only [decryptAnswer, run_bind, run_currentKeys_open h, run_initialVector_open h,
    andThen_ok, List.nil_append]
  split <;> simp [run_closeWith_open h]

end Channel

end Ev2Reader
