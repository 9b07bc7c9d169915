import Ev2Reader.SecureCommand

/-!
# Wrapped Data

Reader and tag treat the data of a message alike: under full protection it is enciphered,
unless there is none, and otherwise it travels as it is. This module states that treatment
once for both directions, and from it what a channel does when it protects a command or
reads an answer that has the right code.

## Main results

* `Protection.unwrap_wrap` — wrapped data is read back;
* `Channel.run_protect`, `Channel.protect_cases` — the message of a command on an open
  channel, and all that protecting it can come to;
* `Channel.run_readAnswer_of_coded` — what becomes of an answer with the right code.
-/

namespace Ev2Reader

namespace Protection

/-- **Wrapped data**: the data of a message as it travels. -/
def wrap (protection : Protection) (keys : SessionKeys) (d : Direction) (ti : Word)
    (counter : UInt16) (data : Bytes) : Bytes :=
  match protection with
  | .mac => data
  | .full =>
    if data = [] then []
    else Cryptogram.encipher keys.encryption
      (Cryptogram.initialVector keys.encryption d ti counter) data

/-- The data behind wrapped data, or the violation that it is found to be. -/
def unwrap (protection : Protection) (keys : SessionKeys) (d : Direction) (ti : Word)
    (counter : UInt16) (body : Bytes) : Except Violation Bytes :=
  match protection with
  | .mac => .ok body
  | .full =>
    if body = [] then .ok []
    else Cryptogram.decipher keys.encryption
      (Cryptogram.initialVector keys.encryption d ti counter) body

variable {keys : SessionKeys} {d : Direction} {ti : Word} {counter : UInt16}

/-- A cryptogram is never empty, since there is always padding. -/
theorem encipher_ne_nil (key : Key) (iv : Block) (plaintext : Bytes) :
    Cryptogram.encipher key iv plaintext ≠ [] := by
  apply List.ne_nil_of_length_pos
  rw [Cryptogram.length_encipher]
  omega

/-- **Wrapped data is read back**, whatever the protection. -/
theorem unwrap_wrap (protection : Protection) (data : Bytes) :
    protection.unwrap keys d ti counter (protection.wrap keys d ti counter data) =
      .ok data := by
  cases protection with
  | mac => rfl
  | full =>
    by_cases hdata : data = []
    · simp [wrap, unwrap, hdata]
    · simp only [wrap, unwrap, hdata, if_false, encipher_ne_nil]
      exact Cryptogram.decipher_eq_ok_iff.2 rfl

end Protection

/-- An answer as the tag sends it: data as it travels, and its code. -/
def Response.coded (keys : SessionKeys) (ti : Word) (counter : UInt16) (status : StatusWord)
    (body : Bytes) : Response :=
  ⟨status, body ++ AuthenticationCode.ofResponse keys.mac status counter ti body⟩

/-- The message of a native command with data is six bytes longer than its field. -/
theorem Apdu.length_nativeMessage {ins : UInt8} {field : Bytes} (h : field ≠ []) :
    (nativeMessage ins field).length = field.length + 6 := by
  simp [nativeMessage, Command.counted, h]

namespace Channel

open Procedure

/-! ### Protecting a command -/

/-- The field of a protected command: header, wrapped data and code. -/
def field (keys : SessionKeys) (ti : Word) (counter : UInt16) (protection : Protection)
    (ins : UInt8) (header data : Bytes) : Bytes :=
  header ++ protection.wrap keys .command ti counter data ++
    AuthenticationCode.ofCommand keys.mac ins counter ti header
      (protection.wrap keys .command ti counter data)

/-- A field is as long as its header, its wrapped data and the eight bytes of its code. -/
theorem length_field (keys : SessionKeys) (ti : Word) (counter : UInt16)
    (protection : Protection) (ins : UInt8) (header data : Bytes) :
    (field keys ti counter protection ins header data).length =
      header.length + (protection.wrap keys .command ti counter data).length + 8 := by
  rw [field, List.length_append, List.length_append, AuthenticationCode.length_ofCommand]

variable {c : Channel} {keys : SessionKeys}

/-- On an open channel before the last counter value data is wrapped. -/
theorem run_protectedBody_open (h : c.keys? = some keys) (hcounter : c.counter ≠ lastCounter)
    (protection : Protection) (data : Bytes) :
    (protectedBody protection data).run c =
      ⟨.ok (protection.wrap keys .command c.transactionId c.counter data), c, []⟩ := by
  cases protection with
  | mac => rfl
  | full =>
    by_cases hdata : data = []
    · simp [protectedBody, Protection.wrap, hdata]
    · rw [run_protectedBody_full hdata, run_encryptCommand_open h hcounter]
      simp only [Protection.wrap, hdata, if_false]

/-- **The message of a command** on an open channel before the last counter value. -/
theorem run_protect (h : c.keys? = some keys) (hcounter : c.counter ≠ lastCounter)
    (protection : Protection) (ins : UInt8) (header data : Bytes) :
    (protect protection ins header data).run c =
      if (field keys c.transactionId c.counter protection ins header data).length > 255 then
        ⟨.error (.payloadTooLarge 255), c, []⟩
      else
        ⟨.ok (Apdu.nativeMessage ins
            (field keys c.transactionId c.counter protection ins header data)), c,
          [.commandProtected ins protection c.counter,
            .commandLength ins
              (field keys c.transactionId c.counter protection ins header data).length]⟩ := by
  rw [length_field]
  exact run_protect_of_body h hcounter (run_protectedBody_open h hcounter protection data)

/-- At the last counter value nothing is protected. A command is refused for its length if it is
too long and is not to be enciphered first. -/
theorem run_protect_exhausted (h : c.keys? = some keys) (hcounter : c.counter = lastCounter)
    (protection : Protection) (ins : UInt8) (header data : Bytes) :
    ((protect protection ins header data).run c = ⟨.error (.payloadTooLarge 255), c, []⟩ ∧
      255 < (field keys c.transactionId c.counter protection ins header data).length) ∨
    (protect protection ins header data).run c =
      ⟨.error .counterExhausted, c.shut, [.channelClosing c.counter]⟩ := by
  rw [length_field]
  have hcode (body : Bytes) : (commandCode ins header body).run c =
      ⟨.error .counterExhausted, c.shut, [.channelClosing c.counter]⟩ := by
    simp [commandCode, run_sendingKeys_exhausted h hcounter]
  have hplain {body : Bytes} (hbody : (protectedBody protection data).run c = ⟨.ok body, c, []⟩) :
      ((protect protection ins header data).run c = ⟨.error (.payloadTooLarge 255), c, []⟩ ∧
        255 < header.length + body.length + 8) ∨
      (protect protection ins header data).run c =
        ⟨.error .counterExhausted, c.shut, [.channelClosing c.counter]⟩ := by
    simp only [protect, run_bind, hbody, andThen_ok, List.nil_append]
    split
    next hlong => exact .inl ⟨rfl, hlong⟩
    next => simp [hcode]
  cases protection with
  | mac => exact hplain rfl
  | full =>
    by_cases hdata : data = []
    · subst hdata
      exact hplain rfl
    · right
      simp [protect, run_protectedBody_full hdata, encryptCommand,
        run_sendingKeys_exhausted h hcounter]

/-- **What protecting a command comes to** on an open channel: it is too long and nothing
changes, the counter is used up and the channel is given up, or there is a message and
nothing changes. -/
theorem protect_cases (h : c.keys? = some keys) (protection : Protection) (ins : UInt8)
    (header data : Bytes) :
    (∃ events, (protect protection ins header data).run c =
      ⟨.error (.payloadTooLarge 255), c, events⟩ ∧
      255 < (field keys c.transactionId c.counter protection ins header data).length) ∨
    (∃ events, (protect protection ins header data).run c =
      ⟨.error .counterExhausted, c.shut, events⟩ ∧ c.counter = lastCounter) ∨
    (∃ events, (protect protection ins header data).run c =
      ⟨.ok (Apdu.nativeMessage ins
        (field keys c.transactionId c.counter protection ins header data)), c, events⟩ ∧
      c.counter ≠ lastCounter ∧
      (field keys c.transactionId c.counter protection ins header data).length ≤ 255) := by
  by_cases hcounter : c.counter = lastCounter
  · rcases run_protect_exhausted h hcounter protection ins header data with ⟨hrun, hlong⟩ | hrun
    · exact .inl ⟨_, hrun, hlong⟩
    · exact .inr (.inl ⟨_, hrun, hcounter⟩)
  · have hrun := run_protect h hcounter protection ins header data
    split at hrun
    next hlong => exact .inl ⟨_, hrun, hlong⟩
    next hfits => exact .inr (.inr ⟨_, hrun, hcounter, by omega⟩)

end Channel

namespace SecureCommand

/-- The field of a command's message. -/
def field (command : SecureCommand) (keys : SessionKeys) (ti : Word) (counter : UInt16) : Bytes :=
  Channel.field keys ti counter command.protection command.ins command.header command.data

/-- **The message of a command** under session keys, a transaction identifier and a counter. -/
def message (command : SecureCommand) (keys : SessionKeys) (ti : Word) (counter : UInt16) :
    Bytes :=
  Apdu.nativeMessage command.ins (command.field keys ti counter)

/-- The answer to a command: its data wrapped alike, under the counter after the command. -/
def answer (command : SecureCommand) (keys : SessionKeys) (ti : Word) (counter : UInt16)
    (status : StatusWord) (data : Bytes) : Response :=
  .coded keys ti counter status (command.protection.wrap keys .response ti counter data)

variable {c : Channel} {keys : SessionKeys} {command : SecureCommand} {message : Bytes}

/-- A command that fits has its message before the last counter value. -/
theorem protect_of_fits (h : c.keys? = some keys) (hcounter : c.counter ≠ Channel.lastCounter)
    (hfits : (command.field keys c.transactionId c.counter).length ≤ 255) :
    ∃ events, command.protect.run c =
      ⟨.ok (command.message keys c.transactionId c.counter), c, events⟩ := by
  have hrun := Channel.run_protect h hcounter command.protection command.ins command.header
    command.data
  rw [field] at hfits
  rw [if_neg (Nat.not_lt.2 hfits)] at hrun
  exact ⟨_, hrun⟩

/-- **A command that is protected** fits, and the counter value is not the last. -/
theorem of_protect_ok (h : c.keys? = some keys)
    (hprotect : (command.protect.run c).result = .ok message) :
    message = command.message keys c.transactionId c.counter ∧
      c.counter ≠ Channel.lastCounter ∧
      (command.field keys c.transactionId c.counter).length ≤ 255 := by
  rw [protect] at hprotect
  rcases Channel.protect_cases h command.protection command.ins command.header command.data with
    ⟨_, hrun, -⟩ | ⟨_, hrun, -⟩ | ⟨_, hrun, hcounter, hfits⟩
  · rw [hrun] at hprotect
    cases hprotect
  · rw [hrun] at hprotect
    cases hprotect
  · rw [hrun] at hprotect
    cases hprotect
    exact ⟨rfl, hcounter, hfits⟩

/-- A protected command is no request for a further frame: it is longer than one. -/
theorem ne_additionalFrameRequest (h : c.keys? = some keys)
    (hprotect : (command.protect.run c).result = .ok message) :
    message ≠ Apdu.additionalFrameRequest := by
  intro heq
  obtain ⟨hmessage, -, -⟩ := of_protect_ok h hprotect
  have hlength := congrArg List.length (hmessage.symm.trans heq)
  have hfield : (command.field keys c.transactionId c.counter).length =
      command.header.length + (command.protection.wrap keys .command c.transactionId c.counter
        command.data).length + 8 := Channel.length_field ..
  rw [SecureCommand.message,
    Apdu.length_nativeMessage (List.ne_nil_of_length_pos (by omega)), hfield] at hlength
  have hshort : Apdu.additionalFrameRequest.length = 5 := rfl
  omega

end SecureCommand

namespace Channel

open Procedure

variable {c : Channel} {keys : SessionKeys}

/-! ### Reading an answer -/

/-- The data of an answer ends in the code under which the tag sent it. -/
def Coded (c : Channel) (keys : SessionKeys) (answer : Response) (body : Bytes) : Prop :=
  answer.data = body ++ AuthenticationCode.ofResponse keys.mac answer.status c.next.counter
    c.transactionId body

/-- **An answer with the right code** is read at the next counter value. -/
theorem run_readAnswer_of_coded (h : c.keys? = some keys) (protection : Protection)
    {answer : Response} (hstatus : answer.status.isSuccess = true)
    (hcounter : c.counter ≠ lastCounter) {body : Bytes} (hcoded : c.Coded keys answer body) :
    (readAnswer protection answer).run c =
      match protection.unwrap keys .response c.transactionId c.next.counter body with
      | .ok data =>
        ⟨.ok data, c.next, [.commandAnswered answer.status, .counterAdvanced c.next.counter]⟩
      | .error violation =>
        ⟨.error (.protocolViolation violation), c.next.shut,
          [.commandAnswered answer.status, .counterAdvanced c.next.counter,
            .channelClosing c.next.counter]⟩ := by
  have hrun := run_readAnswer_coded h protection hstatus hcounter hcoded rfl
  rw [if_pos rfl] at hrun
  rw [hrun]
  cases protection with
  | mac => rfl
  | full =>
    by_cases hbody : body = []
    · simp only [Protection.unwrap, hbody, if_true]
    · cases hdata : Cryptogram.decipher keys.encryption (Cryptogram.initialVector
          keys.encryption .response c.transactionId c.next.counter) body <;>
        simp only [Protection.unwrap, hbody, if_false, hdata]

end Channel

end Ev2Reader
