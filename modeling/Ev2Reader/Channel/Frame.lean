import Ev2Reader.Apdu.Command
import Ev2Reader.Apdu.Response
import Ev2Reader.Channel.Basic

/-!
# Protected Messages

A secure command is `90 INS 00 00 Lc Header Data Code 00`. The header travels as it is; the
data is encrypted under full protection. Its answer is data and code under the same
protection, and a status word.

An answer is accepted in four steps: the status word reports success, the counter is
advanced, the code is right under the advanced counter, and the data can be decrypted. The
first step that fails closes the channel.

## Main results

* `run_protect_of_body` — the message of a command, or why there is none;
* `run_readAnswer_failure`, `run_readAnswer_exhausted`, `run_readAnswer_short`,
  `run_readAnswer_coded` — what the four steps do to an answer and to the channel;
* `run_readSessionEnd_open` — the answer to a command that ends the session.
-/

namespace Ev2Reader

namespace Channel

open Procedure

/-- The data of a command as it is sent. Without data there is nothing to encrypt. -/
def protectedBody (protection : Protection) (data : Bytes) : ChannelM Bytes :=
  match protection with
  | .mac => pure data
  | .full => if data = [] then pure [] else encryptCommand data

/-- **The message of a secure command** at the current counter. -/
def protect (protection : Protection) (ins : UInt8) (header data : Bytes) : ChannelM Bytes := do
  let body ← protectedBody protection data
  if header.length + body.length + AuthenticationCode.size > Apdu.maxDataBytes then
    fail (.payloadTooLarge Apdu.maxDataBytes)
  else
    let code ← commandCode ins header body
    let c ← get
    let field := header ++ body ++ code
    record (.commandProtected ins protection c.counter)
    record (.commandLength ins field.length)
    -- The field was measured above, so this second check never fails.
    let command ← ofExcept (Apdu.nativeCommand ins field)
    pure command.bytes

/-- Takes the code off the end of an answer's data. -/
def splitCode (data : Bytes) : Bytes × Bytes :=
  data.splitAt (data.length - AuthenticationCode.size)

/-- A code of eight bytes is taken off again. -/
theorem splitCode_append (body : Bytes) {code : Bytes} (h : code.length = 8) :
    splitCode (body ++ code) = (body, code) := by
  rw [splitCode, List.length_append, h]
  simp [AuthenticationCode.size]

/-- **The data of an answer** to a secure command. -/
def readAnswer (protection : Protection) (answer : Response) : ChannelM Bytes := do
  let _ ← currentKeys
  record (.commandAnswered answer.status)
  if answer.status.isSuccess = false then
    closeWith (.protocolViolation (.unexpectedStatus answer.status))
  else
    advance
    if answer.data.length < AuthenticationCode.size then
      closeWith (.protocolViolation (.responseLength answer.data.length))
    else
      let (body, code) := splitCode answer.data
      verify answer.status body code
      match protection with
      | .mac => pure body
      | .full => if body = [] then pure [] else decryptAnswer body

/-- Reads the answer to a command that ends the session. The tag has given up the session
keys, so its answer has no code, and the channel is closed whatever it says. -/
def readSessionEnd (answer : Response) : ChannelM Unit := do
  let _ ← currentKeys
  close
  record (.sessionEndAnswered answer.status)
  if answer.status.isSuccess = false then
    fail (.protocolViolation (.unexpectedStatus answer.status))

/-! ### What is sent -/

/-- Full protection encrypts data. -/
theorem run_protectedBody_full {data : Bytes} (hdata : data ≠ []) :
    protectedBody .full data = encryptCommand data := by
  simp [protectedBody, hdata]

/-- Protecting a command whose data is protected already. -/
theorem run_protect_of_body {protection : Protection} {ins : UInt8} {header data body : Bytes}
    {c : Channel} {keys : SessionKeys} (h : c.keys? = some keys)
    (hcounter : c.counter ≠ lastCounter)
    (hbody : (protectedBody protection data).run c = ⟨.ok body, c, []⟩) :
    (protect protection ins header data).run c =
      if header.length + body.length + 8 > 255 then ⟨.error (.payloadTooLarge 255), c, []⟩
      else
        ⟨.ok (Apdu.nativeMessage ins (header ++ body ++
            AuthenticationCode.ofCommand keys.mac ins c.counter c.transactionId header body)),
          c, [.commandProtected ins protection c.counter,
            .commandLength ins (header.length + body.length + 8)]⟩ := by
  have hlimit : (header.length + body.length + AuthenticationCode.size > Apdu.maxDataBytes) ↔
      header.length + body.length + 8 > 255 := Iff.rfl
  simp only [protect, run_bind, hbody, andThen_ok, hlimit, List.nil_append]
  split
  · rfl
  next hfits =>
    generalize hcode : AuthenticationCode.ofCommand keys.mac ins c.counter c.transactionId header
      body = code
    have hlength : (header ++ body ++ code).length = header.length + body.length + 8 := by
      rw [List.length_append, List.length_append, ← hcode, AuthenticationCode.length_ofCommand]
    have hcount : (header ++ body ++ code).length ≤ Apdu.maxDataBytes := by
      rw [hlength]
      exact Nat.not_lt.1 hfits
    simp only [run_commandCode_open h hcounter, hcode, run_get, run_record, run_ofExcept, run_pure,
      run_bind, andThen_ok, Apdu.nativeCommand_of_le ins hcount,
      Apdu.nativeMessage_eq_bytes ins hcount, hlength, List.nil_append, List.cons_append]

/-! ### What is received -/

/-- An answer on a closed channel is refused. -/
theorem run_readAnswer_closed {c : Channel} (h : c.keys? = none) (protection : Protection)
    (answer : Response) :
    (readAnswer protection answer).run c = ⟨.error .channelClosed, c, []⟩ := by
  simp [readAnswer, run_currentKeys_closed h]

/-- An answer that does not report success closes the channel at the old counter. -/
theorem run_readAnswer_failure {c : Channel} {keys : SessionKeys} (h : c.keys? = some keys)
    (protection : Protection) {answer : Response} (hstatus : answer.status.isSuccess = false) :
    (readAnswer protection answer).run c =
      ⟨.error (.protocolViolation (.unexpectedStatus answer.status)), c.shut,
        [.commandAnswered answer.status, .channelClosing c.counter]⟩ := by
  simp [readAnswer, run_currentKeys_open h, hstatus, run_closeWith_open h]

/-- An answer at the last counter value closes the channel. -/
theorem run_readAnswer_exhausted {c : Channel} {keys : SessionKeys} (h : c.keys? = some keys)
    (protection : Protection) {answer : Response} (hstatus : answer.status.isSuccess = true)
    (hcounter : c.counter = lastCounter) :
    (readAnswer protection answer).run c =
      ⟨.error .counterExhausted, c.shut,
        [.commandAnswered answer.status, .channelClosing c.counter]⟩ := by
  simp [readAnswer, run_currentKeys_open h, hstatus, run_advance h, hcounter]

/-- An answer without room for a code closes the channel at the next counter. -/
theorem run_readAnswer_short {c : Channel} {keys : SessionKeys} (h : c.keys? = some keys)
    (protection : Protection) {answer : Response} (hstatus : answer.status.isSuccess = true)
    (hcounter : c.counter ≠ lastCounter) (hlength : answer.data.length < 8) :
    (readAnswer protection answer).run c =
      ⟨.error (.protocolViolation (.responseLength answer.data.length)), c.next.shut,
        [.commandAnswered answer.status, .counterAdvanced c.next.counter,
          .channelClosing c.next.counter]⟩ := by
  have hnext : c.next.keys? = some keys := h
  simp [readAnswer, run_currentKeys_open h, hstatus, run_advance h, hcounter,
    AuthenticationCode.size, hlength, run_closeWith_open hnext]

/-- **An answer with a code** is checked at the next counter, and only then decrypted. -/
theorem run_readAnswer_coded {c : Channel} {keys : SessionKeys} (h : c.keys? = some keys)
    (protection : Protection) {answer : Response} (hstatus : answer.status.isSuccess = true)
    (hcounter : c.counter ≠ lastCounter) {body code : Bytes}
    (hdata : answer.data = body ++ code) (hcode : code.length = 8) :
    (readAnswer protection answer).run c =
      if code = AuthenticationCode.ofResponse keys.mac answer.status c.next.counter
          c.transactionId body then
        match protection with
        | .mac =>
          ⟨.ok body, c.next, [.commandAnswered answer.status, .counterAdvanced c.next.counter]⟩
        | .full =>
          if body = [] then
            ⟨.ok [], c.next, [.commandAnswered answer.status, .counterAdvanced c.next.counter]⟩
          else
            match Cryptogram.decipher keys.encryption (Cryptogram.initialVector keys.encryption
                .response c.transactionId c.next.counter) body with
            | .ok plaintext =>
              ⟨.ok plaintext, c.next,
                [.commandAnswered answer.status, .counterAdvanced c.next.counter]⟩
            | .error violation =>
              ⟨.error (.protocolViolation violation), c.next.shut,
                [.commandAnswered answer.status, .counterAdvanced c.next.counter,
                  .channelClosing c.next.counter]⟩
      else
        ⟨.error .integrityFailure, c.next.shut,
          [.commandAnswered answer.status, .counterAdvanced c.next.counter,
            .codeMismatch c.next.counter, .channelClosing c.next.counter]⟩ := by
  -- The code is checked on the next channel, which has the same keys and identifier.
  have hnext : c.next.keys? = some keys := h
  have hsplit : splitCode answer.data = (body, code) := by
    rw [hdata, splitCode_append body hcode]
  have hlength : ¬ answer.data.length < AuthenticationCode.size := by
    rw [hdata, List.length_append, hcode]
    show ¬ _ < 8
    omega
  have hadvance := run_advance h
  rw [if_neg hcounter] at hadvance
  have hverify := run_verify hnext answer.status body code
  simp only [readAnswer, run_bind, run_currentKeys_open h, andThen_ok, run_record, hstatus,
    hadvance, hlength, hsplit, if_false, Bool.true_eq_false, List.nil_append]
  by_cases hgood : code = AuthenticationCode.ofResponse keys.mac answer.status c.next.counter
      c.transactionId body
  · rw [transactionId_next, if_pos hgood] at hverify
    rw [if_pos hgood, hverify]
    cases protection with
    | mac => simp
    | full =>
      by_cases hbody : body = []
      · simp [hbody]
      · have hdecrypt := run_decryptAnswer hnext body
        rw [transactionId_next] at hdecrypt
        simp only [hbody, if_false, andThen_ok, hdecrypt]
        cases Cryptogram.decipher keys.encryption (Cryptogram.initialVector keys.encryption
          .response c.transactionId c.next.counter) body <;> simp
  · rw [transactionId_next, if_neg hgood] at hverify
    rw [if_neg hgood, hverify]
    simp

/-- **The answer to a command that ends the session** closes an open channel whatever it
says. -/
theorem run_readSessionEnd_open {c : Channel} {keys : SessionKeys} (h : c.keys? = some keys)
    (answer : Response) :
    (readSessionEnd answer).run c =
      ⟨if answer.status.isSuccess = true then .ok ()
        else .error (.protocolViolation (.unexpectedStatus answer.status)),
        c.shut, [.channelClosing c.counter, .sessionEndAnswered answer.status]⟩ := by
  cases hstatus : answer.status.isSuccess <;>
    simp [readSessionEnd, run_currentKeys_open h, run_close_open h, hstatus]

/-- On a closed channel the answer to such a command is refused. -/
theorem run_readSessionEnd_closed {c : Channel} (h : c.keys? = none) (answer : Response) :
    (readSessionEnd answer).run c = ⟨.error .channelClosed, c, []⟩ := by
  simp [readSessionEnd, run_currentKeys_closed h]

end Channel

end Ev2Reader
