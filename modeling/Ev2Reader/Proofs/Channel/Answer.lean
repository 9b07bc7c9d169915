import Ev2Reader.Proofs.Channel.Wrapping

/-!
# What Becomes of an Answer

Reading an answer to a secure command has one way to succeed and seven to fail. `Accepted`
and `Refused` describe them by what the tag sent and what the channel was, without the
procedure that reads it. An accepted answer moves the counter up by one and changes nothing
else; every refusal leaves a closed channel.

## Main results

* `run_of_accepted`, `run_of_refused`, `accepted_or_refused` — the descriptions are right,
  and they leave nothing out;
* `readAnswer_outcomes` — **reading an answer gives exactly what they say**, and an answer
  without the right code is found out without its data being deciphered;
* `SecureCommand.receive_cases` — what channel is left after the answer to any command.
-/

namespace Ev2Reader

/-- Deciphering succeeds, or the length is wrong, or no data was enciphered to this. -/
theorem Cryptogram.decipher_cases (key : Key) (iv : Block) {ciphertext : Bytes}
    (hne : ciphertext ≠ []) :
    (∃ plaintext, decipher key iv ciphertext = .ok plaintext) ∨
    (ciphertext.length % 16 ≠ 0 ∧
      decipher key iv ciphertext = .error (.responseLength ciphertext.length)) ∨
    (ciphertext.length % 16 = 0 ∧ (∀ plaintext, ciphertext ≠ encipher key iv plaintext) ∧
      decipher key iv ciphertext = .error .padding) := by
  cases hdecipher : decipher key iv ciphertext with
  | ok plaintext => exact .inl ⟨plaintext, rfl⟩
  | error violation =>
    right
    by_cases hlength : ciphertext.length % 16 = 0
    · right
      refine ⟨hlength, fun plaintext hplain => ?_, ?_⟩
      · rw [decipher_eq_ok_iff.2 hplain] at hdecipher
        cases hdecipher
      · rcases decipher_error hdecipher with rfl | rfl
        · obtain ⟨hnil | hragged, -⟩ := decipher_eq_responseLength_iff.1 hdecipher
          · exact absurd hnil hne
          · exact absurd hlength hragged
        · rfl
    · left
      rw [← hdecipher]
      exact ⟨hlength, decipher_eq_responseLength_iff.2 ⟨.inr hlength, rfl⟩⟩

namespace Channel

open Procedure

/-- The answer reports success under a code made at the next counter value, which exists. -/
structure Genuine (c : Channel) (keys : SessionKeys) (answer : Response) (body : Bytes) :
    Prop where
  /-- The status word reports success. -/
  success : answer.status.isSuccess = true
  /-- There is a counter value to move to. -/
  counter_ne : c.counter ≠ lastCounter
  /-- The data is the body, and the right code behind it. -/
  coded : c.Coded keys answer body

/-- **An accepted answer** and its data. -/
inductive Accepted (c : Channel) (answer : Response) : Protection → Bytes → Prop where
  /-- The data travelled as it is. -/
  | plain {keys body} (h : c.keys? = some keys) (hgenuine : c.Genuine keys answer body) :
      Accepted c answer .mac body
  /-- There was no data to decipher. -/
  | empty {keys} (h : c.keys? = some keys) (hgenuine : c.Genuine keys answer []) :
      Accepted c answer .full []
  /-- The data was deciphered at the next counter value. -/
  | deciphered {keys body data} (h : c.keys? = some keys) (hgenuine : c.Genuine keys answer body)
      (hbody : body ≠ []) (hdata : Cryptogram.decipher keys.encryption
        (Cryptogram.initialVector keys.encryption .response c.transactionId c.next.counter) body =
          .ok data) :
      Accepted c answer .full data

/-- **A refused answer**, the fault that is reported and the channel that is left. -/
inductive Refused (c : Channel) (answer : Response) : Protection → Fault → Channel → Prop where
  /-- The channel was closed before. -/
  | closed {protection} (h : c.keys? = none) : Refused c answer protection .channelClosed c
  /-- The status word does not report success. -/
  | unsuccessful {protection keys} (h : c.keys? = some keys)
      (hstatus : answer.status.isSuccess = false) :
      Refused c answer protection (.protocolViolation (.unexpectedStatus answer.status)) c.shut
  /-- The counter has no next value. -/
  | exhausted {protection keys} (h : c.keys? = some keys)
      (hstatus : answer.status.isSuccess = true) (hcounter : c.counter = lastCounter) :
      Refused c answer protection .counterExhausted c.shut
  /-- There is no room for a code. -/
  | short {protection keys} (h : c.keys? = some keys)
      (hstatus : answer.status.isSuccess = true) (hcounter : c.counter ≠ lastCounter)
      (hlength : answer.data.length < 8) :
      Refused c answer protection (.protocolViolation (.responseLength answer.data.length))
        c.next.shut
  /-- The last eight bytes are not the code of those in front of them. -/
  | forged {protection keys body code} (h : c.keys? = some keys)
      (hstatus : answer.status.isSuccess = true) (hcounter : c.counter ≠ lastCounter)
      (hdata : answer.data = body ++ code) (hcode : code.length = 8)
      (hforged : code ≠ AuthenticationCode.ofResponse keys.mac answer.status c.next.counter
        c.transactionId body) :
      Refused c answer protection .integrityFailure c.next.shut
  /-- The data to decipher is not whole blocks. -/
  | ragged {keys body} (h : c.keys? = some keys) (hgenuine : c.Genuine keys answer body)
      (hlength : body.length % 16 ≠ 0) :
      Refused c answer .full (.protocolViolation (.responseLength body.length)) c.next.shut
  /-- The data to decipher does not end in padding: nothing is enciphered to it. -/
  | unpadded {keys body} (h : c.keys? = some keys) (hgenuine : c.Genuine keys answer body)
      (hbody : body ≠ []) (hlength : body.length % 16 = 0)
      (hpadding : ∀ data, body ≠ Cryptogram.encipher keys.encryption
        (Cryptogram.initialVector keys.encryption .response c.transactionId c.next.counter)
          data) :
      Refused c answer .full (.protocolViolation .padding) c.next.shut

variable {c c' : Channel} {protection : Protection} {answer : Response}

/-- An accepted answer gives its data and moves the counter on. -/
theorem run_of_accepted {data : Bytes} (h : c.Accepted answer protection data) :
    ∃ events, (readAnswer protection answer).run c = ⟨.ok data, c.next, events⟩ := by
  cases h with
  | plain h hgenuine =>
    exact ⟨_, run_readAnswer_of_coded h .mac hgenuine.success hgenuine.counter_ne
      hgenuine.coded⟩
  | empty h hgenuine =>
    exact ⟨_, run_readAnswer_of_coded h .full hgenuine.success hgenuine.counter_ne
      hgenuine.coded⟩
  | deciphered h hgenuine hbody hdata =>
    refine ⟨[.commandAnswered answer.status, .counterAdvanced c.next.counter], ?_⟩
    rw [run_readAnswer_of_coded h .full hgenuine.success hgenuine.counter_ne hgenuine.coded]
    simp only [Protection.unwrap, hbody, if_false, hdata]

/-- A refused answer gives its fault and leaves its channel. -/
theorem run_of_refused {e : Fault} (h : c.Refused answer protection e c') :
    ∃ events, (readAnswer protection answer).run c = ⟨.error e, c', events⟩ := by
  cases h with
  | closed h => exact ⟨_, run_readAnswer_closed h protection answer⟩
  | unsuccessful h hstatus => exact ⟨_, run_readAnswer_failure h protection hstatus⟩
  | exhausted h hstatus hcounter =>
    exact ⟨_, run_readAnswer_exhausted h protection hstatus hcounter⟩
  | short h hstatus hcounter hlength =>
    exact ⟨_, run_readAnswer_short h protection hstatus hcounter hlength⟩
  | forged h hstatus hcounter hdata hcode hforged =>
    have hrun := run_readAnswer_coded h protection hstatus hcounter hdata hcode
    rw [if_neg hforged] at hrun
    exact ⟨_, hrun⟩
  | @ragged keys body h hgenuine hlength =>
    have hbody : body ≠ [] := by
      rintro rfl
      exact hlength rfl
    have hdecipher : Cryptogram.decipher keys.encryption (Cryptogram.initialVector
        keys.encryption .response c.transactionId c.next.counter) body =
          .error (.responseLength body.length) :=
      Cryptogram.decipher_eq_responseLength_iff.2 ⟨.inr hlength, rfl⟩
    refine ⟨[.commandAnswered answer.status, .counterAdvanced c.next.counter,
      .channelClosing c.next.counter], ?_⟩
    rw [run_readAnswer_of_coded h .full hgenuine.success hgenuine.counter_ne hgenuine.coded]
    simp only [Protection.unwrap, hbody, if_false, hdecipher]
  | @unpadded keys body h hgenuine hbody hlength hpadding =>
    have hdecipher : Cryptogram.decipher keys.encryption (Cryptogram.initialVector
        keys.encryption .response c.transactionId c.next.counter) body = .error .padding := by
      rcases Cryptogram.decipher_cases _ _ hbody with ⟨data, hok⟩ | ⟨hragged, -⟩ | ⟨-, -, hpad⟩
      · exact absurd (Cryptogram.decipher_eq_ok_iff.1 hok) (hpadding data)
      · exact absurd hlength hragged
      · exact hpad
    refine ⟨[.commandAnswered answer.status, .counterAdvanced c.next.counter,
      .channelClosing c.next.counter], ?_⟩
    rw [run_readAnswer_of_coded h .full hgenuine.success hgenuine.counter_ne hgenuine.coded]
    simp only [Protection.unwrap, hbody, if_false, hdecipher]

/-- The data of a genuine answer is accepted or found malformed. -/
theorem Genuine.accepted_or_refused {keys : SessionKeys} {body : Bytes}
    (hgenuine : c.Genuine keys answer body) (h : c.keys? = some keys)
    (protection : Protection) :
    (∃ data, c.Accepted answer protection data) ∨ ∃ e c', c.Refused answer protection e c' := by
  cases protection with
  | mac => exact .inl ⟨_, .plain h hgenuine⟩
  | full =>
    by_cases hbody : body = []
    · subst hbody
      exact .inl ⟨_, .empty h hgenuine⟩
    · rcases Cryptogram.decipher_cases keys.encryption (Cryptogram.initialVector
        keys.encryption .response c.transactionId c.next.counter) hbody with
        ⟨data, hdata⟩ | ⟨hlength, -⟩ | ⟨hlength, hpadding, -⟩
      · exact .inl ⟨_, .deciphered h hgenuine hbody hdata⟩
      · exact .inr ⟨_, _, .ragged h hgenuine hlength⟩
      · exact .inr ⟨_, _, .unpadded h hgenuine hbody hlength hpadding⟩

/-- Every answer is accepted or refused. The cases are split in the order of the checks. -/
theorem accepted_or_refused (c : Channel) (protection : Protection) (answer : Response) :
    (∃ data, c.Accepted answer protection data) ∨ ∃ e c', c.Refused answer protection e c' := by
  cases h : c.keys? with
  | none => exact .inr ⟨_, _, .closed h⟩
  | some keys =>
    cases hstatus : answer.status.isSuccess with
    | false => exact .inr ⟨_, _, .unsuccessful h hstatus⟩
    | true =>
      by_cases hcounter : c.counter = lastCounter
      · exact .inr ⟨_, _, .exhausted h hstatus hcounter⟩
      by_cases hlength : answer.data.length < 8
      · exact .inr ⟨_, _, .short h hstatus hcounter hlength⟩
      have hdata : answer.data = answer.data.take (answer.data.length - 8) ++
          answer.data.drop (answer.data.length - 8) := (List.take_append_drop _ _).symm
      by_cases hcode : answer.data.drop (answer.data.length - 8) =
          AuthenticationCode.ofResponse keys.mac answer.status c.next.counter c.transactionId
            (answer.data.take (answer.data.length - 8))
      · rw [hcode] at hdata
        exact Genuine.accepted_or_refused ⟨hstatus, hcounter, hdata⟩ h protection
      · refine .inr ⟨_, _, .forged h hstatus hcounter hdata ?_ hcode⟩
        rw [List.length_drop]
        omega

/-- A fault is that of a refusal. -/
theorem refused_of_error {e : Fault}
    (h : ((readAnswer protection answer).run c).result = .error e) :
    ∃ c', c.Refused answer protection e c' := by
  rcases accepted_or_refused c protection answer with ⟨data, haccepted⟩ | ⟨e', c', hrefused⟩
  · obtain ⟨events, hrun⟩ := run_of_accepted haccepted
    rw [hrun] at h
    cases h
  · obtain ⟨events, hrun⟩ := run_of_refused hrefused
    rw [hrun] at h
    cases h
    exact ⟨c', hrefused⟩

/-- A channel does not both accept and refuse an answer. -/
theorem Refused.not_accepted {e : Fault} (h : c.Refused answer protection e c') (data : Bytes) :
    ¬ c.Accepted answer protection data := by
  intro haccepted
  obtain ⟨_, hrefused⟩ := run_of_refused h
  obtain ⟨_, hrun⟩ := run_of_accepted haccepted
  rw [hrun] at hrefused
  cases hrefused

/-- **Only a genuine answer is accepted,** and on an open channel. -/
theorem Accepted.genuine {data : Bytes} (h : c.Accepted answer protection data) :
    ∃ keys body, c.keys? = some keys ∧ c.Genuine keys answer body := by
  cases h with
  | plain h hgenuine | empty h hgenuine | deciphered h hgenuine => exact ⟨_, _, h, hgenuine⟩

/-- A refusal leaves a closed channel. -/
theorem Refused.keys?_eq_none {e : Fault} (h : c.Refused answer protection e c') :
    c'.keys? = none := by
  cases h with
  | closed h => exact h
  | unsuccessful | exhausted | short | forged | ragged | unpadded => rfl

/-! ### The cipher key -/

/-- The same channel with another encryption key. -/
def rekey (c : Channel) (key : Key) : Channel :=
  match c.state with
  | .authenticated keys => { c with state := .authenticated { keys with encryption := key } }
  | .closed => c

/-- A closed channel has no key to change. -/
theorem keys?_rekey (h : c.keys? = none) (key : Key) : (c.rekey key).keys? = none := by
  obtain ⟨_, _, _, state⟩ := c
  cases state with
  | authenticated => cases h
  | closed => rfl

/-- On an open channel the encryption key is changed and no other. -/
theorem keys?_rekey_open {keys : SessionKeys} (h : c.keys? = some keys) (key : Key) :
    (c.rekey key).keys? = some { keys with encryption := key } := by
  obtain ⟨_, _, _, state⟩ := c
  cases state with
  | authenticated =>
    cases h
    rfl
  | closed => cases h

/-- Another encryption key leaves the counter as it is. -/
@[simp] theorem counter_rekey (c : Channel) (key : Key) :
    (c.rekey key).counter = c.counter := by
  obtain ⟨_, _, _, state⟩ := c
  cases state <;> rfl

/-- Another encryption key leaves the transaction identifier as it is. -/
@[simp] theorem transactionId_rekey (c : Channel) (key : Key) :
    (c.rekey key).transactionId = c.transactionId := by
  obtain ⟨_, _, _, state⟩ := c
  cases state <;> rfl

/-- Another encryption key leaves the next counter value as it is. -/
@[simp] theorem counter_next_rekey (c : Channel) (key : Key) :
    (c.rekey key).next.counter = c.next.counter := by
  rw [next, counter_rekey, next]

/-- **An answer that is not genuine is refused alike under every encryption key**, so its
data is not deciphered. -/
theorem Refused.rekey {e : Fault} (h : c.Refused answer protection e c')
    (hgenuine : ∀ keys body, c.keys? = some keys → ¬ c.Genuine keys answer body) (key : Key) :
    ∃ c'', (c.rekey key).Refused answer protection e c'' := by
  cases h with
  | closed h => exact ⟨_, .closed (keys?_rekey h key)⟩
  | unsuccessful h hstatus => exact ⟨_, .unsuccessful (keys?_rekey_open h key) hstatus⟩
  | exhausted h hstatus hcounter =>
    exact ⟨_, .exhausted (keys?_rekey_open h key) hstatus (by rwa [counter_rekey])⟩
  | short h hstatus hcounter hlength =>
    exact ⟨_, .short (keys?_rekey_open h key) hstatus (by rwa [counter_rekey]) hlength⟩
  | forged h hstatus hcounter hdata hcode hforged =>
    refine ⟨_, .forged (keys?_rekey_open h key) hstatus (by rwa [counter_rekey]) hdata hcode ?_⟩
    rwa [counter_next_rekey, transactionId_rekey]
  | ragged h hgood => exact absurd hgood (hgenuine _ _ h)
  | unpadded h hgood => exact absurd hgood (hgenuine _ _ h)

/-! ### The outcomes -/

/-- **Reading an answer** gives data and the channel at the next counter exactly if the
answer is accepted, and a fault and a closed channel exactly if it is refused. Without the
right code there is no data, and the fault is the same whatever key would decipher it. -/
theorem readAnswer_outcomes (c : Channel) (protection : Protection) (answer : Response) :
    (∀ data c', ((readAnswer protection answer).run c).result = .ok data ∧
        ((readAnswer protection answer).run c).state = c' ↔
      c.Accepted answer protection data ∧ c' = c.next) ∧
    (∀ e c', ((readAnswer protection answer).run c).result = .error e ∧
        ((readAnswer protection answer).run c).state = c' ↔
      c.Refused answer protection e c') ∧
    (∀ e c', c.Refused answer protection e c' → c'.isOpen = false) ∧
    ((∀ keys body, c.keys? = some keys → ¬ c.Genuine keys answer body) →
      (∀ data, ((readAnswer protection answer).run c).result ≠ .ok data) ∧
      ∀ key, ((readAnswer protection answer).run (c.rekey key)).result =
        ((readAnswer protection answer).run c).result) := by
  refine ⟨fun data c' => ⟨?_, ?_⟩, fun e c' => ⟨?_, ?_⟩, ?_, fun hgenuine => ?_⟩
  · rintro ⟨hresult, rfl⟩
    rcases accepted_or_refused c protection answer with ⟨data', haccepted⟩ | ⟨e, c', hrefused⟩
    · obtain ⟨events, hrun⟩ := run_of_accepted haccepted
      rw [hrun] at hresult ⊢
      cases hresult
      exact ⟨haccepted, rfl⟩
    · obtain ⟨events, hrun⟩ := run_of_refused hrefused
      rw [hrun] at hresult
      cases hresult
  · rintro ⟨haccepted, rfl⟩
    obtain ⟨events, hrun⟩ := run_of_accepted haccepted
    rw [hrun]
    exact ⟨rfl, rfl⟩
  · rintro ⟨hresult, rfl⟩
    rcases accepted_or_refused c protection answer with ⟨data', haccepted⟩ | ⟨e', c', hrefused⟩
    · obtain ⟨events, hrun⟩ := run_of_accepted haccepted
      rw [hrun] at hresult
      cases hresult
    · obtain ⟨events, hrun⟩ := run_of_refused hrefused
      rw [hrun] at hresult ⊢
      cases hresult
      exact hrefused
  · intro hrefused
    obtain ⟨events, hrun⟩ := run_of_refused hrefused
    rw [hrun]
    exact ⟨rfl, rfl⟩
  · intro e c' hrefused
    rw [isOpen, hrefused.keys?_eq_none]
    rfl
  · rcases accepted_or_refused c protection answer with ⟨data', haccepted⟩ | ⟨e, c', hrefused⟩
    · obtain ⟨keys, body, h, hgood⟩ := haccepted.genuine
      exact absurd hgood (hgenuine keys body h)
    · obtain ⟨events, hrun⟩ := run_of_refused hrefused
      refine ⟨fun data hok => ?_, fun key => ?_⟩
      · rw [hrun] at hok
        cases hok
      · obtain ⟨c'', hrefused'⟩ := hrefused.rekey hgenuine key
        obtain ⟨events', hrun'⟩ := run_of_refused hrefused'
        rw [hrun, hrun']

end Channel

namespace SecureCommand

open Procedure

variable {c : Channel} {keys : SessionKeys}

/-- The answer to a command that ends the session carries no data and no code. -/
theorem run_receive_of_endsSession (h : c.keys? = some keys) {command : SecureCommand}
    (hends : command.endsSession = true) (answer : Response) :
    (command.receive answer).run c =
      ⟨if answer.status.isSuccess = true then .ok []
        else .error (.protocolViolation (.unexpectedStatus answer.status)),
        c.shut, [.channelClosing c.counter, .sessionEndAnswered answer.status]⟩ := by
  simp only [receive, hends, if_true, run_bind, Channel.run_readSessionEnd_open h]
  cases answer.status.isSuccess <;> rfl

/-- The answer to a command that does not end the session is read under its protection. -/
theorem receive_of_not_endsSession {command : SecureCommand}
    (hends : command.endsSession = false) (answer : Response) :
    command.receive answer = Channel.readAnswer command.protection answer := by
  simp [receive, hends]

/-- **What channel is left** after the answer to a command on an open channel: a closed one,
always so at the end of the session, or the one at the next counter. -/
theorem receive_cases (h : c.keys? = some keys) (command : SecureCommand)
    (answer : Response) :
    (∃ e c' events, (command.receive answer).run c = ⟨.error e, c', events⟩ ∧
      c'.keys? = none) ∨
    (command.endsSession = true ∧
      ∃ events, (command.receive answer).run c = ⟨.ok [], c.shut, events⟩) ∨
    (command.endsSession = false ∧ c.counter ≠ Channel.lastCounter ∧
      ∃ data events, (command.receive answer).run c = ⟨.ok data, c.next, events⟩ ∧
        c.Accepted answer command.protection data) := by
  cases hends : command.endsSession with
  | true =>
    have hrun := run_receive_of_endsSession h hends answer
    cases hstatus : answer.status.isSuccess with
    | true =>
      rw [hstatus, if_pos rfl] at hrun
      exact .inr (.inl ⟨rfl, _, hrun⟩)
    | false =>
      rw [hstatus, if_neg (by decide)] at hrun
      exact .inl ⟨_, _, _, hrun, rfl⟩
  | false =>
    rw [receive_of_not_endsSession hends]
    rcases Channel.accepted_or_refused c command.protection answer with
      ⟨data, haccepted⟩ | ⟨e, c', hrefused⟩
    · obtain ⟨events, hrun⟩ := Channel.run_of_accepted haccepted
      obtain ⟨_, _, -, hgenuine⟩ := haccepted.genuine
      exact .inr (.inr ⟨rfl, hgenuine.counter_ne, data, events, hrun, haccepted⟩)
    · obtain ⟨events, hrun⟩ := Channel.run_of_refused hrefused
      exact .inl ⟨e, c', events, hrun, hrefused.keys?_eq_none⟩

end SecureCommand

end Ev2Reader
