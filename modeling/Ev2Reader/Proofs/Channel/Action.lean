import Ev2Reader.Proofs.Channel.Answer

/-!
# Actions on a Channel

A caller may use the operations of a channel, and those on its messages, in any order and with
any arguments. This module names them and their sequences, says once what each can do to a
channel, and derives what holds of a channel however it is used.

An action on an open channel ends in one of six ways. It leaves the channel as it is, with a
result or a harmless fault; it closes it, because the session is over or because of a fatal
fault; or it moves the counter on, and then a fault may still close the channel. On a closed
channel nothing is done.

## Main results

* `acted` — **the six ways an action on an open channel can end**;
* `run_perform_of_closed` — on a closed channel nothing is done, and only closing has a result;
* `steadiness` — **what no sequence of actions changes of a channel**: its identity, the order of
  its counter values, that it is closed, and that its last counter value protects nothing.
-/

namespace Ev2Reader

namespace Channel

open Procedure

/-- **What a caller can do** with a channel. -/
inductive Action where
  /-- Computes the initialization vector of a message. -/
  | initialVector (d : Direction)
  /-- Encrypts the data of a command. -/
  | encryptCommand (plaintext : Bytes)
  /-- Computes the code of a command. -/
  | commandCode (ins : UInt8) (header data : Bytes)
  /-- Advances the counter. -/
  | advance
  /-- Checks the code of an answer. -/
  | verify (status : StatusWord) (data code : Bytes)
  /-- Decrypts the data of an answer. -/
  | decryptAnswer (ciphertext : Bytes)
  /-- Gives the channel up. -/
  | close
  /-- Makes the message of a command, given by its parts. -/
  | protect (protection : Protection) (ins : UInt8) (header data : Bytes)
  /-- Reads the answer to a command within the session. -/
  | readAnswer (protection : Protection) (answer : Response)
  /-- Reads the answer to a command that ends the session. -/
  | readSessionEnd (answer : Response)
  /-- Makes the message of a command. -/
  | protectCommand (command : SecureCommand)
  /-- Reads the answer to a command. -/
  | receive (command : SecureCommand) (answer : Response)

/-- Header and data of a command are **overlong** if the data travels as it is and, with the header
and a code, is more than a message can hold. This is looked at before the keys of the channel
are. -/
def Overlong (protection : Protection) (header data : Bytes) : Prop :=
  (protection = .mac ∨ data = []) ∧ 255 < header.length + data.length + 8

/-- Whether a command is overlong can be computed. -/
instance (protection : Protection) (header data : Bytes) :
    Decidable (Overlong protection header data) :=
  inferInstanceAs (Decidable (_ ∧ _))

namespace Action

/-- The action is to protect a command, or a part of one. -/
def isProtecting : Action → Bool
  | encryptCommand _ | commandCode .. | protect .. | protectCommand _ => true
  | _ => false

/-- The answer that an action reads as one within the session. -/
def answer? : Action → Option Response
  | readAnswer _ answer => some answer
  | receive command answer => if command.endsSession then none else some answer
  | _ => none

/-- The action is to give the channel up, or to end the session. -/
def isEnding : Action → Bool
  | close | readSessionEnd _ => true
  | receive command _ => command.endsSession
  | _ => false

/-- The action is to protect a command that is overlong. -/
def isOverlong : Action → Bool
  | protect protection _ header data => Overlong protection header data
  | protectCommand command => Overlong command.protection command.header command.data
  | _ => false

/-- **The action moves the counter of an open channel**: it advances it, or reads an answer that
reports success. -/
def Moves (action : Action) (c : Channel) : Prop :=
  c.counter ≠ lastCounter ∧
    (action = .advance ∨ ∃ answer ∈ action.answer?, answer.status.isSuccess = true)

end Action

/-- **Performs an action.** One that gives no data gives none. -/
def perform : Action → ChannelM Bytes
  | .initialVector d => do
    let iv ← initialVector d
    pure iv.toList
  | .encryptCommand plaintext => encryptCommand plaintext
  | .commandCode ins header data => commandCode ins header data
  | .advance => do
    advance
    pure []
  | .verify status data code => do
    verify status data code
    pure []
  | .decryptAnswer ciphertext => decryptAnswer ciphertext
  | .close => do
    close
    pure []
  | .protect protection ins header data => protect protection ins header data
  | .readAnswer protection answer => readAnswer protection answer
  | .readSessionEnd answer => do
    readSessionEnd answer
    pure []
  | .protectCommand command => command.protect
  | .receive command answer => command.receive answer

/-- The channel after actions one after the other, whatever they end in. -/
def after : List Action → Channel → Channel
  | [], c => c
  | action :: actions, c => after actions ((perform action).run c).state

/-- Actions one after the other are carried out one after the other. -/
theorem after_append (actions actions' : List Action) (c : Channel) :
    after (actions ++ actions') c = after actions' (after actions c) := by
  induction actions generalizing c with
  | nil => rfl
  | cons action actions ih => exact ih _

variable {c : Channel} {keys : SessionKeys} {action : Action}

/-! ### On an open channel -/

/-- **What an action on an open channel comes to.** -/
inductive Acted (action : Action) (c : Channel) : Outcome Channel Notice Fault Bytes → Prop where
  /-- There is a result, and nothing changes. -/
  | kept {data : Bytes} (events : List Notice) (hmoves : ¬ action.Moves c)
      (hcounter : action.isProtecting = true → c.counter ≠ lastCounter) :
      Acted action c ⟨.ok data, c, events⟩
  /-- The channel is given up, as it was to be. -/
  | ended (events : List Notice) (hmoves : ¬ action.Moves c) (hends : action.isEnding = true) :
      Acted action c ⟨.ok [], c.shut, events⟩
  /-- The counter is moved on. -/
  | moved {data : Bytes} (events : List Notice) (hmoves : action.Moves c) :
      Acted action c ⟨.ok data, c.next, events⟩
  /-- The action is refused, and nothing changes. -/
  | refused {e : Fault} (events : List Notice) (hmoves : ¬ action.Moves c)
      (hfatal : e.isSessionFatal = false) : Acted action c ⟨.error e, c, events⟩
  /-- A fatal fault closes the channel. -/
  | broken {e : Fault} (events : List Notice) (hmoves : ¬ action.Moves c)
      (hfatal : e.isSessionFatal = true) : Acted action c ⟨.error e, c.shut, events⟩
  /-- The counter is moved on before a fatal fault closes the channel. -/
  | brokenLater {e : Fault} (events : List Notice) (hmoves : action.Moves c)
      (hfatal : e.isSessionFatal = true) : Acted action c ⟨.error e, c.next.shut, events⟩

/-- An action that neither advances the counter nor reads an answer does not move it. -/
theorem not_moves (hadvance : action ≠ .advance) (hanswer : action.answer? = none) :
    ¬ action.Moves c := by
  rintro ⟨-, heq | ⟨answer, hmem, -⟩⟩
  · exact hadvance heq
  · rw [hanswer] at hmem
    cases hmem

/-- **Protecting a command** is refused, closes the channel at the last counter value, or changes
nothing. -/
theorem acted_protect (h : c.keys? = some keys) (hmoves : ¬ action.Moves c)
    (protection : Protection) (ins : UInt8) (header data : Bytes) :
    Acted action c ((protect protection ins header data).run c) := by
  rcases protect_cases h protection ins header data with
    ⟨events, hrun, -⟩ | ⟨events, hrun, -⟩ | ⟨events, hrun, hcounter, -⟩
  · rw [hrun]
    exact .refused events hmoves rfl
  · rw [hrun]
    exact .broken events hmoves rfl
  · rw [hrun]
    exact .kept events hmoves fun _ => hcounter

/-- Reading an answer moves the counter exactly if the answer reports success and there is a
counter value to move to. -/
theorem acted_readAnswer (h : c.keys? = some keys) {answer : Response}
    (hanswer : action.answer? = some answer) (hadvance : action ≠ .advance)
    (protection : Protection) : Acted action c ((readAnswer protection answer).run c) := by
  have hmoves : action.Moves c ↔ c.counter ≠ lastCounter ∧ answer.status.isSuccess = true := by
    simp [Action.Moves, hanswer, hadvance]
  rcases accepted_or_refused c protection answer with ⟨data, haccepted⟩ | ⟨e, c', hrefused⟩
  · obtain ⟨events, hrun⟩ := run_of_accepted haccepted
    obtain ⟨_, _, -, hgenuine⟩ := haccepted.genuine
    rw [hrun]
    exact .moved events (hmoves.2 ⟨hgenuine.counter_ne, hgenuine.success⟩)
  · obtain ⟨events, hrun⟩ := run_of_refused hrefused
    rw [hrun]
    cases hrefused with
    | closed hclosed =>
      rw [h] at hclosed
      cases hclosed
    | unsuccessful _ hstatus =>
      exact .broken events (fun hm => by simp [hstatus] at hmoves; exact hmoves hm) rfl
    | exhausted _ _ hcounter =>
      exact .broken events (fun hm => (hmoves.1 hm).1 hcounter) rfl
    | short _ hstatus hcounter | forged _ hstatus hcounter =>
      exact .brokenLater events (hmoves.2 ⟨hcounter, hstatus⟩) rfl
    | ragged _ hgenuine | unpadded _ hgenuine =>
      exact .brokenLater events (hmoves.2 ⟨hgenuine.counter_ne, hgenuine.success⟩) rfl

/-- The answer to the end of the session closes the channel, whatever it says. -/
theorem acted_sessionEnd (h : c.keys? = some keys) (hmoves : ¬ action.Moves c)
    (hends : action.isEnding = true) (answer : Response) :
    Acted action c ((do readSessionEnd answer; pure [] : ChannelM Bytes).run c) := by
  rw [run_bind, run_readSessionEnd_open h]
  cases answer.status.isSuccess with
  | true => exact .ended _ hmoves hends
  | false => exact .broken _ hmoves rfl

/-- **An action on an open channel ends in one of the six ways.** -/
theorem acted (h : c.keys? = some keys) (action : Action) :
    Acted action c ((perform action).run c) := by
  -- What sends and what advances fails at the last counter value; nothing else looks at it.
  cases action with
  | initialVector d =>
    rw [perform, run_bind, run_initialVector_open h]
    exact .kept _ (not_moves (by simp) rfl) (absurd · Bool.false_ne_true)
  | encryptCommand plaintext =>
    by_cases hcounter : c.counter = lastCounter
    · rw [perform, encryptCommand, run_bind, run_sendingKeys_exhausted h hcounter]
      exact .broken _ (not_moves (by simp) rfl) rfl
    · rw [perform, run_encryptCommand_open h hcounter]
      exact .kept _ (not_moves (by simp) rfl) fun _ => hcounter
  | commandCode ins header data =>
    by_cases hcounter : c.counter = lastCounter
    · rw [perform, commandCode, run_bind, run_sendingKeys_exhausted h hcounter]
      exact .broken _ (not_moves (by simp) rfl) rfl
    · rw [perform, run_commandCode_open h hcounter]
      exact .kept _ (not_moves (by simp) rfl) fun _ => hcounter
  | advance =>
    rw [perform, run_bind, run_advance h]
    by_cases hcounter : c.counter = lastCounter
    · rw [if_pos hcounter]
      exact .broken _ (fun hmoves => hmoves.1 hcounter) rfl
    · rw [if_neg hcounter]
      exact .moved _ ⟨hcounter, .inl rfl⟩
  | verify status data code =>
    rw [perform, run_bind, run_verify h]
    split
    · exact .kept _ (not_moves (by simp) rfl) (absurd · Bool.false_ne_true)
    · exact .broken _ (not_moves (by simp) rfl) rfl
  | decryptAnswer ciphertext =>
    rw [perform, run_decryptAnswer h]
    split
    · exact .kept _ (not_moves (by simp) rfl) (absurd · Bool.false_ne_true)
    · exact .broken _ (not_moves (by simp) rfl) rfl
  | close =>
    rw [perform, run_bind, run_close_open h]
    exact .ended _ (not_moves (by simp) rfl) rfl
  | protect protection ins header data =>
    exact acted_protect h (not_moves (by simp) rfl) protection ins header data
  | readAnswer protection answer => exact acted_readAnswer h rfl (by simp) protection
  | readSessionEnd answer => exact acted_sessionEnd h (not_moves (by simp) rfl) rfl answer
  | protectCommand command =>
    exact acted_protect h (not_moves (by simp) rfl) command.protection command.ins command.header
      command.data
  | receive command answer =>
    cases hends : command.endsSession with
    | true =>
      have hanswer : (Action.receive command answer).answer? = none := by
        simp [Action.answer?, hends]
      rw [perform, SecureCommand.receive, hends, if_pos rfl]
      exact acted_sessionEnd h (not_moves (by simp) hanswer) hends answer
    | false =>
      have hanswer : (Action.receive command answer).answer? = some answer := by
        simp [Action.answer?, hends]
      rw [perform, SecureCommand.receive_of_not_endsSession hends]
      exact acted_readAnswer h hanswer (by simp) command.protection

/-! ### On a closed channel -/

/-- Data that is not to be encrypted needs no channel. -/
theorem run_protectedBody_plain {protection : Protection} {data : Bytes}
    (hplain : protection = .mac ∨ data = []) (c : Channel) :
    (protectedBody protection data).run c = ⟨.ok data, c, []⟩ := by
  rcases hplain with rfl | rfl
  · rfl
  · cases protection <;> rfl

/-- **An overlong command** is refused before the channel is looked at. -/
theorem run_protect_overlong {protection : Protection} {header data : Bytes}
    (hlong : Overlong protection header data) (ins : UInt8) (c : Channel) :
    (protect protection ins header data).run c = ⟨.error (.payloadTooLarge 255), c, []⟩ := by
  have hlimit : header.length + data.length + AuthenticationCode.size > Apdu.maxDataBytes :=
    hlong.2
  rw [protect, run_bind, run_protectedBody_plain hlong.1, andThen_ok, if_pos hlimit]
  rfl

/-- **Protecting on a closed channel** is refused for the length of an overlong command, and else
because the channel is closed. -/
theorem run_protect_closed (h : c.keys? = none) (protection : Protection) (ins : UInt8)
    (header data : Bytes) :
    (protect protection ins header data).run c =
      ⟨.error (if Overlong protection header data then .payloadTooLarge 255 else .channelClosed),
        c, []⟩ := by
  by_cases hlong : Overlong protection header data
  · rw [run_protect_overlong hlong, if_pos hlong]
  rw [if_neg hlong]
  by_cases hplain : protection = .mac ∨ data = []
  · have hlimit : ¬ header.length + data.length + AuthenticationCode.size > Apdu.maxDataBytes :=
      fun hlimit => hlong ⟨hplain, hlimit⟩
    rw [protect, run_bind, run_protectedBody_plain hplain, andThen_ok, if_neg hlimit]
    simp [commandCode, run_sendingKeys_closed h]
  · obtain ⟨hmac, hdata⟩ := not_or.1 hplain
    obtain rfl : protection = .full := by
      cases protection with
      | mac => exact absurd rfl hmac
      | full => rfl
    simp [protect, run_protectedBody_full hdata, encryptCommand, run_sendingKeys_closed h]

/-- **What a closed channel makes of an action** other than closing it once more. -/
theorem run_perform_of_closed (h : c.keys? = none) (hclose : action ≠ .close) :
    (perform action).run c =
      ⟨.error (if action.isOverlong then .payloadTooLarge 255 else .channelClosed), c, []⟩ := by
  cases action with
  | close => exact absurd rfl hclose
  | protect protection ins header data =>
    rw [perform, run_protect_closed h]
    simp [Action.isOverlong]
  | protectCommand command =>
    rw [perform, SecureCommand.protect, run_protect_closed h]
    simp [Action.isOverlong]
  | initialVector | verify =>
    simp [perform, initialVector, verify, run_currentKeys_closed h, Action.isOverlong]
  | encryptCommand | commandCode =>
    simp [perform, encryptCommand, commandCode, run_sendingKeys_closed h, Action.isOverlong]
  | advance | decryptAnswer =>
    simp [perform, advance, decryptAnswer, run_currentKeys_closed h, Action.isOverlong]
  | readAnswer => simp [perform, run_readAnswer_closed h, Action.isOverlong]
  | readSessionEnd => simp [perform, run_readSessionEnd_closed h, Action.isOverlong]
  | receive command answer =>
    cases hends : command.endsSession <;>
      simp [perform, SecureCommand.receive, hends, run_readAnswer_closed h,
        run_readSessionEnd_closed h, Action.isOverlong]

/-- **On a closed channel nothing changes**, and only closing has a result. -/
theorem run_perform_closed (h : c.keys? = none) (action : Action) :
    ((perform action).run c).state = c ∧
      (action ≠ .close → ∃ e, ((perform action).run c).result = .error e) := by
  by_cases hclose : action = .close
  · subst hclose
    rw [perform, run_bind, run_close_closed h]
    exact ⟨rfl, fun hne => absurd rfl hne⟩
  · rw [run_perform_of_closed h hclose]
    exact ⟨rfl, fun _ => ⟨_, rfl⟩⟩

/-! ### Sequences of actions -/

/-- **An outcome that raises the counter**: it is advanced, or an answer on an open channel reports
success and there is another value. -/
def Action.Raises (action : Action) (c : Channel) (o : Outcome Channel Notice Fault Bytes) :
    Prop :=
  (action = .advance ∧ ∃ data, o.result = .ok data) ∨
    ∃ answer ∈ action.answer?, answer.status.isSuccess = true ∧ c.isOpen = true ∧
      c.counter ≠ lastCounter

/-- **What one action leaves of a channel** `c`. -/
structure Steady (action : Action) (c : Channel) (o : Outcome Channel Notice Fault Bytes) :
    Prop where
  /-- The channel is the same. -/
  keyNumber : o.state.keyNumber = c.keyNumber
  /-- The session is the same. -/
  transactionId : o.state.transactionId = c.transactionId
  /-- The counter stays or goes up by one. -/
  counter : o.state.counter = c.counter ∨ o.state.counter.toNat = c.counter.toNat + 1
  /-- The counter goes up for no other reason. -/
  raised : o.state.counter ≠ c.counter ↔ action.Raises c o
  /-- A closed channel is left as it is. -/
  frozen : c.isOpen = false → o.state = c
  /-- The last counter value protects nothing. -/
  spent : c.counter = lastCounter → action.isProtecting = true → ∀ data, o.result ≠ .ok data

/-- Every action is steady on a closed channel. -/
theorem steady_of_closed (h : c.keys? = none) (action : Action) :
    Steady action c ((perform action).run c) := by
  have hclosed : c.isOpen = false := by rw [isOpen, h]; rfl
  obtain ⟨hstate, hfails⟩ := run_perform_closed h action
  have hfault (hne : action ≠ .close) (data : Bytes) :
      ((perform action).run c).result ≠ .ok data := by
    obtain ⟨e, he⟩ := hfails hne
    rw [he]
    simp
  refine ⟨by rw [hstate], by rw [hstate], .inl (by rw [hstate]), ?_, fun _ => hstate, ?_⟩
  · refine ⟨fun hraised => absurd (by rw [hstate]) hraised, ?_⟩
    rintro (⟨rfl, data, hok⟩ | ⟨_, _, _, hopen, _⟩)
    · exact absurd hok (hfault (by simp) data)
    · rw [hclosed] at hopen
      cases hopen
  · intro _ hprotecting
    exact hfault (by rintro rfl; cases hprotecting)

/-- On an open channel the actions that move the counter are those whose outcome raises it. -/
theorem raises_iff_moves (h : c.keys? = some keys) (action : Action) :
    action.Raises c ((perform action).run c) ↔ action.Moves c := by
  have hopen : c.isOpen = true := by rw [isOpen, h]; rfl
  by_cases hadvance : action = .advance
  · subst hadvance
    rw [perform, run_bind, run_advance h]
    by_cases hcounter : c.counter = lastCounter <;>
      simp [Action.Raises, Action.Moves, Action.answer?, hcounter]
  · simp only [Action.Raises, Action.Moves, hadvance, hopen, false_and, false_or, true_and]
    constructor
    · rintro ⟨answer, hmem, hsuccess, hcounter⟩
      exact ⟨hcounter, answer, hmem, hsuccess⟩
    · rintro ⟨hcounter, answer, hmem, hsuccess⟩
      exact ⟨answer, hmem, hsuccess, hcounter⟩

/-- Whatever an action comes to, it keeps the identity of the channel, and moves the counter or
leaves it. -/
theorem Acted.identity {o : Outcome Channel Notice Fault Bytes} (hacted : Acted action c o) :
    o.state.keyNumber = c.keyNumber ∧ o.state.transactionId = c.transactionId ∧
      ((¬ action.Moves c ∧ o.state.counter = c.counter) ∨
        (action.Moves c ∧ o.state.counter = c.next.counter)) := by
  cases hacted with
  | kept _ hmoves | ended _ hmoves | refused _ hmoves | broken _ hmoves =>
    exact ⟨rfl, rfl, .inl ⟨hmoves, rfl⟩⟩
  | moved _ hmoves | brokenLater _ hmoves => exact ⟨rfl, rfl, .inr ⟨hmoves, rfl⟩⟩

/-- An action that protects has no result at the last counter value. -/
theorem Acted.counter_ne_of_ok {o : Outcome Channel Notice Fault Bytes}
    (hacted : Acted action c o) (hprotecting : action.isProtecting = true) {data : Bytes}
    (hok : o.result = .ok data) : c.counter ≠ lastCounter := by
  cases hacted with
  | kept _ _ hcounter => exact hcounter hprotecting
  | moved _ hmoves => exact hmoves.1
  | ended _ _ hends => cases action <;> simp_all [Action.isProtecting, Action.isEnding]
  | refused | broken | brokenLater => cases hok

/-- Every action is steady on an open channel. -/
theorem steady_of_open (h : c.keys? = some keys) (action : Action) :
    Steady action c ((perform action).run c) := by
  have hacted := acted h action
  obtain ⟨hkey, hti, hcounter⟩ := hacted.identity
  refine ⟨hkey, hti, ?_, ?_, fun hclosed => ?_, fun hlast hprotecting _ hok =>
    hacted.counter_ne_of_ok hprotecting hok hlast⟩
  · rcases hcounter with ⟨-, heq⟩ | ⟨hmoves, heq⟩
    · exact .inl heq
    · exact .inr (by rw [heq, toNat_next hmoves.1])
  · rw [raises_iff_moves h]
    rcases hcounter with ⟨hmoves, heq⟩ | ⟨hmoves, heq⟩
    · simp [heq, hmoves]
    · refine ⟨fun _ => hmoves, fun _ hsame => ?_⟩
      have := toNat_next hmoves.1
      rw [← heq, hsame] at this
      omega
  · rw [isOpen, h] at hclosed
    cases hclosed

/-- **Every action leaves every channel so.** -/
theorem steady (action : Action) (c : Channel) : Steady action c ((perform action).run c) := by
  cases h : c.keys? with
  | none => exact steady_of_closed h action
  | some keys => exact steady_of_open h action

/-- A sequence of actions keeps the identity of the channel, never lowers its counter, and does
nothing once it is closed. -/
theorem steady_after (actions : List Action) (c : Channel) :
    (after actions c).keyNumber = c.keyNumber ∧
      (after actions c).transactionId = c.transactionId ∧
      c.counter.toNat ≤ (after actions c).counter.toNat ∧
      (c.isOpen = false → after actions c = c) := by
  induction actions generalizing c with
  | nil => exact ⟨rfl, rfl, Nat.le_refl _, fun _ => rfl⟩
  | cons action actions ih =>
    have hstep := steady action c
    obtain ⟨hkey, hti, hcounter, hfrozen⟩ := ih ((perform action).run c).state
    refine ⟨hkey.trans hstep.keyNumber, hti.trans hstep.transactionId, ?_, fun hclosed => ?_⟩
    · refine Nat.le_trans ?_ hcounter
      rcases hstep.counter with heq | heq
      · exact Nat.le_of_eq (congrArg UInt16.toNat heq.symm)
      · omega
    · have hstate := hstep.frozen hclosed
      rw [hstate] at hfrozen
      rw [after, hstate]
      exact hfrozen hclosed

/-- **A channel is steady under any use of it.** After any actions it has the key number and the
transaction identifier it had, and the next action leaves it as `Steady` says; whatever further
actions follow, its counter never goes down, and once closed it stays as it is. -/
theorem steadiness (c : Channel) (actions : List Action) :
    (after actions c).keyNumber = c.keyNumber ∧
      (after actions c).transactionId = c.transactionId ∧
      (∀ action, Steady action (after actions c) ((perform action).run (after actions c))) ∧
      ∀ actions',
        (after actions c).counter.toNat ≤ (after (actions ++ actions') c).counter.toNat ∧
          ((after actions c).isOpen = false →
            after (actions ++ actions') c = after actions c) := by
  obtain ⟨hkey, hti, -, -⟩ := steady_after actions c
  refine ⟨hkey, hti, fun action => steady action _, fun actions' => ?_⟩
  obtain ⟨-, -, hcounter, hfrozen⟩ := steady_after actions' (after actions c)
  rw [after_append]
  exact ⟨hcounter, hfrozen⟩

end Channel

end Ev2Reader
