import Ev2Reader.Proofs.Channel.Provisioning
import Ev2Reader.Proofs.Session.Chaining

/-!
# Changing a Key

A key is changed in one of two ways. The key of the session itself is sent as it is, and the tag
ends the session and acknowledges without a code. Any other key is sent combined with its old
value and with its checksum, and the answer is protected like every other one. One comparison of
key numbers selects the way, for what is sent and for how the answer is read.

What the tag makes of the data for another key depends on the key that it has stored. This is said
by a reader of its own, `readKeyData?`: it finds the new key exactly if the old value was right.

## Main results

* `SecureCommand.readKeyData?_keyData` — what a tag reads for another key;
* `SecureCommand.changeKey_eq_error_iff`, `SecureCommand.changesKey` — which keys can be changed,
  and what is sent for them;
* `Session.Chained.of_endsSession`, `Session.Chained.of_verified`, `Session.Chained.of_not_verified`
  — what a command comes to, by how its answer is read;
* `Session.keyChange` — **a change of key does what the tag expects**.
-/

namespace Ev2Reader

namespace SecureCommand

/-! ### What the tag reads -/

/-- What a tag reads from the data for another key than that of the session. -/
structure KeyReading where
  /-- The key that is to be stored. -/
  key : Key
  /-- Its version. -/
  version : UInt8
  /-- The checksum that came with it. -/
  checksum : Word

/-- **The data for another key as a tag reads it**, with the key that it has stored: a key that is
combined with that one, a version and a checksum. -/
def readKeyData? (stored : Key) (data : Bytes) : Option KeyReading :=
  match Block.take? data with
  | some (combined, version :: rest) =>
    match Word.take? rest with
    | some (checksum, []) => some ⟨combined ^^^ stored, version, checksum⟩
    | _ => none
  | _ => none

/-- **The data for another key is read** as the new key combined with the old and the stored one,
and the checksum of the new key. -/
theorem readKeyData?_keyData (stored newKey : Key) (version : UInt8) (oldKey : Key) :
    readKeyData? stored (keyData false newKey version oldKey) =
      some ⟨newKey ^^^ oldKey ^^^ stored, version, Checksum.ofKey newKey⟩ := by
  simp only [readKeyData?, keyData, Bool.false_eq_true, if_false, Block.take?_append]
  generalize Checksum.ofKey newKey = checksum
  rfl

/-- A key that was combined with its old value is found again exactly with that value. -/
theorem xor_xor_eq_iff {stored newKey oldKey : Key} :
    newKey ^^^ oldKey ^^^ stored = newKey ↔ stored = oldKey := by
  have hcancel : newKey ^^^ oldKey ^^^ oldKey = newKey := Block.xor_xor_cancel_right ..
  constructor
  · intro h
    exact Block.xor_right_inj.1 (h.trans hcancel.symm)
  · rintro rfl
    exact hcancel

/-! ### What is sent -/

variable {authenticated number : KeyNumber} {newKey oldKey : Key} {version : UInt8}

/-- **A command that changes a key** in a session that was authenticated with the key of number
`authenticated`. -/
structure ChangesKey (authenticated number : KeyNumber) (newKey : Key) (version : UInt8)
    (oldKey : Key) (command : SecureCommand) : Prop where
  /-- The command is that for changing a key. -/
  ins : command.ins = changeKeyIns
  /-- The number of the key is sent in clear. -/
  header : command.header = [number]
  /-- The session ends exactly with its own key. -/
  endsSession_iff : command.endsSession = true ↔ number = authenticated
  /-- The data is encrypted, and so is that of the answer if there is any. -/
  protection : command.protection = .full
  /-- The key of the session is sent as it is. -/
  own : number = authenticated →
    command.data = newKey.toList ++ [version] ∧ command.data.length = 17
  /-- Any other key is found by a tag that has stored its old value and by no other. The checksum
  is then that of the key that is found. -/
  other : number ≠ authenticated → command.data.length = 21 ∧
    ∀ stored, ∃ reading, readKeyData? stored command.data = some reading ∧
      reading.version = version ∧
      (reading.key = newKey ↔ stored = oldKey) ∧
      (stored = oldKey → reading.checksum = Checksum.ofKey reading.key)

/-- **A key cannot be changed exactly if** there is none of its number. -/
theorem changeKey_eq_error_iff {e : Fault} :
    changeKey authenticated number newKey version oldKey = .error e ↔
      4 < number ∧ e = .invalidKeyNumber number := by
  rw [← UInt8.not_le, ← KeyNumber.named_iff]
  simp only [changeKey, bind_eq_error_iff, check_eq_error_iff, pure, Except.pure, reduceCtorEq,
    and_false, exists_false, or_false]

/-- **A command for a change of key** has the parts that the tag expects. -/
theorem changesKey {command : SecureCommand}
    (h : changeKey authenticated number newKey version oldKey = .ok command) :
    ChangesKey authenticated number newKey version oldKey command := by
  obtain ⟨-, rfl⟩ := changeKey_eq_ok_iff.1 h
  refine ⟨rfl, rfl, beq_iff_eq, rfl, fun hown => ?_, fun hother => ?_⟩
  · rw [beq_iff_eq.2 hown, length_keyData]
    exact ⟨rfl, rfl⟩
  · rw [beq_eq_false_iff_ne.2 hother, length_keyData]
    refine ⟨rfl, fun stored => ⟨_, readKeyData?_keyData stored newKey version oldKey, rfl,
      xor_xor_eq_iff, fun hstored => ?_⟩⟩
    rw [xor_xor_eq_iff.2 hstored]

end SecureCommand

namespace Session

open Procedure Transport

variable {τ ε : Type}

/-! ### What becomes of an answer -/

/-- The answer comes to its end and is verified under full protection. -/
def Verified (c : Channel) (pieces : List Bytes) (ending : Ending ε) : Prop :=
  ∃ frame data, ending = .last frame ∧
    c.Accepted ⟨frame.status, pieces.flatten ++ frame.data⟩ .full data

section Answers

variable {command : SecureCommand} {c : Channel} {keys : SessionKeys} {message : Bytes}
  {pieces : List Bytes} {ending : Ending ε} {t' : τ}
  {o : Outcome (Session τ) (Event ε) (SessionFault ε) Bytes}

/-- **A command that ends the session** leaves no channel, and succeeds exactly if the last frame
reports success. -/
theorem Chained.of_endsSession (h : Chained command c message pieces ending t' o)
    (hkeys : c.keys? = some keys) (hends : command.endsSession = true) :
    o.state.channel = none ∧
      ((∃ data, o.result = .ok data) ↔
        ∃ frame, ending = .last frame ∧ frame.status.isSuccess = true) := by
  cases ending with
  | last frame =>
    obtain ⟨hresult, hchannel⟩ := h.last frame rfl
    rw [SecureCommand.run_receive_of_endsSession hkeys hends] at hresult hchannel
    refine ⟨hchannel.trans (filter_isOpen_of_closed rfl), ?_⟩
    rw [hresult]
    cases hstatus : frame.status.isSuccess <;> simp [hstatus]
  | broken failure =>
    obtain ⟨hresult, hchannel⟩ := h.broken failure rfl
    exact ⟨hchannel, by simp [hresult]⟩
  | endless =>
    obtain ⟨-, hresult, hchannel⟩ := h.endless rfl
    exact ⟨hchannel, by simp [hresult]⟩

/-- **A command whose answer is verified** succeeds, and the channel goes on. -/
theorem Chained.of_verified (h : Chained command c message pieces ending t' o)
    (hends : command.endsSession = false) (hfull : command.protection = .full)
    (hverified : Verified c pieces ending) :
    (∃ data, o.result = .ok data) ∧ o.state.channel = some c.next := by
  obtain ⟨frame, data, rfl, haccepted⟩ := hverified
  obtain ⟨keys, -, hkeys, -⟩ := haccepted.genuine
  obtain ⟨events, hrun⟩ := Channel.run_of_accepted haccepted
  obtain ⟨hresult, hchannel⟩ := h.last frame rfl
  rw [SecureCommand.receive_of_not_endsSession hends, hfull, hrun] at hresult hchannel
  have hnext : c.next.keys? = some keys := hkeys
  exact ⟨⟨data, hresult⟩, hchannel.trans (filter_isOpen_of_open hnext)⟩

/-- **A command whose answer is not verified** fails, and there is no channel any more. -/
theorem Chained.of_not_verified (h : Chained command c message pieces ending t' o)
    (hends : command.endsSession = false) (hfull : command.protection = .full)
    (hverified : ¬ Verified c pieces ending) :
    (∃ fault, o.result = .error fault) ∧ o.state.channel = none := by
  cases ending with
  | last frame =>
    obtain ⟨hresult, hchannel⟩ := h.last frame rfl
    rcases Channel.accepted_or_refused c .full ⟨frame.status, pieces.flatten ++ frame.data⟩ with
      ⟨data, haccepted⟩ | ⟨e, c', hrefused⟩
    · exact absurd ⟨frame, data, rfl, haccepted⟩ hverified
    · obtain ⟨events, hrun⟩ := Channel.run_of_refused hrefused
      rw [SecureCommand.receive_of_not_endsSession hends, hfull, hrun] at hresult hchannel
      exact ⟨⟨_, hresult⟩, hchannel.trans (filter_isOpen_of_closed hrefused.keys?_eq_none)⟩
  | broken failure =>
    obtain ⟨hresult, hchannel⟩ := h.broken failure rfl
    exact ⟨⟨_, hresult⟩, hchannel⟩
  | endless =>
    obtain ⟨-, hresult, hchannel⟩ := h.endless rfl
    exact ⟨⟨_, hresult⟩, hchannel⟩

end Answers

/-! ### What becomes of a change -/

variable [Transport τ ε] {s : Session τ} {c : Channel} {number : KeyNumber}
  {newKey oldKey : Key} {version : UInt8} {command : SecureCommand}

/-- **What a change of key comes to** on the channel `c` when its message is answered by pieces of
data and an ending, which leave the transport in `t'`. -/
structure KeyChanged (c : Channel) (number : KeyNumber) (message : Bytes) (pieces : List Bytes)
    (ending : Ending ε) (t' : τ) (o : Outcome (Session τ) (Event ε) (SessionFault ε) Unit) :
    Prop where
  /-- The message is sent once, and then every further answer is asked for. -/
  messages : Event.messages o.events = message ::
    List.replicate (pieces.length + ending.count - 1) Apdu.additionalFrameRequest
  /-- The transport is left where the ending left it. -/
  transport : o.state.transport = t'
  /-- The key of the session leaves no channel, and is changed exactly if the last frame reports
  success. -/
  own : number = c.keyNumber → o.state.channel = none ∧
    (o.result = .ok () ↔ ∃ frame, ending = .last frame ∧
      (frame.status.value = 0x9000 ∨ frame.status.value = 0x9100))
  /-- Any other key keeps the channel, and is changed, exactly if the answer is verified. The
  channel is then that of the next counter value. -/
  other : number ≠ c.keyNumber →
    (o.state.channel ≠ none ↔ Verified c pieces ending) ∧
    (o.result = .ok () ↔ Verified c pieces ending) ∧
    (Verified c pieces ending → o.state.channel = some c.next)

/-- The key of the session is that of its channel. -/
theorem run_changeKey_of_ok (hchannel : s.channel = some c)
    (hcommand : SecureCommand.changeKey c.keyNumber number newKey version oldKey = .ok command) :
    let o := (execute command : SessionM τ ε Bytes).run s
    (changeKey number newKey version oldKey : SessionM τ ε Unit).run s =
      ⟨o.result.map fun _ => (), o.state, o.events⟩ := by
  simp [changeKey, hchannel, hcommand, andThen_pure]

/-- A change of key without a command is refused, and changes nothing. -/
theorem run_changeKey_of_error (hchannel : s.channel = some c) {e : Fault}
    (hcommand : SecureCommand.changeKey c.keyNumber number newKey version oldKey = .error e) :
    (changeKey number newKey version oldKey : SessionM τ ε Unit).run s =
      ⟨.error (.internal e), s, []⟩ := by
  simp [changeKey, hchannel, hcommand]

/-- **At the last counter value** a command that fits is not sent, and the channel is dropped. -/
theorem run_execute_exhausted (hchannel : s.channel = some c) {keys : SessionKeys}
    (hkeys : c.keys? = some keys) (hcounter : c.counter = Channel.lastCounter)
    (hfits : command.Fits) :
    ∃ notices : List Notice, (execute command : SessionM τ ε Bytes).run s =
      ⟨.error (.internal .counterExhausted), ⟨s.transport, none⟩, notices.map .note⟩ := by
  have hprotect := Channel.run_protect_exhausted hkeys hcounter command.protection command.ins
    command.header command.data
  rcases hprotect with ⟨-, hlong⟩ | hrun
  · exact absurd (SecureCommand.fits_iff.1 hfits) (Nat.not_le.2 hlong)
  · exact ⟨_, run_execute_unsent_fatal hchannel hrun rfl⟩

/-- A result succeeds without its data exactly if it does with it. -/
theorem map_unit_eq_ok_iff {x : Except (SessionFault ε) Bytes} :
    (x.map fun _ => ()) = .ok () ↔ ∃ data, x = .ok data := by
  cases x <;> simp [Except.map]

/-- **What a change of key comes to** follows from what the transport brings. -/
theorem keyChanged_of_yields (hchannel : s.channel = some c) {keys : SessionKeys}
    (hkeys : c.keys? = some keys)
    (hcommand : SecureCommand.changeKey c.keyNumber number newKey version oldKey = .ok command)
    {message : Bytes} {notices : List Notice}
    (hprotect : command.protect.run c = ⟨.ok message, c, notices⟩) {pieces : List Bytes}
    {ending : Ending ε} {t' : τ} (h : Yields maxFrames s.transport message pieces ending t') :
    KeyChanged c number message pieces ending t'
      ((changeKey number newKey version oldKey : SessionM τ ε Unit).run s) := by
  have hchained := chained_of_yields hchannel hprotect h
  have hchanges := SecureCommand.changesKey hcommand
  rw [run_changeKey_of_ok hchannel hcommand]
  refine ⟨hchained.messages, hchained.transport, fun hown => ?_, fun hother => ?_⟩
  · have hends : command.endsSession = true := hchanges.endsSession_iff.2 hown
    obtain ⟨hgone, hok⟩ := hchained.of_endsSession hkeys hends
    refine ⟨hgone, map_unit_eq_ok_iff.trans (hok.trans ?_)⟩
    simp only [StatusWord.isSuccess_iff_value]
  · have hends : command.endsSession = false :=
      Bool.eq_false_iff.2 fun h => hother (hchanges.endsSession_iff.1 h)
    rw [map_unit_eq_ok_iff]
    by_cases hverified : Verified c pieces ending
    · obtain ⟨hok, hnext⟩ := hchained.of_verified hends hchanges.protection hverified
      simp [hverified, hok, hnext]
    · obtain ⟨⟨fault, herror⟩, hgone⟩ :=
        hchained.of_not_verified hends hchanges.protection hverified
      simp [hverified, herror, hgone]

/-- **A change of key does what the tag expects.** It is refused exactly if there is no key of its
number. Otherwise the key of the session is sent as it is, and any other one so that a tag finds it
exactly if it has stored the old value. In a session the key of its channel counts as its own: a
change that is sent leaves no channel if it is of that key, and is read like any other command
otherwise. Nothing is sent for a key that there is not, or at the last counter value. -/
theorem keyChange (number : KeyNumber) (newKey : Key) (version : UInt8) (oldKey : Key) :
    (∀ authenticated : KeyNumber,
      (∀ e, SecureCommand.changeKey authenticated number newKey version oldKey = .error e ↔
        4 < number ∧ e = .invalidKeyNumber number) ∧
      (number ≤ 4 → ∃ command,
        SecureCommand.changeKey authenticated number newKey version oldKey = .ok command ∧
        SecureCommand.ChangesKey authenticated number newKey version oldKey command)) ∧
    ∀ (s : Session τ) (c : Channel), s.channel = some c → c.isOpen = true →
      let o := (changeKey number newKey version oldKey : SessionM τ ε Unit).run s
      (4 < number → o = ⟨.error (.internal (.invalidKeyNumber number)), s, []⟩) ∧
      (number ≤ 4 → c.counter = Channel.lastCounter →
        o.result = .error (.internal .counterExhausted) ∧ o.state = ⟨s.transport, none⟩ ∧
          Event.messages o.events = []) ∧
      (number ≤ 4 → c.counter ≠ Channel.lastCounter → ∃ command message,
        SecureCommand.changeKey c.keyNumber number newKey version oldKey = .ok command ∧
        (command.protect.run c).result = .ok message ∧
        (∃ pieces, ∃ ending : Ending ε, ∃ t',
          Yields maxFrames s.transport message pieces ending t') ∧
        ∀ pieces (ending : Ending ε) t', Yields maxFrames s.transport message pieces ending t' →
          KeyChanged c number message pieces ending t' o) := by
  have hexists (authenticated : KeyNumber) (hnumber : number ≤ 4) : ∃ command,
      SecureCommand.changeKey authenticated number newKey version oldKey = .ok command :=
    ⟨_, SecureCommand.changeKey_eq_ok_iff.2 ⟨KeyNumber.named_iff.2 hnumber, rfl⟩⟩
  refine ⟨fun authenticated => ⟨fun e => SecureCommand.changeKey_eq_error_iff, fun hnumber => ?_⟩,
    fun s c hchannel hopen => ?_⟩
  · obtain ⟨command, hcommand⟩ := hexists authenticated hnumber
    exact ⟨command, hcommand, SecureCommand.changesKey hcommand⟩
  obtain ⟨keys, hkeys⟩ := Option.isSome_iff_exists.1 hopen
  refine ⟨fun hnumber => ?_, fun hnumber hcounter => ?_, fun hnumber hcounter => ?_⟩
  · exact run_changeKey_of_error hchannel (SecureCommand.changeKey_eq_error_iff.2 ⟨hnumber, rfl⟩)
  · obtain ⟨command, hcommand⟩ := hexists c.keyNumber hnumber
    have hfits : command.Fits := (SecureCommand.Provisioning.changeKey hcommand).fits
    obtain ⟨notices, hrun⟩ := run_execute_exhausted (ε := ε) hchannel hkeys hcounter hfits
    rw [run_changeKey_of_ok hchannel hcommand, hrun]
    exact ⟨rfl, rfl, Event.messages_map_note notices⟩
  · obtain ⟨command, hcommand⟩ := hexists c.keyNumber hnumber
    have hfits : command.Fits := (SecureCommand.Provisioning.changeKey hcommand).fits
    obtain ⟨message, notices, hprotect, -⟩ :=
      SecureCommand.run_protect_of_fits hkeys hcounter hfits
    exact ⟨command, message, hcommand, congrArg Outcome.result hprotect, exists_yields _ _ _,
      fun _ _ _ => keyChanged_of_yields hchannel hkeys hcommand hprotect⟩

/-- In a session with the key 1, this key and another one are changed. The first answer is a bare
success; the second is none but the code. -/
theorem keyChange_ownAndOther :
    let keys : SessionKeys := ⟨.zero, Block.ofFn UInt8.ofNat⟩
    let c : Channel := ⟨1, ⟨0x0A, 0x0B, 0x0C, 0x0D⟩, 7, .authenticated keys⟩
    let newKey : Key := Block.ofFn fun i => UInt8.ofNat (i + 1)
    let bare : Response := ⟨.normalProcessing, []⟩
    let coded : Response := .coded keys c.transactionId 8 .operationOk []
    let own := (changeKey 1 newKey 2 .zero : SessionM Script Unit Unit).run ⟨⟨[bare]⟩, some c⟩
    let other := (changeKey 3 newKey 2 .zero : SessionM Script Unit Unit).run
      ⟨⟨[coded]⟩, some c⟩
    c.isOpen = true ∧ (own.result = .ok () ∧ own.state.channel = none) ∧
      other.result = .ok () ∧ other.state.channel = some c.next := by
  intro keys c newKey bare coded own other
  have hcounter : c.counter ≠ Channel.lastCounter := by decide
  obtain ⟨-, hown⟩ := keyChange (τ := Script) 1 newKey 2 .zero
  obtain ⟨-, -, hsent⟩ := hown ⟨⟨[bare]⟩, some c⟩ c rfl rfl
  obtain ⟨_, _, -, -, -, hchanged⟩ := hsent (by decide) hcounter
  have hbare := hchanged [] (.last bare) ⟨[]⟩ (.last rfl (by decide))
  obtain ⟨hgone, hok⟩ := hbare.own rfl
  obtain ⟨-, hother⟩ := keyChange (τ := Script) 3 newKey 2 .zero
  obtain ⟨-, -, hsent'⟩ := hother ⟨⟨[coded]⟩, some c⟩ c rfl rfl
  obtain ⟨_, _, -, -, -, hchanged'⟩ := hsent' (by decide) hcounter
  have hcoded := hchanged' [] (.last coded) ⟨[]⟩ (.last rfl (by decide))
  obtain ⟨-, hok', hnext⟩ := hcoded.other (by decide)
  have hverified : Verified c [] (.last coded : Ending Unit) :=
    ⟨coded, [], rfl, .empty rfl ⟨rfl, hcounter, rfl⟩⟩
  exact ⟨rfl, ⟨hok.2 ⟨bare, rfl, .inl rfl⟩, hgone⟩, hok'.2 hverified, hnext hverified⟩

end Session

end Ev2Reader
