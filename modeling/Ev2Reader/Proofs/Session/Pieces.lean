import Ev2Reader.Proofs.Channel.Message
import Ev2Reader.Proofs.Session.CallerFault

/-!
# Data Written Piece by Piece

Writing data executes one command for each piece of it, and stops at the first that fails. This
module says how far it gets on an open channel, whatever the transport answers: what was sent is
always a first part of the commands, each at a counter value of its own, and what is reported is
the fault of the command behind those that were answered right.

What carries the argument is `Advances`, which follows commands that fit and do not end the session
from each channel to the next.

## Main results

* `writeRange` — **which ranges are accepted**, and that any other is refused before anything is
  sent;
* `stepped` — the three ways of a command that fits and does not end the session;
* `executeEach_advances` — **how far commands get**, one after the other;
* `piecewise` — **how data is written**.
-/

namespace Ev2Reader

namespace Session

open Procedure

variable {τ ε : Type}

/-! ### Ranges -/

section Ranges

variable [Transport τ ε]

/-- **The ranges that can be written** end within the address space or are empty. Beyond it some
data is refused with nothing sent and nothing changed, and no data counts as written. -/
theorem writeRange (offset : UInt32) :
    (∀ length, SecureCommand.checkDataRange offset length = .ok () ↔
      offset.toNat + length ≤ SecureCommand.addressBound ∨ length = 0) ∧
    ∀ (file : UInt8) (data : Bytes) (protection : Protection) (s : Session τ),
      SecureCommand.addressBound < offset.toNat + data.length →
        (writeData file offset data protection : SessionM τ ε Unit).run s =
          if data = [] then ⟨.ok (), s, []⟩
          else ⟨.error (.internal (.invalidLength (SecureCommand.addressBound - offset.toNat)
            data.length)), s, []⟩ := by
  refine ⟨fun length => SecureCommand.checkDataRange_eq_ok_iff, fun file data protection s h => ?_⟩
  split
  next hempty =>
    subst hempty
    exact run_writeData_nil file offset protection s
  next hne =>
    have hpositive := List.length_pos_iff.2 hne
    exact run_writeData_out_of_range (by omega) s

/-- One byte more than there are addresses. -/
theorem writeRange_oneByteMore :
    let s : Session Script := ⟨⟨[]⟩, none⟩
    let data : Bytes := List.replicate 257 0x5A
    SecureCommand.addressBound < (0xFFFF00 : UInt32).toNat + data.length ∧
      (writeData 2 0xFFFF00 data .full : SessionM Script Unit Unit).run s =
        ⟨.error (.internal (.invalidLength 256 257)), s, []⟩ := by
  intro s data
  have hlength : data.length = 257 := List.length_replicate
  have hrange : SecureCommand.addressBound < (0xFFFF00 : UInt32).toNat + data.length := by
    rw [hlength]
    decide
  have hrefused := (writeRange (τ := Script) (ε := Unit) 0xFFFF00).2 2 data .full s hrange
  rw [if_neg (List.ne_nil_of_length_pos (by omega)), hlength] at hrefused
  exact ⟨hrange, hrefused⟩

/-- **The empty range is accepted** even at an offset that is no address. -/
theorem emptyRange_accepted :
    SecureCommand.addressBound < (0x1000001 : UInt32).toNat + 0 ∧
      SecureCommand.checkDataRange 0x1000001 0 = .ok () ∧
      (writeData 2 0x1000001 [] .full : SessionM Script Unit Unit).run ⟨⟨[]⟩, none⟩ =
        ⟨.ok (), ⟨⟨[]⟩, none⟩, []⟩ :=
  ⟨by decide, rfl, run_writeData_nil ..⟩

end Ranges

/-! ### One command -/

namespace Transmission

/-- **The answer is verified:** it came to its end, and the channel accepts it. -/
def Verified (t : Transmission ε) : Prop :=
  ∃ answer data, t.answer = .ok answer ∧ t.channel.Accepted answer t.command.protection data

/-- **The fault of a command that was sent.** -/
inductive Fails (t : Transmission ε) : SessionFault ε → Prop where
  /-- No complete answer came. -/
  | lost {fault : SessionFault ε} (hanswer : t.answer = .error fault) : Fails t fault
  /-- The channel refuses the answer. -/
  | refused {answer : Response} {e : Fault} {c' : Channel} (hanswer : t.answer = .ok answer)
      (hrefused : t.channel.Refused answer t.command.protection e c') : Fails t (.internal e)

/-- The answer to a command that fails is not verified. -/
theorem Fails.not_verified {t : Transmission ε} {fault : SessionFault ε} (h : t.Fails fault) :
    ¬ t.Verified := by
  rintro ⟨answer, data, hanswer, haccepted⟩
  cases h with
  | lost hlost =>
    rw [hanswer] at hlost
    cases hlost
  | refused hanswer' hrefused =>
    rw [hanswer] at hanswer'
    cases hanswer'
    exact hrefused.not_accepted data haccepted

end Transmission

/-- **How one command goes** that fits and does not end the session: what it adds to the log, what
it comes to and the channel that is left. -/
inductive Stepped (command : SecureCommand) (c : Channel) :
    Option (Transmission ε) → Except (SessionFault ε) Bytes → Option Channel → Prop where
  /-- The counter is used up. Nothing is sent. -/
  | exhausted (hcounter : c.counter = Channel.lastCounter) :
      Stepped command c none (.error (.internal .counterExhausted)) none
  /-- The command is sent and fails. -/
  | failed {t : Transmission ε} {fault : SessionFault ε} (hcommand : t.command = command)
      (hfails : t.Fails fault) : Stepped command c (some t) (.error fault) none
  /-- The command is sent and its answer is verified. -/
  | verified {t : Transmission ε} {data : Bytes} (hcommand : t.command = command)
      (hverified : t.Verified) (hcounter : c.counter ≠ Channel.lastCounter) :
      Stepped command c (some t) (.ok data) (some c.next)

section Steps

variable [Transport τ ε] {s : Session τ} {c : Channel} {keys : SessionKeys}

/-- **A command that fits takes one of the three steps:** the counter is at its end and nothing is
sent, or the command is sent and fails, or its answer is verified. -/
theorem stepped (hchannel : s.channel = some c) (hkeys : c.keys? = some keys)
    {command : SecureCommand} (hfits : command.Fits) (hends : command.endsSession = false) :
    Stepped command c (transmission? (ε := ε) command s)
      ((execute command : SessionM τ ε Bytes).run s).result
      ((execute command : SessionM τ ε Bytes).run s).state.channel := by
  have hexecuted := executed (ε := ε) hchannel hkeys command
  generalize (execute command : SessionM τ ε Bytes).run s = o at hexecuted ⊢
  cases hexecuted with
  | tooLong _ hprotect =>
    exact absurd hfits (SecureCommand.not_fits_of_tooLarge hkeys hprotect)
  | exhausted _ hprotect =>
    rw [transmission?_of_error hchannel hprotect]
    rcases Channel.run_protect_error hkeys hprotect with ⟨hlong, -⟩ | ⟨-, hcounter, -⟩
    · cases hlong
    · exact .exhausted hcounter
  | lost _ _ hprotect _ hexchange =>
    rw [transmission?_of_ok hchannel hprotect]
    exact .failed rfl (.lost hexchange)
  | refused _ _ hprotect _ hexchange hreceive =>
    rw [transmission?_of_ok hchannel hprotect]
    rw [SecureCommand.receive_of_not_endsSession hends] at hreceive
    obtain ⟨c', hrefused⟩ := Channel.refused_of_error hreceive
    exact .failed rfl (.refused hexchange hrefused)
  | ended _ _ _ _ _ hends' =>
    rw [hends] at hends'
    cases hends'
  | accepted _ _ hprotect hcounter hexchange _ haccepted =>
    rw [transmission?_of_ok hchannel hprotect]
    exact .verified rfl ⟨_, _, hexchange, haccepted⟩ hcounter

end Steps

/-! ### One command after the other -/

/-- **How far commands get** from the channel `c`: what is sent of them, what they come to and the
channel that is left. -/
inductive Advances : Channel → List SecureCommand → List (Transmission ε) →
    Except (SessionFault ε) Unit → Option Channel → Prop where
  /-- All are done. -/
  | done {c : Channel} : Advances c [] [] (.ok ()) (some c)
  /-- The counter is used up. The next command is not sent. -/
  | exhausted {c : Channel} {command : SecureCommand} {rest : List SecureCommand}
      (hcounter : c.counter = Channel.lastCounter) :
      Advances c (command :: rest) [] (.error (.internal .counterExhausted)) none
  /-- A command fails. Those behind it are not sent. -/
  | failed {c : Channel} {t : Transmission ε} {rest : List SecureCommand}
      {fault : SessionFault ε} (hfails : t.Fails fault) :
      Advances c (t.command :: rest) [t] (.error fault) none
  /-- A command is verified. Those behind it go on from the next channel. -/
  | next {c : Channel} {t : Transmission ε} {rest : List SecureCommand}
      {sent : List (Transmission ε)} {result : Except (SessionFault ε) Unit}
      {left : Option Channel} (hverified : t.Verified)
      (hcounter : c.counter ≠ Channel.lastCounter)
      (hrest : Advances c.next rest sent result left) :
      Advances c (t.command :: rest) (t :: sent) result left

namespace Advances

variable {c : Channel} {commands : List SecureCommand} {sent : List (Transmission ε)}
  {result : Except (SessionFault ε) Unit} {left : Option Channel}

/-- What is sent is a first part of the commands. -/
theorem isPrefix (h : Advances c commands sent result left) :
    sent.map Transmission.command <+: commands := by
  induction h with
  | done | exhausted => exact List.nil_prefix
  | failed => exact ⟨_, rfl⟩
  | next _ _ _ ih => exact List.cons_prefix_cons.2 ⟨rfl, ih⟩

/-- **They are done exactly if** all of them are sent and verified. -/
theorem ok_iff (h : Advances c commands sent result left) :
    result = .ok () ↔ sent.length = commands.length ∧ ∀ t ∈ sent, t.Verified := by
  induction h with
  | done => simp
  | exhausted => simp
  | failed hfails => simp [hfails.not_verified]
  | next hverified _ _ ih => simp [ih, hverified]

/-- A channel is left exactly if they are done. -/
theorem isSome_left (h : Advances c commands sent result left) :
    left.isSome = true ↔ result = .ok () := by
  induction h with
  | done | exhausted | failed => simp
  | next _ _ _ ih => exact ih

/-- **The fault is that of the first command that fails:** the last that was sent, or the one behind
it, for which there is no counter value. -/
theorem fault_cases (h : Advances c commands sent result left) {fault : SessionFault ε}
    (hfault : result = .error fault) :
    (∃ before t, sent = before ++ [t] ∧ (∀ t' ∈ before, t'.Verified) ∧ t.Fails fault) ∨
      ((∀ t ∈ sent, t.Verified) ∧ sent.length < commands.length ∧
        c.counter.toNat + sent.length = 65535 ∧ fault = .internal .counterExhausted) := by
  induction h with
  | done => cases hfault
  | exhausted hcounter =>
    cases hfault
    exact .inr ⟨(fun _ ht => nomatch ht), Nat.succ_pos _, by rw [hcounter]; rfl, rfl⟩
  | failed hfails =>
    cases hfault
    exact .inl ⟨[], _, rfl, (fun _ ht => nomatch ht), hfails⟩
  | @next c t rest sent _ _ hverified hcounter _ ih =>
    rcases ih hfault with ⟨before, t', rfl, hbefore, hfails⟩ | ⟨hsent, hlength, hcount, hexhausted⟩
    · exact .inl ⟨t :: before, t', rfl, List.forall_mem_cons.2 ⟨hverified, hbefore⟩, hfails⟩
    · rw [Channel.toNat_next hcounter] at hcount
      refine .inr ⟨List.forall_mem_cons.2 ⟨hverified, hsent⟩, Nat.succ_lt_succ hlength, ?_,
        hexhausted⟩
      rw [List.length_cons]
      omega

end Advances

section Runs

variable [Transport τ ε] {s : Session τ} {c : Channel} {keys : SessionKeys}

/-- **How far commands get** that fit and do not end the session. The induction is on the commands,
and follows the channel from each to the next. -/
theorem executeEach_advances (hchannel : s.channel = some c) (hkeys : c.keys? = some keys)
    {commands : List SecureCommand}
    (hcommands : ∀ command ∈ commands, command.Fits ∧ command.endsSession = false) :
    Advances c commands (transmissions (ε := ε) (commands.map .ok) s)
      ((executeEach (commands.map .ok) : SessionM τ ε Unit).run s).result
      ((executeEach (commands.map .ok) : SessionM τ ε Unit).run s).state.channel := by
  induction commands generalizing s c with
  | nil =>
    show Advances c [] [] (.ok ()) s.channel
    rw [hchannel]
    exact .done
  | cons command rest ih =>
    obtain ⟨⟨hfits, hends⟩, hrest⟩ := List.forall_mem_cons.1 hcommands
    have hstepped := stepped (ε := ε) hchannel hkeys hfits hends
    rw [List.map_cons, run_executeEach_ok]
    rcases hrun : (execute command : SessionM τ ε Bytes).run s with ⟨fault | data, s', events⟩
    -- A failed command ends the run, and what it adds to the log is all there is.
    · simp only [transmissions, hrun, andThen_error, List.append_nil]
      rw [hrun] at hstepped
      dsimp only at hstepped
      generalize transmission? (ε := ε) command s = sent? at hstepped ⊢
      generalize s'.channel = left at hstepped ⊢
      cases hstepped with
      | exhausted hcounter => exact .exhausted hcounter
      | failed hcommand hfails =>
        subst hcommand
        exact .failed hfails
    · simp only [transmissions, hrun, andThen_ok]
      rw [hrun] at hstepped
      dsimp only at hstepped
      generalize hleft : s'.channel = left at hstepped
      generalize transmission? (ε := ε) command s = sent? at hstepped ⊢
      cases hstepped with
      | verified hcommand hverified hcounter =>
        subst hcommand
        exact .next hverified hcounter (ih hleft hkeys hrest)

end Runs

/-! ### All the data -/

section Data

variable {s : Session τ} {c : Channel}

/-- **How data is written** from the channel `c` on: the commands that are `sent`, and the
outcome. -/
structure Written (file : UInt8) (offset : UInt32) (data : Bytes) (protection : Protection)
    (c : Channel) (sent : List (Transmission ε))
    (o : Outcome (Session τ) (Event ε) (SessionFault ε) Unit) : Prop where
  /-- Nothing else is handed to the transport, frame requests apart. -/
  messages : secureMessages o.events = sent.map Transmission.message
  /-- They are the first of the commands that carry the data, in order. -/
  commands : sent.length ≤ SecureCommand.writeCount protection data.length ∧
    ∀ i (h : i < sent.length),
      sent[i].command = SecureCommand.nthWrite file offset data protection i
  /-- Each is protected at the counter value behind that of the one before. -/
  protects : ∀ i (h : i < sent.length), c.counter.toNat + i < 65535 ∧
    sent[i].channel = c.atCounter (c.counter.toNat + i) ∧
    (sent[i].command.protect.run (c.atCounter (c.counter.toNat + i))).result =
      .ok sent[i].message
  /-- The data is written exactly if all commands are sent and all answers verified. -/
  ok_iff : o.result = .ok () ↔
    sent.length = SecureCommand.writeCount protection data.length ∧ ∀ t ∈ sent, t.Verified
  /-- Then the counter has moved on by one for each command. -/
  counter : o.result = .ok () →
    c.counter.toNat + SecureCommand.writeCount protection data.length ≤ 65535 ∧
      o.state.channel = some (c.atCounter
        (c.counter.toNat + SecureCommand.writeCount protection data.length))
  /-- Otherwise the channel is dropped, and the fault is that of the first command that fails: the
  last that was sent, or the one behind it, for which there is no counter value. -/
  fault : ∀ fault, o.result = .error fault → o.state.channel = none ∧
    ((∃ before t, sent = before ++ [t] ∧ (∀ t' ∈ before, t'.Verified) ∧ t.Fails fault) ∨
      ((∀ t ∈ sent, t.Verified) ∧
        sent.length < SecureCommand.writeCount protection data.length ∧
        c.counter.toNat + sent.length = 65535 ∧ fault = .internal .counterExhausted))
  /-- No command is found not to fit or to be out of range. -/
  fits : (∀ largest, o.result ≠ .error (.internal (.payloadTooLarge largest))) ∧
    ∀ expected received, o.result ≠ .error (.internal (.invalidLength expected received))

/-- What the log and the advance of the commands say together. -/
theorem written_of_advances {file : UInt8} {offset : UInt32} {data : Bytes}
    {protection : Protection} {sent : List (Transmission ε)}
    {o : Outcome (Session τ) (Event ε) (SessionFault ε) Unit}
    (hlogged : Logged c c.counter.toNat sent o.events o.state)
    (hadvances : Advances c
      ((List.range (SecureCommand.writeCount protection data.length)).map
        (SecureCommand.nthWrite file offset data protection)) sent o.result o.state.channel)
    (hfatal : ∀ e, o.result = .error (.internal e) → e.isSessionFatal = true) :
    Written file offset data protection c sent o := by
  have hprefix := hadvances.isPrefix
  have hbound := hlogged.counted.bound
  have hok := hadvances.ok_iff
  have hstopped (fault : SessionFault ε) (hfault : o.result = .error fault) :=
    hadvances.fault_cases hfault
  rw [List.length_map, List.length_range] at hok hstopped
  refine
    { messages := hlogged.messages
      commands := ⟨?_, fun i hi => ?_⟩
      protects := fun i hi => ?_
      ok_iff := hok
      counter := fun hdone => ?_
      fault := fun fault hfault => ⟨?_, hstopped fault hfault⟩
      fits := ⟨fun _ h => ?_, fun _ _ h => ?_⟩ }
  · simpa using hprefix.length_le
  · have hget := hprefix.getElem (by simpa using hi)
    rwa [List.getElem_map, List.getElem_map, List.getElem_range] at hget
  · rw [← hlogged.getElem_channel hi]
    exact ⟨by omega, rfl, hlogged.protects _ (List.getElem_mem hi)⟩
  · obtain ⟨c', hleft⟩ := Option.isSome_iff_exists.1 (hadvances.isSome_left.2 hdone)
    have hcounted := hlogged.counted.channel_eq c' hleft
    rw [(hok.1 hdone).1] at hcounted hbound
    exact ⟨hbound, hleft.trans (congrArg some hcounted)⟩
  · cases hleft : o.state.channel with
    | none => rfl
    | some c' =>
      have hdone := hadvances.isSome_left.1 (by rw [hleft]; rfl)
      rw [hfault] at hdone
      cases hdone
  · cases hfatal _ h
  · cases hfatal _ h

/-- The channel of a session is counted from its own counter value on. -/
theorem counted_of_channel (h : s.channel = some c) : Counted c c.counter.toNat s := by
  refine ⟨Nat.le_of_lt_succ c.counter.toNat_lt, fun c' hc' => ?_⟩
  rw [c.atCounter_toNat]
  exact Option.some.inj (hc'.symm.trans h)

variable [Transport τ ε]

/-- **How data is written** on an open channel, if all of it is within the address space. -/
theorem piecewise (hchannel : s.channel = some c) (hopen : c.isOpen = true) (file : UInt8)
    {offset : UInt32} {data : Bytes} (protection : Protection)
    (hrange : offset.toNat + data.length ≤ SecureCommand.addressBound) :
    Operation.Divided file offset data protection ∧
      Written file offset data protection c
        (transmissions (ε := ε)
          ((Operation.writeData file offset data protection).commands s.channel) s)
        ((writeData file offset data protection : SessionM τ ε Unit).run s) := by
  obtain ⟨keys, hkeys⟩ := Option.isSome_iff_exists.1 hopen
  have hdivided := Operation.divided file protection hrange
  have hcommands : (Operation.writeData file offset data protection).commands s.channel =
      ((List.range (SecureCommand.writeCount protection data.length)).map
        (SecureCommand.nthWrite file offset data protection)).map .ok := by
    rw [hdivided.commands, List.map_map]
    rfl
  have hfits (command : SecureCommand)
      (hcommand : command ∈ (List.range (SecureCommand.writeCount protection data.length)).map
        (SecureCommand.nthWrite file offset data protection)) :
      command.Fits ∧ command.endsSession = false := by
    obtain ⟨i, hi, rfl⟩ := List.mem_map.1 hcommand
    exact ⟨Operation.fits_nthWrite file hrange (List.mem_range.1 hi), rfl⟩
  have hadvances := executeEach_advances (ε := ε) hchannel hkeys hfits
  rw [← hcommands] at hadvances
  rw [writeData_eq s.channel]
  refine ⟨hdivided, written_of_advances ?_ hadvances fun e he => ?_⟩
  · exact executeEach_logged hkeys (counted_of_channel hchannel) _
  · refine executeEach_fatal (fun c' hc' => ?_) (fun x hx => ?_) he
    · rwa [← Option.some.inj (hc'.symm.trans hchannel)] at hopen
    · rw [hcommands] at hx
      obtain ⟨command, hcommand, rfl⟩ := List.mem_map.1 hx
      exact ⟨command, rfl, (hfits command hcommand).1⟩

/-- Two hundred and forty-one bytes at the end of the address space: the first of two commands is
acknowledged, and the second, which carries the last byte, is lost. -/
theorem piecewise_lastByteLost :
    let keys : SessionKeys := ⟨.zero, .zero⟩
    let ti : Word := ⟨0x0A, 0x0B, 0x0C, 0x0D⟩
    let c : Channel := ⟨2, ti, 7, .authenticated keys⟩
    let s : Session Script := ⟨⟨[.coded keys ti 8 .operationOk []]⟩, some c⟩
    let data : Bytes := List.replicate 241 0x5A
    let o := (writeData 2 0xFFFF0F data .mac : SessionM Script Unit Unit).run s
    let sent := transmissions (ε := Unit)
      ((Operation.writeData 2 0xFFFF0F data .mac).commands s.channel) s
    (s.channel = some c ∧ c.isOpen = true ∧
      (0xFFFF0F : UInt32).toNat + data.length = SecureCommand.addressBound) ∧
    (sent.length = 2 ∧ o.result = .error (.transport ())) ∧
    Operation.Divided 2 0xFFFF0F data .mac ∧ Written 2 0xFFFF0F data .mac c sent o := by
  intro keys ti c s data o sent
  have hend : (0xFFFF0F : UInt32).toNat + data.length = SecureCommand.addressBound := by
    rw [show data.length = 241 from List.length_replicate]
    decide
  have hlost : sent.length = 2 ∧ o.result = .error (.transport ()) := by decide +kernel
  exact ⟨⟨rfl, rfl, hend⟩, hlost, piecewise rfl rfl 2 .mac (Nat.le_of_eq hend)⟩

end Data

end Session

end Ev2Reader
