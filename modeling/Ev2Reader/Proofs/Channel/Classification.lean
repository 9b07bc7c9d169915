import Ev2Reader.Proofs.Channel.Action

/-!
# Faults and the State of a Channel

A caller who is handed a fault has to know what became of the channel, and has two things to go
by: whether the fault is fatal, and that a channel which was given up is reported as closed.

On an open channel the first is exact. A fault has closed the channel if and only if it is fatal,
and any other fault has changed nothing. On a closed channel the second is not: a command whose
data travels as it is has its length looked at before the keys are asked for, so if it is too long
the fault is that, and is not fatal although the channel is closed.

## Main results

* `state_of_isEnding` — an action that ends the session closes the channel, whatever it comes to;
* `classification` — **what a fault or a result tells about a channel that was open**;
* `refusal` — **what a closed channel answers**;
* `overlong_on_closed` — the command that is too long for a closed channel.
-/

namespace Ev2Reader

namespace Channel

open Procedure

variable {c : Channel} {keys : SessionKeys} {action : Action}

/-- A channel is open exactly if it has keys. -/
theorem isOpen_iff : c.isOpen = true ↔ ∃ keys, c.keys? = some keys :=
  Option.isSome_iff_exists

/-- A channel is closed exactly if it has none. -/
theorem isOpen_eq_false_iff : c.isOpen = false ↔ c.keys? = none := by
  rw [isOpen, Option.isSome_eq_false_iff, Option.isNone_iff_eq_none]

/-! ### Open channels -/

/-- **An action that ends the session** closes the channel, whatever it comes to. -/
theorem state_of_isEnding (h : c.keys? = some keys) (hends : action.isEnding = true) :
    ((perform action).run c).state = c.shut := by
  have hanswer (answer : Response) :
      ((do readSessionEnd answer; pure [] : ChannelM Bytes).run c).state = c.shut := by
    rw [run_bind, run_readSessionEnd_open h]
    cases answer.status.isSuccess <;> rfl
  cases action with
  | close =>
    rw [perform, run_bind, run_close_open h]
    rfl
  | readSessionEnd answer => exact hanswer answer
  | receive command answer =>
    have hcommand : command.endsSession = true := hends
    rw [perform, SecureCommand.receive, if_pos hcommand]
    exact hanswer answer
  | initialVector | encryptCommand | commandCode | advance | verify | decryptAnswer | protect
  | readAnswer | protectCommand => cases hends

/-- **What an action tells about the channel `c`** that it was done on, which was open. -/
structure Classified (action : Action) (c : Channel) (o : Outcome Channel Notice Fault Bytes) :
    Prop where
  /-- A fault has closed the channel exactly if it is fatal. -/
  closed_iff : ∀ e, o.result = .error e → (o.state.isOpen = false ↔ e.isSessionFatal = true)
  /-- Any other fault has changed nothing. -/
  unchanged : ∀ e, o.result = .error e → e.isSessionFatal = false → o.state = c
  /-- A result leaves the channel open exactly if the session was not to end. -/
  open_iff : ∀ data, o.result = .ok data → (o.state.isOpen = true ↔ action.isEnding = false)
  /-- The end of the session closes the channel in any case. -/
  ended : action.isEnding = true → o.state.isOpen = false

/-- **A fault is fatal and has closed the channel**, or it is neither and has changed nothing. -/
theorem Acted.of_error {o : Outcome Channel Notice Fault Bytes} (hacted : Acted action c o)
    {e : Fault} (he : o.result = .error e) :
    (e.isSessionFatal = true ∧ o.state.isOpen = false) ∨
      (e.isSessionFatal = false ∧ o.state = c) := by
  cases hacted with
  | kept | ended | moved => cases he
  | refused _ _ hfatal =>
    cases he
    exact .inr ⟨hfatal, rfl⟩
  | broken _ _ hfatal | brokenLater _ _ hfatal =>
    cases he
    exact .inl ⟨hfatal, rfl⟩

/-- A result leaves the channel open, unless the session was to end. -/
theorem Acted.isOpen_of_ok {o : Outcome Channel Notice Fault Bytes} (hacted : Acted action c o)
    (h : c.isOpen = true) (hends : action.isEnding = false) {data : Bytes}
    (hok : o.result = .ok data) : o.state.isOpen = true := by
  cases hacted with
  | kept | moved => exact h
  | ended _ _ hending =>
    rw [hends] at hending
    cases hending
  | refused | broken | brokenLater => cases hok

/-- **Faults are classified right:** on an open channel a fault has closed the channel exactly if
it is fatal, and otherwise has changed nothing; a result leaves the channel open, unless the
session was to end. -/
theorem classification (h : c.isOpen = true) (action : Action) :
    Classified action c ((perform action).run c) := by
  obtain ⟨keys, hkeys⟩ := isOpen_iff.1 h
  have hacted := acted hkeys action
  have hended (hends : action.isEnding = true) : ((perform action).run c).state.isOpen = false := by
    rw [state_of_isEnding hkeys hends]
    rfl
  generalize (perform action).run c = o at hacted hended
  refine ⟨fun e he => ?_, fun e he hharmless => ?_, fun data hok => ?_, hended⟩
  · rcases hacted.of_error he with ⟨hfatal, hclosed⟩ | ⟨hharmless, hsame⟩
    · exact iff_of_true hclosed hfatal
    · rw [hsame, h, hharmless]
      simp
  · rcases hacted.of_error he with ⟨hfatal, -⟩ | ⟨-, hsame⟩
    · rw [hfatal] at hharmless
      cases hharmless
    · exact hsame
  · cases hends : action.isEnding with
    | true => simp [hended hends]
    | false => simp [hacted.isOpen_of_ok h hends hok]

/-- At the last counter value a command that is too long leaves the channel as it was, and one that
is not costs it. -/
theorem classification_atLastCounter :
    let c : Channel := ⟨1, ⟨0x0A, 0x0B, 0x0C, 0x0D⟩, lastCounter,
      .authenticated ⟨.zero, Block.ofFn UInt8.ofNat⟩⟩
    let long := perform (.protect .mac 0x8D [] (List.replicate 248 0x5A))
    let short := perform (.protect .mac 0x8D [] [0x5A])
    c.isOpen = true ∧
      ((long.run c).result = .error (.payloadTooLarge 255) ∧ (long.run c).state = c) ∧
      ((short.run c).result = .error .counterExhausted ∧ (short.run c).state.isOpen = false) := by
  intro c long short
  have hopen : c.isOpen = true := rfl
  have hoverlong : Overlong .mac [] (List.replicate 248 (0x5A : UInt8)) :=
    ⟨.inl rfl, by rw [List.length_replicate]; decide⟩
  have hlong : (long.run c).result = .error (.payloadTooLarge 255) :=
    congrArg Outcome.result (run_protect_overlong hoverlong 0x8D c)
  have hshort : (short.run c).result = .error .counterExhausted := rfl
  exact ⟨hopen, ⟨hlong, (classification hopen _).unchanged _ hlong rfl⟩,
    ⟨hshort, ((classification hopen _).closed_iff _ hshort).2 rfl⟩⟩

/-! ### Closed channels -/

/-- **A closed channel is reported as closed** and left as it is, exactly if the action is not to
protect an overlong command. The fault of that one is its length, and it changes nothing either. -/
theorem refusal (h : c.isOpen = false) (hclose : action ≠ .close) :
    ((perform action).run c = ⟨.error .channelClosed, c, []⟩ ↔ action.isOverlong = false) ∧
      (action.isOverlong = true →
        (perform action).run c = ⟨.error (.payloadTooLarge 255), c, []⟩) := by
  have hrun := run_perform_of_closed (isOpen_eq_false_iff.1 h) hclose
  rw [hrun]
  cases action.isOverlong <;> simp

/-- The longest command without data that is reported as the use of a closed channel. -/
theorem refusal_longestHeader :
    let c : Channel := ⟨1, ⟨0x0A, 0x0B, 0x0C, 0x0D⟩, 7, .closed⟩
    let action : Action := .protect .full 0x5F (List.replicate 247 0x02) []
    (c.isOpen = false ∧ action ≠ .close ∧ action.isOverlong = false) ∧
      (perform action).run c = ⟨.error .channelClosed, c, []⟩ := by
  intro c action
  have hclose : action ≠ .close := nofun
  have hshort : ¬ Overlong .full (List.replicate 247 0x02) [] := fun hlong => by
    have hlength := hlong.2
    rw [List.length_replicate] at hlength
    exact absurd hlength (by decide)
  have hclosed : c.isOpen = false := rfl
  have hlength : action.isOverlong = false := by
    simp only [action, Action.isOverlong, hshort, decide_false]
  exact ⟨⟨hclosed, hclose, hlength⟩, (refusal hclosed hclose).1.2 hlength⟩

/-- **A command that is too long is not refused as the use of a closed channel**, and its fault is
not fatal. -/
theorem overlong_on_closed :
    let c : Channel := ⟨0, ⟨0x0A, 0x0B, 0x0C, 0x0D⟩, 0, .closed⟩
    let o := (perform (.protect .mac 0x8D [] (List.replicate 248 0))).run c
    c.isOpen = false ∧ o.result = .error (.payloadTooLarge 255) ∧
      o.result ≠ .error .channelClosed ∧ (Fault.payloadTooLarge 255).isSessionFatal = false := by
  intro c o
  have hoverlong : Overlong .mac [] (List.replicate 248 (0 : UInt8)) :=
    ⟨.inl rfl, by rw [List.length_replicate]; decide⟩
  have hresult : o.result = .error (.payloadTooLarge 255) :=
    congrArg Outcome.result (run_protect_overlong hoverlong 0x8D c)
  refine ⟨rfl, hresult, fun hclosed => ?_, rfl⟩
  cases hresult.symm.trans hclosed

end Channel

end Ev2Reader
