import Ev2Reader.Proofs.Handshake.Agreement
import Ev2Reader.Proofs.Session.Discipline

/-!
# Faults of the Caller

A fault that is not fatal is one of the caller: an argument that no command can be made of. It
is found before anything is sent, and the session should not suffer for it. This module proves
that it does not, with one exception: an authentication gives up the channel before it looks at
the number of the key, so a number that names no key costs the session its channel.

What carries the argument is that only the first command of an operation can be missing or too
long, and nothing is sent before that one.

## Main results

* `executeEach_harmless` — commands that fail without a fatal fault have done nothing;
* `handshake_harmless` — the only such fault of a handshake is the number of the key;
* `callerFault` — **a fault of the caller sends nothing, and changes the session only if it is
  an authentication on a live channel.**
-/

namespace Ev2Reader

namespace Handshake

/-- A challenge is only refused by faults that cost the channel. -/
theorem ChallengeRead.isSessionFatal {s : Started} {answer : Response} {e : Fault}
    (h : ChallengeRead s answer (.error e)) : e.isSessionFatal = true := by
  cases h with
  | unexpected | ragged => rfl

/-- A confirmation is only refused by faults that cost the channel. -/
theorem ConfirmationRead.isSessionFatal {s : Challenged} {answer : Response} {e : Fault}
    (h : ConfirmationRead s answer (.error e)) : e.isSessionFatal = true := by
  cases h with
  | unsuccessful | ragged | unproved => rfl

end Handshake

namespace Session

open Procedure

variable {τ ε : Type} [Transport τ ε] {s : Session τ} {e : Fault}

/-! ### Commands -/

/-- A command that fails without a fatal fault is too long, and has done nothing. -/
theorem execute_harmless (hopen : ∀ c ∈ s.channel, c.isOpen = true) (command : SecureCommand)
    (h : ((execute command : SessionM τ ε Bytes).run s).result = .error (.internal e))
    (hharmless : e.isSessionFatal = false) :
    ¬ command.Fits ∧ ((execute command : SessionM τ ε Bytes).run s).state = s ∧
      Event.messages ((execute command : SessionM τ ε Bytes).run s).events = [] := by
  have hfailed := failed hopen h
  generalize (execute command : SessionM τ ε Bytes).run s = o at hfailed h ⊢
  cases hfailed with
  | absent | exhausted =>
    cases h
    cases hharmless
  | tooLong notices hfits => exact ⟨hfits, rfl, Event.messages_map_note _⟩
  | dropped t events hfatal =>
    cases h
    rw [SessionFault.isFatal, hharmless] at hfatal
    cases hfatal

/-- Commands that are all available fail with fatal faults only. -/
theorem executeEach_fatal (hopen : ∀ c ∈ s.channel, c.isOpen = true)
    {commands : List (Except Fault SecureCommand)}
    (hfit : ∀ x ∈ commands, SecureCommand.Available x)
    (h : ((executeEach commands : SessionM τ ε Unit).run s).result = .error (.internal e)) :
    e.isSessionFatal = true := by
  refine executeEach_induction (ε := ε) (motive := fun commands s o =>
    (∀ c ∈ s.channel, c.isOpen = true) →
    (∀ x ∈ commands, SecureCommand.Available x) →
    o.result = .error (.internal e) → e.isSessionFatal = true)
    ?_ ?_ ?_ ?_ commands s hopen hfit h
  · intro s _ _ h
    cases h
  · intro e rest s _ hfit _
    obtain ⟨command, hmissing, -⟩ := hfit _ List.mem_cons_self
    cases hmissing
  · intro command rest s fault s' events hrun hopen hfit h
    cases h
    by_contra hfatal
    obtain ⟨command', heq, hfits⟩ := hfit _ List.mem_cons_self
    cases heq
    have hresult : ((execute command : SessionM τ ε Bytes).run s).result =
        .error (.internal e) := by rw [hrun]
    exact (execute_harmless hopen command hresult (by simpa using hfatal)).1 hfits
  · intro command rest s data s' events o hrun ih hopen hfit h
    have hleaves := execute_leaves (ε := ε) hopen command
    rw [hrun] at hleaves
    exact ih hleaves.isOpen (fun x hx => hfit x (List.mem_cons_of_mem _ hx)) h

/-- **Commands that fail without a fatal fault** have done nothing, if all but the first are
available. -/
theorem executeEach_harmless (hopen : ∀ c ∈ s.channel, c.isOpen = true)
    {commands : List (Except Fault SecureCommand)}
    (hfit : ∀ x ∈ commands.tail, SecureCommand.Available x)
    (h : ((executeEach commands : SessionM τ ε Unit).run s).result = .error (.internal e))
    (hharmless : e.isSessionFatal = false) :
    ((executeEach commands : SessionM τ ε Unit).run s).state = s ∧
      Event.messages ((executeEach commands : SessionM τ ε Unit).run s).events = [] := by
  match commands with
  | [] => cases h
  | .error _ :: rest => exact ⟨rfl, rfl⟩
  | .ok command :: rest =>
    have hleaves := execute_leaves (ε := ε) hopen command
    have hexecute := execute_harmless (ε := ε) (e := e) hopen command
    rw [run_executeEach_ok] at h ⊢
    generalize (execute command : SessionM τ ε Bytes).run s = o at hleaves hexecute h ⊢
    obtain ⟨fault | data, s', events⟩ := o
    · cases h
      exact (hexecute rfl hharmless).2
    · rw [executeEach_fatal hleaves.isOpen hfit h] at hharmless
      cases hharmless

/-! ### Handshakes -/

/-- **The only fault of the caller in a handshake** is the number of the key. -/
theorem handshake_harmless {keyNumber : KeyNumber} {key : Key} {nonce : Nonce}
    (h : ((handshake keyNumber key nonce : SessionM τ ε Channel).run s).result =
      .error (.internal e))
    (hharmless : e.isSessionFatal = false) : ¬ keyNumber.Named := by
  have hhandshaken := handshaken (ε := ε) keyNumber key nonce s
  generalize (handshake keyNumber key nonce : SessionM τ ε Channel).run s = o at hhandshaken h
  cases hhandshaken with
  | unnamed hnamed => exact hnamed
  | unanswered | unproved | confirmed => cases h
  | unchallenged _ _ hchallenge =>
    cases h
    have hread := Handshake.result_receiveChallenge_iff.1 hchallenge
    rw [hread.isSessionFatal] at hharmless
    cases hharmless
  | unconfirmed _ _ _ _ hconfirmation =>
    cases h
    have hread := Handshake.result_receiveConfirmation_iff.1 hconfirmation
    rw [hread.isSessionFatal] at hharmless
    cases hharmless

/-- **Authenticating with a key that there is not** gives up the channel and sends nothing. -/
theorem run_perform_authenticate_unnamed {keyNumber : KeyNumber} (hnamed : ¬ keyNumber.Named)
    (key : Key) (nonce : Nonce) (s : Session τ) :
    ∃ notices : List Notice,
      (perform (.authenticate keyNumber key nonce) : SessionM τ ε Bytes).run s =
        ⟨.error (.internal (.invalidKeyNumber keyNumber)), ⟨s.transport, none⟩,
          notices.map .note⟩ := by
  have hrun := run_authenticate (ε := ε) keyNumber key nonce s
  have hhandshake : (handshake keyNumber key nonce : SessionM τ ε Channel).run
      ⟨s.transport, none⟩ = ⟨.error (.internal (.invalidKeyNumber keyNumber)),
        ⟨s.transport, none⟩, []⟩ := by
    rw [handshake, Handshake.start, dif_neg hnamed]
    rfl
  rw [hhandshake] at hrun
  dsimp only at hrun
  rw [List.append_nil] at hrun
  rw [run_perform_authenticate, hrun]
  obtain ⟨transport, channel⟩ := s
  cases channel with
  | none => exact ⟨[], rfl⟩
  | some c => exact ⟨(Channel.close.run c).events, rfl⟩

/-- **Authenticating is refused without cost only for its key number,** which the application does
not have. -/
theorem authenticate_harmless {keyNumber : KeyNumber} {key : Key} {nonce : Nonce}
    (h : ((perform (.authenticate keyNumber key nonce) : SessionM τ ε Bytes).run s).result =
      .error (.internal e))
    (hharmless : e.isSessionFatal = false) : ¬ keyNumber.Named := by
  have hrun := run_authenticate (ε := ε) keyNumber key nonce s
  rw [run_perform_authenticate, hrun] at h
  exact handshake_harmless (map_eq_error_iff.1 (map_eq_error_iff.1 h)) hharmless

/-! ### Operations -/

/-- **Changing a key that there is not** leaves the session as it is. -/
theorem run_perform_changeKey_unnamed {c : Channel} (h : s.channel = some c) {number : KeyNumber}
    (hnamed : ¬ number.Named) (newKey : Key) (version : UInt8) (oldKey : Key) :
    (perform (.changeKey number newKey version oldKey) : SessionM τ ε Bytes).run s =
      ⟨.error (.internal (.invalidKeyNumber number)), s, []⟩ := by
  have hcommand : SecureCommand.changeKey c.keyNumber number newKey version oldKey =
      .error (.invalidKeyNumber number) :=
    bind_eq_error_iff.2 (.inl (check_eq_error_iff.2 ⟨hnamed, rfl⟩))
  simp [perform, changeKey, h, hcommand]

/-- Selecting the application has no fault of the caller. -/
theorem selectApplication_fatal
    (h : ((perform .selectApplication : SessionM τ ε Bytes).run s).result =
      .error (.internal e)) : e.isSessionFatal = true := by
  rw [(run_selectApplication s).2] at h
  split at h
  · cases h
  · split at h
    · cases h
    · cases h
      rfl

/-- **An operation that does not authenticate** has done nothing if it fails without a fatal
fault. -/
theorem perform_harmless (hopen : ∀ c ∈ s.channel, c.isOpen = true) {op : Operation}
    (hop : ¬ ∃ keyNumber key nonce, op = .authenticate keyNumber key nonce)
    (h : ((perform op : SessionM τ ε Bytes).run s).result = .error (.internal e))
    (hharmless : e.isSessionFatal = false) :
    ((perform op : SessionM τ ε Bytes).run s).state = s ∧
      Event.messages ((perform op : SessionM τ ε Bytes).run s).events = [] := by
  by_cases hclose : op = .close
  · subst hclose
    rw [(run_perform_close s).1] at h
    cases h
  cases hanew : op.beginsAnew with
  | true =>
    cases op with
    | selectApplication =>
      rw [selectApplication_fatal h] at hharmless
      cases hharmless
    | authenticate keyNumber key nonce => exact absurd ⟨keyNumber, key, nonce, rfl⟩ hop
    | execute | changeFileSettings | changeKey | writeData | readData | cardUid | close =>
      cases hanew
  | false =>
    have hcommands := executeEach_harmless (ε := ε) (e := e) hopen
      (op.tail_commands_available s.channel)
    rw [run_perform hanew hclose] at hcommands
    exact hcommands (map_eq_error_iff.2 h) hharmless

/-- Giving up the channel changes a session exactly if there is one. -/
theorem without_channel_eq_iff : (⟨s.transport, none⟩ : Session τ) = s ↔ s.channel = none := by
  obtain ⟨t, channel⟩ := s
  rw [mk.injEq, eq_comm (a := none)]
  exact and_iff_right rfl

/-- **What a fault of the caller does** to a session `s`. -/
structure CallerFault (op : Operation) (s : Session τ) (e : Fault)
    (o : Outcome (Session τ) (Event ε) (SessionFault ε) Bytes) : Prop where
  /-- Nothing is sent. -/
  messages : Event.messages o.events = []
  /-- The session is as it was, unless an authentication has given up its channel. -/
  state_eq_iff : o.state = s ↔
    s.channel = none ∨ ¬ ∃ keyNumber key nonce, op = .authenticate keyNumber key nonce
  /-- An authentication has given up the channel for a number that names no key. -/
  authenticate : ∀ keyNumber key nonce, op = .authenticate keyNumber key nonce →
    ¬ keyNumber.Named ∧ e = .invalidKeyNumber keyNumber ∧ o.state = ⟨s.transport, none⟩

/-- **A fault of the caller sends nothing**, and changes the session only if it is an
authentication on a live channel. -/
theorem callerFault (t : τ) (ops : List Operation) (op : Operation) {e : Fault}
    (h : ((perform op : SessionM τ ε Bytes).run (after (ε := ε) ops (begin t))).result =
      .error (.internal e))
    (hharmless : e.isSessionFatal = false) :
    CallerFault op (after (ε := ε) ops (begin t)) e
      ((perform op : SessionM τ ε Bytes).run (after (ε := ε) ops (begin t))) := by
  have hopen := isOpen_after_begin (ε := ε) t ops
  generalize after (ε := ε) ops (begin t) = s at h hopen ⊢
  by_cases hop : ∃ keyNumber key nonce, op = .authenticate keyNumber key nonce
  · obtain ⟨keyNumber, key, nonce, rfl⟩ := hop
    have hnamed := authenticate_harmless h hharmless
    obtain ⟨notices, hrun⟩ := run_perform_authenticate_unnamed (ε := ε) hnamed key nonce s
    rw [hrun] at h ⊢
    cases h
    refine ⟨Event.messages_map_note _, ?_, fun keyNumber' _ _ heq => ?_⟩
    · have hauthenticates : ¬ ¬ ∃ keyNumber' key' nonce', Operation.authenticate keyNumber key
          nonce = .authenticate keyNumber' key' nonce' := not_not_intro ⟨_, _, _, rfl⟩
      rw [or_iff_left hauthenticates]
      exact without_channel_eq_iff
    · cases heq
      exact ⟨hnamed, rfl, rfl⟩
  · obtain ⟨hstate, hmessages⟩ := perform_harmless hopen hop h hharmless
    refine ⟨hmessages, iff_of_true hstate (.inr hop), fun keyNumber key nonce heq => ?_⟩
    exact absurd ⟨keyNumber, key, nonce, heq⟩ hop

/-! ### An authenticated session -/

/-- A tag that authenticates the reader with the default key and says no more. -/
def authenticatesOnce : Script :=
  ⟨[Handshake.challengeAnswer .factoryDefault (Block.ofFn UInt8.ofNat),
    Handshake.Confirmation.answer .factoryDefault .normalProcessing
      ⟨⟨0x01, 0x02, 0x03, 0x04⟩, .zero, .zero, .zero, .zero⟩]⟩

/-- The session of a reader that has authenticated with this tag. -/
def authenticatedOnce : Session Script :=
  after [.authenticate 0 .factoryDefault .zero] (begin authenticatesOnce)

/-- The reader is authenticated with the key 0, and its channel is fresh. -/
theorem authenticatedOnce_eq : ∃ keys, authenticatedOnce =
    ⟨⟨[]⟩, some (.fresh 0 ⟨0x01, 0x02, 0x03, 0x04⟩ keys)⟩ := by
  have hnamed : (0 : KeyNumber).Named := by decide
  obtain ⟨events, hrun⟩ := run_authenticate_of_holder hnamed .factoryDefault .zero
    (Block.ofFn UInt8.ofNat) ⟨⟨0x01, 0x02, 0x03, 0x04⟩, .zero, .zero, .zero, .zero⟩ rfl
    .normalProcessing rfl (s := begin authenticatesOnce) rfl rfl
  refine ⟨.derive .factoryDefault .zero (Block.ofFn UInt8.ofNat), ?_⟩
  rw [authenticatedOnce, after, perform, run_bind_of_ok hrun]
  rfl

/-- The session has a channel. -/
theorem isSome_authenticatedOnce : authenticatedOnce.channel.isSome = true := by
  obtain ⟨keys, heq⟩ := authenticatedOnce_eq
  rw [heq]
  rfl

/-- Changing a key that there is not leaves the session alone. -/
theorem callerFault_changeKey :
    (((perform (.changeKey 5 .factoryDefault 1 .factoryDefault) : SessionM Script Unit Bytes).run
        authenticatedOnce).result = .error (.internal (.invalidKeyNumber 5)) ∧
      (Fault.invalidKeyNumber 5).isSessionFatal = false ∧
      authenticatedOnce.channel.isSome = true) ∧
    CallerFault (.changeKey 5 .factoryDefault 1 .factoryDefault) authenticatedOnce
      (.invalidKeyNumber 5) ((perform (.changeKey 5 .factoryDefault 1 .factoryDefault) :
        SessionM Script Unit Bytes).run authenticatedOnce) := by
  obtain ⟨c, hchannel⟩ := Option.isSome_iff_exists.1 isSome_authenticatedOnce
  have hresult : ((perform (.changeKey 5 .factoryDefault 1 .factoryDefault) :
      SessionM Script Unit Bytes).run authenticatedOnce).result =
        .error (.internal (.invalidKeyNumber 5)) := by
    rw [run_perform_changeKey_unnamed hchannel (by decide)]
  exact ⟨⟨hresult, rfl, isSome_authenticatedOnce⟩, callerFault authenticatesOnce _ _ hresult rfl⟩

/-- **Authenticating with a key that there is not costs the session its channel**, although
the fault is not fatal and nothing was sent. -/
theorem authenticate_gives_up_channel :
    let o := (perform (.authenticate 5 .factoryDefault .zero) : SessionM Script Unit Bytes).run
      authenticatedOnce
    o.result = .error (.internal (.invalidKeyNumber 5)) ∧
      (Fault.invalidKeyNumber 5).isSessionFatal = false ∧ Event.messages o.events = [] ∧
      authenticatedOnce.channel.isSome = true ∧ o.state.channel = none := by
  intro o
  have hnamed : ¬ (5 : KeyNumber).Named := by decide
  obtain ⟨notices, hrun⟩ :=
    run_perform_authenticate_unnamed (ε := Unit) hnamed .factoryDefault .zero authenticatedOnce
  simp only [o, hrun]
  exact ⟨trivial, rfl, Event.messages_map_note _, isSome_authenticatedOnce, trivial⟩

end Session

end Ev2Reader
