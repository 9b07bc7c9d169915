import Ev2Reader.Proofs.Session.Failure
import Ev2Reader.Proofs.Session.Log
import Ev2Reader.Proofs.Session.Writing

/-!
# Discipline

When a session keeps its channel, and when it gives it up. A channel that is kept is open; one
that reader and tag may disagree about is dropped; and none appears but by an authentication.

What carries the argument is `Leaves`, which says what commands one after the other leave of
the channel that was there. A command keeps it, by the six ways of execution, and so does every
operation that neither authenticates, selects nor closes.

## Main results

* `executeEach_leaves`, `perform_leaves` — what commands and operations leave of a channel;
* `isOpen_after` — a session never holds a closed channel;
* `discipline` — **what every operation leaves of every session.**
-/

namespace Ev2Reader

/-- A channel is at its own counter value. -/
theorem Channel.atCounter_toNat (c : Channel) : c.atCounter c.counter.toNat = c := by
  rw [atCounter, UInt16.ofNat_toNat]

/-- Advancing the counter goes to the value after its own. -/
theorem Channel.next_eq_atCounter (c : Channel) : c.next = c.atCounter (c.counter.toNat + 1) := by
  rw [← next_atCounter, atCounter_toNat]

namespace Operation

variable {channel : Option Channel} {op : Operation} {command : SecureCommand}

/-- **A command that ends the session** is the only one of its operation. -/
theorem commands_of_endsSession (h : .ok command ∈ op.commands channel)
    (hends : command.endsSession = true) : op.commands channel = [.ok command] := by
  cases op with
  | selectApplication | authenticate | close => cases h
  | execute | changeFileSettings | readData | cardUid =>
    have heq := List.mem_singleton.1 h
    rw [commands, heq]
  | changeKey =>
    cases channel with
    | none => cases List.mem_singleton.1 h
    | some c =>
      have heq := List.mem_singleton.1 h
      simp only [commands, heq]
  | writeData file offset data protection =>
    rw [commands] at h
    split at h
    · cases List.mem_singleton.1 h
    · rw [endsSession_of_mem_chunkCommands h] at hends
      cases hends

/-- An operation that has a command neither gives up the channel first nor closes it. -/
theorem kind_of_mem_commands (h : .ok command ∈ op.commands channel) :
    op.beginsAnew = false ∧ op ≠ .close := by
  cases op with
  | selectApplication | authenticate | close => cases h
  | execute | changeFileSettings | changeKey | writeData | readData | cardUid =>
    exact ⟨rfl, by simp⟩

end Operation

namespace Session

open Procedure

/-! ### What is left of a channel -/

/-- **What is left of the channel of a session:** it is open, it is dropped by a fatal fault, and
nothing but its counter has changed. -/
structure Leaves {τ ε α : Type} (s : Session τ)
    (o : Outcome (Session τ) (Event ε) (SessionFault ε) α) : Prop where
  /-- A channel that is left is open. -/
  isOpen : ∀ c ∈ o.state.channel, c.isOpen = true
  /-- A fatal fault leaves none. -/
  dropped : ∀ fault, o.result = .error fault → fault.isFatal = true → o.state.channel = none
  /-- A channel that is left is the one from before, at some counter value. -/
  origin : ∀ c ∈ o.state.channel, ∃ c₀ n, s.channel = some c₀ ∧ c = c₀.atCounter n

section Steps

variable {τ ε α : Type} {s : Session τ}

/-- Dropping the channel leaves nothing of it. -/
theorem Leaves.of_none {o : Outcome (Session τ) (Event ε) (SessionFault ε) α}
    (h : o.state.channel = none) : Leaves s o := by
  refine ⟨fun c hc => ?_, fun _ _ _ => h, fun c hc => ?_⟩ <;>
  · rw [h] at hc
    cases hc

/-- A fault that is not fatal may leave everything. -/
theorem Leaves.of_harmless (hopen : ∀ c ∈ s.channel, c.isOpen = true) (fault : SessionFault ε)
    (hfatal : fault.isFatal = true → s.channel = none) (events : List (Event ε)) :
    Leaves s (⟨.error fault, s, events⟩ : Outcome _ _ _ α) := by
  refine ⟨hopen, fun fault' heq hfatal' => ?_, fun c hc => ⟨c, _, hc, c.atCounter_toNat.symm⟩⟩
  cases heq
  exact hfatal hfatal'

/-- What is left is traced back over two steps. -/
theorem Leaves.trans {s' : Session τ} {o : Outcome (Session τ) (Event ε) (SessionFault ε) α}
    (h : ∀ c ∈ s'.channel, ∃ c₀ n, s.channel = some c₀ ∧ c = c₀.atCounter n)
    (h' : Leaves s' o) (events : List (Event ε)) :
    Leaves s ⟨o.result, o.state, events ++ o.events⟩ := by
  refine ⟨h'.isOpen, h'.dropped, fun c hc => ?_⟩
  obtain ⟨c', n, hc', rfl⟩ := h'.origin c hc
  obtain ⟨c₀, m, hc₀, rfl⟩ := h c' hc'
  exact ⟨c₀, n, hc₀, rfl⟩

variable [Transport τ ε]

/-- **A command** leaves the channel, at this counter value or the next, or drops it. -/
theorem execute_leaves (hopen : ∀ c ∈ s.channel, c.isOpen = true) (command : SecureCommand) :
    Leaves s ((execute command : SessionM τ ε Bytes).run s) := by
  cases hchannel : s.channel with
  | none =>
    rw [run_execute_none command hchannel]
    exact .of_none hchannel
  | some c =>
    obtain ⟨-, -, hexecuted⟩ := executed_of_isOpen (ε := ε) hopen hchannel command
    generalize (execute command : SessionM τ ε Bytes).run s = o at hexecuted
    cases hexecuted with
    | tooLong => exact .of_harmless hopen _ (fun hfatal => by cases hfatal) _
    | exhausted | lost | refused | ended => exact .of_none rfl
    | accepted =>
      refine ⟨fun c' hc' => ?_, (fun _ heq => nomatch heq), fun c' hc' => ?_⟩
      · cases hc'
        exact hopen c hchannel
      · cases hc'
        exact ⟨c, _, hchannel, c.next_eq_atCounter⟩

/-- **Commands one after the other** leave the channel or drop it. -/
theorem executeEach_leaves (hopen : ∀ c ∈ s.channel, c.isOpen = true)
    {commands : List (Except Fault SecureCommand)}
    (hmissing : ∀ e, .error e ∈ commands → e.isSessionFatal = true → s.channel = none) :
    Leaves s ((executeEach commands : SessionM τ ε Unit).run s) := by
  refine executeEach_induction (ε := ε) (motive := fun commands s o =>
    (∀ c ∈ s.channel, c.isOpen = true) →
    (∀ e, .error e ∈ commands → e.isSessionFatal = true → s.channel = none) → Leaves s o)
    ?_ ?_ ?_ ?_ commands s hopen hmissing
  · intro s hopen _
    exact ⟨hopen, (fun _ heq => nomatch heq), fun c hc => ⟨c, _, hc, c.atCounter_toNat.symm⟩⟩
  · intro e rest s hopen hmissing
    exact .of_harmless hopen (.internal e) (hmissing e List.mem_cons_self) []
  · intro command rest s fault s' events hrun hopen _
    have hleaves := execute_leaves (ε := ε) hopen command
    rw [hrun] at hleaves
    refine ⟨hleaves.isOpen, fun fault' heq => ?_, hleaves.origin⟩
    cases heq
    exact hleaves.dropped fault rfl
  · intro command rest s data s' events o hrun ih hopen hmissing
    have hleaves := execute_leaves (ε := ε) hopen command
    rw [hrun] at hleaves
    refine .trans hleaves.origin (ih hleaves.isOpen fun e he hfatal => ?_) events
    -- Where there was no channel before the command, there is none after it.
    have hnone := hmissing e (List.mem_cons_of_mem _ he) hfatal
    rw [Option.eq_none_iff_forall_ne_some]
    intro c hc
    obtain ⟨c₀, n, hc₀, -⟩ := hleaves.origin c hc
    rw [hnone] at hc₀
    cases hc₀

/-- **An operation that neither authenticates nor selects** leaves the channel or drops it. -/
theorem perform_leaves (hopen : ∀ c ∈ s.channel, c.isOpen = true) {op : Operation}
    (hanew : op.beginsAnew = false) : Leaves s ((perform op : SessionM τ ε Bytes).run s) := by
  by_cases hclose : op = .close
  · subst hclose
    obtain ⟨-, hstate, -⟩ := run_perform_close (ε := ε) s
    exact .of_none (by rw [hstate])
  · have hleaves : Leaves s ((executeEach (op.commands s.channel) : SessionM τ ε Unit).run s) := by
      refine executeEach_leaves hopen fun e he hfatal => ?_
      rcases Operation.commands_harmless he with ⟨hnone, -⟩ | hharmless
      · exact hnone
      · rw [hharmless] at hfatal
        cases hfatal
    rw [run_perform hanew hclose] at hleaves
    refine ⟨hleaves.isOpen, fun fault heq => ?_, hleaves.origin⟩
    exact hleaves.dropped fault (map_eq_error_iff.2 heq)

/-- An operation of one command does to the session what the command does. -/
theorem run_perform_of_commands {op : Operation} {command : SecureCommand}
    (h : op.commands s.channel = [.ok command]) :
    ((execute command : SessionM τ ε Bytes).run s).state =
        ((perform op : SessionM τ ε Bytes).run s).state ∧
      ((execute command : SessionM τ ε Bytes).run s).events =
        ((perform op : SessionM τ ε Bytes).run s).events := by
  have hmem : .ok command ∈ op.commands s.channel := by rw [h]; exact List.mem_cons_self
  obtain ⟨hanew, hclose⟩ := Operation.kind_of_mem_commands hmem
  have hrun := run_perform (ε := ε) hanew hclose s
  have heach : (executeEach [.ok command] : SessionM τ ε Unit).run s = _ :=
    (run_executeEach_ok command [] s).trans (andThen_pure _ fun _ => ())
  rw [h, heach, Outcome.mk.injEq] at hrun
  exact hrun.2

/-- **A command that ends the session** leaves no channel if anything was sent. -/
theorem channel_of_endsSession (hopen : ∀ c ∈ s.channel, c.isOpen = true)
    {command : SecureCommand} (hends : command.endsSession = true)
    (hsent : Event.messages ((execute command : SessionM τ ε Bytes).run s).events ≠ []) :
    ((execute command : SessionM τ ε Bytes).run s).state.channel = none := by
  cases hchannel : s.channel with
  | none =>
    rw [run_execute_none command hchannel] at hsent
    exact absurd rfl hsent
  | some c =>
    obtain ⟨-, -, hexecuted⟩ := executed_of_isOpen (ε := ε) hopen hchannel command
    generalize (execute command : SessionM τ ε Bytes).run s = o at hexecuted hsent ⊢
    cases hexecuted with
    | tooLong => exact absurd (Event.messages_map_note _) hsent
    | exhausted | lost | refused | ended => rfl
    | accepted _ _ _ _ _ hstays =>
      rw [hends] at hstays
      cases hstays

/-- **The counter is reported as used up** only by a command that was not sent. -/
theorem messages_of_counterExhausted (hopen : ∀ c ∈ s.channel, c.isOpen = true)
    {command : SecureCommand}
    (h : ((execute command : SessionM τ ε Bytes).run s).result =
      .error (.internal .counterExhausted)) :
    Event.messages ((execute command : SessionM τ ε Bytes).run s).events = [] := by
  have hfailed := failed hopen h
  generalize (execute command : SessionM τ ε Bytes).run s = o at hfailed h ⊢
  cases hfailed with
  | absent | tooLong => cases h
  | exhausted => exact Event.messages_map_note _
  | dropped t events hfatal hcounter =>
    cases h
    exact absurd rfl hcounter

/-- An authentication that fails leaves no channel. -/
theorem channel_of_authenticate_error {keyNumber : KeyNumber} {key : Key} {nonce : Nonce}
    {fault : SessionFault ε}
    (h : ((authenticate keyNumber key nonce : SessionM τ ε Unit).run s).result = .error fault) :
    ((authenticate keyNumber key nonce : SessionM τ ε Unit).run s).state.channel = none := by
  have hrun := run_authenticate (ε := ε) keyNumber key nonce s
  rw [hrun] at h ⊢
  dsimp only at h ⊢
  rw [map_eq_error_iff.1 h]
  rfl

/-- **An authentication** leaves a fresh channel if it succeeds, and otherwise none. -/
theorem authenticate_leaves (keyNumber : KeyNumber) (key : Key) (nonce : Nonce) (s : Session τ) :
    let o := (perform (.authenticate keyNumber key nonce) : SessionM τ ε Bytes).run s
    (o.result = .ok [] ∧
      ∃ ti keys, o.state.channel = some (Channel.fresh keyNumber ti keys)) ∨
    ∃ fault, o.result = .error fault ∧ o.state.channel = none := by
  have hrun := run_perform_authenticate (ε := ε) keyNumber key nonce s
  cases hresult : ((authenticate keyNumber key nonce : SessionM τ ε Unit).run s).result with
  | ok =>
    have hfresh := channel_of_authenticate (Outcome.eq_of_result hresult)
    rw [hrun, hresult]
    exact .inl ⟨rfl, hfresh⟩
  | error fault =>
    have hnone := channel_of_authenticate_error hresult
    rw [hrun, hresult]
    exact .inr ⟨fault, rfl, hnone⟩

/-! ### What is left of a session -/

/-- **What an operation leaves of a session** `s`. -/
structure Disciplined (op : Operation) (s : Session τ)
    (o : Outcome (Session τ) (Event ε) (SessionFault ε) Bytes) : Prop where
  /-- No closed channel is kept. -/
  isOpen : ∀ c ∈ o.state.channel, c.isOpen = true
  /-- A fatal fault leaves no channel. -/
  dropped : ∀ fault, o.result = .error fault → fault.isFatal = true → o.state.channel = none
  /-- A channel comes from an authentication, or is the one that was there before. -/
  origin : ∀ c ∈ o.state.channel,
    (∃ keyNumber key nonce, op = .authenticate keyNumber key nonce ∧ o.result = .ok []) ∨
      (op.beginsAnew = false ∧ ∃ c₀ n, s.channel = some c₀ ∧ c = c₀.atCounter n)
  /-- An authentication brings a channel of its key at the counter value zero. -/
  appears : ∀ keyNumber key nonce, op = .authenticate keyNumber key nonce → o.result = .ok [] →
    ∃ c, o.state.channel = some c ∧ c.keyNumber = keyNumber ∧ c.counter = 0
  /-- Sending a command that ends the session leaves no channel. -/
  ended : ∀ command, .ok command ∈ op.commands s.channel → command.endsSession = true →
    Event.messages o.events ≠ [] → o.state.channel = none
  /-- A command reports that the counter is used up only if it is not sent. -/
  exhausted : ∀ command, op = .execute command →
    o.result = .error (.internal .counterExhausted) → Event.messages o.events = []

/-- Selecting the application is disciplined. -/
theorem disciplined_selectApplication (s : Session τ) :
    Disciplined .selectApplication s
      ((perform .selectApplication : SessionM τ ε Bytes).run s) := by
  obtain ⟨hstate, -⟩ := run_selectApplication (ε := ε) s
  have hnone : ((perform .selectApplication : SessionM τ ε Bytes).run s).state.channel = none := by
    rw [hstate]
  refine ⟨fun c hc => ?_, fun _ _ _ => hnone, fun c hc => ?_, (fun _ _ _ heq => nomatch heq),
    (fun _ hmem => nomatch hmem), (fun _ heq => nomatch heq)⟩ <;>
  · rw [hnone] at hc
    cases hc

/-- Authenticating is disciplined, under any key number, key and nonce. -/
theorem disciplined_authenticate (keyNumber : KeyNumber) (key : Key) (nonce : Nonce)
    (s : Session τ) :
    Disciplined (.authenticate keyNumber key nonce) s
      ((perform (.authenticate keyNumber key nonce) : SessionM τ ε Bytes).run s) := by
  have hcases := authenticate_leaves (ε := ε) keyNumber key nonce s
  dsimp only at hcases
  generalize (perform (.authenticate keyNumber key nonce) : SessionM τ ε Bytes).run s = o at hcases
  refine ⟨fun c hc => ?_, fun fault hfault _ => ?_, fun c hc => ?_, ?_,
    (fun _ hmem => nomatch hmem), (fun _ heq => nomatch heq)⟩
  · rcases hcases with ⟨-, ti, keys, hchannel⟩ | ⟨-, -, hnone⟩
    · rw [hchannel] at hc
      cases hc
      rfl
    · rw [hnone] at hc
      cases hc
  · rcases hcases with ⟨hok, -⟩ | ⟨-, -, hnone⟩
    · rw [hok] at hfault
      cases hfault
    · exact hnone
  · rcases hcases with ⟨hok, -⟩ | ⟨-, -, hnone⟩
    · exact .inl ⟨keyNumber, key, nonce, rfl, hok⟩
    · rw [hnone] at hc
      cases hc
  · rintro _ _ _ heq hok
    cases heq
    rcases hcases with ⟨-, ti, keys, hchannel⟩ | ⟨fault, hfault, -⟩
    · exact ⟨_, hchannel, rfl, rfl⟩
    · rw [hok] at hfault
      cases hfault

/-- **An operation keeps discipline** in a session whose channel, if there is one, is open. -/
theorem perform_disciplined (hopen : ∀ c ∈ s.channel, c.isOpen = true) (op : Operation) :
    Disciplined op s ((perform op : SessionM τ ε Bytes).run s) := by
  cases hanew : op.beginsAnew with
  | true =>
    cases op with
    | selectApplication => exact disciplined_selectApplication s
    | authenticate keyNumber key nonce => exact disciplined_authenticate keyNumber key nonce s
    | execute | changeFileSettings | changeKey | writeData | readData | cardUid | close =>
      cases hanew
  | false =>
    have hleaves := perform_leaves (ε := ε) hopen hanew
    refine ⟨hleaves.isOpen, hleaves.dropped, fun c hc => .inr ⟨hanew, hleaves.origin c hc⟩, ?_,
      ?_, ?_⟩
    · rintro keyNumber key nonce rfl
      cases hanew
    · intro command hmem hends hsent
      obtain ⟨hstate, hevents⟩ := run_perform_of_commands (ε := ε)
        (Operation.commands_of_endsSession hmem hends)
      rw [← hevents] at hsent
      rw [← hstate]
      exact channel_of_endsSession hopen hends hsent
    · rintro command rfl
      exact messages_of_counterExhausted hopen

end Steps

/-! ### Runs -/

section Runs

variable {τ ε : Type} [Transport τ ε]

/-- **A session never holds a closed channel.** The induction is on the operations so far. -/
theorem isOpen_after {s : Session τ} (hopen : ∀ c ∈ s.channel, c.isOpen = true)
    (ops : List Operation) : ∀ c ∈ (after (ε := ε) ops s).channel, c.isOpen = true := by
  induction ops generalizing s with
  | nil => exact hopen
  | cons op ops ih => exact ih (perform_disciplined hopen op).isOpen

/-- **The channel of a session that was begun is open,** whatever was done in it. -/
theorem isOpen_after_begin (t : τ) (ops : List Operation) :
    ∀ c ∈ (after (ε := ε) ops (begin t)).channel, c.isOpen = true := by
  have hbegin : ∀ c ∈ (begin t).channel, c.isOpen = true := fun _ hc => nomatch hc
  exact isOpen_after hbegin ops

/-- **Every operation keeps discipline** in every session that operations lead to, whatever the
transport answers. -/
theorem discipline (t : τ) (ops : List Operation) (op : Operation) :
    Disciplined op (after (ε := ε) ops (begin t))
      ((perform op : SessionM τ ε Bytes).run (after (ε := ε) ops (begin t))) :=
  perform_disciplined (isOpen_after_begin t ops) op

end Runs

end Session

end Ev2Reader
