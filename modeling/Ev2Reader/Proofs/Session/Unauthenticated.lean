import Ev2Reader.Proofs.Session.Discipline

/-!
# Sessions Without a Channel

A session without a channel refuses the operations that need one, and sends nothing for them,
until an authentication succeeds. This module proves it, with one exception: data of no bytes
needs no command, so writing it succeeds and the channel is never asked for.

What carries the argument is that an operation is no more than its commands. Without a channel
the first of them is refused, and only writing nothing has none.

## Main results

* `Operation.commands_eq_nil_iff` — the only operation on a channel that has no command;
* `perform_refused`, `channel_of_unauthenticated` — what one operation comes to, and what any
  number of them leaves;
* `failsClosed` — **a session without a channel fails closed**, unless nothing is written.
-/

namespace Ev2Reader

namespace Operation

/-- **The operation needs a channel.** -/
def isSecure : Operation → Bool
  | selectApplication | authenticate .. | close => false
  | execute .. | changeFileSettings .. | changeKey .. | writeData .. | readData .. | cardUid => true

/-- The operation writes data of no bytes. -/
def WritesNothing (op : Operation) : Prop :=
  ∃ file offset protection, op = writeData file offset [] protection

/-- The arguments are such that there is every command of the operation, on any channel. -/
def Acceptable (op : Operation) : Prop :=
  ∀ c, ∀ x ∈ op.commands (some c), ∃ command, x = .ok command

variable {op : Operation} {file : UInt8} {offset : UInt32} {data : Bytes}
  {protection : Protection}

/-- An operation that needs a channel neither begins anew nor closes one. -/
theorem kind_of_isSecure (h : op.isSecure = true) : op.beginsAnew = false ∧ op ≠ .close := by
  cases op with
  | selectApplication | authenticate | close => cases h
  | execute | changeFileSettings | changeKey | writeData | readData | cardUid =>
    exact ⟨rfl, by simp⟩

/-- A fault that stands for a command without a channel stands for it on every channel, unless it
is the want of the channel. -/
theorem error_mem_commands_none {e : Fault} (h : .error e ∈ op.commands none) :
    e = .channelClosed ∨ ∀ c, .error e ∈ op.commands (some c) := by
  cases op with
  | changeKey =>
    cases List.mem_singleton.1 h
    exact .inl rfl
  | selectApplication | authenticate | close | execute | changeFileSettings | writeData | readData
  | cardUid => exact .inr fun _ => h

/-- A fault on every channel is one of the arguments. -/
theorem not_acceptable {e : Fault} (h : ∀ c, .error e ∈ op.commands (some c)) :
    ¬ op.Acceptable := by
  intro haccept
  obtain ⟨command, heq⟩ := haccept (.fresh 0 .zero ⟨.zero, .zero⟩) _ (h _)
  cases heq

/-- A write is acceptable exactly if it ends within the address space, or is empty. -/
theorem acceptable_writeData_iff :
    (writeData file offset data protection).Acceptable ↔
      offset.toNat + data.length ≤ SecureCommand.addressBound ∨ data = [] := by
  rw [← List.length_eq_zero_iff, ← SecureCommand.checkDataRange_eq_ok_iff]
  cases hrange : SecureCommand.checkDataRange offset data.length with
  | error e =>
    have hmem (c : Channel) :
        .error e ∈ (writeData file offset data protection).commands (some c) := by
      simp [commands, hrange]
    exact iff_of_false (not_acceptable hmem) (by simp)
  | ok =>
    refine iff_of_true (fun c x hx => ?_) rfl
    simp only [commands, hrange] at hx
    obtain ⟨command, heq, -⟩ := chunkCommands_chunks_available hrange x hx
    exact ⟨command, heq⟩

/-- There is no command exactly if there is no piece. -/
theorem chunkCommands_eq_nil_iff {pieces : List Bytes} :
    chunkCommands file protection offset pieces = [] ↔ pieces = [] := by
  cases pieces <;> simp [chunkCommands]

/-- **Only writing nothing has no command** among the operations that need a channel. -/
theorem commands_eq_nil_iff (h : op.isSecure = true) {channel : Option Channel} :
    op.commands channel = [] ↔ op.WritesNothing := by
  cases op with
  | selectApplication | authenticate | close => cases h
  | execute | changeFileSettings | readData | cardUid => simp [commands, WritesNothing]
  | changeKey => cases channel <;> simp [commands, WritesNothing]
  | writeData file offset data protection =>
    have hnothing : (writeData file offset data protection).WritesNothing ↔ data = [] := by
      simp [WritesNothing]
    rw [hnothing, commands]
    split
    next e hrange =>
      refine iff_of_false (by simp) ?_
      rintro rfl
      rw [List.length_nil, SecureCommand.checkDataRange_zero] at hrange
      cases hrange
    · rw [chunkCommands_eq_nil_iff, chunks_eq_nil_iff]

end Operation

namespace Session

open Procedure

variable {τ ε : Type} [Transport τ ε] {s : Session τ} {op : Operation}

/-! ### One operation -/

/-- **What a session `s` without a channel makes of an operation** that needs one. -/
structure Refused (op : Operation) (s : Session τ)
    (o : Outcome (Session τ) (Event ε) (SessionFault ε) Bytes) : Prop where
  /-- The session is left as it is. -/
  state : o.state = s
  /-- Nothing is sent, or otherwise reported. -/
  events : o.events = []
  /-- The fault is the want of a channel or one of the arguments. -/
  refused : ¬ op.WritesNothing → ∃ e, o.result = .error (.internal e) ∧
    (e = .channelClosed ∨ ∀ c, .error e ∈ op.commands (some c))
  /-- If the arguments are acceptable, the fault is the want of a channel. -/
  closed : op.Acceptable → ¬ op.WritesNothing → o.result = .error (.internal .channelClosed)
  /-- Writing nothing succeeds. -/
  done : op.WritesNothing → o.result = .ok []

/-- **Writing nothing succeeds** on every session, and does nothing. -/
theorem run_perform_writesNothing (h : op.WritesNothing) (s : Session τ) :
    (perform op : SessionM τ ε Bytes).run s = ⟨.ok [], s, []⟩ := by
  obtain ⟨file, offset, protection, rfl⟩ := h
  rw [perform, run_bind, run_writeData_nil]
  rfl

/-- Without a channel the first command is refused, if it is not missing. -/
theorem run_executeEach_none (hchannel : s.channel = none) (x : Except Fault SecureCommand)
    (rest : List (Except Fault SecureCommand)) :
    ∃ e, (executeEach (x :: rest) : SessionM τ ε Unit).run s = ⟨.error (.internal e), s, []⟩ ∧
      (e = .channelClosed ∨ x = .error e) := by
  cases x with
  | error e => exact ⟨e, run_executeEach_error e rest s, .inr rfl⟩
  | ok command =>
    refine ⟨.channelClosed, ?_, .inl rfl⟩
    rw [run_executeEach_ok, run_execute_none command hchannel, andThen_error]

/-- **Without a channel an operation is refused**, unless it writes nothing. -/
theorem perform_refused (hchannel : s.channel = none) (hsecure : op.isSecure = true) :
    Refused op s ((perform op : SessionM τ ε Bytes).run s) := by
  by_cases hnothing : op.WritesNothing
  · rw [run_perform_writesNothing hnothing]
    exact ⟨rfl, rfl, fun h => absurd hnothing h, fun _ h => absurd hnothing h, fun _ => rfl⟩
  · obtain ⟨hanew, hclose⟩ := Operation.kind_of_isSecure hsecure
    obtain ⟨x, rest, hcommands⟩ : ∃ x rest, op.commands none = x :: rest :=
      List.exists_cons_of_ne_nil (mt (Operation.commands_eq_nil_iff hsecure).1 hnothing)
    obtain ⟨e, heach, hfault⟩ := run_executeEach_none (ε := ε) hchannel x rest
    have hrun := run_perform (ε := ε) hanew hclose s
    rw [hchannel, hcommands, heach, Outcome.mk.injEq] at hrun
    obtain ⟨hresult, hstate, hevents⟩ := hrun
    have hresult := map_eq_error_iff.1 hresult.symm
    have hmissing : e = .channelClosed ∨ ∀ c, .error e ∈ op.commands (some c) := by
      rcases hfault with hclosed | rfl
      · exact .inl hclosed
      · refine Operation.error_mem_commands_none ?_
        rw [hcommands]
        exact List.mem_cons_self
    refine ⟨hstate.symm, hevents.symm, fun _ => ⟨e, hresult, hmissing⟩, fun haccept _ => ?_,
      fun h => absurd h hnothing⟩
    rcases hmissing with rfl | hmissing
    · exact hresult
    · exact absurd haccept (Operation.not_acceptable hmissing)

/-! ### Any number of operations -/

/-- **No authentication succeeds** among operations one after the other. -/
def Unauthenticated : List Operation → Session τ → Prop
  | [], _ => True
  | op :: ops, s =>
    let o := (perform op : SessionM τ ε Bytes).run s
    (∀ keyNumber key nonce, op = .authenticate keyNumber key nonce → o.result ≠ .ok []) ∧
      Unauthenticated ops o.state

/-- Only an authentication that succeeds brings a channel where there was none. -/
theorem channel_of_perform (hchannel : s.channel = none)
    (hfails : ∀ keyNumber key nonce, op = .authenticate keyNumber key nonce →
      ((perform op : SessionM τ ε Bytes).run s).result ≠ .ok []) :
    ((perform op : SessionM τ ε Bytes).run s).state.channel = none := by
  have hopen : ∀ c ∈ s.channel, c.isOpen = true := by simp [hchannel]
  rw [Option.eq_none_iff_forall_ne_some]
  intro c hc
  rcases (perform_disciplined (ε := ε) hopen op).origin c hc with
    ⟨keyNumber, key, nonce, heq, hok⟩ | ⟨-, c₀, -, hc₀, -⟩
  · exact hfails keyNumber key nonce heq hok
  · rw [hchannel] at hc₀
    cases hc₀

/-- **Without an authentication there is no channel** after any number of operations. -/
theorem channel_of_unauthenticated {ops : List Operation} (hchannel : s.channel = none)
    (h : Unauthenticated (ε := ε) ops s) : (after (ε := ε) ops s).channel = none := by
  induction ops generalizing s with
  | nil => exact hchannel
  | cons op ops ih => exact ih (channel_of_perform hchannel h.1) h.2

/-- Operations that need a channel do nothing without one. -/
theorem after_of_isSecure {ops : List Operation} (hchannel : s.channel = none)
    (hsecure : ∀ op ∈ ops, op.isSecure = true) :
    after (ε := ε) ops s = s ∧ history (ε := ε) ops s = [] := by
  induction ops with
  | nil => exact ⟨rfl, rfl⟩
  | cons op ops ih =>
    have hrefused := perform_refused (ε := ε) hchannel (hsecure op List.mem_cons_self)
    obtain ⟨hafter, hhistory⟩ := ih fun op' hop' => hsecure op' (List.mem_cons_of_mem _ hop')
    rw [after, history, hrefused.state, hrefused.events]
    exact ⟨hafter, hhistory⟩

/-- **A session without a channel fails closed.** Whatever the transport does, and whatever has
been tried, the operations that need a channel are refused and nothing is sent for them, until an
authentication succeeds. Writing nothing is not refused, but does nothing either. -/
theorem failsClosed (hchannel : s.channel = none) :
    (∀ ops, (∀ op ∈ ops, op.isSecure = true) →
      after (ε := ε) ops s = s ∧ history (ε := ε) ops s = []) ∧
    ∀ ops, Unauthenticated (ε := ε) ops s →
      (after (ε := ε) ops s).channel = none ∧
      ∀ op, op.isSecure = true → Refused op (after (ε := ε) ops s)
        ((perform op : SessionM τ ε Bytes).run (after (ε := ε) ops s)) := by
  refine ⟨fun ops => after_of_isSecure hchannel, fun ops hops => ?_⟩
  have hafter := channel_of_unauthenticated hchannel hops
  exact ⟨hafter, fun op => perform_refused hafter⟩

/-- A tag that answers the selection, refuses the authentication and says no more: reading its
identifier and writing up to the end of the address space are refused as well. -/
theorem failsClosed_refusedAuthentication :
    let s : Session Script := begin ⟨[⟨.normalProcessing, []⟩, ⟨⟨0x91AE⟩, []⟩]⟩
    let ops : List Operation :=
      [.selectApplication, .authenticate 0 .factoryDefault .zero, .cardUid]
    let op : Operation := .writeData 2 0xFFFF00 (List.replicate 256 0) .full
    let o := (perform op : SessionM Script Unit Bytes).run (after (ε := Unit) ops s)
    (s.channel = none ∧ Unauthenticated (ε := Unit) ops s ∧ op.isSecure = true ∧ op.Acceptable ∧
        ¬ op.WritesNothing) ∧
      (after (ε := Unit) ops s).channel = none ∧ Refused op (after (ε := Unit) ops s) o ∧
      o.result = .error (.internal .channelClosed) := by
  intro s ops op o
  have hops : Unauthenticated (ε := Unit) ops s := by
    refine ⟨(fun _ _ _ heq => nomatch heq), fun keyNumber key nonce heq hok => ?_,
      (fun _ _ _ heq => nomatch heq), trivial⟩
    cases hok
  have haccept : op.Acceptable := by
    refine Operation.acceptable_writeData_iff.2 (.inl ?_)
    rw [List.length_replicate]
    decide
  have hsome : ¬ op.WritesNothing := by
    rintro ⟨file, offset, protection, heq⟩
    injection heq with _ _ hdata
    cases (List.replicate_eq_nil_iff _).1 hdata
  obtain ⟨-, hafter⟩ := failsClosed (ε := Unit) (s := s) rfl
  obtain ⟨hchannel, hrefused⟩ := hafter ops hops
  have hrefused := hrefused op rfl
  exact ⟨⟨rfl, hops, rfl, haccept, hsome⟩, hchannel, hrefused, hrefused.closed haccept hsome⟩

/-- **Writing nothing succeeds without a channel**, although the operation needs one. -/
theorem writeData_nil_not_refused :
    let s : Session Script := begin ⟨[]⟩
    let op : Operation := .writeData 2 0 [] .full
    let o := (perform op : SessionM Script Unit Bytes).run s
    s.channel = none ∧ op.isSecure = true ∧ op.Acceptable ∧ o.result = .ok [] := by
  intro s op o
  have hnothing : op.WritesNothing := ⟨2, 0, .full, rfl⟩
  have hrun : o = ⟨.ok [], s, []⟩ := run_perform_writesNothing hnothing s
  exact ⟨rfl, rfl, Operation.acceptable_writeData_iff.2 (.inr rfl), by rw [hrun]⟩

end Session

end Ev2Reader
