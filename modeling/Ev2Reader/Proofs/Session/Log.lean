import Ev2Reader.Proofs.Session.Operation

/-!
# The Log of a Session

This module keeps a log of the secure commands that are handed to the transport on one
channel, and proves that the `n`-th of them is protected at the counter value `n`, whatever
the transport answers and wherever a command fails.

The invariant is `Counted`: the channel, if it is still there, is at the counter value that
is the number of commands sent so far. A command that is not sent keeps it, and a command
that is sent either raises the counter or drops the channel.

## Main results

* `execute_logged` — what a command adds to the log, however it ends;
* `history_logged` — **what a run of operations adds to the log**.
-/

namespace Ev2Reader

/-- The channel at a counter value. -/
def Channel.atCounter (c : Channel) (n : Nat) : Channel :=
  { c with counter := UInt16.ofNat n }

/-- Advancing the counter goes to the next counter value. -/
theorem Channel.next_atCounter (c : Channel) (n : Nat) :
    (c.atCounter n).next = c.atCounter (n + 1) := by
  simp [next, atCounter, UInt16.ofNat_add]

namespace Session

open Procedure

/-- **A secure command that was handed to the transport:** the channel that protected it, its
message, and the whole answer or the fault in place of one. -/
structure Transmission (ε : Type) where
  /-- The channel that protected the command, as it was then. -/
  channel : Channel
  /-- The command. -/
  command : SecureCommand
  /-- Its message. -/
  message : Bytes
  /-- The whole answer, or the fault in place of one. -/
  answer : Except (SessionFault ε) Response

/-! ### The log -/

section Log

variable {τ ε : Type} [Transport τ ε]

/-- What a command hands to the transport. -/
def transmission? (command : SecureCommand) (s : Session τ) : Option (Transmission ε) :=
  match s.channel with
  | none => none
  | some c =>
    match (command.protect.run c).result with
    | .error _ => none
    | .ok message =>
      some ⟨c, command, message, ((exchange message : SessionM τ ε Response).run s).result⟩

/-- What commands one after the other hand to the transport. -/
def transmissions : List (Except Fault SecureCommand) → Session τ → List (Transmission ε)
  | [], _ => []
  | .error _ :: _, _ => []
  | .ok command :: rest, s =>
    (transmission? command s).toList ++
      match (execute command : SessionM τ ε Bytes).run s with
      | ⟨.ok _, s', _⟩ => transmissions rest s'
      | ⟨.error _, _, _⟩ => []

/-- **The log of operations** one after the other. -/
def log : List Operation → Session τ → List (Transmission ε)
  | [], _ => []
  | op :: ops, s =>
    transmissions (op.commands s.channel) s ++
      log ops ((perform op : SessionM τ ε Bytes).run s).state

end Log

/-- The messages among events, without the requests for further frames. -/
def secureMessages {ε : Type} (events : List (Event ε)) : List Bytes :=
  (Event.messages events).filter fun message => message ≠ Apdu.additionalFrameRequest

/-! ### The invariant -/

section Invariant

variable {τ ε : Type} {c : Channel} {n : Nat}

/-- The channel, if there is one, is `c` at the counter value `n`. -/
structure Counted (c : Channel) (n : Nat) (s : Session τ) : Prop where
  /-- The counter value is one of sixteen bits. -/
  bound : n ≤ 65535
  /-- There is no channel but `c` at this counter value. -/
  channel_eq : ∀ c' ∈ s.channel, c' = c.atCounter n

/-- What is handed over from the counter value `n` on, and what it leaves. -/
structure Logged (c : Channel) (n : Nat) (entries : List (Transmission ε))
    (events : List (Event ε)) (s' : Session τ) : Prop where
  /-- The messages that went out are those of the entries. -/
  messages : secureMessages events = entries.map Transmission.message
  /-- The entries were protected at one counter value after the other. -/
  channels : entries.map Transmission.channel = (List.range' n entries.length).map c.atCounter
  /-- Each message is the command of its entry, protected on its channel. -/
  protects : ∀ t ∈ entries, (t.command.protect.run t.channel).result = .ok t.message
  /-- Afterwards the channel, if it is still there, is behind the last entry. -/
  counted : Counted c (n + entries.length) s'

/-- What sends no secure message adds nothing to the log. -/
theorem Counted.logged_nil {s : Session τ} (h : Counted c n s) {events : List (Event ε)}
    (hevents : secureMessages events = []) : Logged c n [] events s :=
  ⟨hevents, rfl, (fun _ ht => nomatch ht), h⟩

/-- Without a channel every counter value is right. -/
theorem Counted.of_none (hbound : n ≤ 65535) (t : τ) : Counted c n ⟨t, none⟩ :=
  ⟨hbound, fun _ h => nomatch h⟩

/-- **Logs go on from one another:** the second begins at the counter value at which the first
ended. -/
theorem Logged.append {entries entries' : List (Transmission ε)} {events events' : List (Event ε)}
    {s' s'' : Session τ} (h : Logged c n entries events s')
    (h' : Logged c (n + entries.length) entries' events' s'') :
    Logged c n (entries ++ entries') (events ++ events') s'' where
  messages := by
    have hfirst := h.messages
    have hsecond := h'.messages
    rw [secureMessages] at hfirst hsecond ⊢
    rw [Event.messages_append, List.filter_append, hfirst, hsecond, List.map_append]
  channels := by
    rw [List.map_append, h.channels, h'.channels, List.length_append, ← List.map_append,
      List.range'_append_1]
  protects t ht := by
    rcases List.mem_append.1 ht with ht | ht
    · exact h.protects t ht
    · exact h'.protects t ht
  counted := by
    rw [List.length_append, ← Nat.add_assoc]
    exact h'.counted

/-- Each entry was protected as many counter values on as there are entries before it. -/
theorem Logged.getElem_channel {entries : List (Transmission ε)} {events : List (Event ε)}
    {s : Session τ} (h : Logged c n entries events s) {i : Nat} (hi : i < entries.length) :
    entries[i].channel = c.atCounter (n + i) := by
  have hget := congrArg (fun channels => channels[i]?) h.channels
  simpa [hi] using hget

/-- In a log from the counter value 0, the `n`-th entry was protected at `n`. -/
theorem Logged.channel_getElem {entries : List (Transmission ε)}
    {events : List (Event ε)} {s : Session τ} (h : Logged c 0 entries events s)
    (hn : n < entries.length) : entries[n].channel = c.atCounter n := by
  rw [h.getElem_channel hn, Nat.zero_add]

end Invariant

/-! ### What a command adds -/

section Steps

variable {τ ε : Type} [Transport τ ε] {c c' : Channel} {n : Nat} {keys : SessionKeys}
  {s : Session τ} {command : SecureCommand}

/-- A command that is protected is handed over, with what comes of its exchange. -/
theorem transmission?_of_ok (hchannel : s.channel = some c') {message : Bytes}
    (hprotect : (command.protect.run c').result = .ok message) :
    transmission? (ε := ε) command s = some ⟨c', command, message,
      ((exchange message : SessionM τ ε Response).run s).result⟩ := by
  simp only [transmission?, hchannel, hprotect]

/-- A command that is not protected is not handed over. -/
theorem transmission?_of_error (hchannel : s.channel = some c') {e : Fault}
    (hprotect : (command.protect.run c').result = .error e) :
    transmission? (ε := ε) command s = none := by
  simp only [transmission?, hchannel, hprotect]

/-- **A protected command sends one secure message.** Whatever else its exchange sends is a request
for a further frame, which no protected message is. -/
theorem secureMessages_sent (hkeys : c'.keys? = some keys) {message : Bytes}
    (hprotect : (command.protect.run c').result = .ok message) (before after : List Notice) :
    secureMessages (before.map .note ++ (((exchange message : SessionM τ ε Response).run s).events
      ++ after.map .note)) = [message] := by
  obtain ⟨-, k, -, hmessages⟩ := exchange_spec (ε := ε) message s
  have hne := SecureCommand.ne_additionalFrameRequest hkeys hprotect
  simp [secureMessages, hmessages, hne]

/-- A command that is sent is logged, and moves the channel on or drops it. -/
theorem Counted.logged_sent (h : Counted c n s) (hopen : c.keys? = some keys)
    (hchannel : s.channel = some c') {message : Bytes}
    (hprotect : (command.protect.run c').result = .ok message)
    (hcounter : c'.counter ≠ Channel.lastCounter) (before after : List Notice) {s' : Session τ}
    (hafter : ∀ c'' ∈ s'.channel, c'' = c'.next) :
    Logged c n (transmission? (ε := ε) command s).toList (before.map .note ++
      (((exchange message : SessionM τ ε Response).run s).events ++ after.map .note)) s' := by
  obtain rfl := h.channel_eq c' hchannel
  have hkeys : (c.atCounter n).keys? = some keys := hopen
  have hbound : n ≠ 65535 := by
    rintro rfl
    exact hcounter rfl
  rw [transmission?_of_ok hchannel hprotect]
  refine ⟨?_, rfl, fun t ht => ?_, ?_, fun c'' hc'' => ?_⟩
  · exact secureMessages_sent hkeys hprotect before after
  · obtain rfl := List.mem_singleton.1 ht
    exact hprotect
  · have := h.bound
    simp
    omega
  · rw [hafter c'' hc'', Channel.next_atCounter]
    rfl

/-- **What a command adds to the log**, however it ends. -/
theorem execute_logged (hopen : c.keys? = some keys) (h : Counted c n s)
    (command : SecureCommand) :
    Logged c n (transmission? (ε := ε) command s).toList
      ((execute command : SessionM τ ε Bytes).run s).events
      ((execute command : SessionM τ ε Bytes).run s).state := by
  cases hchannel : s.channel with
  | none =>
    rw [run_execute_none command hchannel, transmission?, hchannel]
    exact h.logged_nil rfl
  | some c' =>
    have hkeys : c'.keys? = some keys := by
      rw [h.channel_eq c' hchannel]
      exact hopen
    have hexecuted := executed (ε := ε) hchannel hkeys command
    generalize (execute command : SessionM τ ε Bytes).run s = o at hexecuted ⊢
    -- Only in the last four ways there is a message. Only the last of them keeps the channel.
    cases hexecuted with
    | tooLong notices hprotect =>
      rw [transmission?_of_error hchannel hprotect]
      exact h.logged_nil (by simp [secureMessages])
    | exhausted notices hprotect =>
      rw [transmission?_of_error hchannel hprotect]
      exact (Counted.of_none h.bound _).logged_nil (by simp [secureMessages])
    | lost before after hprotect hcounter =>
      exact h.logged_sent hopen hchannel hprotect hcounter before after fun _ h => nomatch h
    | refused before after hprotect hcounter =>
      exact h.logged_sent hopen hchannel hprotect hcounter before after fun _ h => nomatch h
    | ended before after hprotect hcounter =>
      exact h.logged_sent hopen hchannel hprotect hcounter before after fun _ h => nomatch h
    | accepted before after hprotect hcounter =>
      refine h.logged_sent hopen hchannel hprotect hcounter before after fun c'' hc'' => ?_
      cases hc''
      rfl

/-- What commands one after the other add to the log. -/
theorem executeEach_logged (hopen : c.keys? = some keys) (h : Counted c n s)
    (commands : List (Except Fault SecureCommand)) :
    Logged c n (transmissions (ε := ε) commands s)
      ((executeEach commands : SessionM τ ε Unit).run s).events
      ((executeEach commands : SessionM τ ε Unit).run s).state := by
  refine executeEach_induction (ε := ε) (motive := fun commands s o => ∀ n, Counted c n s →
    Logged c n (transmissions (ε := ε) commands s) o.events o.state) ?_ ?_ ?_ ?_ commands s n h
  · intro s n h
    exact h.logged_nil rfl
  · intro e rest s n h
    exact h.logged_nil rfl
  · intro command rest s fault s' events hrun n h
    have hlogged := execute_logged (ε := ε) hopen h command
    rw [hrun] at hlogged
    simp only [transmissions, hrun, List.append_nil]
    exact hlogged
  · intro command rest s data s' events o hrun ih n h
    have hlogged := execute_logged (ε := ε) hopen h command
    rw [hrun] at hlogged
    simp only [transmissions, hrun]
    exact hlogged.append (ih _ hlogged.counted)

/-- What an operation adds to the log. -/
theorem perform_logged (hopen : c.keys? = some keys) (h : Counted c n s) {op : Operation}
    (hanew : op.beginsAnew = false) :
    Logged c n (transmissions (ε := ε) (op.commands s.channel) s)
      ((perform op : SessionM τ ε Bytes).run s).events
      ((perform op : SessionM τ ε Bytes).run s).state := by
  by_cases hclose : op = .close
  · subst hclose
    obtain ⟨-, hstate, hmessages⟩ := run_perform_close (ε := ε) s
    rw [hstate]
    exact (Counted.of_none h.bound _).logged_nil (by rw [secureMessages, hmessages]; rfl)
  · have hlogged := executeEach_logged (ε := ε) hopen h (op.commands s.channel)
    rw [run_perform hanew hclose] at hlogged
    exact hlogged

/-- **What a run of operations adds to the log.** -/
theorem history_logged (hopen : c.keys? = some keys) (h : Counted c n s) {ops : List Operation}
    (hanew : ∀ op ∈ ops, op.beginsAnew = false) :
    Logged c n (log (ε := ε) ops s) (history (ε := ε) ops s) (after (ε := ε) ops s) := by
  induction ops generalizing n s with
  | nil => exact h.logged_nil rfl
  | cons op ops ih =>
    have hlogged := perform_logged (ε := ε) hopen h (hanew op List.mem_cons_self)
    have hrest := ih hlogged.counted fun op' hop' => hanew op' (List.mem_cons_of_mem _ hop')
    exact hlogged.append hrest

end Steps

end Session

end Ev2Reader
