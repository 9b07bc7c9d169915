import Mathlib.Data.List.Flatten
import Mathlib.Data.List.Nodup
import Ev2Reader.Proofs.Session.Log

/-!
# The Lifetime of a Channel

A channel lives from the authentication that created it until it is dropped or replaced.
The log of that time says at which counter value each command was protected; here the
initialization vectors are read off it.

## Main results

* `Transmission.enciphered` — the vectors in the log are those that data is enciphered and
  deciphered under;
* `lifetime` — **no counter value protects two commands**, and no two messages of a channel
  share an initialization vector.
-/

namespace Ev2Reader

namespace Channel

/-- The initialization vectors of a command and of its answer at the counter of a channel. -/
def vectors (c : Channel) (keys : SessionKeys) : List Block :=
  [Cryptogram.initialVector keys.encryption .command c.transactionId c.counter,
    Cryptogram.initialVector keys.encryption .response c.transactionId c.next.counter]

/-- The channel at a counter value is at that value, if it is one of sixteen bits. -/
theorem toNat_counter_atCounter (c : Channel) {n : Nat} (h : n ≤ 65535) :
    (c.atCounter n).counter.toNat = n := by
  rw [atCounter, UInt16.toNat_ofNat']
  omega

/-- Different counter values of sixteen bits are different counters. -/
theorem counter_atCounter_inj {c : Channel} {m n : Nat} (hm : m ≤ 65535) (hn : n ≤ 65535) :
    (c.atCounter m).counter = (c.atCounter n).counter ↔ m = n := by
  rw [← UInt16.toNat_inj, toNat_counter_atCounter c hm, toNat_counter_atCounter c hn]

/-- **The counter values of a channel give each message a vector of its own.** -/
theorem nodup_vectors (c : Channel) (keys : SessionKeys) {k : Nat} (hk : k ≤ 65535) :
    (((List.range k).map c.atCounter).flatMap fun c' => c'.vectors keys).Nodup := by
  rw [List.flatMap_map, List.nodup_flatMap]
  refine ⟨fun n _ => by simp [vectors, Cryptogram.initialVector_inj],
    List.nodup_range.imp_of_mem fun {m n} hm hn hne => ?_⟩
  have hm := List.mem_range.1 hm
  have hn := List.mem_range.1 hn
  intro iv hiv hiv'
  simp only [vectors, next_atCounter, List.mem_cons, List.not_mem_nil, or_false] at hiv hiv'
  rcases hiv with rfl | rfl <;> rcases hiv' with heq | heq <;>
    obtain ⟨hdirection, -, hcounter⟩ := Cryptogram.initialVector_inj.1 heq
  · exact hne ((counter_atCounter_inj (by omega) (by omega)).1 hcounter)
  · cases hdirection
  · cases hdirection
  · have := (counter_atCounter_inj (by omega) (by omega)).1 hcounter
    omega

end Channel

namespace Session

open Procedure

namespace Transmission

variable {ε : Type}

/-- The initialization vector of the command, if its data is encrypted. -/
def commandVector? (t : Transmission ε) : Option Block :=
  if t.command.protection = .full ∧ t.command.data ≠ [] then
    ((Channel.initialVector .command).run t.channel).result.toOption
  else none

/-- The initialization vector of the answer, if it is accepted and its data is decrypted. A
channel that was shut has none. -/
def answerVector? (t : Transmission ε) : Option Block :=
  match t.answer with
  | .error _ => none
  | .ok answer =>
    let o := (t.command.receive answer).run t.channel
    if o.result.isOk ∧ t.command.protection = .full ∧ (Channel.splitCode answer.data).1 ≠ [] then
      ((Channel.initialVector .response).run o.state).result.toOption
    else none

/-- The initialization vectors of a command and of its answer. -/
def vectors (t : Transmission ε) : List Block :=
  t.commandVector?.toList ++ t.answerVector?.toList

end Transmission

variable {ε : Type} {t : Transmission ε} {keys : SessionKeys} {iv : Block}

namespace Transmission

/-- A command with a vector is encrypted under full protection, and the vector is that of its
counter value. -/
theorem commandVector?_eq (hkeys : t.channel.keys? = some keys) (h : t.commandVector? = some iv) :
    t.command.protection = .full ∧ t.command.data ≠ [] ∧
      iv = Cryptogram.initialVector keys.encryption .command t.channel.transactionId
        t.channel.counter := by
  rw [commandVector?] at h
  split at h
  next hfull =>
    rw [Channel.run_initialVector_open hkeys] at h
    cases h
    exact ⟨hfull.1, hfull.2, rfl⟩
  · cases h

/-- An answer with a vector was accepted, and its data deciphered under that vector. -/
theorem answerVector?_eq (hkeys : t.channel.keys? = some keys) (h : t.answerVector? = some iv) :
    iv = Cryptogram.initialVector keys.encryption .response t.channel.transactionId
        t.channel.next.counter ∧
      ∃ answer body code data, t.answer = .ok answer ∧ answer.data = body ++ code ∧
        Cryptogram.decipher keys.encryption iv body = .ok data ∧
        ((t.command.receive answer).run t.channel).result = .ok data := by
  rw [answerVector?] at h
  cases hanswer : t.answer with
  | error fault =>
    rw [hanswer] at h
    cases h
  | ok answer =>
    simp only [hanswer] at h
    split at h
    next hfull =>
      obtain ⟨hok, hprotection, hbody⟩ := hfull
      rcases SecureCommand.receive_cases hkeys t.command answer with
        ⟨e, c', events, hrun, -⟩ | ⟨-, events, hrun⟩ | ⟨-, -, data, events, hrun, haccepted⟩
      · rw [hrun] at hok
        cases hok
      · rw [hrun] at h
        cases h
      · rw [hrun, Channel.run_initialVector_open (c := t.channel.next) hkeys] at h
        rw [hprotection] at haccepted
        cases haccepted with
        | empty _ hgenuine =>
          rw [hgenuine.coded] at hbody
          exact absurd rfl hbody
        | deciphered hkeys' hgenuine _ hdata =>
          obtain rfl := Option.some.inj (hkeys.symm.trans hkeys')
          cases h
          exact ⟨rfl, answer, _, _, data, rfl, hgenuine.coded, hdata, by rw [hrun]⟩
    · cases h

/-- The vectors of an entry are among the two of its channel, in their order. -/
theorem vectors_sublist (hkeys : t.channel.keys? = some keys) :
    t.vectors.Sublist (t.channel.vectors keys) := by
  show (t.commandVector?.toList ++ t.answerVector?.toList).Sublist ([_] ++ [_])
  refine List.Sublist.append ?_ ?_
  · cases h : t.commandVector? with
    | none => exact List.nil_sublist _
    | some iv =>
      rw [(commandVector?_eq hkeys h).2.2]
      exact List.Sublist.refl _
  · cases h : t.answerVector? with
    | none => exact List.nil_sublist _
    | some iv =>
      rw [(answerVector?_eq hkeys h).1]
      exact List.Sublist.refl _

/-- **What the vectors in the log are for:** the data of the command was enciphered under the
one, and the data of the answer deciphered under the other. -/
structure Enciphered (keys : SessionKeys) (t : Transmission ε) : Prop where
  /-- The message carries the data of the command, enciphered under the vector. -/
  command : ∀ iv ∈ t.commandVector?, ∃ code, t.message = Apdu.nativeMessage t.command.ins
    (t.command.header ++ Cryptogram.encipher keys.encryption iv t.command.data ++ code)
  /-- The body of the answer deciphers under the vector to the data that was read. -/
  answer : ∀ iv ∈ t.answerVector?, ∃ answer body code data, t.answer = .ok answer ∧
    answer.data = body ++ code ∧ Cryptogram.decipher keys.encryption iv body = .ok data ∧
      ((t.command.receive answer).run t.channel).result = .ok data

/-- A command that was protected, and its answer, use their vectors for what they are for. -/
theorem enciphered (hkeys : t.channel.keys? = some keys)
    (hprotects : (t.command.protect.run t.channel).result = .ok t.message) :
    t.Enciphered keys where
  command iv hiv := by
    obtain ⟨hfull, hdata, rfl⟩ := commandVector?_eq hkeys hiv
    obtain ⟨hmessage, -, -⟩ := SecureCommand.of_protect_ok hkeys hprotects
    simp only [SecureCommand.message, SecureCommand.field, Channel.field, hfull, Protection.wrap,
      hdata, if_false] at hmessage
    exact ⟨_, hmessage⟩
  answer iv hiv := (answerVector?_eq hkeys hiv).2

end Transmission

/-! ### The lifetime -/

variable {τ : Type}

namespace Logged

variable {c : Channel} {entries : List (Transmission ε)} {events : List (Event ε)}
  {s : Session τ}

/-- The entries of a log from the counter value 0 were protected at 0, 1, 2 and so on. -/
theorem channels_eq (h : Logged c 0 entries events s) :
    entries.map Transmission.channel = (List.range entries.length).map c.atCounter := by
  rw [h.channels, List.range_eq_range']

/-- A log from the counter value 0 has at most 65535 entries. -/
theorem length_le (h : Logged c 0 entries events s) : entries.length ≤ 65535 := by
  have hbound := h.counted.bound
  rwa [Nat.zero_add] at hbound

/-- The channels in the log differ in nothing but the counter, so all have the same keys. -/
theorem keys?_eq (h : Logged c 0 entries events s) (hopen : c.keys? = some keys)
    (ht : t ∈ entries) : t.channel.keys? = some keys := by
  obtain ⟨n, hn, rfl⟩ := List.getElem_of_mem ht
  rw [h.channel_getElem hn]
  exact hopen

/-- **No counter value is used for two entries.** -/
theorem nodup_counters (h : Logged c 0 entries events s) :
    (entries.map fun t => t.channel.counter).Nodup := by
  have hcounters := congrArg (List.map Channel.counter) h.channels_eq
  rw [List.map_map, List.map_map] at hcounters
  have hbound := h.length_le
  refine hcounters ▸ List.Nodup.map_on (fun m hm n hn heq => ?_) List.nodup_range
  have hm := List.mem_range.1 hm
  have hn := List.mem_range.1 hn
  exact (Channel.counter_atCounter_inj (by omega) (by omega)).1 heq

/-- The vectors in the log are among those of the counter values, which all differ. -/
theorem nodup_vectors (h : Logged c 0 entries events s) (hopen : c.keys? = some keys) :
    (entries.flatMap Transmission.vectors).Nodup := by
  have hvectors := Channel.nodup_vectors c keys h.length_le
  rw [← h.channels_eq, List.flatMap_map] at hvectors
  have hsublist (t : Transmission ε) (ht : t ∈ entries) :
      t.vectors.Sublist (t.channel.vectors keys) :=
    Transmission.vectors_sublist (h.keys?_eq hopen ht)
  exact hvectors.sublist (List.Sublist.flatMap_right _ hsublist)

end Logged

variable [Transport τ ε]

/-- **The lifetime of a channel** from the session that it was created in, during operations
that authenticate and select nothing. -/
structure Lifetime (c : Channel) (keys : SessionKeys) (ops : List Operation) (s : Session τ) :
    Prop where
  /-- What is handed to the transport, frame requests apart, is what the log says. -/
  messages : secureMessages (history (ε := ε) ops s) = (log ops s).map Transmission.message
  /-- The `n`-th command is protected at the counter value `n`. -/
  protects : ∀ n (h : n < (log (ε := ε) ops s).length), n < 65535 ∧
    (log ops s)[n].channel = c.atCounter n ∧
    ((log ops s)[n].command.protect.run (c.atCounter n)).result = .ok (log ops s)[n].message
  /-- No counter value protects two commands. -/
  counters : ((log (ε := ε) ops s).map fun t => t.channel.counter).Nodup
  /-- While the channel lives, its counter is the number of commands sent so far. -/
  counter_eq : ∀ c' ∈ (after (ε := ε) ops s).channel,
    c' = c.atCounter (log (ε := ε) ops s).length ∧
      c'.counter.toNat = (log (ε := ε) ops s).length
  /-- The vectors in the log are those of the data that was sent and accepted. -/
  enciphered : ∀ t ∈ log ops s, t.Enciphered keys
  /-- No two of the vectors are the same. -/
  vectors : ((log ops s).flatMap Transmission.vectors).Nodup

/-- **In the lifetime of a channel** the `n`-th secure command is protected at the counter
value `n`, the counter is the number of commands sent, and no two messages share an
initialization vector. -/
theorem lifetime {s s₁ : Session τ} {keyNumber : KeyNumber} {key : Key} {nonce : Nonce}
    {events : List (Event ε)}
    (hauth : (authenticate keyNumber key nonce : SessionM τ ε Unit).run s = ⟨.ok (), s₁, events⟩)
    {ops : List Operation} (hanew : ∀ op ∈ ops, op.beginsAnew = false) :
    ∃ ti keys, s₁.channel = some (Channel.fresh keyNumber ti keys) ∧
      Lifetime (Channel.fresh keyNumber ti keys) keys ops s₁ := by
  obtain ⟨ti, keys, hchannel⟩ := channel_of_authenticate hauth
  have hcounted : Counted (Channel.fresh keyNumber ti keys) 0 s₁ := by
    refine ⟨Nat.zero_le _, fun c' hc' => ?_⟩
    rw [hchannel] at hc'
    cases hc'
    rfl
  have hopen := Channel.keys?_fresh keyNumber ti keys
  have hlogged := history_logged (ε := ε) hopen hcounted hanew
  have hbound := hlogged.length_le
  refine ⟨ti, keys, hchannel, hlogged.messages, fun n hn => ⟨by omega, ?_, ?_⟩,
    hlogged.nodup_counters, fun c' hc' => ?_, fun t ht => ?_, hlogged.nodup_vectors hopen⟩
  · exact hlogged.channel_getElem hn
  · rw [← hlogged.channel_getElem hn]
    exact hlogged.protects _ (List.getElem_mem hn)
  · have heq := hlogged.counted.channel_eq c' hc'
    rw [Nat.zero_add] at heq
    exact ⟨heq, by rw [heq, Channel.toNat_counter_atCounter _ hbound]⟩
  · exact Transmission.enciphered (hlogged.keys?_eq hopen ht) (hlogged.protects t ht)

/-- A tag that authenticates the reader with the default key and is read from once. -/
def readOnce : Script :=
  let key := Key.factoryDefault
  let nonce := Block.ofFn UInt8.ofNat
  let keys := SessionKeys.derive key .zero nonce
  let ti := Word.mk 0x01 0x02 0x03 0x04
  ⟨[Handshake.challengeAnswer key nonce,
    Handshake.Confirmation.answer key .operationOk ⟨ti, .zero, .zero, .zero, .zero⟩,
    .coded keys ti 1 .operationOk [0x03, 0x27, 0xD1]]⟩

/-- A command is answered, the next one is lost, and a third one is not sent any more. -/
theorem lifetime_readOnce :
    let o := (authenticate 0 .factoryDefault .zero : SessionM Script Unit Unit).run
      (begin readOnce)
    let ops := [.readData 2 0 3 .mac, .writeData 2 0 [0x05] .full, .cardUid]
    (o.result = .ok () ∧ (∀ op ∈ ops, op.beginsAnew = false) ∧ (log ops o.state).length = 2) ∧
      ∃ ti keys, o.state.channel = some (Channel.fresh 0 ti keys) ∧
        Lifetime (Channel.fresh 0 ti keys) keys ops o.state := by
  intro o ops
  have hauth : o.result = .ok () := by decide +kernel
  have hanew : ∀ op ∈ ops, op.beginsAnew = false := by decide
  have hlength : (log ops o.state).length = 2 := by decide +kernel
  exact ⟨⟨hauth, hanew, hlength⟩, lifetime (Outcome.eq_of_result hauth) hanew⟩

end Session

end Ev2Reader
