import Ev2Reader.Proofs.Session.Operation
import Ev2Reader.Proofs.Tag.Handshake

/-!
# Reader and Tag in Lock Step

The reader runs operations against an honest tag, over a link that loses exchanges wherever
it likes. Whenever the reader holds a channel, the tag is in step with it; so the tag never
finds a code wrong, and the reader never reports that the tag's is.

The caller is to hand over the value of the key that it names. Under another value the
handshake fails, unless the ciphers under the two keys happen to agree on its nonces, which
nothing in the protocol excludes. So `HoldsKeys` asks for the right value wherever an
authentication succeeds, and for nothing where it fails.

## Main results

* `execute_keeps`, `perform_keeps` — a command and an operation keep reader and tag in step;
* `lockstep` — **so does every run of operations.**
-/

namespace Ev2Reader

open Procedure

namespace Answered

variable {c c' : Channel} {keys : SessionKeys} {answer : Response} {tag : Tag}
  {protection : Protection}

/-- An answer that the reader accepts leaves the tag in step. -/
theorem inStep_of_accepted (h : Answered c keys answer tag) {data : Bytes}
    (haccepted : c.Accepted answer protection data) : InStep c.next keys tag := by
  obtain ⟨keys', body, -, hgenuine⟩ := haccepted.genuine
  cases h with
  | refused hstatus =>
    rw [hgenuine.success] at hstatus
    cases hstatus
  | bare hdata =>
    have hlength := congrArg List.length (hdata.symm.trans hgenuine.coded)
    rw [List.length_append, AuthenticationCode.length_ofResponse] at hlength
    cases hlength
  | coded _ hstep => exact hstep

/-- No answer of the tag is refused for its code. -/
theorem not_forged (h : Answered c keys answer tag) (hkeys : c.keys? = some keys) :
    ¬ c.Refused answer protection .integrityFailure c' := by
  intro hrefused
  cases hrefused with
  | forged hkeys' hsuccess _ hdata hcode hforged =>
    obtain rfl := Option.some.inj (hkeys.symm.trans hkeys')
    cases h with
    | refused hstatus =>
      rw [hsuccess] at hstatus
      cases hstatus
    | bare hempty =>
      have hlength := congrArg List.length (hempty.symm.trans hdata)
      rw [List.length_append, hcode] at hlength
      cases hlength
    | coded hcoded =>
      obtain ⟨rfl, rfl⟩ := List.append_inj' (hdata.symm.trans hcoded) hcode
      exact hforged rfl

/-- **No answer of a tag in step is blamed on its code.** -/
theorem receive_ne (h : Answered c keys answer tag) (hkeys : c.keys? = some keys)
    {command : SecureCommand} {e : Fault}
    (hreceive : ((command.receive answer).run c).result = .error e) : e ≠ .integrityFailure := by
  rintro rfl
  cases hends : command.endsSession with
  | true =>
    rw [SecureCommand.run_receive_of_endsSession hkeys hends] at hreceive
    cases hstatus : answer.status.isSuccess <;> simp [hstatus] at hreceive
  | false =>
    rw [SecureCommand.receive_of_not_endsSession hends] at hreceive
    rcases Channel.accepted_or_refused c command.protection answer with
      ⟨data, haccepted⟩ | ⟨e, c', hrefused⟩
    · obtain ⟨_, hrun⟩ := Channel.run_of_accepted haccepted
      rw [hrun] at hreceive
      cases hreceive
    · obtain ⟨_, hrun⟩ := Channel.run_of_refused hrefused
      rw [hrun] at hreceive
      cases hreceive
      exact h.not_forged hkeys hrefused

end Answered

namespace Session

/-- **Reader and tag in lock step:** the tag is in step with the channel of the reader, if it
has one, and has found as many codes wrong as at the start. -/
structure Lockstep (forged : Nat) (s : Session Link) : Prop where
  /-- The tag has found this many codes wrong. -/
  forged_eq : s.transport.tag.forged = forged
  /-- The tag is in step with the channel of the reader, if it has one. -/
  inStep : ∀ c ∈ s.channel, ∃ keys, InStep c keys s.transport.tag

/-- What is done keeps reader and tag in lock step and blames no code. -/
structure Keeps {α : Type} (forged : Nat)
    (o : Outcome (Session Link) (Event Unit) (SessionFault Unit) α) : Prop where
  /-- Reader and tag are in lock step afterwards. -/
  kept : Lockstep forged o.state
  /-- No code is blamed. -/
  harmless : o.result ≠ .error (.internal .integrityFailure)

variable {forged : Nat} {s : Session Link}

/-- Without a channel nothing has to be in step. -/
theorem Lockstep.of_none {link : Link} (h : link.tag.forged = forged) :
    Lockstep forged ⟨link, none⟩ :=
  ⟨h, fun _ hc => nomatch hc⟩

/-- **A command keeps reader and tag in lock step**, however it ends. -/
theorem execute_keeps (h : Lockstep forged s) (command : SecureCommand) :
    Keeps forged ((execute command : SessionM Link Unit Bytes).run s) := by
  cases hchannel : s.channel with
  | none =>
    rw [run_execute_none command hchannel]
    exact ⟨h, by simp⟩
  | some c =>
    obtain ⟨keys, hstep⟩ := h.inStep c hchannel
    have hexecuted := executed (ε := Unit) hchannel hstep.keys_eq command
    generalize (execute command : SessionM Link Unit Bytes).run s = o at hexecuted
    -- Where the channel is dropped, only the count of wrong codes is left to show.
    cases hexecuted with
    | tooLong => exact ⟨h, by simp⟩
    | exhausted => exact ⟨.of_none h.forged_eq, by simp⟩
    | lost _ _ hprotect _ hexchange =>
      obtain ⟨hforged, hfault⟩ := forged_of_exchange_error hstep hprotect hexchange
      exact ⟨.of_none (hforged.trans h.forged_eq), by simpa using hfault⟩
    | refused _ _ hprotect _ hexchange hreceive =>
      obtain ⟨hforged, hanswered⟩ := answered_of_exchange_ok hstep hprotect hexchange
      have hfault := hanswered.receive_ne hstep.keys_eq hreceive
      exact ⟨.of_none (hforged.trans h.forged_eq), by simpa using hfault⟩
    | ended _ _ hprotect _ hexchange =>
      obtain ⟨hforged, -⟩ := answered_of_exchange_ok hstep hprotect hexchange
      exact ⟨.of_none (hforged.trans h.forged_eq), by simp⟩
    | accepted _ _ hprotect _ hexchange _ haccepted =>
      obtain ⟨hforged, hanswered⟩ := answered_of_exchange_ok hstep hprotect hexchange
      refine ⟨⟨hforged.trans h.forged_eq, fun c' hc' => ?_⟩, by simp⟩
      cases hc'
      exact ⟨keys, hanswered.inStep_of_accepted haccepted⟩

/-- Commands one after the other keep reader and tag in lock step. -/
theorem executeEach_keeps (h : Lockstep forged s) (commands : List (Except Fault SecureCommand))
    (hcommands : ∀ e, .error e ∈ commands → e ≠ .integrityFailure) :
    Keeps forged ((executeEach commands : SessionM Link Unit Unit).run s) := by
  refine executeEach_induction (ε := Unit) (motive := fun commands s o =>
    (∀ e, .error e ∈ commands → e ≠ .integrityFailure) → Lockstep forged s → Keeps forged o)
    ?_ ?_ ?_ ?_ commands s hcommands h
  · intro s _ h
    exact ⟨h, by simp⟩
  · intro e rest s hcommands h
    have hfault := hcommands e List.mem_cons_self
    exact ⟨h, by simpa using hfault⟩
  · intro command rest s fault s' events hrun _ h
    have hkeeps := execute_keeps h command
    rw [hrun] at hkeeps
    exact ⟨hkeeps.kept, by simpa using hkeeps.harmless⟩
  · intro command rest s data s' events o hrun ih hcommands h
    have hkeeps := execute_keeps h command
    rw [hrun] at hkeeps
    have hrest := ih (fun e he => hcommands e (List.mem_cons_of_mem _ he)) hkeeps.kept
    exact ⟨hrest.kept, hrest.harmless⟩

/-- Selecting the application leaves no channel, so it keeps reader and tag in lock step. -/
theorem select_keeps (h : Lockstep forged s) :
    Keeps forged ((perform .selectApplication : SessionM Link Unit Bytes).run s) := by
  obtain ⟨hstate, hresult⟩ := run_selectApplication (ε := Unit) s
  have hrespond (choice : Choice) :
      (s.transport.tag.respond choice selectMessage).2.forged = s.transport.tag.forged := rfl
  have hforged := Link.forged_of_transmit hrespond
    (Prod.eta (Transport.transmit s.transport selectMessage)).symm
  constructor
  · rw [hstate]
    exact .of_none (hforged.trans h.forged_eq)
  · rw [hresult]
    split
    · simp
    · split <;> simp

/-- An authentication that fails, or succeeds under the tag's key, keeps reader and tag in
lock step. -/
theorem authenticate_keeps (h : Lockstep forged s) {number : KeyNumber} {key : Key}
    {nonce : Nonce}
    (hkey : ((authenticate number key nonce : SessionM Link Unit Unit).run s).result = .ok () →
      s.transport.tag.key? number = some key) :
    Keeps forged ((authenticate number key nonce : SessionM Link Unit Unit).run s) := by
  have hrun := run_authenticate (ε := Unit) number key nonce s
  have hagreed := handshake_inStep number key nonce ⟨s.transport, none⟩
  rw [hrun] at hkey ⊢
  dsimp only at hagreed hkey ⊢
  generalize (handshake number key nonce : SessionM Link Unit Channel).run ⟨s.transport, none⟩ = o
    at hagreed hkey
  obtain ⟨e | c, s', events⟩ := o
  · refine ⟨.of_none (hagreed.forged.trans h.forged_eq), fun heq => hagreed.harmless ?_⟩
    cases heq
    rfl
  · refine ⟨⟨hagreed.forged.trans h.forged_eq, fun c' hc' => ?_⟩, by simp [Except.map]⟩
    cases hc'
    exact hagreed.inStep (hkey rfl) c rfl

/-- The authentication that an operation is, if it succeeds, is under the tag's key. -/
def HoldsKey (op : Operation) (s : Session Link) : Prop :=
  ∀ number key nonce, op = .authenticate number key nonce →
    ((perform op : SessionM Link Unit Bytes).run s).result = .ok [] →
      s.transport.tag.key? number = some key

/-- **An operation keeps reader and tag in lock step.** -/
theorem perform_keeps (h : Lockstep forged s) {op : Operation} (hkey : HoldsKey op s) :
    Keeps forged ((perform op : SessionM Link Unit Bytes).run s) := by
  by_cases hanew : op.beginsAnew = true
  · cases op with
    | selectApplication => exact select_keeps h
    | authenticate number key nonce =>
      have hrun := run_perform_authenticate (ε := Unit) number key nonce s
      have hkeeps := authenticate_keeps h fun hok => hkey number key nonce rfl <| by
        rw [hrun, hok]
        rfl
      rw [hrun]
      exact ⟨hkeeps.kept, fun heq => hkeeps.harmless (map_eq_error_iff.1 heq)⟩
    | execute | changeFileSettings | changeKey | writeData | readData | cardUid | close =>
      cases hanew
  · by_cases hclose : op = .close
    · subst hclose
      obtain ⟨hresult, hstate, -⟩ := run_perform_close (ε := Unit) s
      refine ⟨?_, by rw [hresult]; simp⟩
      rw [hstate]
      exact .of_none h.forged_eq
    · have hkeeps := executeEach_keeps h (op.commands s.channel) fun e he => ?_
      · rw [run_perform (by simpa using hanew) hclose] at hkeeps
        exact ⟨hkeeps.kept, fun heq => hkeeps.harmless (map_eq_error_iff.2 heq)⟩
      · rintro rfl
        rcases Operation.commands_harmless he with ⟨-, heq⟩ | heq <;> cases heq

/-! ### Runs -/

/-- Every authentication of a run that succeeds is under the tag's key. -/
def HoldsKeys : List Operation → Session Link → Prop
  | [], _ => True
  | op :: ops, s =>
    HoldsKey op s ∧ HoldsKeys ops ((perform op : SessionM Link Unit Bytes).run s).state

/-- What the operations of a run end in, one after the other. -/
def results {τ ε : Type} [Transport τ ε] :
    List Operation → Session τ → List (Except (SessionFault ε) Bytes)
  | [], _ => []
  | op :: ops, s =>
    let o := (perform op : SessionM τ ε Bytes).run s
    o.result :: results ops o.state

/-- A run keeps reader and tag in lock step and blames no code. -/
theorem run_keeps (h : Lockstep forged s) {ops : List Operation} (hkeys : HoldsKeys ops s) :
    Lockstep forged (after (ε := Unit) ops s) ∧
      .error (.internal .integrityFailure) ∉ results ops s := by
  induction ops generalizing s with
  | nil => exact ⟨h, List.not_mem_nil⟩
  | cons op ops ih =>
    have hkeeps := perform_keeps h hkeys.1
    obtain ⟨hlockstep, hresults⟩ := ih hkeeps.kept hkeys.2
    refine ⟨hlockstep, fun hmem => ?_⟩
    rcases List.mem_cons.1 hmem with heq | hmem
    · exact hkeeps.harmless heq.symm
    · exact hresults hmem

/-- **Reader and tag run in lock step** over a link that loses any exchanges. After any
operations, a channel that the reader holds is open, and the tag has a session with its key
number, its transaction identifier, its session keys and its counter; the tag never found the
code of a command wrong; and the reader never found that of an answer wrong. -/
theorem lockstep (link : Link) {ops : List Operation} (hkeys : HoldsKeys ops (begin link)) :
    (∀ c ∈ (after (ε := Unit) ops (begin link)).channel, ∃ keys, c.keys? = some keys ∧
      (after (ε := Unit) ops (begin link)).transport.tag.session =
        some ⟨c.keyNumber, c.transactionId, keys, c.counter⟩) ∧
    (after (ε := Unit) ops (begin link)).transport.tag.forged = link.tag.forged ∧
    .error (.internal .integrityFailure) ∉ results (ε := Unit) ops (begin link) := by
  have hbegin : Lockstep link.tag.forged (begin link) := .of_none rfl
  obtain ⟨hlockstep, hresults⟩ := run_keeps hbegin hkeys
  refine ⟨fun c hc => ?_, hlockstep.forged_eq, hresults⟩
  obtain ⟨keys, hstep⟩ := hlockstep.inStep c hc
  exact ⟨keys, hstep.keys_eq, hstep.session⟩

/-- A choice of the tag that refuses nothing and answers three bytes in two frames. -/
def plainChoice : Choice where
  rejection := ⟨.integrityError, rfl, by decide⟩
  refusal := none
  keepsSession := false
  completion := ⟨.operationOk, rfl⟩
  nonce := Block.ofFn UInt8.ofNat
  transactionId := ⟨0x01, 0x02, 0x03, 0x04⟩
  capabilities := (.zero, .zero, .zero)
  body := [0x03, 0x27, 0xD1]
  cuts := [5]

/-- A tag as it leaves the factory, on a link that is down after four exchanges. -/
def factoryLink : Link where
  tag := ⟨fun _ => .factoryDefault, none, none, none, 0⟩
  script := List.replicate 4 (.delivered plainChoice)

/-- The tag is read from, and its answer comes in two frames. -/
theorem lockstep_factoryLink :
    let ops := [.authenticate 0 .factoryDefault .zero, .readData 2 0 3 .mac]
    (HoldsKeys ops (begin factoryLink) ∧
      (after (ε := Unit) ops (begin factoryLink)).channel.map Channel.counter = some 1) ∧
    (∀ c ∈ (after (ε := Unit) ops (begin factoryLink)).channel, ∃ keys, c.keys? = some keys ∧
      (after (ε := Unit) ops (begin factoryLink)).transport.tag.session =
        some ⟨c.keyNumber, c.transactionId, keys, c.counter⟩) ∧
    (after (ε := Unit) ops (begin factoryLink)).transport.tag.forged = factoryLink.tag.forged ∧
    .error (.internal .integrityFailure) ∉ results (ε := Unit) ops (begin factoryLink) := by
  intro ops
  have hkeys : HoldsKeys ops (begin factoryLink) := by
    refine ⟨fun number key nonce hop _ => ?_, (fun _ _ _ hop => nomatch hop), trivial⟩
    cases hop
    rfl
  have hcounter : (after (ε := Unit) ops (begin factoryLink)).channel.map Channel.counter =
      some 1 := by decide +kernel
  exact ⟨⟨hkeys, hcounter⟩, lockstep factoryLink hkeys⟩

end Session

end Ev2Reader
