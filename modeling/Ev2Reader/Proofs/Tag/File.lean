import Mathlib.Algebra.BigOperators.Group.List.Basic
import Mathlib.Algebra.GroupWithZero.Nat
import Ev2Reader.Proofs.Session.Chaining
import Ev2Reader.Proofs.Session.Writing
import Ev2Reader.Proofs.Tag.InStep

/-!
# A Tag with a File

An honest tag that keeps a file. It reads a secure command under its own counter, carries it out
on the bytes of the file, and lets the file say what its answer is. Whatever the file does not
know it refuses. The answers are cut into frames of at most 256 bytes.

## Main results

* `carryOut?_eq` — a data command of a reader in step is read as what it is;
* `yields_serve` — the frames of an answer come one after the other;
* `execute_inStep` — **a command that the file carries out is answered**, and leaves reader and
  tag in step.
-/

namespace Ev2Reader

/-! ### Frames -/

/-- **How a tag cuts its answers.** -/
structure Framing where
  /-- The lengths of the frames in front of the last one. -/
  cuts : Bytes → List Nat
  /-- The last frame alone may be empty. -/
  pos_of_mem : ∀ answer, ∀ n ∈ cuts answer, 0 < n
  /-- A frame has at most 256 bytes. -/
  le_of_mem : ∀ answer, ∀ n ∈ cuts answer, n ≤ 256
  /-- The frames are no longer than the answer. -/
  sum_le : ∀ answer, (cuts answer).sum ≤ answer.length
  /-- So has the last one. -/
  length_le : ∀ answer, answer.length ≤ (cuts answer).sum + 256

namespace Framing

/-- The number of frames of an answer. -/
def frames (framing : Framing) (answer : Bytes) : Nat :=
  (framing.cuts answer).length + 1

/-- There is no more than one frame for each byte, and the last one. -/
theorem frames_le (framing : Framing) (answer : Bytes) :
    framing.frames answer ≤ answer.length + 1 := by
  have hsum := List.length_le_sum_of_one_le _ (framing.pos_of_mem answer)
  have hle := framing.sum_le answer
  rw [frames]
  omega

/-- Every frame but the last is full. -/
def full : Framing where
  cuts answer := List.replicate ((answer.length - 1) / 256) 256
  pos_of_mem _ n hn := by rw [List.eq_of_mem_replicate hn]; decide
  le_of_mem _ n hn := Nat.le_of_eq (List.eq_of_mem_replicate hn)
  sum_le answer := by rw [List.sum_replicate_nat]; omega
  length_le answer := by rw [List.sum_replicate_nat]; omega

/-- Sixteen full frames are 4096 bytes. -/
theorem frames_full_le_iff {answer : Bytes} : full.frames answer ≤ 16 ↔ answer.length ≤ 4096 := by
  rw [frames, full, List.length_replicate]
  omega

end Framing

/-- There is a piece for each length. -/
theorem length_cut (lengths : List Nat) (data : Bytes) :
    (cut lengths data).1.length = lengths.length := by
  induction lengths generalizing data with
  | nil => rfl
  | cons n lengths ih => exact congrArg (· + 1) (ih (data.drop n))

/-! ### The file -/

/-- The content of a file with the bytes from `offset` replaced. -/
def splice (content : Bytes) (offset : Nat) (data : Bytes) : Bytes :=
  content.take offset ++ data ++ content.drop (offset + data.length)

/-- **A tag with a file.** -/
structure FileTag where
  /-- The tag. -/
  tag : Tag
  /-- The number of the file. -/
  number : UInt8
  /-- The bytes of the file. -/
  content : Bytes
  /-- How commands to the file are protected. -/
  protection : Protection
  /-- How answers are cut. -/
  framing : Framing
  /-- What else is up to the tag. -/
  choice : Choice

namespace FileTag

/-- File, offset and length of the header of a data command. -/
def readHeader? : Bytes → Option (UInt8 × Nat × Nat)
  | [file, o₀, o₁, o₂, l₀, l₁, l₂] =>
    some (file, (fromThree o₀ o₁ o₂).toNat, (fromThree l₀ l₁ l₂).toNat)
  | _ => none

/-- **What a file makes of a command**: the data of the answer, and its content after it. Data is
written if it is as long as it says; a length of zero reads to the end. -/
def access (content : Bytes) (ins : UInt8) (offset length : Nat) (data : Bytes) :
    Option (Bytes × Bytes) :=
  if ins = SecureCommand.writeDataIns then
    if length = data.length ∧ offset + length ≤ content.length then
      some ([], splice content offset data)
    else none
  else if ins = SecureCommand.readDataIns then
    if length = 0 then
      if offset ≤ content.length then some (content.drop offset, content) else none
    else if offset + length ≤ content.length then
      some ((content.drop offset).take length, content)
    else none
  else none

/-- Data that ends within the file is written at its offset. -/
theorem access_writeData {content data : Bytes} {offset : Nat}
    (h : offset + data.length ≤ content.length) :
    access content SecureCommand.writeDataIns offset data.length data =
      some ([], splice content offset data) := by
  rw [access, if_pos rfl, if_pos ⟨rfl, h⟩]

/-- A part that ends within the file is read. -/
theorem access_readData {content data : Bytes} {offset length : Nat} (hlength : length ≠ 0)
    (h : offset + length ≤ content.length) :
    access content SecureCommand.readDataIns offset length data =
      some ((content.drop offset).take length, content) := by
  rw [access, if_neg (by decide), if_pos rfl, if_neg hlength, if_pos h]

/-- A length of zero reads to the end of the file. -/
theorem access_readRest {content data : Bytes} {offset : Nat} (h : offset ≤ content.length) :
    access content SecureCommand.readDataIns offset 0 data =
      some (content.drop offset, content) := by
  rw [access, if_neg (by decide), if_pos rfl, if_pos rfl, if_pos h]

/-- What the tag makes of a message if it is a command to the file. -/
def carryOut? (t : FileTag) (session : TagSession) (message : Bytes) : Option (Bytes × Bytes) :=
  match readCommand? session.keys session.transactionId session.counter t.protection
    SecureCommand.dataHeaderSize message with
  | none => none
  | some (ins, header, data) =>
    match readHeader? header with
    | none => none
    | some (file, offset, length) =>
      if file = t.number then access t.content ins offset length data else none

/-- The protected answer with some data, under the raised counter. -/
def answer (t : FileTag) (session : TagSession) (data : Bytes) : Response :=
  .coded session.keys session.transactionId (session.counter + 1) t.choice.completion.status
    (t.protection.wrap session.keys .response session.transactionId (session.counter + 1) data)

/-- The choice to give an answer with some data. -/
def answering (t : FileTag) (session : TagSession) (data : Bytes) : Choice :=
  { t.choice with
    refusal := none
    body := t.protection.wrap session.keys .response session.transactionId
      (session.counter + 1) data
    cuts := t.framing.cuts (t.answer session data).data }

/-- The choice to refuse. -/
def refusing (t : FileTag) : Choice :=
  { t.choice with refusal := some t.choice.rejection }

/-- The choice for a command that the file carries out, and the content after it. -/
def granted? (t : FileTag) (message : Bytes) : Option (Choice × Bytes) :=
  match t.tag.session with
  | none => none
  | some session =>
    (t.carryOut? session message).map fun (data, content) => (t.answering session data, content)

/-- **The answer of the tag to a message**, and the tag after it. -/
def respond (t : FileTag) (message : Bytes) : Response × FileTag :=
  match t.granted? message with
  | some (choice, content) =>
    ((t.tag.respond choice message).1,
      { t with tag := (t.tag.respond choice message).2, content })
  | none =>
    ((t.tag.respond t.refusing message).1,
      { t with tag := (t.tag.respond t.refusing message).2 })

/-- A file tag answers every message. -/
instance : Transport FileTag Unit where
  transmit t message := (.ok (t.respond message).1, (t.respond message).2)

end FileTag

/-! ### What the tag makes of a message -/

/-- The tag's side of the session of a channel. -/
def Channel.counterpart (c : Channel) (keys : SessionKeys) : TagSession :=
  ⟨c.keyNumber, c.transactionId, keys, c.counter⟩

/-- A request for a frame is no secure command: it has no code. -/
theorem readCommand?_additionalFrameRequest (keys : SessionKeys) (ti : Word) (counter : UInt16)
    (protection : Protection) (headerLength : Nat) :
    readCommand? keys ti counter protection headerLength Apdu.additionalFrameRequest = none := by
  have hcode (header body : Bytes) : AuthenticationCode.ofCommand keys.mac
      Apdu.additionalFrameIns counter ti header body ≠ [] := by
    apply List.ne_nil_of_length_pos
    rw [AuthenticationCode.length_ofCommand]
    decide
  simp [readCommand?, Apdu.readNative?_additionalFrameRequest, Channel.splitCode,
    (hcode _ _).symm]

/-- A tag in step answers a data command that it does not refuse. -/
theorem Tag.respond_of_inStep {c : Channel} {keys : SessionKeys} {tag : Tag}
    (h : InStep c keys tag) {command : SecureCommand} {message : Bytes}
    (hprotect : (command.protect.run c).result = .ok message)
    (hins : command.ins = SecureCommand.writeDataIns ∨ command.ins = SecureCommand.readDataIns)
    {choice : Choice} (hrefusal : choice.refusal = none) :
    tag.respond choice message =
      tag.answer choice (c.counterpart keys) := by
  obtain ⟨rfl, -, hfits⟩ := SecureCommand.of_protect_ok h.keys_eq hprotect
  have hframe : command.ins ≠ Apdu.additionalFrameIns := by
    rcases hins with hins | hins <;> rw [hins] <;> decide
  have hauthenticate : command.ins ≠ Handshake.authenticateIns := by
    rcases hins with hins | hins <;> rw [hins] <;> decide
  have hkey : command.ins ≠ SecureCommand.changeKeyIns := by
    rcases hins with hins | hins <;> rw [hins] <;> decide
  have hcode := AuthenticationCode.ofCommand_append keys.mac command.ins c.counter
    c.transactionId command.header
    (command.protection.wrap keys .command c.transactionId c.counter command.data)
  simp only [respond, SecureCommand.message, Apdu.readNative?_nativeMessage _ hfits]
  rw [if_neg hframe, if_neg hauthenticate]
  obtain ⟨_, _, _, _, _⟩ := tag
  obtain ⟨-, rfl, rfl, rfl⟩ := h
  simp only [secure, SecureCommand.field, Channel.splitCode_field, hcode, if_true, hrefusal,
    carryOut, hkey, if_false, Channel.counterpart]

namespace FileTag

variable {c : Channel} {keys : SessionKeys} {t : FileTag} {command : SecureCommand}
  {message data : Bytes} {offset length : UInt32}

/-- **The header of a data command is read back** if its numbers are addresses. -/
theorem readHeader?_eq (file : UInt8) (hoffset : offset.toNat < SecureCommand.addressBound)
    (hlength : length.toNat < SecureCommand.addressBound) :
    readHeader? (file :: threeBytes offset ++ threeBytes length) =
      some (file, offset.toNat, length.toNat) := by
  simp only [threeBytes, List.cons_append, List.nil_append, readHeader?,
    fromThree_threeBytes hoffset, fromThree_threeBytes hlength]

/-- **A data command of a reader in step** is read as what it is. -/
theorem carryOut?_eq (h : c.keys? = some keys)
    (hprotect : (command.protect.run c).result = .ok message)
    (hprotection : command.protection = t.protection)
    (hheader : command.header = t.number :: threeBytes offset ++ threeBytes length)
    (hoffset : offset.toNat < SecureCommand.addressBound)
    (hlength : length.toNat < SecureCommand.addressBound) :
    t.carryOut? (c.counterpart keys) message =
      access t.content command.ins offset.toNat length.toNat command.data := by
  have hread := readCommand?_protected h hprotect
  have hsize : command.header.length = SecureCommand.dataHeaderSize := by
    rw [hheader]
    rfl
  rw [hprotection, hsize, hheader] at hread
  simp only [carryOut?, Channel.counterpart, hread, readHeader?_eq t.number hoffset hlength,
    if_true]

/-- A request for a frame leaves the file alone. -/
theorem granted?_additionalFrameRequest (t : FileTag) :
    t.granted? Apdu.additionalFrameRequest = none := by
  rw [granted?]
  split
  · rfl
  · rw [carryOut?, readCommand?_additionalFrameRequest]
    rfl

/-- An answer is as long as its wrapped data and the eight bytes of its code. -/
theorem length_answer (t : FileTag) (session : TagSession) (data : Bytes) :
    (t.answer session data).data.length = t.protection.wrappedLength data.length + 8 := by
  rw [answer, Response.coded, List.length_append, Protection.length_wrap]
  rfl

/-- **The frames of an answer come one after the other.** The induction is on the frames in front
of the last one, each of which the tag sends and keeps the others. -/
theorem yields_serve {most : Nat} {pieces : List Bytes} {last : Response} {tag : Tag}
    (hlast : last.status ≠ .additionalFrame) (hcount : pieces.length < most)
    {t t' : FileTag} {message : Bytes}
    (htransmit : Transport.transmit t message =
      ((.ok (tag.serve pieces last).1 : Except Unit Response),
        { t' with tag := (tag.serve pieces last).2 })) :
    Transport.Yields most t message pieces (.last last : Transport.Ending Unit)
      { t' with tag := { tag with unsent := none } } := by
  induction pieces generalizing most tag t message with
  | nil =>
    obtain ⟨most, rfl⟩ := Nat.exists_eq_succ_of_ne_zero (Nat.ne_of_gt hcount)
    exact .last htransmit hlast
  | cons piece pieces ih =>
    obtain ⟨most, rfl⟩ := Nat.exists_eq_succ_of_ne_zero (Nat.ne_zero_of_lt hcount)
    let waiting : Tag := { tag with unsent := some (pieces, last) }
    have hrespond : Transport.transmit { t' with tag := waiting } Apdu.additionalFrameRequest =
        ((.ok (waiting.serve pieces last).1 : Except Unit Response),
          { t' with tag := (waiting.serve pieces last).2 }) := by
      show ((.ok (respond _ _).1 : Except Unit Response), (respond _ _).2) = _
      simp only [respond, granted?_additionalFrameRequest]
      rw [Tag.respond_request rfl]
    exact .more htransmit (ih (Nat.lt_of_succ_lt_succ hcount) hrespond)

/-- The tag in step answers a command that the file carries out, in frames. -/
theorem yields_of_carryOut? {most : Nat} (h : InStep c keys t.tag)
    (hprotect : (command.protect.run c).result = .ok message)
    (hins : command.ins = SecureCommand.writeDataIns ∨ command.ins = SecureCommand.readDataIns)
    {content : Bytes} (hdone : t.carryOut? (c.counterpart keys) message = some (data, content))
    (hframes : t.framing.frames (t.answer (c.counterpart keys) data).data ≤ most) :
    ∃ pieces last tag,
      Transport.Yields most t message pieces
        (.last ⟨t.choice.completion.status, last⟩ : Transport.Ending Unit)
        { t with tag, content } ∧
      pieces.flatten ++ last = (t.answer (c.counterpart keys) data).data ∧
      InStep c.next keys tag := by
  let session := c.counterpart keys
  let whole := (t.answer session data).data
  let parts := cut (t.framing.cuts whole) whole
  let tag : Tag := { t.tag with session := some { session with counter := session.counter + 1 } }
  have hgranted : t.granted? message = some (t.answering session data, content) := by
    have hsession : t.tag.session = some session := h.session
    rw [granted?, hsession]
    exact congrArg (Option.map _) hdone
  have hrespond : t.tag.respond (t.answering session data) message =
      tag.serve parts.1 ⟨t.choice.completion.status, parts.2⟩ :=
    Tag.respond_of_inStep h hprotect hins rfl
  have hcount : parts.1.length < most := by
    rw [length_cut]
    exact hframes
  let written : FileTag := { t with content }
  have htransmit : Transport.transmit t message =
      ((.ok (tag.serve parts.1 ⟨t.choice.completion.status, parts.2⟩).1 : Except Unit Response),
        { written with tag := (tag.serve parts.1 ⟨t.choice.completion.status, parts.2⟩).2 }) := by
    show ((.ok (respond _ _).1 : Except Unit Response), (respond _ _).2) = _
    simp only [respond, hgranted, hrespond, written]
  have hyields : Transport.Yields most t message parts.1
      (.last ⟨t.choice.completion.status, parts.2⟩ : Transport.Ending Unit)
      { written with tag := { tag with unsent := none } } :=
    yields_serve t.choice.completion.final hcount htransmit
  exact ⟨_, _, _, hyields, flatten_cut _ _, h.keys_eq, rfl, h.challenge, rfl⟩

/-- **A command that the file carries out is answered**, and leaves reader and tag in step at the
next counter value. -/
theorem execute_inStep {s : Session FileTag} (hchannel : s.channel = some c)
    (h : InStep c keys s.transport.tag) (hcounter : c.counter ≠ Channel.lastCounter)
    (hfits : command.Fits) (hends : command.endsSession = false)
    (hprotection : command.protection = s.transport.protection)
    (hins : command.ins = SecureCommand.writeDataIns ∨ command.ins = SecureCommand.readDataIns)
    {content : Bytes}
    (hdone : s.transport.carryOut? (c.counterpart keys)
      (command.message keys c.transactionId c.counter) = some (data, content))
    (hframes : s.transport.framing.frames
      (s.transport.answer (c.counterpart keys) data).data ≤ 16) :
    ∃ tag events,
      (Session.execute command : SessionM FileTag Unit Bytes).run s =
        ⟨.ok data, ⟨{ s.transport with tag, content }, some c.next⟩, events⟩ ∧
      InStep c.next keys tag := by
  obtain ⟨notices, hrun⟩ :=
    SecureCommand.protect_of_fits h.keys_eq hcounter (SecureCommand.fits_iff.1 hfits)
  obtain ⟨pieces, last, tag, hyields, hanswer, hstep⟩ :=
    yields_of_carryOut? h (congrArg Outcome.result hrun) hins hdone hframes
  obtain ⟨events, hexecute, -⟩ := Session.run_execute_of_last hchannel hrun hyields
  have hsuccess := s.transport.choice.completion.success
  have hcoded : c.Coded keys ⟨s.transport.choice.completion.status, pieces.flatten ++ last⟩
      (command.protection.wrap keys .response c.transactionId c.next.counter data) := by
    rw [Channel.Coded, hanswer, hprotection]
    rfl
  have hreceive := Channel.run_readAnswer_of_coded h.keys_eq command.protection hsuccess hcounter
    hcoded
  rw [Protection.unwrap_wrap, ← SecureCommand.receive_of_not_endsSession hends] at hreceive
  have hopen : c.next.keys? = some keys := h.keys_eq
  simp only [hreceive, Session.filter_isOpen_of_open hopen] at hexecute
  exact ⟨tag, events, hexecute, hstep⟩

end FileTag

end Ev2Reader
