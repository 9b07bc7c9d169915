import Ev2Reader.Fault
import Ev2Reader.Proofs.File.Reading

/-!
# Settings That Are Admitted

Which file settings can be written, said of the settings alone: no condition names a key that
does not exist, every number that the options and rights require is given and fits three bytes,
and file data is encrypted under a key and by whole blocks. The numbers that are written keep one
fixed order, whatever is left out, so the length of a record is told by how many are required.

What is refused is refused for a defect that the settings have. `Found` says for each defect where
in the settings it is.

## Main results

* `DynamicMessaging.required_eq_filter` — the required numbers are those of a fixed list, in its
  order, and `DynamicMessaging.length_required_le` — they are at most seven;
* `FileSettings.exists_make_iff` — the settings that are admitted;
* `FileSettings.found_of_make_error` — a refusal tells a defect that is there;
* `FileSettings.admission` — **the settings that are admitted, their records, and the defects of
  all others**.
-/

namespace Ev2Reader

/-! ### Conditions -/

/-- **Conditions are valid exactly if** none of them names a key above the fourth. -/
theorem AccessCondition.forall_valid_iff {conditions : List AccessCondition} :
    (∀ c ∈ conditions, c.Valid) ↔ ∀ n, key n ∈ conditions → n ≤ 4 := by
  constructor
  · intro h n hn
    exact KeyNumber.named_iff.1 (h (key n) hn)
  · intro h c hc
    cases c with
    | free | never => trivial
    | key n => exact KeyNumber.named_iff.2 (h n hc)

/-- Access rights are valid exactly if they name no key above the fourth. -/
theorem AccessRights.valid_iff {r : AccessRights} :
    r.Valid ↔ ∀ n, .key n ∈ [r.readWrite, r.change, r.read, r.write] → n ≤ 4 := by
  rw [← AccessCondition.forall_valid_iff]
  simp [Valid]

namespace DynamicMessaging

/-! ### The order of the numbers -/

/-- The order in which numbers are written. -/
def Field.inOrder : List Field :=
  [.uidOffset, .readCounterOffset, .piccDataOffset, .macInputOffset, .encryptedOffset,
    .encryptedLength, .macOffset, .readCounterLimit]

/-- Whether a number is required can be computed. -/
instance (o : Options) (r : Rights) : DecidablePred (Requires o r)
  | .uidOffset | .readCounterOffset | .encryptedOffset | .encryptedLength =>
    inferInstanceAs (Decidable (_ ∧ _))
  | .piccDataOffset | .macInputOffset | .macOffset | .readCounterLimit =>
    inferInstanceAs (Decidable (_ = true))

/-- The numbers for mirrored metadata are those of its fields that are required. -/
theorem metaFields_eq_filter (o : Options) (r : Rights) :
    metaFields o r = [.uidOffset, .readCounterOffset, .piccDataOffset].filter (Requires o r) := by
  unfold metaFields
  cases h : r.metaRead <;> cases huid : o.uid <;> cases hcounter : o.readCounter <;>
    simp [Requires, AccessCondition.isKey, h, huid, hcounter]

/-- The numbers for mirrored file data are those of its fields that are required. -/
theorem fileFields_eq_filter (o : Options) (r : Rights) :
    fileFields o r = [.macInputOffset, .encryptedOffset, .encryptedLength, .macOffset].filter
      (Requires o r) := by
  unfold fileFields
  cases h : r.fileRead <;> cases hdata : o.encryptedData <;>
    simp [Requires, AccessCondition.isKey, h, hdata]

/-- The read counter limit is written exactly if it is required. -/
theorem limitFields_eq_filter (o : Options) (r : Rights) :
    limitFields o = [.readCounterLimit].filter (Requires o r) := by
  unfold limitFields
  cases hlimit : o.readCounterLimit <;> simp [Requires, hlimit]

/-- **The required numbers keep a fixed order.** -/
theorem required_eq_filter (o : Options) (r : Rights) :
    required o r = Field.inOrder.filter (Requires o r) := by
  rw [required, metaFields_eq_filter, fileFields_eq_filter, limitFields_eq_filter o r,
    ← List.filter_append, ← List.filter_append]
  rfl

/-- No more than seven numbers are required: those for a plain and for an encrypted identifier
exclude each other. -/
theorem length_required_le (o : Options) (r : Rights) : (required o r).length ≤ 7 := by
  have hmeta : (metaFields o r).length ≤ 2 := by
    unfold metaFields
    cases r.metaRead <;> cases o.uid <;> cases o.readCounter <;> simp
  have hfile : (fileFields o r).length ≤ 4 := by
    unfold fileFields
    cases r.fileRead <;> cases o.encryptedData <;> simp
  have hlimit : (limitFields o).length ≤ 1 := by
    unfold limitFields
    cases o.readCounterLimit <;> simp
  rw [required, List.length_append, List.length_append]
  omega

/-! ### Sound messaging -/

/-- **Dynamic messaging that can be written.** -/
structure Sound (m : DynamicMessaging) : Prop where
  /-- No right names a key above the fourth. -/
  rights : ∀ n, .key n ∈ [m.rights.counterRetrieval, m.rights.metaRead, m.rights.fileRead] → n ≤ 4
  /-- Every number that is required is given and fits three bytes. -/
  given : ∀ f, Requires m.options m.rights f → ∃ n, m.number f = some n ∧ n.toNat ≤ 0xFFFFFF
  /-- File data is encrypted only under a key. -/
  key : m.options.encryptedData = true → m.rights.fileRead.isKey = true
  /-- It is encrypted by whole blocks, and by one at least. -/
  blocks : m.options.encryptedData = true →
    ∃ n, m.number .encryptedLength = some n ∧ n ≠ 0 ∧ n.toNat % 32 = 0

/-- The rights of dynamic messaging are valid exactly if they name no key above the fourth. -/
theorem Rights.valid_iff {r : Rights} :
    r.Valid ↔ ∀ n, .key n ∈ [r.counterRetrieval, r.metaRead, r.fileRead] → n ≤ 4 := by
  rw [← AccessCondition.forall_valid_iff]
  simp [Valid]

/-- A number can be written exactly if it is given and fits, and a length is one of whole blocks. -/
theorem acceptable_iff {f : Field} {given : Option UInt32} :
    Acceptable f given ↔ (∃ n, given = some n ∧ n.toNat ≤ 0xFFFFFF) ∧
      (f = .encryptedLength → ∃ n, given = some n ∧ n ≠ 0 ∧ n.toNat % 32 = 0) := by
  have hzero (n : UInt32) : n ≠ 0 ↔ n.toNat ≠ 0 := not_congr UInt32.toNat_inj.symm
  cases given with
  | none => simp [Acceptable]
  | some n => simp [Acceptable, numberBound, dataBlock, Nat.lt_succ_iff, hzero]

/-- **Dynamic messaging can be written exactly if it is sound.** -/
theorem exists_encode_iff {m : DynamicMessaging} :
    (∃ bytes, m.encode = .ok bytes) ↔ m.Sound := by
  simp only [encode_eq_ok_iff, exists_and_left, exists_eq, and_true, Rights.valid_iff,
    mem_required_iff, acceptable_iff]
  constructor
  · rintro ⟨hrights, hnumbers, hkey⟩
    exact ⟨hrights, fun f hf => (hnumbers f hf).1, hkey,
      fun hdata => (hnumbers .encryptedLength ⟨hkey hdata, hdata⟩).2 rfl⟩
  · intro h
    refine ⟨h.rights, fun f hf => ⟨h.given f hf, ?_⟩, h.key⟩
    rintro rfl
    exact h.blocks hf.2

/-! ### Defects -/

/-- **Where a defect is** in dynamic messaging. -/
inductive Found (m : DynamicMessaging) : Defect → Prop where
  /-- A right names a key above the fourth. -/
  | unknownKey {n : KeyNumber}
      (hkey : .key n ∈ [m.rights.counterRetrieval, m.rights.metaRead, m.rights.fileRead])
      (hn : ¬ n ≤ 4) : Found m .unknownKey
  /-- A required number is not given. -/
  | missing {f : Field} (hf : Requires m.options m.rights f) (hn : m.number f = none) :
      Found m (.missing f)
  /-- A required number does not fit three bytes. -/
  | tooWide {f : Field} {n : UInt32} (hf : Requires m.options m.rights f)
      (hn : m.number f = some n) (hwide : 0xFFFFFF < n.toNat) : Found m .tooWide
  /-- The length of the encrypted file data is zero or no multiple of its block. -/
  | unevenLength {n : UInt32} (hf : Requires m.options m.rights .encryptedLength)
      (hn : m.number .encryptedLength = some n) (huneven : n = 0 ∨ n.toNat % 32 ≠ 0) :
      Found m .unevenLength
  /-- File data is to be encrypted and there is no key for it. -/
  | dataWithoutKey (hdata : m.options.encryptedData = true)
      (hkey : m.rights.fileRead.isKey = false) : Found m .dataWithoutKey

variable {m : DynamicMessaging} {d : Defect}

/-- A number that is refused has the defect that is told. -/
theorem found_of_encodeNumber_error {f : Field} (hf : Requires m.options m.rights f)
    (h : encodeNumber f (m.number f) = .error d) : m.Found d := by
  cases hn : m.number f with
  | none =>
    rw [hn] at h
    cases h
    exact .missing hf hn
  | some n =>
    rw [hn, encodeNumber] at h
    split at h
    next heven =>
      obtain ⟨rfl, huneven⟩ := heven
      cases h
      exact .unevenLength hf hn (huneven.imp_left fun hzero => UInt32.toNat_inj.1 hzero)
    next =>
      split at h
      · cases h
      next hwide =>
        cases h
        exact .tooWide hf hn (Nat.not_lt.1 hwide)

/-- Numbers that are refused have the defect that is told. The induction is on the numbers: the
defect is that of the first that is refused. -/
theorem found_of_encodeNumbers_error {fs : List Field}
    (hfs : ∀ f ∈ fs, Requires m.options m.rights f)
    (h : encodeNumbers m.number fs = .error d) : m.Found d := by
  induction fs with
  | nil => cases h
  | cons f fs ih =>
    rw [encodeNumbers] at h
    split at h
    next hnumber =>
      cases h
      exact found_of_encodeNumber_error (hfs f List.mem_cons_self) hnumber
    next =>
      split at h
      next hrest =>
        cases h
        exact ih (fun g hg => hfs g (List.mem_cons_of_mem f hg)) hrest
      next => cases h

/-- **A refusal tells a defect** that the dynamic messaging has. -/
theorem found_of_encode_error (h : m.encode = .error d) : m.Found d := by
  have hrequired (fs : List Field) (hfs : fs ⊆ required m.options m.rights) :
      ∀ f ∈ fs, Requires m.options m.rights f := fun f hf => mem_required_iff.1 (hfs hf)
  simp only [encode, bind_eq_error_iff, check_eq_error_iff, pure, Except.pure, reduceCtorEq,
    and_false, exists_false, or_false] at h
  rcases h with
    ⟨hrights, rfl⟩ | ⟨-, -, hmeta | ⟨-, -, ⟨hkey, rfl⟩ | ⟨-, -, hfile | ⟨-, -, hlimit⟩⟩⟩⟩
  · rw [Rights.valid_iff, not_forall] at hrights
    obtain ⟨n, hn⟩ := hrights
    obtain ⟨hkey, hn⟩ := Classical.not_imp.1 hn
    exact .unknownKey hkey hn
  · refine found_of_encodeNumbers_error (hrequired _ ?_) hmeta
    simp [required]
  · rw [Classical.not_imp, Bool.not_eq_true] at hkey
    exact .dataWithoutKey hkey.1 hkey.2
  · refine found_of_encodeNumbers_error (hrequired _ ?_) hfile
    simp [required]
  · refine found_of_encodeNumbers_error (hrequired _ ?_) hlimit
    simp [required]

/-! ### The bytes of dynamic messaging -/

/-- The fields whose numbers are written, in the order in which they are. -/
def writtenFields (m : DynamicMessaging) : List Field :=
  Field.inOrder.filter (Requires m.options m.rights)

/-- **The part of a record** for dynamic messaging. -/
structure Recorded (m : DynamicMessaging) (bytes : Bytes) : Prop where
  /-- The options come first, and then the rights. -/
  head : bytes.take 3 = m.options.bits :: m.rights.bytes
  /-- The numbers that are given for the required fields come next, one after the other. -/
  numbers : ∃ numbers : List UInt32, m.writtenFields.map m.number = numbers.map some ∧
    bytes.drop 3 = numbers.flatMap threeBytes

/-- Three bytes stand in front of the numbers, and each of these is three. -/
theorem length_of_encode {bytes : Bytes} (h : m.encode = .ok bytes) :
    bytes.length = 3 + 3 * m.writtenFields.length := by
  obtain ⟨-, rfl⟩ := encode_eq_ok_iff.1 h
  have hlength : m.numberBytes.length = 3 * (required m.options m.rights).length := by
    simp [numberBytes, List.length_flatMap, Nat.mul_comm]
  rw [List.length_append, hlength, required_eq_filter]
  rfl

/-- **Dynamic messaging that is written** is written as its record says. -/
theorem recorded_of_encode {bytes : Bytes} (h : m.encode = .ok bytes) : m.Recorded bytes := by
  obtain ⟨⟨-, hnumbers, -⟩, rfl⟩ := encode_eq_ok_iff.1 h
  refine ⟨rfl, (required m.options m.rights).map fun f => (m.number f).getD 0, ?_, ?_⟩
  · rw [writtenFields, ← required_eq_filter, List.map_map]
    refine List.map_congr_left fun f hf => ?_
    obtain ⟨n, hn, -⟩ := hnumbers f hf
    simp [hn]
  · rw [List.flatMap_map]
    rfl

end DynamicMessaging

namespace FileSettings

variable {mode : CommunicationMode} {rights : AccessRights} {messaging : Option DynamicMessaging}

/-! ### Settings -/

/-- **Settings that can be written.** -/
structure Sound (rights : AccessRights) (messaging : Option DynamicMessaging) : Prop where
  /-- No access right names a key above the fourth. -/
  conditions : ∀ n, .key n ∈ [rights.readWrite, rights.change, rights.read, rights.write] → n ≤ 4
  /-- Dynamic messaging, if there is any, can be written. -/
  dynamic : ∀ m ∈ messaging, m.Sound

/-- **Where a defect is** in settings. -/
inductive Found (rights : AccessRights) (messaging : Option DynamicMessaging) : Defect → Prop where
  /-- An access right names a key above the fourth. -/
  | unknownKey {n : KeyNumber}
      (hkey : .key n ∈ [rights.readWrite, rights.change, rights.read, rights.write])
      (hn : ¬ n ≤ 4) : Found rights messaging .unknownKey
  /-- The defect is in the dynamic messaging. -/
  | dynamic {m : DynamicMessaging} {d : Defect} (hm : m ∈ messaging) (hd : m.Found d) :
      Found rights messaging d

/-- The number of bytes in a record, by the numbers that are written. -/
def recordLength : Option DynamicMessaging → Nat
  | none => 3
  | some m => 6 + 3 * m.writtenFields.length

/-- **The record of settings.** -/
structure Recorded (mode : CommunicationMode) (rights : AccessRights)
    (messaging : Option DynamicMessaging) (record : Bytes) : Prop where
  /-- The mode comes first, and then the access rights. -/
  head : record.take 3 = fileOption mode messaging.isSome :: rights.bytes
  /-- Dynamic messaging comes next, if there is any. -/
  dynamic : ∀ m ∈ messaging, m.Recorded (record.drop 3)
  /-- The length is told by how many numbers are written. -/
  length : record.length = recordLength messaging
  /-- No record is longer than seven numbers make it. -/
  length_le : record.length ≤ 27

/-- Settings are refused for the defect that writing them finds. -/
theorem encodeSettings_of_make_error {d : Defect} (h : make mode rights messaging = .error d) :
    encodeSettings mode rights messaging = .error d := by
  unfold make at h
  split at h
  · cases h
  next hencode =>
    cases h
    exact hencode

/-- Settings are admitted exactly if there is a record of them. -/
theorem exists_make_iff_exists_encodeSettings :
    (∃ a, make mode rights messaging = .ok a) ↔
      ∃ record, encodeSettings mode rights messaging = .ok record := by
  constructor
  · rintro ⟨a, ha⟩
    obtain ⟨rfl, rfl, rfl⟩ := make_eq_ok_iff.1 ha
    exact ⟨a.encoded, a.encodes⟩
  · rintro ⟨record, hrecord⟩
    exact ⟨⟨mode, rights, messaging, record, hrecord⟩, make_eq_ok_iff.2 ⟨rfl, rfl, rfl⟩⟩

/-- **Settings are admitted exactly if they are sound.** -/
theorem exists_make_iff :
    (∃ a, make mode rights messaging = .ok a) ↔ Sound rights messaging := by
  have hmessaging : (∃ tail, encodeMessaging messaging = .ok tail) ↔ ∀ m ∈ messaging, m.Sound := by
    cases messaging with
    | none => simp [encodeMessaging]
    | some m => simp [encodeMessaging, DynamicMessaging.exists_encode_iff]
  rw [exists_make_iff_exists_encodeSettings]
  constructor
  · rintro ⟨record, hrecord⟩
    obtain ⟨hrights, tail, htail, -⟩ := encodeSettings_eq_ok_iff.1 hrecord
    exact ⟨AccessRights.valid_iff.1 hrights, hmessaging.1 ⟨tail, htail⟩⟩
  · intro h
    obtain ⟨tail, htail⟩ := hmessaging.2 h.dynamic
    exact ⟨_, encodeSettings_eq_ok_iff.2 ⟨AccessRights.valid_iff.2 h.conditions, tail, htail, rfl⟩⟩

/-- **A refusal tells a defect** that the settings have. -/
theorem found_of_make_error {d : Defect} (h : make mode rights messaging = .error d) :
    Found rights messaging d := by
  have h := encodeSettings_of_make_error h
  simp only [encodeSettings, bind_eq_error_iff, check_eq_error_iff, pure, Except.pure,
    reduceCtorEq, and_false, exists_false, or_false] at h
  rcases h with ⟨hrights, rfl⟩ | ⟨-, -, htail⟩
  · rw [AccessRights.valid_iff, not_forall] at hrights
    obtain ⟨n, hn⟩ := hrights
    obtain ⟨hkey, hn⟩ := Classical.not_imp.1 hn
    exact .unknownKey hkey hn
  · cases messaging with
    | none => cases htail
    | some m => exact .dynamic rfl (DynamicMessaging.found_of_encode_error htail)

/-- The length of a record is told by how many numbers are written. -/
theorem length_encoded (a : FileSettings) : a.encoded.length = recordLength a.messaging := by
  obtain ⟨-, tail, htail, hencoded⟩ := encodeSettings_eq_ok_iff.1 a.encodes
  rw [hencoded, List.length_append, List.length_cons, AccessRights.length_bytes]
  cases hmessaging : a.messaging with
  | none =>
    rw [hmessaging] at htail
    cases htail
    rfl
  | some m =>
    rw [hmessaging] at htail
    rw [DynamicMessaging.length_of_encode htail, recordLength]
    omega

/-- At most seven numbers are written, so a record has at most 27 bytes. -/
theorem recordLength_le (messaging : Option DynamicMessaging) : recordLength messaging ≤ 27 := by
  cases messaging with
  | none => decide
  | some m =>
    have hrequired := DynamicMessaging.length_required_le m.options m.rights
    rw [DynamicMessaging.required_eq_filter, ← DynamicMessaging.writtenFields] at hrequired
    rw [recordLength]
    omega

/-- **A record has at most 27 bytes.** -/
theorem length_encoded_le (a : FileSettings) : a.encoded.length ≤ 27 := by
  rw [length_encoded]
  exact recordLength_le a.messaging

/-- **The record of admitted settings** has its parts in their order, and its length. -/
theorem recorded (a : FileSettings) : Recorded a.mode a.rights a.messaging a.encoded := by
  obtain ⟨-, tail, htail, hencoded⟩ := encodeSettings_eq_ok_iff.1 a.encodes
  refine ⟨?_, fun m hm => ?_, a.length_encoded, a.length_encoded_le⟩
  · rw [hencoded]
    rfl
  · rw [Option.mem_def.1 hm] at htail
    rw [hencoded]
    exact DynamicMessaging.recorded_of_encode htail

/-- **The settings that are admitted** are those that are sound. Their record is told by them, and
all others are refused for a defect that they have. -/
theorem admission (mode : CommunicationMode) (rights : AccessRights)
    (messaging : Option DynamicMessaging) :
    ((∃ a, make mode rights messaging = .ok a) ↔ Sound rights messaging) ∧
      (∀ a, make mode rights messaging = .ok a → Recorded mode rights messaging a.encoded) ∧
      ∀ e, (make mode rights messaging).mapError Fault.invalidFileSettings = .error e →
        ∃ d, e = .invalidFileSettings d ∧ Found rights messaging d := by
  refine ⟨exists_make_iff, fun a ha => ?_, fun e he => ?_⟩
  · obtain ⟨rfl, rfl, rfl⟩ := make_eq_ok_iff.1 ha
    exact a.recorded
  · cases hmake : make mode rights messaging with
    | ok a =>
      rw [hmake] at he
      cases he
    | error d =>
      rw [hmake] at he
      cases he
      exact ⟨d, rfl, found_of_make_error hmake⟩

/-- Dynamic messaging with all options and with the identifier and the counter in the plain, which
requires the most numbers. -/
def plainMessaging : DynamicMessaging where
  options := ⟨true, true, true, true, true⟩
  rights := ⟨.key 4, .free, .key 1⟩
  number
    | .uidOffset => some 0x20
    | .readCounterOffset => some 0x30
    | .piccDataOffset => none
    | .macInputOffset => some 0x43
    | .encryptedOffset => some 0x43
    | .encryptedLength => some 0x40
    | .macOffset => some 0xFFFFFF
    | .readCounterLimit => some 1000

/-- The longest record, with every number but the one that is not required. -/
theorem admission_longestRecord :
    let rights : AccessRights := ⟨.key 0, .never, .free, .key 4⟩
    ∃ a, make .full rights (some plainMessaging) = .ok a ∧
      Recorded .full rights (some plainMessaging) a.encoded ∧ a.encoded.length = 27 := by
  intro rights
  obtain ⟨-, hrecorded, -⟩ := admission .full rights (some plainMessaging)
  obtain ⟨record, hencodes⟩ : ∃ record,
      encodeSettings .full rights (some plainMessaging) = .ok record := ⟨_, rfl⟩
  obtain ⟨a, ha⟩ := exists_make_iff_exists_encodeSettings.2 ⟨record, hencodes⟩
  have ha' := hrecorded a ha
  exact ⟨a, ha, ha', ha'.length⟩

end FileSettings

end Ev2Reader
