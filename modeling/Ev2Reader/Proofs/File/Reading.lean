import Mathlib.Data.List.Basic
import Ev2Reader.File.Settings

/-!
# Reading Settings Records

The numbers of a record carry no tags: which of them are there follows from the options and
rights in front of them. This module reads records back by that rule and proves that nothing
else is needed, so a record tells its settings up to the numbers that they do not require, and
tells its own end.

## Main results

* `DynamicMessaging.readNumbers_append`, `DynamicMessaging.read?_append` — numbers, and the part
  of a record for dynamic messaging, are read back in front of anything;
* `FileSettings.read?_encoded_append` — so is a whole record;
* `DynamicMessaging.restricted_eq_iff` — forgetting the numbers that are not required keeps
  exactly what has to agree;
* `FileSettings.record_determines` — **equal records mean equal settings**, up to numbers that
  are not required, and no record is the start of another.
-/

namespace Ev2Reader

/-! ### The first byte -/

/-- The communication mode of two bits. -/
def CommunicationMode.ofBits? : UInt8 → Option CommunicationMode
  | 0 => some plain
  | 1 => some mac
  | 3 => some full
  | _ => none

/-- The communication mode of the first byte of a record, and whether there is dynamic
messaging. -/
def readFileOption? (b : UInt8) : Option (CommunicationMode × Bool) :=
  (CommunicationMode.ofBits? (b &&& ~~~messagingBit)).map fun mode =>
    (mode, b &&& messagingBit = messagingBit)

/-- The first byte of a record is read back. -/
@[simp] theorem readFileOption?_fileOption (mode : CommunicationMode) (hasMessaging : Bool) :
    readFileOption? (fileOption mode hasMessaging) = some (mode, hasMessaging) := by
  cases mode <;> cases hasMessaging <;> rfl

namespace DynamicMessaging

/-! ### Options and rights -/

/-- The options of an option byte. -/
def Options.ofBits (b : UInt8) : Options where
  uid := b &&& 0x80 ≠ 0
  readCounter := b &&& 0x40 ≠ 0
  readCounterLimit := b &&& 0x20 ≠ 0
  encryptedData := b &&& 0x10 ≠ 0
  ascii := b &&& 0x01 ≠ 0

/-- Options are read back from their bits. -/
@[simp] theorem Options.ofBits_bits (o : Options) : ofBits o.bits = o := by
  obtain ⟨uid, readCounter, readCounterLimit, encryptedData, ascii⟩ := o
  revert uid readCounter readCounterLimit encryptedData ascii
  decide

/-- The rights of two bytes, unless a condition in them is reserved. -/
def Rights.ofBytes? (first second : UInt8) : Option Rights := do
  let counterRetrieval ← AccessCondition.ofNibble? (lowNibble first)
  let metaRead ← AccessCondition.ofNibble? (highNibble second)
  let fileRead ← AccessCondition.ofNibble? (lowNibble second)
  return ⟨counterRetrieval, metaRead, fileRead⟩

/-- Valid rights are read back from their bytes. -/
theorem Rights.ofBytes?_bytes {r : Rights} (h : r.Valid) :
    ofBytes? (fromNibbles (lowNibble 0x0F) r.counterRetrieval.nibble)
      (fromNibbles r.metaRead.nibble r.fileRead.nibble) = some r := by
  obtain ⟨hretrieval, hmeta, hfile⟩ := h
  simp [ofBytes?, AccessCondition.ofNibble?_nibble hretrieval,
    AccessCondition.ofNibble?_nibble hmeta, AccessCondition.ofNibble?_nibble hfile]

/-! ### Numbers -/

/-- Reads a number for each of several fields, and leaves the rest of the bytes. -/
def readNumbers : List Field → Bytes → Option ((Field → Option UInt32) × Bytes)
  | [], bytes => some (fun _ => none, bytes)
  | f :: fs, b0 :: b1 :: b2 :: bytes => do
    let (number, rest) ← readNumbers fs bytes
    return (fun g => if g = f then some (fromThree b0 b1 b2) else number g, rest)
  | _ :: _, _ => none

/-- **Acceptable numbers are read back** in front of anything. The induction is on the fields;
each number is three bytes, which are its own since it fits them. -/
theorem readNumbers_append {number : Field → Option UInt32} {fs : List Field}
    (h : ∀ f ∈ fs, Acceptable f (number f)) (rest : Bytes) :
    readNumbers fs (fs.flatMap (fun f => threeBytes ((number f).getD 0)) ++ rest) =
      some (fun g => if g ∈ fs then number g else none, rest) := by
  induction fs with
  | nil => rfl
  | cons f fs ih =>
    obtain ⟨n, hnumber, hfits, -⟩ := h f List.mem_cons_self
    have htail := ih fun g hg => h g (List.mem_cons_of_mem f hg)
    rw [List.flatMap_cons, hnumber, Option.getD_some, List.append_assoc, threeBytes]
    simp only [List.cons_append, List.nil_append, readNumbers, htail, Option.bind_eq_bind,
      Option.bind_some, Option.pure_def, fromThree_threeBytes hfits, Option.some.injEq,
      Prod.mk.injEq, and_true]
    funext g
    by_cases hg : g = f
    · simp [hg, hnumber]
    · simp [hg]

/-! ### Dynamic messaging -/

/-- Dynamic messaging with the numbers it requires and no others. -/
def restricted (m : DynamicMessaging) : DynamicMessaging :=
  { m with number := fun f => if f ∈ required m.options m.rights then m.number f else none }

/-- **Dynamic messaging that has to agree:** the options, the rights, and the numbers that these
require. -/
structure Agree (m m' : DynamicMessaging) : Prop where
  /-- The options are the same. -/
  options : m.options = m'.options
  /-- The access rights are the same. -/
  rights : m.rights = m'.rights
  /-- The numbers that the options and rights require are the same. -/
  number : ∀ f, Requires m.options m.rights f → m.number f = m'.number f

/-- Forgetting the numbers that are not required keeps exactly what has to agree. -/
theorem restricted_eq_iff {m m' : DynamicMessaging} :
    m.restricted = m'.restricted ↔ m.Agree m' := by
  obtain ⟨options, rights, number⟩ := m
  obtain ⟨options', rights', number'⟩ := m'
  simp only [restricted, mk.injEq]
  constructor
  · rintro ⟨rfl, rfl, hnumber⟩
    refine ⟨rfl, rfl, fun f hf => ?_⟩
    have hrequired := mem_required_iff.2 hf
    have hvalue := congrFun hnumber f
    rwa [if_pos hrequired, if_pos hrequired] at hvalue
  · rintro ⟨hoptions, hrights, hnumber⟩
    obtain rfl : options = options' := hoptions
    obtain rfl : rights = rights' := hrights
    refine ⟨rfl, rfl, funext fun f => ?_⟩
    by_cases hrequired : f ∈ required options rights
    · rw [if_pos hrequired, if_pos hrequired]
      exact hnumber f (mem_required_iff.1 hrequired)
    · rw [if_neg hrequired, if_neg hrequired]

/-- Dynamic messaging that agrees is written alike. -/
theorem Agree.bytes_eq {m m' : DynamicMessaging} (h : m.Agree m') {bytes bytes' : Bytes}
    (hm : m.encode = .ok bytes) (hm' : m'.encode = .ok bytes') : bytes = bytes' := by
  obtain ⟨-, rfl⟩ := encode_eq_ok_iff.1 hm
  obtain ⟨-, rfl⟩ := encode_eq_ok_iff.1 hm'
  have hnumbers : m.numberBytes = m'.numberBytes := by
    rw [numberBytes, numberBytes, ← h.options, ← h.rights]
    apply List.flatMap_congr
    intro f hf
    rw [h.number f (mem_required_iff.1 hf)]
  rw [h.options, h.rights, hnumbers]

/-- Reads the part of a record that is there only with dynamic messaging. -/
def read? : Bytes → Option (DynamicMessaging × Bytes)
  | bits :: first :: second :: bytes => do
    let rights ← Rights.ofBytes? first second
    let (number, rest) ← readNumbers (required (.ofBits bits) rights) bytes
    return (⟨.ofBits bits, rights, number⟩, rest)
  | _ => none

/-- **Dynamic messaging is read back** in front of anything, with the numbers it requires. -/
theorem read?_append {m : DynamicMessaging} {bytes : Bytes} (h : m.encode = .ok bytes)
    (rest : Bytes) : read? (bytes ++ rest) = some (m.restricted, rest) := by
  obtain ⟨⟨hrights, hnumbers, -⟩, rfl⟩ := encode_eq_ok_iff.1 h
  have hread := readNumbers_append hnumbers rest
  rw [← numberBytes] at hread
  rw [List.cons_append, List.cons_append, List.append_assoc, Rights.bytes]
  simp [read?, Rights.ofBytes?_bytes hrights, hread, restricted]

end DynamicMessaging

namespace FileSettings

/-! ### Records -/

/-- Accepted settings are those that were handed over. -/
theorem make_eq_ok_iff {mode : CommunicationMode} {rights : AccessRights}
    {messaging : Option DynamicMessaging} {a : FileSettings} :
    make mode rights messaging = .ok a ↔
      a.mode = mode ∧ a.rights = rights ∧ a.messaging = messaging := by
  constructor
  · intro h
    unfold make at h
    split at h
    · cases h
      exact ⟨rfl, rfl, rfl⟩
    · cases h
  · rintro ⟨rfl, rfl, rfl⟩
    have hencodes := a.encodes
    unfold make
    split
    next encoded h =>
      obtain rfl : a.encoded = encoded := by
        rw [hencodes] at h
        exact Except.ok.inj h
      rfl
    next d h =>
      rw [hencodes] at h
      cases h

/-- Reads a record off the front of a byte string. -/
def read? : Bytes →
    Option ((CommunicationMode × AccessRights × Option DynamicMessaging) × Bytes)
  | head :: first :: second :: bytes => do
    let (mode, hasMessaging) ← readFileOption? head
    let rights ← AccessRights.ofBytes? first second
    if hasMessaging then
      let (m, rest) ← DynamicMessaging.read? bytes
      return ((mode, rights, some m), rest)
    else return ((mode, rights, none), bytes)
  | _ => none

/-- **The settings of a record**, which has to be the whole byte string. -/
def decode? (bytes : Bytes) :
    Option (CommunicationMode × AccessRights × Option DynamicMessaging) :=
  match read? bytes with
  | some (settings, []) => some settings
  | _ => none

/-- **A record is read back** in front of anything, with the numbers that are required. -/
theorem read?_encoded_append (a : FileSettings) (rest : Bytes) :
    read? (a.encoded ++ rest) =
      some ((a.mode, a.rights, a.messaging.map DynamicMessaging.restricted), rest) := by
  obtain ⟨mode, rights, messaging, encoded, hencodes⟩ := a
  obtain ⟨hrights, tail, htail, rfl⟩ := encodeSettings_eq_ok_iff.1 hencodes
  have hread := AccessRights.ofBytes?_bytes hrights
  cases messaging with
  | none =>
    obtain rfl : [] = tail := Except.ok.inj htail
    simp [read?, AccessRights.bytes, hread]
  | some m =>
    have hmessaging := DynamicMessaging.read?_append htail rest
    simp [read?, AccessRights.bytes, hread, hmessaging]

/-- A record is read back. -/
theorem decode?_encoded (a : FileSettings) :
    decode? a.encoded =
      some (a.mode, a.rights, a.messaging.map DynamicMessaging.restricted) := by
  have hread := a.read?_encoded_append []
  rw [List.append_nil] at hread
  rw [decode?, hread]

/-- **A record tells its own end:** none is the start of another. -/
theorem encoded_eq_of_isPrefix {a b : FileSettings} (h : a.encoded <+: b.encoded) :
    a.encoded = b.encoded := by
  obtain ⟨rest, hrest⟩ := h
  have hread := a.read?_encoded_append rest
  rw [hrest, ← List.append_nil b.encoded, b.read?_encoded_append, Option.some.injEq,
    Prod.mk.injEq] at hread
  rw [← hrest, ← hread.2, List.append_nil]

variable {a b : FileSettings}

/-- The parts for dynamic messaging that agree are written alike. -/
theorem encodeMessaging_eq {messaging messaging' : Option DynamicMessaging} {tail tail' : Bytes}
    (hsome : messaging.isSome = messaging'.isSome)
    (h : ∀ m ∈ messaging, ∀ m' ∈ messaging', m.Agree m')
    (htail : encodeMessaging messaging = .ok tail)
    (htail' : encodeMessaging messaging' = .ok tail') : tail = tail' := by
  cases messaging with
  | none =>
    cases messaging' with
    | none => exact Except.ok.inj (htail.symm.trans htail')
    | some m' => cases hsome
  | some m =>
    cases messaging' with
    | none => cases hsome
    | some m' => exact (h m rfl m' rfl).bytes_eq htail htail'

/-- **Settings have the same record exactly if** they agree on everything but the numbers that
are not required. -/
theorem encoded_eq_iff :
    a.encoded = b.encoded ↔
      a.mode = b.mode ∧ a.rights = b.rights ∧ a.messaging.isSome = b.messaging.isSome ∧
        ∀ m ∈ a.messaging, ∀ m' ∈ b.messaging, m.Agree m' := by
  constructor
  · intro h
    have hread := a.decode?_encoded
    rw [h, b.decode?_encoded, Option.some.injEq, Prod.mk.injEq, Prod.mk.injEq] at hread
    obtain ⟨hmode, hrights, hmessaging⟩ := hread
    refine ⟨hmode.symm, hrights.symm, ?_, ?_⟩
    · have hsome := congrArg Option.isSome hmessaging
      rw [Option.isSome_map, Option.isSome_map] at hsome
      exact hsome.symm
    · intro m hm m' hm'
      rw [Option.mem_def.1 hm, Option.mem_def.1 hm', Option.map_some, Option.map_some,
        Option.some.injEq] at hmessaging
      exact DynamicMessaging.restricted_eq_iff.1 hmessaging.symm
  · rintro ⟨hmode, hrights, hsome, hmessaging⟩
    obtain ⟨-, tail, htail, ha⟩ := encodeSettings_eq_ok_iff.1 a.encodes
    obtain ⟨-, tail', htail', hb⟩ := encodeSettings_eq_ok_iff.1 b.encodes
    rw [ha, hb, hmode, hrights, hsome, encodeMessaging_eq hsome hmessaging htail htail']

/-- **Equal records mean equal settings.** The records of two accepted settings are equal exactly
if the settings agree on the communication mode, the access rights, whether there is dynamic
messaging, and then on its options, its rights and the numbers that these require; neither
record is the start of the other unless they are equal; and each is read back. -/
theorem record_determines {mode mode' : CommunicationMode} {rights rights' : AccessRights}
    {messaging messaging' : Option DynamicMessaging} (ha : make mode rights messaging = .ok a)
    (hb : make mode' rights' messaging' = .ok b) :
    (a.encoded = b.encoded ↔
      mode = mode' ∧ rights = rights' ∧ messaging.isSome = messaging'.isSome ∧
        ∀ m ∈ messaging, ∀ m' ∈ messaging', m.Agree m') ∧
    (a.encoded <+: b.encoded → a.encoded = b.encoded) ∧
    decode? a.encoded = some (mode, rights, messaging.map DynamicMessaging.restricted) := by
  obtain ⟨rfl, rfl, rfl⟩ := make_eq_ok_iff.1 ha
  obtain ⟨rfl, rfl, rfl⟩ := make_eq_ok_iff.1 hb
  exact ⟨encoded_eq_iff, encoded_eq_of_isPrefix, a.decode?_encoded⟩

/-- Dynamic messaging with all options and with the identifier encrypted, so that an offset for
the plain identifier is not required. -/
def encryptedMessaging (uidOffset : Option UInt32) : DynamicMessaging where
  options := ⟨true, true, true, true, true⟩
  rights := ⟨.key 1, .key 2, .key 1⟩
  number
    | .uidOffset => uidOffset
    | .readCounterOffset => none
    | .piccDataOffset => some 0x20
    | .macInputOffset => some 0x43
    | .encryptedOffset => some 0x43
    | .encryptedLength => some 0x20
    | .macOffset => some 0x67
    | .readCounterLimit => some 1000

/-- The record of these settings under some access rights, whatever the offset. -/
def encryptedRecord : Bytes :=
  [0x40, 0x00, 0xE0, 0xF1, 0xF1, 0x21, 0x20, 0x00, 0x00, 0x43, 0x00, 0x00, 0x43, 0x00, 0x00,
    0x20, 0x00, 0x00, 0x67, 0x00, 0x00, 0xE8, 0x03, 0x00]

/-- Settings with and without an offset that is not required have the same record, and the
offset is not read back, although it would not even fit. -/
theorem record_determines_with_unused_offset :
    let rights : AccessRights := ⟨.key 0, .key 0, .free, .key 0⟩
    let given := encryptedMessaging (some 0x01000000)
    let unset := encryptedMessaging none
    ∃ a b : FileSettings,
      (make .plain rights (some given) = .ok a ∧ make .plain rights (some unset) = .ok b ∧
        a.encoded = encryptedRecord ∧ b.encoded = encryptedRecord) ∧
      (a.encoded = b.encoded ↔
        CommunicationMode.plain = .plain ∧ rights = rights ∧
          (some given).isSome = (some unset).isSome ∧
          ∀ m ∈ some given, ∀ m' ∈ some unset, m.Agree m') ∧
      (a.encoded <+: b.encoded → a.encoded = b.encoded) ∧
      decode? a.encoded =
        some (.plain, rights, (some given).map DynamicMessaging.restricted) := by
  intro rights given unset
  have hgiven : encodeSettings .plain ⟨.key 0, .key 0, .free, .key 0⟩
      (some (encryptedMessaging (some 0x01000000))) = .ok encryptedRecord := by rfl
  have hunset : encodeSettings .plain ⟨.key 0, .key 0, .free, .key 0⟩
      (some (encryptedMessaging none)) = .ok encryptedRecord := by rfl
  have ha : make .plain rights (some given) = .ok ⟨_, _, _, _, hgiven⟩ :=
    make_eq_ok_iff.2 ⟨rfl, rfl, rfl⟩
  have hb : make .plain rights (some unset) = .ok ⟨_, _, _, _, hunset⟩ :=
    make_eq_ok_iff.2 ⟨rfl, rfl, rfl⟩
  exact ⟨_, _, ⟨ha, hb, rfl, rfl⟩, record_determines ha hb⟩

end FileSettings

end Ev2Reader
