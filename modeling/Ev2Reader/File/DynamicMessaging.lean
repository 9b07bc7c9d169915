import Ev2Reader.File.Access

/-!
# Dynamic Messaging

A file can be set up so that each time it is read without authentication the tag fills in
its identifier, a read counter, encrypted file data or a message authentication code. The
options and access rights of this messaging decide which numbers its settings have to give.

## Main results

* `Options.bits_inj` — the options are determined by their bits;
* `mem_required_iff` — when each number is required, as one condition for each.
-/

namespace Ev2Reader.DynamicMessaging

/-! ### Options -/

/-- What is filled in. -/
structure Options where
  /-- The identifier of the tag. -/
  uid : Bool := false
  /-- The read counter. -/
  readCounter : Bool := false
  /-- The read counter is limited. -/
  readCounterLimit : Bool := false
  /-- File data, encrypted. -/
  encryptedData : Bool := false
  /-- Bytes are filled in as hexadecimal text. -/
  ascii : Bool := false
deriving DecidableEq

namespace Options

/-- The option byte, with one bit for each option. -/
def bits (o : Options) : UInt8 :=
  (if o.uid then 0x80 else 0) ||| (if o.readCounter then 0x40 else 0) |||
    (if o.readCounterLimit then 0x20 else 0) ||| (if o.encryptedData then 0x10 else 0) |||
    (if o.ascii then 0x01 else 0)

/-- The options in either of two sets. -/
def union (o p : Options) : Options :=
  ⟨o.uid || p.uid, o.readCounter || p.readCounter, o.readCounterLimit || p.readCounterLimit,
    o.encryptedData || p.encryptedData, o.ascii || p.ascii⟩

/-- Whether all options of `p` are among those of `o`. -/
def contains (o p : Options) : Bool :=
  o.bits &&& p.bits = p.bits

/-- The options are determined by their bits. -/
theorem bits_inj {o p : Options} : o.bits = p.bits ↔ o = p := by
  obtain ⟨a, b, c, d, e⟩ := o
  obtain ⟨a', b', c', d', e'⟩ := p
  revert a b c d e a' b' c' d' e'
  decide

/-- The bits of a union are the bits of either set. -/
theorem bits_union (o p : Options) : (o.union p).bits = o.bits ||| p.bits := by
  obtain ⟨a, b, c, d, e⟩ := o
  obtain ⟨a', b', c', d', e'⟩ := p
  revert a b c d e a' b' c' d' e'
  decide

end Options

/-! ### Access rights -/

/-- Who may use what is filled in. -/
structure Rights where
  /-- Who may ask for the read counter. -/
  counterRetrieval : AccessCondition
  /-- The key that encrypts the identifier and the counter; free if they are filled in
  unencrypted, never if not at all. -/
  metaRead : AccessCondition
  /-- The key for the authentication code and encrypted file data, if there are any. -/
  fileRead : AccessCondition
deriving DecidableEq

namespace Rights

/-- The two bytes of the rights; the first four bits are reserved and set. -/
def bytes (r : Rights) : Bytes :=
  [fromNibbles (lowNibble 0x0F) r.counterRetrieval.nibble,
    fromNibbles r.metaRead.nibble r.fileRead.nibble]

/-- All three conditions are valid. -/
def Valid (r : Rights) : Prop :=
  r.counterRetrieval.Valid ∧ r.metaRead.Valid ∧ r.fileRead.Valid

/-- Whether the rights are valid can be computed. -/
instance (r : Rights) : Decidable r.Valid :=
  inferInstanceAs (Decidable (_ ∧ _ ∧ _))

/-- Rights are two bytes. -/
@[simp] theorem length_bytes (r : Rights) : r.bytes.length = 2 := rfl

/-- Valid rights with the same bytes are equal. -/
theorem bytes_inj {r s : Rights} (hr : r.Valid) (hs : s.Valid) :
    r.bytes = s.bytes ↔ r = s := by
  refine ⟨fun h => ?_, congrArg bytes⟩
  obtain ⟨hr0, hr1, hr2⟩ := hr
  obtain ⟨hs0, hs1, hs2⟩ := hs
  simp only [bytes, List.cons.injEq, and_true] at h
  have h0 := congrArg lowNibble h.1
  have h1 := congrArg highNibble h.2
  have h2 := congrArg lowNibble h.2
  simp only [lowNibble_fromNibbles, highNibble_fromNibbles] at h0 h1 h2
  cases r
  cases s
  simp only [mk.injEq]
  exact ⟨(AccessCondition.nibble_inj hr0 hs0).1 h0, (AccessCondition.nibble_inj hr1 hs1).1 h1,
    (AccessCondition.nibble_inj hr2 hs2).1 h2⟩

end Rights

/-! ### Numbers -/

/-- The numbers that dynamic messaging may need. -/
inductive Field where
  /-- Where the identifier is filled in unencrypted. -/
  | uidOffset
  /-- Where the read counter is filled in unencrypted. -/
  | readCounterOffset
  /-- Where the encrypted identifier and counter are filled in. -/
  | piccDataOffset
  /-- Where the input of the authentication code starts. -/
  | macInputOffset
  /-- Where the encrypted file data is filled in. -/
  | encryptedOffset
  /-- How much encrypted file data is filled in. -/
  | encryptedLength
  /-- Where the authentication code is filled in. -/
  | macOffset
  /-- The largest value of the read counter. -/
  | readCounterLimit
deriving DecidableEq

/-- The numbers for the identifier and the counter. -/
def metaFields (o : Options) (r : Rights) : List Field :=
  match r.metaRead with
  | .free =>
    (if o.uid then [.uidOffset] else []) ++
      (if o.readCounter then [.readCounterOffset] else [])
  | .key _ => [.piccDataOffset]
  | .never => []

/-- The numbers for the authentication code and the encrypted file data. -/
def fileFields (o : Options) (r : Rights) : List Field :=
  match r.fileRead with
  | .key _ =>
    .macInputOffset ::
      ((if o.encryptedData then [.encryptedOffset, .encryptedLength] else []) ++ [.macOffset])
  | _ => []

/-- The number for the limit of the counter. -/
def limitFields (o : Options) : List Field :=
  if o.readCounterLimit then [.readCounterLimit] else []

/-- The numbers that options and rights require, in the order they are written. -/
def required (o : Options) (r : Rights) : List Field :=
  metaFields o r ++ fileFields o r ++ limitFields o

/-- Whether options and rights require a number. -/
def Requires (o : Options) (r : Rights) : Field → Prop
  | .uidOffset => r.metaRead = .free ∧ o.uid = true
  | .readCounterOffset => r.metaRead = .free ∧ o.readCounter = true
  | .piccDataOffset => r.metaRead.isKey = true
  | .macInputOffset => r.fileRead.isKey = true
  | .encryptedOffset => r.fileRead.isKey = true ∧ o.encryptedData = true
  | .encryptedLength => r.fileRead.isKey = true ∧ o.encryptedData = true
  | .macOffset => r.fileRead.isKey = true
  | .readCounterLimit => o.readCounterLimit = true

/-- **A number is written exactly if it is required.** -/
theorem mem_required_iff {o : Options} {r : Rights} {f : Field} :
    f ∈ required o r ↔ Requires o r f := by
  obtain ⟨retrieval, metaRead, fileRead⟩ := r
  cases f <;> cases metaRead <;> cases fileRead <;>
    simp [required, metaFields, fileFields, limitFields, Requires, AccessCondition.isKey]

end Ev2Reader.DynamicMessaging

namespace Ev2Reader

/-- The dynamic messaging of a file: options, rights and the numbers that are given. Numbers that
are not required are ignored. -/
structure DynamicMessaging where
  /-- What is filled in. -/
  options : DynamicMessaging.Options
  /-- Who may use it. -/
  rights : DynamicMessaging.Rights
  /-- The number given for each field, if one is. -/
  number : DynamicMessaging.Field → Option UInt32

end Ev2Reader
