import Ev2Reader.Bytes
import Ev2Reader.KeyNumber

/-!
# Access Conditions and Rights

Who may do what with a file. A condition is four bits, the number of a key, `E` for free
access or `F` for none, and two conditions make a byte.

## Main results

* `AccessCondition.ofNibble?_nibble`, `AccessCondition.nibble_ofNibble?` — conditions that
  name an existing key and the values that are not reserved determine each other;
* `AccessRights.ofBytes?_bytes` — the same for the rights of a file.
-/

namespace Ev2Reader

/-! ### Conditions -/

/-- Who may perform an operation. -/
inductive AccessCondition where
  /-- Whoever authenticated with the key of this number. -/
  | key (number : KeyNumber)
  /-- Everyone. -/
  | free
  /-- No one. -/
  | never
deriving DecidableEq

namespace AccessCondition

/-- The four bits of a condition. A key number that does not fit keeps its low bits. -/
def nibble : AccessCondition → Fin 16
  | key n => lowNibble n
  | free => lowNibble 0x0E
  | never => lowNibble 0x0F

/-- The condition of four bits; the values from five to thirteen are reserved. -/
def ofNibble? (n : Fin 16) : Option AccessCondition :=
  if n.val < KeyNumber.count.toNat then some (key (UInt8.ofNat n.val))
  else if n = lowNibble 0x0E then some free
  else if n = lowNibble 0x0F then some never
  else none

/-- Whether the condition names a key, be it an existing one or not. -/
def isKey : AccessCondition → Bool
  | key _ => true
  | _ => false

/-- Whether the condition can be met or stands for no access: a key it names exists. -/
def Valid : AccessCondition → Prop
  | key n => n.Named
  | _ => True

/-- Whether an access condition is valid can be computed. -/
instance : (c : AccessCondition) → Decidable c.Valid
  | key n => inferInstanceAs (Decidable n.Named)
  | free => isTrue trivial
  | never => isTrue trivial

/-- The four bits of an existing key are its number. -/
theorem val_nibble_key {n : KeyNumber} (h : n.Named) : (nibble (key n)).val = n.toNat := by
  have h' : n.toNat < 5 := h
  show n.toNat % 16 = n.toNat
  omega

/-- A valid condition is read back from its four bits. -/
theorem ofNibble?_nibble {c : AccessCondition} (h : c.Valid) :
    ofNibble? c.nibble = some c := by
  cases c with
  | free => rfl
  | never => rfl
  | key n =>
    have h' : n.toNat < KeyNumber.count.toNat := h
    rw [ofNibble?, val_nibble_key h, if_pos h', UInt8.ofNat_toNat]

/-- What is read from four bits is valid and has these four bits. -/
theorem nibble_ofNibble? {n : Fin 16} {c : AccessCondition} (h : ofNibble? n = some c) :
    c.Valid ∧ c.nibble = n := by
  revert c
  revert n
  decide

/-- Valid conditions with the same four bits are equal. -/
theorem nibble_inj {c d : AccessCondition} (hc : c.Valid) (hd : d.Valid) :
    c.nibble = d.nibble ↔ c = d := by
  refine ⟨fun h => ?_, congrArg nibble⟩
  have hread := ofNibble?_nibble hc
  rw [h, ofNibble?_nibble hd] at hread
  exact (Option.some.inj hread).symm

end AccessCondition

/-! ### Rights of a file -/

/-- The access rights of a file. -/
structure AccessRights where
  /-- Who may read and write. -/
  readWrite : AccessCondition
  /-- Who may change the settings of the file. -/
  change : AccessCondition
  /-- Who may read. -/
  read : AccessCondition
  /-- Who may write. -/
  write : AccessCondition
deriving DecidableEq

namespace AccessRights

/-- The two bytes of the rights. -/
def bytes (r : AccessRights) : Bytes :=
  [fromNibbles r.readWrite.nibble r.change.nibble, fromNibbles r.read.nibble r.write.nibble]

/-- The rights of two bytes, unless a condition in them is reserved. -/
def ofBytes? (first second : UInt8) : Option AccessRights :=
  match AccessCondition.ofNibble? (highNibble first),
    AccessCondition.ofNibble? (lowNibble first),
    AccessCondition.ofNibble? (highNibble second),
    AccessCondition.ofNibble? (lowNibble second) with
  | some readWrite, some change, some read, some write =>
    some ⟨readWrite, change, read, write⟩
  | _, _, _, _ => none

/-- All four conditions are valid. -/
def Valid (r : AccessRights) : Prop :=
  r.readWrite.Valid ∧ r.change.Valid ∧ r.read.Valid ∧ r.write.Valid

/-- Whether access rights are valid can be computed. -/
instance (r : AccessRights) : Decidable r.Valid :=
  inferInstanceAs (Decidable (_ ∧ _ ∧ _ ∧ _))

/-- Rights are two bytes. -/
@[simp] theorem length_bytes (r : AccessRights) : r.bytes.length = 2 := rfl

/-- **Valid rights are read back from their two bytes.** -/
theorem ofBytes?_bytes {r : AccessRights} (h : r.Valid) :
    ofBytes? (fromNibbles r.readWrite.nibble r.change.nibble)
      (fromNibbles r.read.nibble r.write.nibble) = some r := by
  obtain ⟨hrw, hc, hr, hw⟩ := h
  simp [ofBytes?, AccessCondition.ofNibble?_nibble hrw, AccessCondition.ofNibble?_nibble hc,
    AccessCondition.ofNibble?_nibble hr, AccessCondition.ofNibble?_nibble hw]

/-- Valid rights with the same bytes are equal. -/
theorem bytes_inj {r s : AccessRights} (hr : r.Valid) (hs : s.Valid) :
    r.bytes = s.bytes ↔ r = s := by
  refine ⟨fun h => ?_, congrArg bytes⟩
  simp only [bytes, List.cons.injEq, and_true] at h
  have hread := ofBytes?_bytes hr
  rw [h.1, h.2, ofBytes?_bytes hs] at hread
  exact (Option.some.inj hread).symm

end AccessRights

end Ev2Reader
