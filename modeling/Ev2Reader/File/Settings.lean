import Ev2Reader.Check
import Ev2Reader.File.Defect

/-!
# File Settings

The record that sets the communication mode, the access rights and the dynamic messaging of
a file.

| Bytes | Content |
|-------|---------|
| 1 | the communication mode, and one bit if there is dynamic messaging |
| 2 | the access rights |
| 1 | the options of the messaging |
| 2 | the rights of the messaging |
| 3 each | the required numbers, least significant byte first |

The last three rows are there only with dynamic messaging.

## Main results

* `DynamicMessaging.encodeNumbers_eq_ok_iff` — numbers are written exactly if each is acceptable,
  and then as three bytes each;
* `DynamicMessaging.encode_eq_ok_iff`, `encodeSettings_eq_ok_iff` — which settings are accepted,
  and what is written for them.
-/

namespace Ev2Reader

/-- How the data of a file travels once the reader has authenticated. -/
inductive CommunicationMode where
  /-- Without protection. -/
  | plain
  /-- With an authentication code. -/
  | mac
  /-- Encrypted and with an authentication code. -/
  | full
deriving DecidableEq

/-- The two bits of a communication mode. -/
def CommunicationMode.bits : CommunicationMode → UInt8
  | plain => 0
  | mac => 1
  | full => 3

namespace DynamicMessaging

/-- Numbers below this bound fit three bytes. -/
def numberBound : Nat := 16777216

/-- Encrypted file data is filled in by blocks of this many characters. -/
def dataBlock : Nat := 32

/-- Writes the number given for a field. The length of encrypted file data has to be even
before it has to fit. -/
def encodeNumber (f : Field) : Option UInt32 → Except Defect Bytes
  | none => .error (.missing f)
  | some n =>
    if f = .encryptedLength ∧ (n.toNat = 0 ∨ n.toNat % dataBlock ≠ 0) then
      .error .unevenLength
    else if n.toNat < numberBound then .ok (threeBytes n)
    else .error .tooWide

/-- Writes the numbers given for several fields, up to the first defect. -/
def encodeNumbers (number : Field → Option UInt32) : List Field → Except Defect Bytes
  | [] => .ok []
  | f :: fs =>
    match encodeNumber f (number f) with
    | .error d => .error d
    | .ok bytes =>
      match encodeNumbers number fs with
      | .error d => .error d
      | .ok rest => .ok (bytes ++ rest)

/-- Writes options, rights and numbers. That encrypted file data has a key is looked at
when its numbers are due. -/
def encode (m : DynamicMessaging) : Except Defect Bytes := do
  check m.rights.Valid .unknownKey
  let metaBytes ← encodeNumbers m.number (metaFields m.options m.rights)
  check (m.options.encryptedData = true → m.rights.fileRead.isKey = true) .dataWithoutKey
  let fileBytes ← encodeNumbers m.number (fileFields m.options m.rights)
  let limitBytes ← encodeNumbers m.number (limitFields m.options)
  return m.options.bits :: m.rights.bytes ++ (metaBytes ++ fileBytes ++ limitBytes)

end DynamicMessaging

/-- The bit of the first byte that stands for dynamic messaging. -/
def messagingBit : UInt8 := 0x40

/-- The first byte of a record. -/
def fileOption (mode : CommunicationMode) (hasMessaging : Bool) : UInt8 :=
  if hasMessaging then messagingBit ||| mode.bits else mode.bits

/-- Writes the part of a record that is there only with dynamic messaging. -/
def encodeMessaging : Option DynamicMessaging → Except Defect Bytes
  | none => .ok []
  | some m => m.encode

/-- Writes a record, or tells its first defect. -/
def encodeSettings (mode : CommunicationMode) (rights : AccessRights)
    (messaging : Option DynamicMessaging) : Except Defect Bytes := do
  check rights.Valid .unknownKey
  let tail ← encodeMessaging messaging
  return fileOption mode messaging.isSome :: rights.bytes ++ tail

/-- **Accepted file settings** with their record. -/
structure FileSettings where
  /-- How the data of the file travels. -/
  mode : CommunicationMode
  /-- The access rights of the file. -/
  rights : AccessRights
  /-- The dynamic messaging of the file, if there is any. -/
  messaging : Option DynamicMessaging
  /-- The record. -/
  encoded : Bytes
  /-- The record is what is written for the settings. -/
  encodes : encodeSettings mode rights messaging = .ok encoded

/-- Accepts settings or tells their first defect. -/
def FileSettings.make (mode : CommunicationMode) (rights : AccessRights)
    (messaging : Option DynamicMessaging) : Except Defect FileSettings :=
  match h : encodeSettings mode rights messaging with
  | .ok encoded => .ok ⟨mode, rights, messaging, encoded, h⟩
  | .error d => .error d

/-! ### What is accepted -/

namespace DynamicMessaging

/-- Whether the number given for a field can be written. -/
def Acceptable (f : Field) (given : Option UInt32) : Prop :=
  ∃ n, given = some n ∧ n.toNat < numberBound ∧
    (f = .encryptedLength → n.toNat ≠ 0 ∧ n.toNat % dataBlock = 0)

/-- A number is written exactly if it is acceptable, and then as three bytes. -/
theorem encodeNumber_eq_ok_iff {f : Field} {given : Option UInt32} {bytes : Bytes} :
    encodeNumber f given = .ok bytes ↔
      Acceptable f given ∧ bytes = threeBytes (given.getD 0) := by
  cases given with
  | none => simp [encodeNumber, Acceptable]
  | some n =>
    simp only [encodeNumber, Acceptable, Option.some.injEq, Option.getD_some]
    split
    next h =>
      simp only [reduceCtorEq, false_iff, not_and]
      rintro ⟨_, rfl, -, heven⟩
      have := heven h.1
      omega
    next h =>
      split
      next hlt =>
        simp only [Except.ok.injEq]
        constructor
        · rintro rfl
          exact ⟨⟨n, rfl, hlt, fun hf => by
            have h' : ¬ (n.toNat = 0 ∨ n.toNat % dataBlock ≠ 0) := fun h' => h ⟨hf, h'⟩
            omega⟩, rfl⟩
        · exact fun h => h.2.symm
      next hge =>
        simp only [reduceCtorEq, false_iff, not_and]
        rintro ⟨_, rfl, hlt, -⟩
        exact absurd hlt hge

/-- **Numbers are written exactly if each is acceptable**, one after the other. -/
theorem encodeNumbers_eq_ok_iff {number : Field → Option UInt32} {fs : List Field}
    {bytes : Bytes} :
    encodeNumbers number fs = .ok bytes ↔
      (∀ f ∈ fs, Acceptable f (number f)) ∧
        bytes = fs.flatMap fun f => threeBytes ((number f).getD 0) := by
  induction fs generalizing bytes with
  | nil => simp [encodeNumbers, eq_comm]
  | cons f fs ih =>
    rw [encodeNumbers, List.forall_mem_cons, List.flatMap_cons]
    cases h : encodeNumber f (number f) with
    | error d =>
      simp only [reduceCtorEq, false_iff, not_and, and_imp]
      intro hf
      have := encodeNumber_eq_ok_iff.2 ⟨hf, rfl⟩
      rw [h] at this
      cases this
    | ok first =>
      obtain ⟨hf, rfl⟩ := encodeNumber_eq_ok_iff.1 h
      cases hs : encodeNumbers number fs with
      | error d =>
        simp only [reduceCtorEq, false_iff, not_and, and_imp]
        intro _ hfs
        have := ih.2 ⟨hfs, rfl⟩
        rw [hs] at this
        cases this
      | ok rest =>
        obtain ⟨hfs, rfl⟩ := ih.1 hs
        simp only [Except.ok.injEq]
        exact ⟨fun h => ⟨⟨hf, hfs⟩, h.symm⟩, fun h => h.2.symm⟩

/-- The numbers of dynamic messaging, written one after the other. -/
def numberBytes (m : DynamicMessaging) : Bytes :=
  (required m.options m.rights).flatMap fun f => threeBytes ((m.number f).getD 0)

/-- Dynamic messaging is written exactly if its rights are valid, every required number is
acceptable, and file data is encrypted only with a key. -/
theorem encode_eq_ok_iff {m : DynamicMessaging} {bytes : Bytes} :
    m.encode = .ok bytes ↔
      (m.rights.Valid ∧ (∀ f ∈ required m.options m.rights, Acceptable f (m.number f)) ∧
        (m.options.encryptedData = true → m.rights.fileRead.isKey = true)) ∧
      bytes = m.options.bits :: m.rights.bytes ++ m.numberBytes := by
  simp only [encode, bind_eq_ok_iff, check_eq_ok_iff, encodeNumbers_eq_ok_iff,
    exists_const, pure, Except.pure, Except.ok.injEq, required, List.forall_mem_append,
    numberBytes, List.flatMap_append]
  constructor
  · rintro ⟨hrights, _, ⟨hmeta, rfl⟩, hkey, _, ⟨hfile, rfl⟩, _, ⟨hlimit, rfl⟩, rfl⟩
    exact ⟨⟨hrights, ⟨⟨hmeta, hfile⟩, hlimit⟩, hkey⟩, rfl⟩
  · rintro ⟨⟨hrights, ⟨⟨hmeta, hfile⟩, hlimit⟩, hkey⟩, rfl⟩
    exact ⟨hrights, _, ⟨hmeta, rfl⟩, hkey, _, ⟨hfile, rfl⟩, _, ⟨hlimit, rfl⟩, rfl⟩

end DynamicMessaging

/-- **Settings are accepted exactly if** their access rights are valid and their dynamic
messaging can be written, and their record is the bytes of these parts in order. -/
theorem encodeSettings_eq_ok_iff {mode : CommunicationMode} {rights : AccessRights}
    {messaging : Option DynamicMessaging} {bytes : Bytes} :
    encodeSettings mode rights messaging = .ok bytes ↔
      rights.Valid ∧ ∃ tail, encodeMessaging messaging = .ok tail ∧
        bytes = fileOption mode messaging.isSome :: rights.bytes ++ tail := by
  simp only [encodeSettings, bind_eq_ok_iff, check_eq_ok_iff, exists_const, pure,
    Except.pure, Except.ok.injEq, eq_comm (a := bytes)]

end Ev2Reader
