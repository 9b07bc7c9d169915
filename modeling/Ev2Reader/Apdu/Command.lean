import Ev2Reader.Fault

/-!
# Short Command Messages

A short command is `CLA INS P1 P2 [Lc Data] [Le]`. Its data field is counted by one byte,
so it has at most 255 bytes, and it is left out together with its count when it is empty.

## Main results

* `Command.make_eq_ok_iff` — a command is accepted exactly if its data can be counted;
* `Command.length_bytes_le` — how long its message can be;
* `nativeCommand_of_le` — a native command is accepted if its field can be counted.
-/

namespace Ev2Reader.Apdu

/-- The largest number of bytes in the data field. -/
def maxDataBytes : Nat := 255

/-- **A short command.** -/
structure Command where
  /-- The class byte. -/
  cla : UInt8
  /-- The instruction byte. -/
  ins : UInt8
  /-- The first parameter. -/
  p1 : UInt8
  /-- The second parameter. -/
  p2 : UInt8
  /-- The data field. -/
  data : Bytes
  /-- The expected length of the answer, if it is given. -/
  le : Option UInt8
  /-- One byte counts the data. -/
  length_data_le : data.length ≤ maxDataBytes := by decide

namespace Command

/-- Accepts a command whose data can be counted. -/
def make (cla ins p1 p2 : UInt8) (data : Bytes) (le : Option UInt8) : Except Fault Command :=
  if h : data.length ≤ maxDataBytes then .ok ⟨cla, ins, p1, p2, data, le, h⟩
  else .error (.payloadTooLarge maxDataBytes)

/-- The data field with its count in front; nothing if it is empty. -/
def counted (data : Bytes) : Bytes :=
  if data = [] then [] else UInt8.ofNat data.length :: data

/-- The message of a command. -/
def bytes (c : Command) : Bytes :=
  [c.cla, c.ins, c.p1, c.p2] ++ counted c.data ++ c.le.toList

/-- **A command is accepted exactly if its data can be counted.** -/
theorem make_eq_ok_iff {cla ins p1 p2 : UInt8} {data : Bytes} {le : Option UInt8}
    {c : Command} :
    make cla ins p1 p2 data le = .ok c ↔
      c.cla = cla ∧ c.ins = ins ∧ c.p1 = p1 ∧ c.p2 = p2 ∧ c.data = data ∧ c.le = le := by
  constructor
  · intro h
    unfold make at h
    split at h
    · cases h
      simp
    · cases h
  · rintro ⟨rfl, rfl, rfl, rfl, rfl, rfl⟩
    exact dif_pos c.length_data_le

/-- The message of a command has at most 261 bytes. -/
theorem length_bytes_le (c : Command) : c.bytes.length ≤ 261 := by
  have hdata : c.data.length ≤ 255 := c.length_data_le
  have hle : c.le.toList.length ≤ 1 := by cases c.le <;> simp
  simp only [bytes, counted, List.length_append]
  split <;> simp <;> omega

end Command

/-! ### Native commands -/

/-- The class byte of native commands. -/
def nativeClass : UInt8 := 0x90

/-- **A native command:** no parameters, and an answer of any length. -/
def nativeCommand (ins : UInt8) (field : Bytes) : Except Fault Command :=
  Command.make nativeClass ins 0x00 0x00 field (some 0x00)

/-- **The message of a native command.** -/
def nativeMessage (ins : UInt8) (field : Bytes) : Bytes :=
  [nativeClass, ins, 0x00, 0x00] ++ Command.counted field ++ [0x00]

/-- The message of a native command is that of a short command if its field can be
counted. -/
theorem nativeMessage_eq_bytes (ins : UInt8) {field : Bytes}
    (h : field.length ≤ maxDataBytes) :
    nativeMessage ins field = Command.bytes ⟨nativeClass, ins, 0x00, 0x00, field, some 0x00, h⟩ :=
  rfl

/-- A native command whose field can be counted is accepted. -/
theorem nativeCommand_of_le (ins : UInt8) {field : Bytes} (h : field.length ≤ maxDataBytes) :
    nativeCommand ins field = .ok ⟨nativeClass, ins, 0x00, 0x00, field, some 0x00, h⟩ :=
  dif_pos h

/-- The instruction byte that asks for, or carries, another frame. -/
def additionalFrameIns : UInt8 := 0xAF

/-- The message that asks the tag for another frame of its answer. -/
def additionalFrameRequest : Bytes :=
  nativeMessage additionalFrameIns []

end Ev2Reader.Apdu
