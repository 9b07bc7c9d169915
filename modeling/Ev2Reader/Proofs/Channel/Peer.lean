import Ev2Reader.Proofs.Channel.Wrapping

/-!
# The Other Side of a Message

What the tag does with the message of a secure command: it reads the native message, takes
the code off its field, checks it and unwraps the data.

## Main results

* `Apdu.readNative?_eq_some_iff` — **reading a native message accepts exactly what writing
  one produces**;
* `readCommand?_protected` — whoever knows the keys, the transaction identifier, the counter
  and the length of the header reads a protected command.
-/

namespace Ev2Reader

namespace Apdu

/-- The instruction byte and the field of a native message. -/
def readNative? : Bytes → Option (UInt8 × Bytes)
  | cla :: ins :: p1 :: p2 :: rest =>
    if cla = nativeClass ∧ p1 = 0x00 ∧ p2 = 0x00 ∧ rest.getLast? = some 0x00 then
      match rest.dropLast with
      | [] => some (ins, [])
      | count :: field =>
        if field ≠ [] ∧ count.toNat = field.length then some (ins, field) else none
    else none
  | _ => none

/-- The message of a native command is read back if its field can be counted. -/
theorem readNative?_nativeMessage (ins : UInt8) {field : Bytes} (h : field.length ≤ 255) :
    readNative? (nativeMessage ins field) = some (ins, field) := by
  by_cases hfield : field = []
  · simp [readNative?, nativeMessage, Command.counted, hfield]
  · have hmessage : nativeMessage ins field =
        nativeClass :: ins :: 0x00 :: 0x00 :: ((UInt8.ofNat field.length :: field) ++ [0x00]) := by
      simp [nativeMessage, Command.counted, hfield]
    have hcount : (UInt8.ofNat field.length).toNat = field.length := by
      rw [UInt8.toNat_ofNat']
      omega
    rw [hmessage, readNative?, if_pos ⟨rfl, rfl, rfl, List.getLast?_concat⟩, List.dropLast_concat]
    exact if_pos ⟨hfield, hcount⟩

/-- **Reading a native message** accepts exactly what writing one produces. -/
theorem readNative?_eq_some_iff {message field : Bytes} {ins : UInt8} :
    readNative? message = some (ins, field) ↔
      field.length ≤ 255 ∧ message = nativeMessage ins field := by
  refine ⟨fun h => ?_, fun ⟨hlength, hmessage⟩ => hmessage ▸ readNative?_nativeMessage ins hlength⟩
  rw [readNative?.eq_def] at h
  split at h
  next cla ins' p1 p2 rest =>
    split at h
    next hfixed =>
      obtain ⟨rfl, rfl, rfl, hlast⟩ := hfixed
      obtain ⟨counted, rfl⟩ := List.getLast?_eq_some_iff.1 hlast
      rw [List.dropLast_concat] at h
      split at h
      · cases h
        exact ⟨Nat.zero_le _, rfl⟩
      next count field' =>
        -- A count that is not zero and is that of the field is the one that writing it puts there.
        split at h
        next hcount =>
          cases h
          have hbound := count.toNat_lt
          have hof : UInt8.ofNat field.length = count := by
            rw [← hcount.2, UInt8.ofNat_toNat]
          refine ⟨by omega, ?_⟩
          rw [nativeMessage, Command.counted, if_neg hcount.1, hof]
          rfl
        · cases h
    · cases h
  · cases h

/-- The request for a frame is read as such, without data. -/
theorem readNative?_additionalFrameRequest :
    readNative? additionalFrameRequest = some (additionalFrameIns, []) :=
  readNative?_nativeMessage additionalFrameIns (Nat.zero_le _)

end Apdu

/-- The code of a command does not tell its header from its data. -/
theorem AuthenticationCode.ofCommand_append (key : Key) (ins : UInt8) (counter : UInt16)
    (ti : Word) (header data : Bytes) :
    ofCommand key ins counter ti header data =
      ofCommand key ins counter ti (header ++ data) [] := by
  rw [ofCommand, ofCommand, commandInput, commandInput, List.append_nil]

namespace Channel

/-- The code of a protected command is taken off its field. -/
theorem splitCode_field (keys : SessionKeys) (ti : Word) (counter : UInt16)
    (protection : Protection) (ins : UInt8) (header data : Bytes) :
    splitCode (field keys ti counter protection ins header data) =
      (header ++ protection.wrap keys .command ti counter data,
        AuthenticationCode.ofCommand keys.mac ins counter ti header
          (protection.wrap keys .command ti counter data)) :=
  splitCode_append _ (AuthenticationCode.length_ofCommand ..)

end Channel

/-- Instruction byte, header and data of a protected command, if its code is right. -/
def readCommand? (keys : SessionKeys) (ti : Word) (counter : UInt16) (protection : Protection)
    (headerLength : Nat) (message : Bytes) : Option (UInt8 × Bytes × Bytes) :=
  match Apdu.readNative? message with
  | none => none
  | some (ins, field) =>
    let (payload, code) := Channel.splitCode field
    let header := payload.take headerLength
    let body := payload.drop headerLength
    if code = AuthenticationCode.ofCommand keys.mac ins counter ti header body then
      (protection.unwrap keys .command ti counter body).toOption.map fun data =>
        (ins, header, data)
    else none

/-- **A protected command is read back** by whoever knows what it was protected with. -/
theorem readCommand?_protected {c : Channel} {keys : SessionKeys} (h : c.keys? = some keys)
    {command : SecureCommand} {message : Bytes}
    (hprotect : (command.protect.run c).result = .ok message) :
    readCommand? keys c.transactionId c.counter command.protection command.header.length
      message = some (command.ins, command.header, command.data) := by
  obtain ⟨rfl, -, hfits⟩ := SecureCommand.of_protect_ok h hprotect
  rw [readCommand?, SecureCommand.message, Apdu.readNative?_nativeMessage command.ins hfits]
  simp only [SecureCommand.field, Channel.splitCode_field, List.take_left, List.drop_left, if_true,
    Protection.unwrap_wrap]
  rfl

end Ev2Reader
