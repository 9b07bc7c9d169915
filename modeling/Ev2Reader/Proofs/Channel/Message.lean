import Ev2Reader.Proofs.Channel.Fit

/-!
# The Message of a Command

What protecting a command gives on an open channel: when there is a message, what stands in it
byte by byte, and what becomes of the channel when there is none.

The length of a message is looked at before its code is made, and once more when the short
command is put together. The second look never refuses: the count byte holds the length of every
field that passed the first.

## Main results

* `protect_eq_ok_iff` — a command has a message exactly if it fits and the counter is not spent;
* `run_protect_ok` — what stands in a message;
* `run_protect_error` — the two ways to have none;
* `composition` — **the three of them at once**.
-/

namespace Ev2Reader

namespace Channel

open Procedure

variable {c : Channel} {keys : SessionKeys} {protection : Protection} {ins : UInt8}
  {header data message : Bytes}

/-- **A message of a command**, whose data travels as `body`, at the counter value of `c`. -/
structure Composed (c : Channel) (keys : SessionKeys) (protection : Protection) (ins : UInt8)
    (header data body message : Bytes) : Prop where
  /-- The length of the body follows from that of the data. -/
  length : body.length = protection.wrappedLength data.length
  /-- One byte counts the field. -/
  count : (UInt8.ofNat (header.length + body.length + 8)).toNat = header.length + body.length + 8
  /-- The message, byte by byte. -/
  bytes : message =
    [0x90, ins, 0x00, 0x00, UInt8.ofNat (header.length + body.length + 8)] ++ header ++ body ++
      AuthenticationCode.ofCommand keys.mac ins c.counter c.transactionId header body ++ [0x00]
  /-- The short command is accepted with this field, and its message is this one. -/
  accepted : ∃ command,
    Apdu.Command.make 0x90 ins 0x00 0x00 (header ++ body ++ AuthenticationCode.ofCommand keys.mac
      ins c.counter c.transactionId header body) (some 0x00) = .ok command ∧
    message = command.bytes
  /-- Under a code alone data travels as it is. -/
  plain : protection = .mac → body = data
  /-- Under full protection data is read back at this counter value. -/
  enciphered : protection = .full → body ≠ [] →
    Cryptogram.decipher keys.encryption (Cryptogram.initialVector keys.encryption .command
      c.transactionId c.counter) body = .ok data

/-- **There is a message exactly if** the command fits and the counter is not at its end. -/
theorem protect_eq_ok_iff (h : c.keys? = some keys) :
    (∃ message, ((protect protection ins header data).run c).result = .ok message) ↔
      c.counter ≠ lastCounter ∧
        header.length + protection.wrappedLength data.length + 8 ≤ 255 := by
  constructor
  · rintro ⟨message, hok⟩
    rcases protect_cases h protection ins header data with
      ⟨_, hrun, -⟩ | ⟨_, hrun, -⟩ | ⟨_, -, hcounter, hfits⟩
    · rw [hrun] at hok
      cases hok
    · rw [hrun] at hok
      cases hok
    · rw [length_field, Protection.length_wrap] at hfits
      exact ⟨hcounter, hfits⟩
  · rintro ⟨hcounter, hfits⟩
    have hrun := run_protect h hcounter protection ins header data
    rw [if_neg (by rw [length_field, Protection.length_wrap]; omega)] at hrun
    exact ⟨_, by rw [hrun]⟩

/-- The wrapped data of a command composes a message that fits. -/
theorem composed_wrap (hfits : (field keys c.transactionId c.counter protection ins header
    data).length ≤ 255) :
    Composed c keys protection ins header data
      (protection.wrap keys .command c.transactionId c.counter data)
      (Apdu.nativeMessage ins
        (field keys c.transactionId c.counter protection ins header data)) := by
  have hlength := length_field keys c.transactionId c.counter protection ins header data
  have hne : field keys c.transactionId c.counter protection ins header data ≠ [] :=
    List.ne_nil_of_length_pos (by omega)
  refine
    { length := Protection.length_wrap ..
      count := ?_
      bytes := ?_
      accepted := ⟨_, Apdu.nativeCommand_of_le ins hfits, Apdu.nativeMessage_eq_bytes ins hfits⟩
      plain := ?_
      enciphered := ?_ }
  · rw [← hlength, UInt8.toNat_ofNat']
    omega
  · rw [Apdu.nativeMessage, Apdu.Command.counted, if_neg hne, hlength]
    simp [field, Apdu.nativeClass]
  · rintro rfl
    rfl
  · rintro rfl hbody
    have hread : Protection.full.unwrap keys .command c.transactionId c.counter
        (Protection.full.wrap keys .command c.transactionId c.counter data) = .ok data :=
      Protection.unwrap_wrap .full data
    rwa [Protection.unwrap, if_neg hbody] at hread

/-- **A message leaves the channel as it was**, and is composed of the command's parts. -/
theorem run_protect_ok (h : c.keys? = some keys)
    (hok : ((protect protection ins header data).run c).result = .ok message) :
    ((protect protection ins header data).run c).state = c ∧
      ∃ body, Composed c keys protection ins header data body message := by
  rcases protect_cases h protection ins header data with
    ⟨_, hrun, -⟩ | ⟨_, hrun, -⟩ | ⟨_, hrun, -, hfits⟩
  · rw [hrun] at hok
    cases hok
  · rw [hrun] at hok
    cases hok
  · rw [hrun] at hok
    cases hok
    rw [hrun]
    exact ⟨rfl, _, composed_wrap hfits⟩

/-- **There is no message** because the command does not fit, or because the counter is at its
end and the channel is given up. -/
theorem run_protect_error (h : c.keys? = some keys) {e : Fault}
    (herror : ((protect protection ins header data).run c).result = .error e) :
    (e = .payloadTooLarge 255 ∧
        255 < header.length + protection.wrappedLength data.length + 8 ∧
        ((protect protection ins header data).run c).state = c) ∨
      (e = .counterExhausted ∧ c.counter = lastCounter ∧
        ((protect protection ins header data).run c).state = c.shut) := by
  rcases protect_cases h protection ins header data with
    ⟨_, hrun, hlong⟩ | ⟨_, hrun, hcounter⟩ | ⟨_, hrun, -⟩
  · rw [length_field, Protection.length_wrap] at hlong
    rw [hrun] at herror ⊢
    cases herror
    exact .inl ⟨rfl, hlong, rfl⟩
  · rw [hrun] at herror ⊢
    cases herror
    exact .inr ⟨rfl, hcounter, rfl⟩
  · rw [hrun] at herror
    cases herror

/-- **The message of a command on an open channel.** There is one exactly if the counter is not at
its end and header, body and code can be counted; it is composed of them and the channel is
unchanged. Otherwise the command is too long and the channel unchanged, or the counter is at its
end and the channel given up. -/
theorem composition (h : c.keys? = some keys) (protection : Protection) (ins : UInt8)
    (header data : Bytes) :
    ((∃ message, ((protect protection ins header data).run c).result = .ok message) ↔
      c.counter ≠ lastCounter ∧
        header.length + protection.wrappedLength data.length + 8 ≤ 255) ∧
    (∀ message, ((protect protection ins header data).run c).result = .ok message →
      ((protect protection ins header data).run c).state = c ∧
        ∃ body, Composed c keys protection ins header data body message) ∧
    (∀ e, ((protect protection ins header data).run c).result = .error e →
      (e = .payloadTooLarge 255 ∧
          255 < header.length + protection.wrappedLength data.length + 8 ∧
          ((protect protection ins header data).run c).state = c) ∨
        (e = .counterExhausted ∧ c.counter = lastCounter ∧
          ((protect protection ins header data).run c).state = c.shut)) :=
  ⟨protect_eq_ok_iff h, fun _ hok => run_protect_ok h hok,
    fun _ herror => run_protect_error h herror⟩

/-- A command of the longest data that can be enciphered with a header of seven bytes. -/
theorem composition_fullWrite :
    let keys : SessionKeys := ⟨.zero, Block.ofFn UInt8.ofNat⟩
    let c : Channel := ⟨1, ⟨0x0A, 0x0B, 0x0C, 0x0D⟩, 0xFFFE, .authenticated keys⟩
    let header : Bytes := [0x02, 0x10, 0x00, 0x00, 0xEF, 0x00, 0x00]
    let data := List.replicate 239 0x5A
    c.keys? = some keys ∧
    ∃ message, ((protect .full 0x8D header data).run c).result = .ok message ∧
      ((protect .full 0x8D header data).run c).state = c ∧
      ∃ body, Composed c keys .full 0x8D header data body message ∧ body.length = 240 := by
  intro keys c header data
  have hkeys : c.keys? = some keys := rfl
  obtain ⟨hiff, hok, -⟩ := composition hkeys .full 0x8D header data
  have hwrapped : Protection.full.wrappedLength data.length = 240 := by
    rw [List.length_replicate]
    rfl
  obtain ⟨message, hmessage⟩ := hiff.2 ⟨by decide, by rw [hwrapped]; decide⟩
  obtain ⟨hstate, body, hcomposed⟩ := hok message hmessage
  exact ⟨hkeys, message, hmessage, hstate, body, hcomposed, hcomposed.length.trans hwrapped⟩

end Channel

end Ev2Reader
