import Ev2Reader.Bytes

/-!
# Hexadecimal Text

Bytes are written with two digits each, in lower case, and read in either case. Status
words and instruction bytes are written in upper case inside messages.

## Main results

* `toBytes?_ofBytes` — a byte string is read back from its text.
-/

namespace Ev2Reader.Hexadecimal

/-- The two digits of a byte, in lower case. -/
def digits (b : UInt8) : List Char :=
  [Nat.digitChar (b.toNat / 16), Nat.digitChar (b.toNat % 16)]

/-- The lower case text of a byte string. -/
def ofBytes (bytes : Bytes) : String :=
  String.ofList (bytes.flatMap digits)

/-- The upper case text of a byte string. -/
def upper (bytes : Bytes) : String :=
  String.ofList ((bytes.flatMap digits).map Char.toUpper)

/-- The value of a digit in either case. -/
def value? (c : Char) : Option Nat :=
  if '0' ≤ c ∧ c ≤ '9' then some (c.toNat - '0'.toNat)
  else if 'a' ≤ c ∧ c ≤ 'f' then some (c.toNat - 'a'.toNat + 10)
  else if 'A' ≤ c ∧ c ≤ 'F' then some (c.toNat - 'A'.toNat + 10)
  else none

/-- Reads pairs of digits. -/
def pairs? : List Char → Option Bytes
  | [] => some []
  | [_] => none
  | c :: d :: rest =>
    match value? c, value? d, pairs? rest with
    | some high, some low, some bytes => some (UInt8.ofNat (high * 16 + low) :: bytes)
    | _, _, _ => none

/-- Reads the text of a byte string. -/
def toBytes? (text : String) : Option Bytes :=
  pairs? text.toList

/-- A written digit has its value. -/
theorem value?_digitChar : ∀ n : Fin 16, value? (Nat.digitChar n) = some n.val := by
  decide

/-- The digits of a byte are read as that byte. -/
theorem pairs?_digits_append (b : UInt8) (rest : List Char) :
    pairs? (digits b ++ rest) = (pairs? rest).map (b :: ·) := by
  have hb := b.toNat_lt
  have hhigh := value?_digitChar ⟨b.toNat / 16, by omega⟩
  have hlow := value?_digitChar ⟨b.toNat % 16, by omega⟩
  simp only at hhigh hlow
  simp only [digits, List.cons_append, List.nil_append, pairs?, hhigh, hlow]
  have hvalue : UInt8.ofNat (b.toNat / 16 * 16 + b.toNat % 16) = b := by
    rw [Nat.div_add_mod', UInt8.ofNat_toNat]
  cases pairs? rest with
  | none => rfl
  | some bytes => simp [hvalue]

/-- **A byte string is read back from its text.** -/
@[simp] theorem toBytes?_ofBytes (bytes : Bytes) : toBytes? (ofBytes bytes) = some bytes := by
  rw [toBytes?, ofBytes, String.toList_ofList]
  induction bytes with
  | nil => rfl
  | cons b bytes ih => rw [List.flatMap_cons, pairs?_digits_append, ih, Option.map_some]

end Ev2Reader.Hexadecimal
