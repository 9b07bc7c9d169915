import Ev2Reader.Block
import Ev2Reader.Check
import Ev2Reader.Fault

/-!
# Keys and Nonces

Keys and nonces are blocks. This module reads them from byte strings that may have a wrong
length.

## Main results

* `Block.require_eq_ok_iff`, `Block.require_eq_error_iff` — a byte string is read exactly if
  it has sixteen bytes, and otherwise its length is reported.
-/

namespace Ev2Reader

/-- A key of the application or of a session. -/
abbrev Key := Block

/-- A random number that one side contributes to a session. -/
abbrev Nonce := Block

/-- The key that all application keys have when the tag leaves the factory. -/
def Key.factoryDefault : Key := .zero

/-- The text of an application key in the description of a larger value; it never shows the
key. -/
def Key.summary (_ : Key) : String :=
  "AuthKey(..)"

/-- Reads a block, or reports the length of the byte string. -/
def Block.require (bytes : Bytes) : Except Fault Block :=
  match Block.ofBytes? bytes with
  | some b => .ok b
  | none => .error (.invalidLength Block.size bytes.length)

/-- A byte string is read as a block exactly if it is its bytes. -/
theorem Block.require_eq_ok_iff {bytes : Bytes} {b : Block} :
    Block.require bytes = .ok b ↔ bytes = b.toList := by
  unfold Block.require
  rw [← Block.ofBytes?_eq_some_iff]
  split <;> simp [*]

/-- A byte string is not read exactly if its length is not sixteen. -/
theorem Block.require_eq_error_iff {bytes : Bytes} {e : Fault} :
    Block.require bytes = .error e ↔
      bytes.length ≠ 16 ∧ e = .invalidLength 16 bytes.length := by
  unfold Block.require
  rw [← Block.ofBytes?_eq_none_iff]
  split <;> simp [*, Block.size, eq_comm]

end Ev2Reader
