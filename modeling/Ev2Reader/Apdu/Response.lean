import Ev2Reader.Fault

/-!
# Answers of the Tag

An answer is data followed by a status word.

## Main results

* `Response.ofBytes?_eq_ok_iff` — a byte string is read as an answer exactly if it is the
  data and the status word of that answer.
-/

namespace Ev2Reader

/-- **An answer of the tag.** -/
structure Response where
  /-- The status word. -/
  status : StatusWord
  /-- The data in front of the status word. -/
  data : Bytes
deriving DecidableEq

namespace Response

/-- The bytes of an answer. -/
def bytes (r : Response) : Bytes :=
  r.data ++ r.status.bytes

/-- Separates the data from the status word, the last two bytes. -/
def ofBytes? (raw : Bytes) : Except Violation Response :=
  match raw.reverse with
  | second :: first :: data => .ok ⟨StatusWord.ofBytes first second, data.reverse⟩
  | _ => .error (.responseLength raw.length)

/-- **A byte string is read as an answer exactly if it is the bytes of that answer.** -/
theorem ofBytes?_eq_ok_iff {raw : Bytes} {r : Response} :
    ofBytes? raw = .ok r ↔ raw = r.bytes := by
  constructor
  · intro h
    unfold ofBytes? at h
    split at h
    next second first data hraw =>
      cases h
      rw [← List.reverse_reverse raw, hraw]
      simp [bytes]
    · cases h
  · rintro rfl
    obtain ⟨⟨status⟩, data⟩ := r
    simp [ofBytes?, bytes, StatusWord.bytes, bigEndian, StatusWord.ofBytes]

/-- A byte string is no answer exactly if it is too short for a status word. -/
theorem ofBytes?_eq_error_iff {raw : Bytes} {v : Violation} :
    ofBytes? raw = .error v ↔ raw.length < 2 ∧ v = .responseLength raw.length := by
  have hlength : raw.reverse.length = raw.length := List.length_reverse
  unfold ofBytes?
  split
  next second first data hraw =>
    rw [hraw, List.length_cons, List.length_cons] at hlength
    simp only [reduceCtorEq, false_iff, not_and]
    omega
  next hshort =>
    have : raw.length < 2 := by
      match hraw : raw.reverse with
      | [] | [_] => rw [← hlength, hraw]; simp
      | second :: first :: data => exact absurd hraw (hshort second first data)
    simp [this, eq_comm]

end Response

end Ev2Reader
