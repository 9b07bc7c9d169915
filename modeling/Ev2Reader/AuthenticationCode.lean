import Ev2Reader.SessionKeys

/-!
# Authentication Codes of Messages

The code of a message is every second byte of a tag over what the message says and where it
belongs: its instruction or status, the command counter and the transaction identifier.

## Main results

* `commandInput_inj`, `responseInput_inj` — the bytes under a code determine all that the
  code is to bind; of a command's header and data they bind the concatenation.
-/

namespace Ev2Reader.AuthenticationCode

/-- Number of bytes in a code. -/
def size : Nat := 8

/-- The bytes of a tag at odd indices. -/
def truncate (tag : Block) : Bytes :=
  [tag.c0.b1, tag.c0.b3, tag.c1.b1, tag.c1.b3, tag.c2.b1, tag.c2.b3, tag.c3.b1, tag.c3.b3]

/-- The bytes under the code of a command. -/
def commandInput (ins : UInt8) (counter : UInt16) (ti : Word) (header data : Bytes) : Bytes :=
  ins :: littleEndian counter ++ ti.toList ++ (header ++ data)

/-- The bytes under the code of an answer, where the counter is the one after the command. -/
def responseInput (status : StatusWord) (counter : UInt16) (ti : Word) (data : Bytes) : Bytes :=
  status.bytes ++ littleEndian counter ++ ti.toList ++ data

/-- **The code of a command.** Its data is taken as it is sent. -/
def ofCommand (key : Key) (ins : UInt8) (counter : UInt16) (ti : Word)
    (header data : Bytes) : Bytes :=
  truncate (Cmac.tag (Aes.withKey key) (commandInput ins counter ti header data))

/-- **The code of an answer.** Its data is taken as it is sent. -/
def ofResponse (key : Key) (status : StatusWord) (counter : UInt16) (ti : Word)
    (data : Bytes) : Bytes :=
  truncate (Cmac.tag (Aes.withKey key) (responseInput status counter ti data))

/-- A code has eight bytes. -/
@[simp] theorem length_truncate (tag : Block) : (truncate tag).length = 8 := rfl

/-- The code of a command has eight bytes. -/
@[simp] theorem length_ofCommand (key : Key) (ins : UInt8) (counter : UInt16) (ti : Word)
    (header data : Bytes) : (ofCommand key ins counter ti header data).length = 8 := rfl

/-- The code of an answer has eight bytes. -/
@[simp] theorem length_ofResponse (key : Key) (status : StatusWord) (counter : UInt16)
    (ti : Word) (data : Bytes) : (ofResponse key status counter ti data).length = 8 := rfl

/-- **The bytes under the code of a command** determine instruction, counter, transaction
identifier and the header followed by the data. -/
theorem commandInput_inj {ins ins' : UInt8} {counter counter' : UInt16} {ti ti' : Word}
    {header header' data data' : Bytes} :
    commandInput ins counter ti header data = commandInput ins' counter' ti' header' data' ↔
      ins = ins' ∧ counter = counter' ∧ ti = ti' ∧ header ++ data = header' ++ data' := by
  constructor
  · intro h
    cases ti
    cases ti'
    simp only [commandInput, littleEndian, Word.toList, List.cons_append, List.nil_append,
      List.cons.injEq] at h
    obtain ⟨hins, hlow, hhigh, h0, h1, h2, h3, hrest⟩ := h
    exact ⟨hins, eq_of_bytes hhigh hlow, by rw [h0, h1, h2, h3], hrest⟩
  · rintro ⟨rfl, rfl, rfl, h⟩
    rw [commandInput, h]
    rfl

/-- **The bytes under the code of an answer** determine status, counter, transaction
identifier and data. -/
theorem responseInput_inj {status status' : StatusWord} {counter counter' : UInt16}
    {ti ti' : Word} {data data' : Bytes} :
    responseInput status counter ti data = responseInput status' counter' ti' data' ↔
      status = status' ∧ counter = counter' ∧ ti = ti' ∧ data = data' := by
  constructor
  · intro h
    cases ti
    cases ti'
    simp only [responseInput, StatusWord.bytes, bigEndian, littleEndian, Word.toList,
      List.cons_append, List.nil_append, List.cons.injEq] at h
    obtain ⟨hfirst, hsecond, hlow, hhigh, h0, h1, h2, h3, hrest⟩ := h
    refine ⟨?_, eq_of_bytes hhigh hlow, by rw [h0, h1, h2, h3], hrest⟩
    cases status
    cases status'
    exact congrArg _ (eq_of_bytes hfirst hsecond)
  · rintro ⟨rfl, rfl, rfl, rfl⟩
    rfl

end Ev2Reader.AuthenticationCode
