import Ev2Reader.AuthenticationCode
import Ev2Reader.Proofs.Mode.Cmac

/-!
# What a Code Binds a Message To

The code of a message is the shortened tag of a byte string that starts with the context of the
message: seven bytes for a command, eight for an answer. The fields of the context have fixed
widths, so the byte string determines them and what follows. The context lies within the first
block, and therefore one text in two contexts has two tags, whatever its length. Only shortening
can make codes equal.

## Main results

* `tag_responseInput_eq_iff`, `tag_commandInput_eq_iff` — for one text, tags are equal exactly in
  one context;
* `binding` — **codes bind their context**: as byte strings, and as tags before they are shortened.
-/

namespace Ev2Reader.AuthenticationCode

variable {status status' : StatusWord} {ins ins' : UInt8} {counter counter' : UInt16}
  {ti ti' : Word}

/-! ### One text -/

/-- Eight bytes stand in front of the data of an answer: status word, counter and transaction
identifier. -/
theorem length_responseInput (status : StatusWord) (counter : UInt16) (ti : Word) (body : Bytes) :
    (responseInput status counter ti body).length = 8 + body.length := by
  simp only [responseInput, StatusWord.bytes, bigEndian, littleEndian, Word.toList,
    List.length_append, List.length_cons, List.length_nil]

/-- Seven bytes stand in front of the header and data of a command: instruction byte, counter and
transaction identifier. -/
theorem length_commandInput (ins : UInt8) (counter : UInt16) (ti : Word) (header data : Bytes) :
    (commandInput ins counter ti header data).length = 7 + (header ++ data).length := by
  simp only [commandInput, littleEndian, Word.toList, List.length_append, List.length_cons,
    List.length_nil]

/-- The context of an answer leaves eight bytes of the first block to its data. -/
theorem drop_responseInput (status : StatusWord) (counter : UInt16) (ti : Word) (body : Bytes) :
    (responseInput status counter ti body).drop 16 = body.drop 8 := rfl

/-- The context of a command leaves nine bytes of the first block to its header and data. -/
theorem drop_commandInput (ins : UInt8) (counter : UInt16) (ti : Word) (header data : Bytes) :
    (commandInput ins counter ti header data).drop 16 = (header ++ data).drop 9 := rfl

/-! ### Tags -/

/-- **Answers with the same data** have the same tag exactly if status, counter and transaction
identifier are the same. -/
theorem tag_responseInput_eq_iff (cipher : BlockCipher) (body : Bytes) :
    Cmac.tag cipher (responseInput status counter ti body) =
        Cmac.tag cipher (responseInput status' counter' ti' body) ↔
      status = status' ∧ counter = counter' ∧ ti = ti' := by
  have hlength : (responseInput status counter ti body).length =
      (responseInput status' counter' ti' body).length := by
    rw [length_responseInput, length_responseInput]
  have hdrop : (responseInput status counter ti body).drop 16 =
      (responseInput status' counter' ti' body).drop 16 := by
    rw [drop_responseInput, drop_responseInput]
  rw [Cmac.tag_inj_of_drop_eq cipher hlength hdrop, responseInput_inj, eq_self, and_true]

/-- **Commands with the same header and data,** wherever these are separated, have the same tag
exactly if instruction, counter and transaction identifier are the same. -/
theorem tag_commandInput_eq_iff (cipher : BlockCipher) {header header' data data' : Bytes}
    (htext : header ++ data = header' ++ data') :
    Cmac.tag cipher (commandInput ins counter ti header data) =
        Cmac.tag cipher (commandInput ins' counter' ti' header' data') ↔
      ins = ins' ∧ counter = counter' ∧ ti = ti' := by
  have hlength : (commandInput ins counter ti header data).length =
      (commandInput ins' counter' ti' header' data').length := by
    rw [length_commandInput, length_commandInput, htext]
  have hdrop : (commandInput ins counter ti header data).drop 16 =
      (commandInput ins' counter' ti' header' data').drop 16 := by
    rw [drop_commandInput, drop_commandInput, htext]
  rw [Cmac.tag_inj_of_drop_eq cipher hlength hdrop, commandInput_inj, and_iff_left htext]

/-! ### Codes -/

/-- **Codes bind their context.** They are shortened tags of byte strings. That of an answer
determines status, counter, transaction identifier and data; that of a command determines
instruction, counter, transaction identifier and the header followed by the data. Before they are
shortened, the tags of one text of any length are different in different contexts. -/
theorem binding (key : Key) :
    (∀ status counter ti body, ofResponse key status counter ti body =
      truncate (Cmac.tag (Aes.withKey key) (responseInput status counter ti body))) ∧
    (∀ ins counter ti header data, ofCommand key ins counter ti header data =
      truncate (Cmac.tag (Aes.withKey key) (commandInput ins counter ti header data))) ∧
    (∀ status status' counter counter' ti ti' body body',
      responseInput status counter ti body = responseInput status' counter' ti' body' ↔
        status = status' ∧ counter = counter' ∧ ti = ti' ∧ body = body') ∧
    (∀ ins ins' counter counter' ti ti' header header' data data',
      commandInput ins counter ti header data = commandInput ins' counter' ti' header' data' ↔
        ins = ins' ∧ counter = counter' ∧ ti = ti' ∧ header ++ data = header' ++ data') ∧
    (∀ status status' counter counter' ti ti' body,
      Cmac.tag (Aes.withKey key) (responseInput status counter ti body) =
          Cmac.tag (Aes.withKey key) (responseInput status' counter' ti' body) ↔
        status = status' ∧ counter = counter' ∧ ti = ti') ∧
    (∀ ins ins' counter counter' ti ti' header header' data data',
      header ++ data = header' ++ data' →
      (Cmac.tag (Aes.withKey key) (commandInput ins counter ti header data) =
          Cmac.tag (Aes.withKey key) (commandInput ins' counter' ti' header' data') ↔
        ins = ins' ∧ counter = counter' ∧ ti = ti')) := by
  refine ⟨fun _ _ _ _ => rfl, fun _ _ _ _ _ => rfl, ?_, ?_, ?_, ?_⟩
  · intro status status' counter counter' ti ti' body body'
    exact responseInput_inj
  · intro ins ins' counter counter' ti ti' header header' data data'
    exact commandInput_inj
  · intro status status' counter counter' ti ti' body
    exact tag_responseInput_eq_iff (Aes.withKey key) body
  · intro ins ins' counter counter' ti ti' header header' data data' htext
    exact tag_commandInput_eq_iff (Aes.withKey key) htext

/-- A write of twenty bytes under the counters 255 and 256, whose header is read once with seven
bytes and once with one. -/
theorem binding_writtenTwice :
    let header : Bytes := [2, 0, 0, 0, 20, 0, 0]
    let data : Bytes := List.replicate 20 0xA5
    let header' : Bytes := [2]
    let data' : Bytes := [0, 0, 0, 20, 0, 0] ++ data
    header ++ data = header' ++ data' ∧
    Cmac.tag (Aes.withKey .zero) (commandInput 0x8D 255 .zero header data) ≠
      Cmac.tag (Aes.withKey .zero) (commandInput 0x8D 256 .zero header' data') := by
  intro header data header' data'
  have htext : header ++ data = header' ++ data' := rfl
  obtain ⟨-, -, -, -, -, hcommands⟩ := binding .zero
  have hcontext := hcommands 0x8D 0x8D 255 256 .zero .zero header header' data data' htext
  refine ⟨htext, fun htag => ?_⟩
  have hcounter := (hcontext.1 htag).2.1
  exact absurd hcounter (by decide)

end Ev2Reader.AuthenticationCode
