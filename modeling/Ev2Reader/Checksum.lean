import Ev2Reader.Block

/-!
# The Checksum of a Key

The tag checks a key it is to store by the cyclic redundancy check of 32 bits, with its
bits reflected and started from all ones. The final inversion that other uses of this
check make is left out.

## Main results

* `remainder_append` — the check of a byte string goes on from that of its start.
-/

namespace Ev2Reader.Checksum

/-- The reflected generator polynomial. -/
def generator : UInt32 := 0xEDB88320

/-- Divides by one bit. -/
def step (r : UInt32) : UInt32 :=
  if r &&& 1 = 1 then r >>> 1 ^^^ generator else r >>> 1

/-- Takes one byte into the remainder, its least significant bit first. -/
def absorb (r : UInt32) (b : UInt8) : UInt32 :=
  step (step (step (step (step (step (step (step (r ^^^ b.toUInt32))))))))

/-- The remainder of a byte string, going on from `r`. -/
def remainder (r : UInt32) (bytes : Bytes) : UInt32 :=
  bytes.foldl absorb r

/-- **The checksum of a key**, least significant byte first. -/
def ofKey (key : Block) : Word :=
  Word.ofNumber (remainder 0xFFFFFFFF key.toList)

/-- The check of a byte string goes on from that of its start. -/
theorem remainder_append (r : UInt32) (bytes bytes' : Bytes) :
    remainder r (bytes ++ bytes') = remainder (remainder r bytes) bytes' :=
  List.foldl_append

end Ev2Reader.Checksum
