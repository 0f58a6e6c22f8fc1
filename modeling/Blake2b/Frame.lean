import Blake2b.Counter
import Blake2b.LittleEndian
/-!
# Frames

A frame is all that one compression sees of the stream: a block of 128 bytes,
the number of bytes counted up to its end, and the two finalisation flags. A
hasher turns its input into a list of frames and folds compression over it.
The flags are whole words because they are mixed in as words; a hasher only
ever raises a flag to all ones.
-/

namespace Blake2b

abbrev blockLength : Nat := 128

abbrev Block := Vector UInt8 blockLength

structure Flags where
  lastBlock : UInt64
  lastNode : UInt64
deriving DecidableEq, Inhabited

namespace Flags

def lowered : Flags := ⟨0, 0⟩

/-- The value of a raised flag. -/
def raised : UInt64 := 0xffffffffffffffff

end Flags

/-- One block of the stream with its counter and flags. -/
structure Frame where
  block : Block
  counter : Counter
  flags : Flags
deriving DecidableEq

namespace Block

def zero : Block := Vector.replicate blockLength 0

def words (block : Block) : Vector UInt64 16 :=
  @LittleEndian.decodeLanes 16 block

end Block

end Blake2b
