import Blake2b.Hasher
import Blake2b.Stream.Failure
/-!
# Hashers as sinks

A hasher takes all that is written to it, or refuses all of it. Nothing is
pending between two writes, so flushing has nothing to do.
-/

namespace Blake2b.Hasher

/-- Writes data to the hasher and gives the number of bytes written. -/
def write (s : Hasher) (data : Bytes) : Except Failure Nat × Hasher :=
  match s.update data with
  | (.ok (), next) => (.ok data.length, next)
  | (.error fault, next) => (.error (.ofFault fault), next)

/-- Waits until all that was written has been taken. -/
def flush (s : Hasher) : Except Failure Unit × Hasher := (.ok (), s)

end Blake2b.Hasher
