import Blake2b.Hasher
import Blake2b.Stream.Failure
/-!
# Hashing a source

A source is read until it has nothing more to give. One reading gives some
bytes, at most as many as the reading buffer has room for, or fails. A reading
of no bytes is the end, and so is the end of the list of readings; a failure of
the kind `interrupted` is passed over, and any other failure ends the hash.

All readings are made into one buffer. A reading lays its bytes over the front of
the buffer, and what earlier and longer readings left behind them stays; handed
in is the front alone, as far as the reading went.

The readings that were made are given back together with the outcome, because
it matters that the source is not read beyond its end.
-/

namespace Blake2b

/-- What one reading of a source gives. -/
inductive Reading where
  | bytes (data : Bytes)
  | failure (kind : FailureKind) (message : String)
deriving DecidableEq

namespace Reading

/-- The number of bytes that one reading gives at most. -/
def capacity : Nat := 8192

/-- The readings that data of any length is given out in. Empty data is one
reading of no bytes. -/
def ofData (data : Bytes) : List Reading :=
  if data.isEmpty then [.bytes []] else (pieces capacity data).map .bytes

end Reading

/-- The buffer that readings are made into. -/
abbrev ReadBuffer := Vector UInt8 Reading.capacity

/-- Hands in what a source gives, up to its end. Gives the hasher then, and the
readings that were made. -/
def Hasher.drain (s : Hasher) (buffer : ReadBuffer) :
    List Reading → Except Failure Hasher × List Reading
  | [] => (.ok s, [.bytes []])
  | .bytes data :: rest =>
      if data.isEmpty then (.ok s, [.bytes data])
      else
        let filled := Storage.overwrite buffer 0 data
        match s.update (Storage.slice filled 0 data.length) with
        | (.ok (), next) =>
            let after := next.drain filled rest
            (after.1, .bytes data :: after.2)
        | (.error fault, _) => (.error (.ofFault fault), [.bytes data])
  | .failure kind message :: rest =>
      if kind = .interrupted then
        let after := s.drain buffer rest
        (after.1, .failure kind message :: after.2)
      else (.error (.ofStream kind message), [.failure kind message])

/-- The digest of what a source gives, and the readings that were made. -/
def hashSource (source : List Reading) (digestLength : Nat) :
    Except Failure Digest × List Reading :=
  match Hasher.unkeyed digestLength none none with
  | .error fault => (.error (.ofFault fault), [])
  | .ok s =>
      match s.drain (Vector.replicate Reading.capacity 0) source with
      | (.error failure, made) => (.error failure, made)
      | (.ok last, made) => (last.finalize.1.mapError .ofFault, made)

end Blake2b
