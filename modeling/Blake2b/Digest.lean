import Blake2b.Parameters
import Blake2b.Storage
import Blake2b.Text.Hex
/-!
# Digests

A digest is stored in 64 bytes of which the first `length` are its own and the
rest are zero. Comparison looks at every position whatever it has seen before,
so that the place of a difference does not show in the time it takes; only a
difference of length is answered at once.
-/

namespace Blake2b

structure Digest where
  storage : Vector UInt8 maxDigestLength
  length : Nat

namespace Digest

/-- The digest of the first `length` bytes of an output. -/
def ofOutput (output : Vector UInt8 maxDigestLength) (length : Nat) : Digest where
  storage :=
    Storage.overwrite (Vector.replicate maxDigestLength 0) 0
      (Storage.slice output 0 length)
  length := length

def toBytes (d : Digest) : Bytes := d.storage.toList.take d.length

/-- Whether two byte strings of one length agree, looking at every position. Of the
contract of `subtle` is taken over what `ct_eq` answers: strings of different lengths
are unequal, which `verify` sees to, and those of one length are equal if all positions
are. How long the answer takes has no counterpart here. -/
def agree (xs ys : Bytes) : Bool :=
  (List.zipWith (· == ·) xs ys).foldl (fun sofar same => sofar && same) true

/-- Whether the digest has exactly the expected bytes. -/
def verify (d : Digest) (expected : Bytes) : Bool :=
  if d.toBytes.length = expected.length then agree d.toBytes expected else false

instance : BEq Digest := ⟨fun a b => a.verify b.toBytes⟩

/-- The digest of no bytes, with nothing left in its storage. -/
def wiped : Digest := ⟨Vector.replicate maxDigestLength 0, 0⟩

def hex (d : Digest) : String := Hex.encode d.toBytes

def description (d : Digest) : String := "Digest(" ++ d.hex ++ ")"

theorem beq_eq_verify (a b : Digest) : (a == b) = a.verify b.toBytes := rfl

end Digest

end Blake2b
