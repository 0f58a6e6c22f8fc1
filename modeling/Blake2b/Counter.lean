/-!
# The byte counter

The number of bytes compressed so far is a 128-bit number held as two words.
Adding a word carries into the high word exactly when the low word wraps, so
the whole counter is a number modulo `2 ^ 128`; `toNat` and `ofNat` are the two
views of that.
-/

namespace Blake2b

/-- A 128-bit number as its low and its high word. -/
structure Counter where
  low : UInt64
  high : UInt64
deriving DecidableEq, Inhabited

namespace Counter

def zero : Counter := ⟨0, 0⟩

def add (t : Counter) (n : UInt64) : Counter :=
  let low := t.low + n
  { low := low, high := if low < t.low then t.high + 1 else t.high }

def toNat (t : Counter) : Nat := t.low.toNat + UInt64.size * t.high.toNat

/-- The counter of a number, modulo `2 ^ 128`. -/
def ofNat (n : Nat) : Counter := ⟨n.toUInt64, (n / UInt64.size).toUInt64⟩

@[simp] theorem toNat_zero : zero.toNat = 0 := rfl

end Counter

end Blake2b
