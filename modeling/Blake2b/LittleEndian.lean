import Blake2b.Bytes
/-!
# Little-endian words

A word is eight bytes, least significant first. `decode` reads one word by
shifting in its bytes from the last to the first, and `encode` takes the bytes
out by shifting right. A region of `8 * k` bytes consists of `k` lanes of eight
bytes, and `decodeLanes` reads each of them as a word.

What bytes mean is said without words and shifts: they are the digits of a number to
the base 256 (`digitsValue`), and a number has its digits (`digits`).
-/

namespace Blake2b.LittleEndian

/-- The number that bytes are the digits of. -/
def digitsValue : Bytes → Nat
  | [] => 0
  | byte :: rest => byte.toNat + 256 * digitsValue rest

/-- The last `k` digits of a number, least significant first. -/
def digits (k n : Nat) : Bytes :=
  (List.range k).map fun i => (n / Nat.pow 256 i % 256).toUInt8

/-- The word whose bytes are given, least significant first. -/
def decode (bytes : Vector UInt8 8) : UInt64 :=
  bytes.toList.foldr (fun byte word => (word <<< 8) ||| byte.toUInt64) 0

/-- The bytes of a word, least significant first. -/
def encode (word : UInt64) : Vector UInt8 8 :=
  Vector.ofFn fun i => (word >>> (8 * i.val).toUInt64).toUInt8

def lane {k : Nat} (bytes : Vector UInt8 (8 * k)) (i : Fin k) : Vector UInt8 8 :=
  Vector.ofFn fun j => bytes[8 * i.val + j.val]

def decodeLanes {k : Nat} (bytes : Vector UInt8 (8 * k)) : Vector UInt64 k :=
  Vector.ofFn fun i => decode (lane bytes i)

def encodeAll (words : List UInt64) : Bytes :=
  words.flatMap fun word => (encode word).toList

theorem digitsValue_cons (byte : UInt8) (rest : Bytes) :
    digitsValue (byte :: rest) = byte.toNat + 256 * digitsValue rest := rfl

@[simp] theorem encodeAll_nil : encodeAll [] = [] := rfl

theorem encodeAll_cons (word : UInt64) (words : List UInt64) :
    encodeAll (word :: words) = (encode word).toList ++ encodeAll words := rfl

@[simp] theorem length_encodeAll (words : List UInt64) :
    (encodeAll words).length = 8 * words.length := by
  induction words with
  | nil => rfl
  | cons word words ih =>
      simp only [encodeAll_cons, List.length_append, Vector.length_toList, ih,
        List.length_cons]
      omega

@[simp] theorem getElem_encode (word : UInt64) (i : Nat) (hi : i < 8) :
    (encode word)[i] = (word >>> (8 * i).toUInt64).toUInt8 := by
  simp [encode]

@[simp] theorem getElem_decodeLanes {k : Nat} (bytes : Vector UInt8 (8 * k))
    (i : Nat) (hi : i < k) :
    (decodeLanes bytes)[i] = decode (lane bytes ⟨i, hi⟩) := by
  simp [decodeLanes]

end Blake2b.LittleEndian
