import Blake2b.Bytes
/-!
# Hexadecimal text

A byte is written as two digits, high half first, in lower case. Reading takes
digits of either case, two at a time, and refuses anything else.
-/

namespace Blake2b.Hex

/-- The digit of a value below sixteen. -/
def digit (value : Nat) : Char :=
  if value < 10 then Char.ofNat (48 + value) else Char.ofNat (87 + value)

def value? (c : Char) : Option Nat :=
  if '0' ≤ c ∧ c ≤ '9' then some (c.toNat - 48)
  else if 'a' ≤ c ∧ c ≤ 'f' then some (c.toNat - 87)
  else if 'A' ≤ c ∧ c ≤ 'F' then some (c.toNat - 55)
  else none

def pair (byte : UInt8) : List Char :=
  [digit (byte.toNat / 16), digit (byte.toNat % 16)]

def digits (bytes : Bytes) : List Char := bytes.flatMap pair

/-- The bytes that pairs of digits stand for. -/
def readPairs? : List Char → Option Bytes
  | [] => some []
  | high :: low :: rest => do
      let upper ← value? high
      let lower ← value? low
      let bytes ← readPairs? rest
      return (16 * upper + lower).toUInt8 :: bytes
  | [_] => none

def encode (bytes : Bytes) : String := String.ofList (digits bytes)

/-- The byte string that a hexadecimal text stands for. -/
def decode? (text : String) : Option Bytes := readPairs? text.toList

@[simp] theorem digits_nil : digits [] = [] := rfl

theorem digits_cons (byte : UInt8) (bytes : Bytes) :
    digits (byte :: bytes) = pair byte ++ digits bytes := rfl

@[simp] theorem length_digits (bytes : Bytes) :
    (digits bytes).length = 2 * bytes.length := by
  induction bytes with
  | nil => rfl
  | cons byte bytes ih =>
      simp only [digits_cons, pair, List.length_append, List.length_cons,
        List.length_nil, ih]
      omega

@[simp] theorem toList_encode (bytes : Bytes) :
    (encode bytes).toList = digits bytes := by
  simp [encode]

end Blake2b.Hex
