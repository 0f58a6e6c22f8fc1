import Blake2b.Text.Hex
/-!
# Hexadecimal text can be read back

A digit stands for its value and a byte for its two halves, the high one first. So pairs of
digits read back as the bytes they were written from (`decode?_encode`), and two byte strings
have the same text only if they are the same. A byte has two digits whatever it is, so that
the text also tells the length and no zero at the front is lost.
-/

namespace Blake2b.Hex

/-- The digits of lower case. -/
def IsLower (c : Char) : Prop := ('0' ≤ c ∧ c ≤ '9') ∨ ('a' ≤ c ∧ c ≤ 'f')

instance (c : Char) : Decidable (IsLower c) :=
  inferInstanceAs (Decidable (('0' ≤ c ∧ c ≤ '9') ∨ ('a' ≤ c ∧ c ≤ 'f')))

theorem value?_digit {n : Nat} (h : n < 16) : value? (digit n) = some n := by
  have hall : ∀ n : Fin 16, value? (digit n.val) = some n.val := by decide
  exact hall ⟨n, h⟩

theorem isLower_digit {n : Nat} (h : n < 16) : IsLower (digit n) := by
  have hall : ∀ n : Fin 16, IsLower (digit n.val) := by decide
  exact hall ⟨n, h⟩

theorem high_lt (byte : UInt8) : byte.toNat / 16 < 16 := by
  have hbyte := byte.toNat_lt
  omega

theorem low_lt (byte : UInt8) : byte.toNat % 16 < 16 := Nat.mod_lt _ (by decide)

/-- A byte is sixteen times its high half and its low half. -/
theorem toUInt8_halves (byte : UInt8) :
    (16 * (byte.toNat / 16) + byte.toNat % 16).toUInt8 = byte := by
  rw [Nat.div_add_mod, Nat.toUInt8_eq, UInt8.ofNat_toNat]

theorem readPairs?_digits (bytes : Bytes) : readPairs? (digits bytes) = some bytes := by
  induction bytes with
  | nil => rfl
  | cons byte bytes ih =>
      have hread : readPairs? (digits (byte :: bytes)) = do
          let upper ← value? (digit (byte.toNat / 16))
          let lower ← value? (digit (byte.toNat % 16))
          let rest ← readPairs? (digits bytes)
          return (16 * upper + lower).toUInt8 :: rest := rfl
      rw [hread, value?_digit (high_lt byte), value?_digit (low_lt byte), ih]
      exact congrArg (fun b => some (b :: bytes)) (toUInt8_halves byte)

/-- What is written in hexadecimal is read back. -/
@[simp] theorem decode?_encode (bytes : Bytes) : decode? (encode bytes) = some bytes := by
  rw [decode?, toList_encode, readPairs?_digits]

theorem encode_inj {bytes other : Bytes} : encode bytes = encode other ↔ bytes = other := by
  constructor
  · intro h
    apply Option.some.inj
    rw [← decode?_encode bytes, ← decode?_encode other, h]
  · intro h
    rw [h]

theorem length_encode (bytes : Bytes) : (encode bytes).length = 2 * bytes.length := by
  rw [encode, String.length_ofList, length_digits]

theorem isLower_of_mem_encode {bytes : Bytes} {c : Char} (h : c ∈ (encode bytes).toList) :
    IsLower c := by
  rw [toList_encode, digits, List.mem_flatMap] at h
  obtain ⟨byte, -, hc⟩ := h
  rw [pair, List.mem_cons, List.mem_singleton] at hc
  rcases hc with rfl | rfl
  · exact isLower_digit (high_lt byte)
  · exact isLower_digit (low_lt byte)

end Blake2b.Hex
