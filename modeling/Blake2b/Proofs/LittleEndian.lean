import Blake2b.LittleEndian
import Mathlib.Algebra.BigOperators.Fin
import Mathlib.Data.Nat.Digits.Lemmas
/-!
# Words are numbers written in bytes

The bytes of a word are its digits to the base 256, the least significant first.
Both directions of the codec are stated through that: `toNat_decode` reads a word
as the number whose digits its bytes are, and `toNat_getElem_encode` gives the
digits of a word. Digits of bounded length determine their number and are
determined by it, so the two directions are inverse to each other.

The two lemmas behind this, `foldr_eq_digitsValue` and `digitsValue_eq_mod`, do not
fix the width of a word, because half words are coded in the same way. Whole
regions follow lane by lane, since every position lies in exactly one lane.
-/

namespace Blake2b.LittleEndian

theorem digitsValue_eq_ofDigits (bytes : Bytes) :
    digitsValue bytes = Nat.ofDigits 256 (bytes.map UInt8.toNat) := by
  induction bytes with
  | nil => rfl
  | cons byte rest ih => rw [digitsValue_cons, ih, List.map_cons, Nat.ofDigits_cons]

theorem digitsValue_lt (bytes : Bytes) : digitsValue bytes < 256 ^ bytes.length := by
  induction bytes with
  | nil => exact Nat.one_pos
  | cons byte rest ih =>
      have hbyte := byte.toNat_lt
      rw [digitsValue_cons, List.length_cons, Nat.pow_succ]
      omega

/-- A byte at place `i` is weighted by `256 ^ i`. -/
theorem digitsValue_toList {k : Nat} (bytes : Vector UInt8 k) :
    digitsValue bytes.toList = ∑ i : Fin k, (bytes.get i).toNat * 256 ^ i.val := by
  have hterms : (bytes.toList.map UInt8.toNat).mapIdx (fun i digit => digit * 256 ^ i) =
      List.ofFn fun i : Fin k => (bytes.get i).toNat * 256 ^ i.val := by
    apply List.ext_getElem
    · rw [List.length_mapIdx, List.length_map, Vector.length_toList, List.length_ofFn]
    · intro i hi _
      rw [List.getElem_mapIdx, List.getElem_map, Vector.getElem_toList, List.getElem_ofFn]
      rfl
  rw [digitsValue_eq_ofDigits, Nat.ofDigits_eq_sum_mapIdx, hterms, List.sum_ofFn]

theorem digitsValue_injective {bytes other : Bytes} (hlength : bytes.length = other.length)
    (h : digitsValue bytes = digitsValue other) : bytes = other := by
  rw [digitsValue_eq_ofDigits, digitsValue_eq_ofDigits] at h
  have hdigit : ∀ (bytes : Bytes), ∀ digit ∈ bytes.map UInt8.toNat, digit < 256 := by
    intro bytes digit hmem
    obtain ⟨byte, -, rfl⟩ := List.mem_map.1 hmem
    exact byte.toNat_lt
  have hdigits : bytes.map UInt8.toNat = other.map UInt8.toNat := by
    refine Nat.ofDigits_inj_of_len_eq (by decide) ?_ (hdigit bytes) (hdigit other) h
    rw [List.length_map, List.length_map, hlength]
  exact (List.map_inj_right fun _ _ => UInt8.toNat.inj).1 hdigits

/-- A word that takes in bytes at its low end has the value of which they are the
digits, as long as there is room for all of them. -/
theorem foldr_eq_digitsValue {W : Type} (value : W → Nat) {push : UInt8 → W → W} {zero : W}
    {k : Nat} (hzero : value zero = 0)
    (hpush : ∀ byte word, 256 * value word < 256 ^ k →
      value (push byte word) = byte.toNat + 256 * value word)
    (bytes : Bytes) (h : bytes.length ≤ k) :
    value (bytes.foldr push zero) = digitsValue bytes := by
  induction bytes with
  | nil => exact hzero
  | cons byte rest ih =>
      have hrest := ih (Nat.le_of_succ_le h)
      have hroom : 256 * digitsValue rest < 256 ^ k :=
        calc
          256 * digitsValue rest < 256 * 256 ^ rest.length :=
            Nat.mul_lt_mul_of_pos_left (digitsValue_lt rest) (by decide)
          _ = 256 ^ (rest.length + 1) := by rw [Nat.pow_succ, Nat.mul_comm]
          _ ≤ 256 ^ k := Nat.pow_le_pow_right (by decide) h
      rw [List.foldr_cons, hpush byte _ (hrest ▸ hroom), hrest, digitsValue_cons]

/-- Shifting a byte into a number that has room for it appends a digit. -/
theorem shiftLeft_mod_or {n byte k : Nat} (hn : 256 * n < 2 ^ k) (hbyte : byte < 256) :
    n <<< 8 % 2 ^ k ||| byte = byte + 256 * n := by
  have hshift : n <<< 8 = 256 * n := by
    rw [Nat.shiftLeft_eq, Nat.mul_comm]
  rw [Nat.mod_eq_of_lt (hshift ▸ hn), ← Nat.shiftLeft_add_eq_or_of_lt hbyte, hshift,
    Nat.add_comm]

/-- The last `k` digits of a number are the digits of its remainder. -/
theorem ofDigits_map_range (n k : Nat) :
    Nat.ofDigits 256 ((List.range k).map fun i => n / 256 ^ i % 256) = n % 256 ^ k := by
  induction k with
  | zero => rw [List.range_zero, List.map_nil, Nat.ofDigits_nil, Nat.pow_zero, Nat.mod_one]
  | succ k ih =>
      rw [List.range_succ, List.map_append, List.map_singleton, Nat.ofDigits_append,
        Nat.ofDigits_singleton, List.length_map, List.length_range, ih, Nat.mod_pow_succ]

theorem digitsValue_eq_mod {k n : Nat} {bytes : Vector UInt8 k}
    (h : ∀ (i : Nat) (hi : i < k), bytes[i].toNat = n / 256 ^ i % 256) :
    digitsValue bytes.toList = n % 256 ^ k := by
  have hdigits : bytes.toList.map UInt8.toNat =
      (List.range k).map fun i => n / 256 ^ i % 256 := by
    apply List.ext_getElem
    · rw [List.length_map, List.length_map, Vector.length_toList, List.length_range]
    · intro i hi _
      rw [List.length_map, Vector.length_toList] at hi
      rw [List.getElem_map, List.getElem_map, Vector.getElem_toList, List.getElem_range, h i hi]
  rw [digitsValue_eq_ofDigits, hdigits, ofDigits_map_range]

theorem toNat_decode (bytes : Vector UInt8 8) :
    (decode bytes).toNat = digitsValue bytes.toList := by
  have hpush : ∀ (byte : UInt8) (word : UInt64), 256 * word.toNat < 256 ^ 8 →
      ((word <<< 8) ||| byte.toUInt64).toNat = byte.toNat + 256 * word.toNat := by
    intro byte word hroom
    rw [UInt64.toNat_or, UInt64.toNat_shiftLeft, UInt8.toNat_toUInt64]
    exact shiftLeft_mod_or (Nat.lt_of_lt_of_eq hroom (by decide)) byte.toNat_lt
  exact foldr_eq_digitsValue UInt64.toNat rfl hpush bytes.toList
    (Nat.le_of_eq Vector.length_toList)

theorem decode_injective {bytes other : Vector UInt8 8} (h : decode bytes = decode other) :
    bytes = other := by
  apply Vector.toList_inj.1
  apply digitsValue_injective
  · rw [Vector.length_toList, Vector.length_toList]
  · rw [← toNat_decode, ← toNat_decode, h]

theorem toNat_getElem_encode (word : UInt64) (i : Nat) (hi : i < 8) :
    (encode word)[i].toNat = word.toNat / 256 ^ i % 256 := by
  have hshift : (8 * i).toUInt64.toNat % 64 = 8 * i := by
    rw [Nat.toUInt64_eq, UInt64.toNat_ofNat']
    omega
  rw [getElem_encode, UInt64.toNat_toUInt8, UInt64.toNat_shiftRight, hshift,
    Nat.shiftRight_eq_div_pow, Nat.pow_mul]

theorem toList_encode (word : UInt64) : (encode word).toList = digits 8 word.toNat := by
  apply List.ext_getElem
  · rw [Vector.length_toList, digits, List.length_map, List.length_range]
  · intro i hi _
    rw [Vector.length_toList] at hi
    apply UInt8.toNat.inj
    simp only [digits, Vector.getElem_toList, List.getElem_map, List.getElem_range]
    rw [toNat_getElem_encode word i hi, Nat.toUInt8_eq, UInt8.toNat_ofNat']
    exact (Nat.mod_mod _ 256).symm

@[simp] theorem decode_encode (word : UInt64) : decode (encode word) = word := by
  apply UInt64.toNat.inj
  rw [toNat_decode, digitsValue_eq_mod (toNat_getElem_encode word)]
  exact Nat.mod_eq_of_lt word.toNat_lt

/-- Only one choice of eight bytes makes a given word, so a word gives back the bytes that
it was made of. -/
@[simp] theorem encode_decode (bytes : Vector UInt8 8) : encode (decode bytes) = bytes :=
  decode_injective (decode_encode (decode bytes))

theorem getElem_lane {k : Nat} (bytes : Vector UInt8 (8 * k)) (i : Fin k) (j : Nat)
    (hj : j < 8) : (lane bytes i)[j] = bytes[8 * i.val + j] := by
  simp [lane]

theorem toList_lane {k : Nat} (bytes : Vector UInt8 (8 * k)) (i : Fin k) :
    (lane bytes i).toList = (bytes.toList.drop (8 * i.val)).take 8 := by
  apply List.ext_getElem
  · rw [Vector.length_toList, List.length_take, List.length_drop, Vector.length_toList]
    omega
  · intro j hj _
    rw [Vector.length_toList] at hj
    rw [Vector.getElem_toList, getElem_lane bytes i j hj, List.getElem_take, List.getElem_drop,
      Vector.getElem_toList]

/-- The words of a region determine it: position `i` is byte `i % 8` of lane
`i / 8`. -/
theorem decodeLanes_injective {k : Nat} {bytes other : Vector UInt8 (8 * k)}
    (h : decodeLanes bytes = decodeLanes other) : bytes = other := by
  apply Vector.ext
  intro i hi
  have hlane : i / 8 < k := by omega
  have hbyte : i % 8 < 8 := by omega
  have hposition : 8 * (i / 8) + i % 8 = i := by omega
  have hword : (decodeLanes bytes)[i / 8] = (decodeLanes other)[i / 8] := by rw [h]
  rw [getElem_decodeLanes, getElem_decodeLanes] at hword
  have hbytes : (lane bytes ⟨i / 8, hlane⟩)[i % 8] = (lane other ⟨i / 8, hlane⟩)[i % 8] := by
    rw [decode_injective hword]
  simpa only [getElem_lane, hposition] using hbytes

end Blake2b.LittleEndian
