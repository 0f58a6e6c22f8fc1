import Blake2b.Parameters
import Blake2b.Proofs.LittleEndian
/-!
# Packed parameters can be read back

The packed form is a concatenation, and each field is read where the parts
before it end. So reading is inverse to packing (`unpack_packed`), and no two
parameters have the same packed form. Xoring into a chaining value loses nothing
either, since every byte of the packed form has its own place in one of the eight
words.
-/

namespace Blake2b.Parameters

theorem toNat_halfWord (bytes : Vector UInt8 4) :
    (halfWord bytes).toNat = LittleEndian.digitsValue bytes.toList := by
  have hpush : ∀ (byte : UInt8) (half : UInt32), 256 * half.toNat < 256 ^ 4 →
      ((half <<< 8) ||| byte.toUInt32).toNat = byte.toNat + 256 * half.toNat := by
    intro byte half hroom
    rw [UInt32.toNat_or, UInt32.toNat_shiftLeft, UInt8.toNat_toUInt32]
    exact LittleEndian.shiftLeft_mod_or (Nat.lt_of_lt_of_eq hroom (by decide)) byte.toNat_lt
  exact LittleEndian.foldr_eq_digitsValue UInt32.toNat rfl hpush bytes.toList
    (Nat.le_of_eq Vector.length_toList)

theorem toNat_getElem_halfWordBytes (half : UInt32) (i : Nat) (hi : i < 4) :
    (halfWordBytes half)[i].toNat = half.toNat / 256 ^ i % 256 := by
  have hshift : (8 * i).toUInt32.toNat % 32 = 8 * i := by
    rw [Nat.toUInt32_eq, UInt32.toNat_ofNat']
    omega
  simp only [halfWordBytes, Vector.getElem_ofFn]
  rw [UInt32.toNat_toUInt8, UInt32.toNat_shiftRight, hshift, Nat.shiftRight_eq_div_pow,
    Nat.pow_mul]

@[simp] theorem halfWord_halfWordBytes (half : UInt32) :
    halfWord (halfWordBytes half) = half := by
  apply UInt32.toNat.inj
  rw [toNat_halfWord, LittleEndian.digitsValue_eq_mod (toNat_getElem_halfWordBytes half)]
  exact Nat.mod_eq_of_lt half.toNat_lt

theorem toList_packed (p : Parameters) :
    p.packed.toList =
      [p.digestLength, p.keyLength, p.fanout, p.depth] ++
        ((halfWordBytes p.leafLength).toList ++
          ((LittleEndian.encode p.nodeOffset).toList ++
            ([p.nodeDepth, p.innerLength] ++
              (List.replicate 14 0 ++ (p.salt.toList ++ p.personal.toList))))) := by
  rw [packed]
  repeat rw [Vector.toList_append]
  rw [Vector.toList_replicate]
  simp only [List.append_assoc]
  rfl

theorem getElem_field (bytes : Vector UInt8 parametersLength) (offset k : Nat)
    (h : offset + k ≤ parametersLength) (i : Nat) (hi : i < k) :
    (field bytes offset k h)[i] = bytes[offset + i] := by
  simp only [field, Vector.getElem_ofFn]
  rfl

/-- A byte of a part lies at the offset of the part and its place in it. -/
theorem getElem_eq_of_drop {bytes : Vector UInt8 parametersLength} {offset : Nat}
    {part rest : Bytes} (hdrop : bytes.toList.drop offset = part ++ rest) (i : Nat)
    (h : offset + i < parametersLength) (hi : i < part.length) :
    bytes[offset + i] = part[i] := by
  have hbyte : (bytes.toList.drop offset)[i]? = some part[i] := by
    rw [hdrop, List.getElem?_append_left hi, List.getElem?_eq_getElem hi]
  rw [List.getElem?_drop, List.getElem?_eq_getElem (by rw [Vector.length_toList]; exact h),
    Vector.getElem_toList, Option.some_inj] at hbyte
  exact hbyte

theorem field_eq_of_drop {bytes : Vector UInt8 parametersLength} {offset k : Nat}
    {part : Vector UInt8 k} {rest : Bytes}
    (hdrop : bytes.toList.drop offset = part.toList ++ rest)
    (h : offset + k ≤ parametersLength) : field bytes offset k h = part := by
  apply Vector.ext
  intro i hi
  have hinside : i < part.toList.length := by
    rw [Vector.length_toList]
    exact hi
  rw [getElem_field, getElem_eq_of_drop hdrop i (by omega) hinside, Vector.getElem_toList]

/-- The next part begins where a part ends. -/
theorem drop_add_of_drop {bytes part rest : Bytes} {offset k : Nat}
    (hdrop : bytes.drop offset = part ++ rest) (hpart : part.length = k) :
    bytes.drop (offset + k) = rest := by
  rw [← List.drop_drop, hdrop, List.drop_left' hpart]

/-- Every field is read back as it was packed. -/
theorem unpack_packed (p : Parameters) : unpack p.packed = p := by
  -- what is left of the packed form from each offset on
  have h0 : p.packed.toList.drop 0 = _ := p.toList_packed
  have h4 := drop_add_of_drop h0 (k := 4) rfl
  have h8 := drop_add_of_drop h4 Vector.length_toList
  have h16 := drop_add_of_drop h8 Vector.length_toList
  have h18 := drop_add_of_drop h16 (k := 2) rfl
  have h32 := drop_add_of_drop h18 List.length_replicate
  have h48 := drop_add_of_drop h32 Vector.length_toList
  rw [← List.append_nil p.personal.toList] at h48
  have hdigestLength : p.packed[0] = p.digestLength := getElem_eq_of_drop h0 0 _ (by simp)
  have hkeyLength : p.packed[1] = p.keyLength := getElem_eq_of_drop h0 1 _ (by simp)
  have hfanout : p.packed[2] = p.fanout := getElem_eq_of_drop h0 2 _ (by simp)
  have hdepth : p.packed[3] = p.depth := getElem_eq_of_drop h0 3 _ (by simp)
  have hleafLength : field p.packed 4 4 (by decide) = halfWordBytes p.leafLength :=
    field_eq_of_drop h4 _
  have hnodeOffset : field p.packed 8 8 (by decide) = LittleEndian.encode p.nodeOffset :=
    field_eq_of_drop h8 _
  have hnodeDepth : p.packed[16] = p.nodeDepth := getElem_eq_of_drop h16 0 _ (by simp)
  have hinnerLength : p.packed[17] = p.innerLength := getElem_eq_of_drop h16 1 _ (by simp)
  have hsalt : field p.packed 32 16 (by decide) = p.salt := field_eq_of_drop h32 _
  have hpersonal : field p.packed 48 16 (by decide) = p.personal := field_eq_of_drop h48 _
  rw [unpack, hdigestLength, hkeyLength, hfanout, hdepth, hleafLength, hnodeOffset,
    hnodeDepth, hinnerLength, hsalt, hpersonal, halfWord_halfWordBytes,
    LittleEndian.decode_encode]

theorem packed_injective {p q : Parameters} (h : p.packed = q.packed) : p = q := by
  rw [← unpack_packed p, ← unpack_packed q, h]

theorem eq_of_sequential_eq_ok {digestLength keyLength : Nat} {salt : Option Salt}
    {personal : Option Personal} {p : Parameters}
    (h : sequential digestLength keyLength salt personal = .ok p) :
    p = {
      digestLength := digestLength.toUInt8
      keyLength := keyLength.toUInt8
      fanout := 1
      depth := 1
      leafLength := 0
      nodeOffset := 0
      nodeDepth := 0
      innerLength := 0
      salt := salt.getD (Vector.replicate saltLength 0)
      personal := personal.getD (Vector.replicate personalLength 0) } := by
  unfold sequential at h
  split at h
  · cases h
  · split at h
    · cases h
    · cases h
      rfl

/-- The packed parameters of a sequential hash, with zeros for all that belongs to trees. -/
theorem toList_packed_sequential {digestLength keyLength : Nat} {salt : Option Salt}
    {personal : Option Personal} {p : Parameters}
    (h : sequential digestLength keyLength salt personal = .ok p) :
    p.packed.toList =
      [digestLength.toUInt8, keyLength.toUInt8, 1, 1] ++
        (List.replicate 28 0 ++
          ((salt.getD (Vector.replicate 16 0)).toList ++
            (personal.getD (Vector.replicate 16 0)).toList)) := by
  have hleaf : (halfWordBytes 0).toList = List.replicate 4 0 := by decide
  have hnode : (LittleEndian.encode 0).toList = List.replicate 8 0 := by decide
  rw [toList_packed, eq_of_sequential_eq_ok h, hleaf, hnode]
  rfl

/-- A lane is the number whose digits its bytes are. -/
theorem toNat_getElem_lanes (p : Parameters) (i : Nat) (hi : i < 8) :
    p.lanes[i].toNat =
      LittleEndian.digitsValue ((p.packed.toList.drop (8 * i)).take 8) := by
  have hlane : p.lanes[i] = LittleEndian.decode (@LittleEndian.lane 8 p.packed ⟨i, hi⟩) :=
    LittleEndian.getElem_decodeLanes (k := 8) p.packed i hi
  rw [hlane, LittleEndian.toNat_decode, LittleEndian.toList_lane]

/-- Different parameters take one chaining value to different ones. -/
theorem applyTo_injective {p q : Parameters} {h : ChainingValue}
    (happly : p.applyTo h = q.applyTo h) : p = q := by
  apply packed_injective
  apply LittleEndian.decodeLanes_injective (k := 8)
  apply Vector.ext
  intro i hi
  have hword : (p.applyTo h)[i] = (q.applyTo h)[i] := by rw [happly]
  rw [getElem_applyTo, getElem_applyTo] at hword
  exact (UInt64.xor_right_inj _).1 hword

end Blake2b.Parameters
