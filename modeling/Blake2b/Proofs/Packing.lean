import Blake2b.Proofs.Separation
/-!
# What the packed parameters say

The packed parameters of a sequential hash are the two lengths, two ones, zeros for
all that belongs to trees, the salt and the personalization (`toList_packed_sequential`).
The lengths are in range, so a byte holds them whole, and every field can be read where it
lies.

Applying parameters xors the packed bytes into a chaining value, a word for each lane of
eight bytes. It is its own inverse, and it separates: of one chaining value, two parameters
make the same only if they are the same.
-/

namespace Blake2b.Parameters

/-- One word of a chaining value takes in the number of one lane. -/
theorem get_applyTo (p : Parameters) (h : ChainingValue) (i : Fin 8) :
    ∃ word : UInt64,
      word.toNat = LittleEndian.digitsValue ((p.packed.toList.drop (8 * i.val)).take 8) ∧
        (p.applyTo h).get i = h.get i ^^^ word := by
  exact ⟨p.lanes.get i, p.toNat_getElem_lanes i.val i.isLt, getElem_applyTo p h i.val i.isLt⟩

theorem applyTo_applyTo (p : Parameters) (h : ChainingValue) :
    p.applyTo (p.applyTo h) = h := by
  apply Vector.ext
  intro i hi
  rw [getElem_applyTo, getElem_applyTo, UInt64.xor_assoc, UInt64.xor_self, UInt64.xor_zero]

theorem applyTo_eq_iff (p q : Parameters) (h : ChainingValue) :
    p.applyTo h = q.applyTo h ↔ p.packed = q.packed := by
  constructor
  · intro happly
    rw [applyTo_injective happly]
  · intro hpacked
    rw [packed_injective hpacked]

/-- Every field of packed parameters is read at its offset as it was given, and nothing else
is in them. Applying them xors each lane into its word, twice applying them does nothing, and
parameters that do the same to one chaining value, or are packed alike, are the same. -/
theorem packed_reads_back (digestLength keyLength : Nat) (salt : Option Salt)
    (personal : Option Personal) (p : Parameters)
    (hp : sequential digestLength keyLength salt personal = .ok p) :
    let bytes := p.packed.toList
    ((bytes.take 4).map UInt8.toNat = [digestLength, keyLength, 1, 1] ∧
      (bytes.drop 4).take 28 = List.replicate 28 0 ∧
      (bytes.drop 32).take 16 = (salt.getD (Vector.replicate 16 0)).toList ∧
      (bytes.drop 48).take 16 = (personal.getD (Vector.replicate 16 0)).toList ∧
      unpack p.packed = p) ∧
    (∀ (h : ChainingValue) (i : Fin 8), ∃ word : UInt64,
      word.toNat = LittleEndian.digitsValue ((bytes.drop (8 * i.val)).take 8) ∧
        (p.applyTo h).get i = h.get i ^^^ word) ∧
    (∀ h : ChainingValue, p.applyTo (p.applyTo h) = h) ∧
    ∀ (q : Parameters) (h : ChainingValue),
      (p.applyTo h = q.applyTo h ↔ p.packed = q.packed) ∧ (p.packed = q.packed ↔ p = q) := by
  intro bytes
  obtain ⟨-, hdigest, hkey, -⟩ := of_sequential_eq_ok hp
  -- what is left of the packed form from each offset on
  have h0 : bytes.drop 0 = _ := toList_packed_sequential hp
  have h4 : bytes.drop 4 = _ := drop_add_of_drop h0 rfl
  have h32 : bytes.drop 32 = _ := drop_add_of_drop h4 List.length_replicate
  have h48 : bytes.drop 48 = _ := drop_add_of_drop h32 Vector.length_toList
  have hfront : bytes.take 4 = [digestLength.toUInt8, keyLength.toUInt8, 1, 1] :=
    congrArg (List.take 4) h0
  refine ⟨⟨?_, ?_, ?_, ?_, p.unpack_packed⟩, p.get_applyTo, p.applyTo_applyTo, ?_⟩
  · rw [hfront, List.map_cons, List.map_cons, toNat_toUInt8_of_le hdigest,
      toNat_toUInt8_of_le hkey]
    rfl
  · rw [h4]
    exact List.take_left' List.length_replicate
  · rw [h32]
    exact List.take_left' Vector.length_toList
  · rw [h48]
    exact List.take_of_length_le (Nat.le_of_eq Vector.length_toList)
  · intro q h
    exact ⟨applyTo_eq_iff p q h, packed_injective, fun hpq => by rw [hpq]⟩

/-- Both lengths are as large as they may be, and the personalization is left out. -/
theorem packed_reads_back_full_key :
    let salt : Salt := Vector.replicate 16 7
    ∃ p, sequential 64 64 (some salt) none = .ok p ∧
      (p.packed.toList.take 4).map UInt8.toNat = [64, 64, 1, 1] ∧
      (p.packed.toList.drop 32).take 16 = List.replicate 16 7 ∧
      (p.packed.toList.drop 48).take 16 = List.replicate 16 0 ∧
      p.applyTo (p.applyTo Compression.iv) = Compression.iv := by
  intro salt
  have hp : ∃ p, sequential 64 64 (some salt) none = .ok p := ⟨_, rfl⟩
  obtain ⟨p, hp⟩ := hp
  obtain ⟨⟨hlengths, -, hsalt, hpersonal, -⟩, -, htwice, -⟩ :=
    packed_reads_back 64 64 (some salt) none p hp
  exact ⟨p, hp, hlengths, hsalt, hpersonal, htwice Compression.iv⟩

end Blake2b.Parameters
