import Blake2b.Proofs.Absorption
import Blake2b.Proofs.Parameters
/-!
# Setups

A setup is all that a caller chooses before the message: the length of the
digest, a key or none, a salt or none, a personalization or none. A key that is
there but empty is not the same as no key, and is refused.

A key is nothing but data that comes first: the hasher of a setup is the hasher
of its parameters after it has taken in `opening`, which is the padded key or
nothing. No frame is given out for that, because the key block is held back like
any other block.
-/

namespace Blake2b

/-- What a caller chooses before the message. -/
structure Setup where
  digestLength : Nat
  key : Option Bytes
  salt : Option Salt
  personal : Option Personal

namespace Setup

/-- The length of the key as it is packed, `0` without a key. -/
def keyLength (c : Setup) : Nat :=
  match c.key with
  | none => 0
  | some key => key.length

def parameters (c : Setup) : Except Fault Parameters :=
  Parameters.sequential c.digestLength c.keyLength c.salt c.personal

/-- The packed parameters of the setup, byte for byte. -/
def parameterBytes (c : Setup) : Bytes :=
  [c.digestLength.toUInt8, c.keyLength.toUInt8, 1, 1] ++
    (List.replicate 28 0 ++
      ((c.salt.getD (Vector.replicate 16 0)).toList ++
        (c.personal.getD (Vector.replicate 16 0)).toList))

/-- What the stream of the setup begins with, before any message. -/
def opening (c : Setup) : Bytes :=
  match c.key with
  | none => []
  | some key => Message.paddedKey key

/-- The stream of a message in pieces: the opening and then the message. -/
def stream (c : Setup) (chunks : List Bytes) : Bytes := c.opening ++ chunks.flatten

def hasher (c : Setup) : Except Fault Hasher :=
  match c.key with
  | none => Hasher.unkeyed c.digestLength c.salt c.personal
  | some key => Hasher.keyed c.digestLength key c.salt c.personal

/-- The hasher of a setup, with the frames that were compressed to construct it. -/
def recordedHasher (c : Setup) : Recorded (Except Fault Hasher) :=
  match c.key with
  | none => pure (Hasher.unkeyed c.digestLength c.salt c.personal)
  | some key => Hasher.recordedKeyed c.digestLength key c.salt c.personal

end Setup

/-- A length in range is the number of its byte. -/
theorem Parameters.toNat_toUInt8_of_le {n : Nat} (h : n ≤ 64) : n.toUInt8.toNat = n := by
  rw [Nat.toUInt8_eq, UInt8.toNat_ofNat']
  omega

theorem Parameters.of_sequential_eq_ok {digestLength keyLength : Nat} {salt : Option Salt}
    {personal : Option Personal} {p : Parameters}
    (h : sequential digestLength keyLength salt personal = .ok p) :
    0 < digestLength ∧ digestLength ≤ maxDigestLength ∧ keyLength ≤ maxKeyLength ∧
      p.digestLength.toNat = digestLength := by
  unfold sequential at h
  split at h
  · cases h
  · rename_i hdigest
    split at h
    · cases h
    · rename_i hkey
      cases h
      have hle : digestLength ≤ maxDigestLength := by omega
      exact ⟨by omega, hle, by omega, toNat_toUInt8_of_le hle⟩

namespace Hasher

theorem absorb_nil (s : Hasher) : s.absorb [] = s := by
  simp only [absorb, Intake.absorb_nil, Workspace.compressAll_nil]

theorem toList_keyBlock {key : Bytes} (h : key.length ≤ blockLength) :
    (keyBlock key).toList = Message.paddedKey key := by
  have hfits : Storage.Fits blockLength 0 key := by
    unfold Storage.Fits
    omega
  rw [keyBlock, Storage.toList_overwrite _ 0 key hfits, Block.zero, Vector.toList_replicate,
    List.take_zero, List.nil_append, Nat.zero_add, List.drop_replicate, Message.paddedKey]

theorem live_ofParameters (p : Parameters) : (ofParameters p).Live :=
  ⟨nofun, Nat.zero_le _⟩

theorem backlog_ofParameters (p : Parameters) :
    (ofParameters p).intake.backlog = Backlog.empty := rfl

end Hasher

/-- A key block is held back, so that a construction compresses nothing. -/
theorem Hasher.frames_recordedKeyed (digestLength : Nat) (key : Bytes) (salt : Option Salt)
    (personal : Option Personal) :
    (recordedKeyed digestLength key salt personal).frames = [] := by
  have hblock : (Intake.empty.absorb (keyBlock key).toList).1 = [] := by
    rw [(Intake.empty.backlog_absorb _ (Nat.zero_le _)).1]
    exact Backlog.absorb_empty_of_le (Nat.le_of_eq Vector.length_toList)
  rw [recordedKeyed]
  cases Parameters.sequential digestLength key.length salt personal with
  | error fault => rfl
  | ok p =>
      cases key.isEmpty with
      | true => rfl
      | false =>
          refine (List.append_nil _).trans ?_
          rw [frames_recordedAbsorb]
          exact hblock

namespace Setup

theorem recordedHasher_eq (c : Setup) : c.recordedHasher = ⟨[], c.hasher⟩ := by
  rw [recordedHasher, hasher]
  cases c.key with
  | none => rfl
  | some key =>
      exact Recorded.ext (Hasher.frames_recordedKeyed c.digestLength key c.salt c.personal)
        (Hasher.value_recordedKeyed c.digestLength key c.salt c.personal)

/-- A key fills one block, however long it is. -/
theorem length_opening {c : Setup} (h : c.keyLength ≤ maxKeyLength) :
    c.opening.length = if c.key.isSome then blockLength else 0 := by
  cases hkey : c.key with
  | none => simp [opening, hkey]
  | some key =>
      simp only [keyLength, hkey, maxKeyLength] at h
      simp only [opening, hkey, Message.paddedKey, List.length_append, List.length_replicate,
        Option.isSome_some, if_true, blockLength]
      omega

theorem length_opening_le {c : Setup} (h : c.keyLength ≤ maxKeyLength) :
    c.opening.length ≤ blockLength := by
  rw [length_opening h]
  split
  · exact Nat.le_refl _
  · exact Nat.zero_le _

/-- A hasher that is given comes from its parameters by taking in the opening. -/
theorem hasher_eq_ok {c : Setup} {s : Hasher} (h : c.hasher = .ok s) :
    ∃ p, c.parameters = .ok p ∧ s = (Hasher.ofParameters p).absorb c.opening := by
  cases hkey : c.key with
  | none =>
      simp only [hasher, hkey, Hasher.unkeyed] at h
      rw [parameters, keyLength, opening, hkey]
      cases hp : Parameters.sequential c.digestLength 0 c.salt c.personal with
      | error fault =>
          rw [hp] at h
          cases h
      | ok p =>
          rw [hp] at h
          cases h
          exact ⟨p, rfl, (Hasher.absorb_nil _).symm⟩
  | some key =>
      simp only [hasher, hkey, Hasher.keyed] at h
      rw [parameters, keyLength, opening, hkey]
      cases hp : Parameters.sequential c.digestLength key.length c.salt c.personal with
      | error fault =>
          simp only [hp] at h
          cases h
      | ok p =>
          have hlength : key.length ≤ blockLength :=
            Nat.le_trans (Parameters.of_sequential_eq_ok hp).2.2.1 (by decide)
          simp only [hp] at h
          split at h
          · cases h
          · rw [Hasher.toList_keyBlock hlength] at h
            cases h
            exact ⟨p, rfl, rfl⟩

theorem absorbed_of_hasher {c : Setup} {s : Hasher} (h : c.hasher = .ok s) :
    ∃ p, c.parameters = .ok p ∧ (Hasher.ofParameters p).Absorbed c.opening s := by
  obtain ⟨p, hp, rfl⟩ := hasher_eq_ok h
  exact ⟨p, hp, (Hasher.live_ofParameters p).absorbed_absorb c.opening⟩

theorem live_of_hasher {c : Setup} {s : Hasher} (h : c.hasher = .ok s) : s.Live := by
  obtain ⟨p, -, hopening⟩ := absorbed_of_hasher h
  exact hopening.live

theorem chaining_ofParameters {c : Setup} {p : Parameters} (h : c.parameters = .ok p) :
    (Hasher.ofParameters p).chaining = Message.start c.parameterBytes := by
  have hpacked : p.packed.toList = c.parameterBytes := Parameters.toList_packed_sequential h
  apply Vector.ext
  intro i hi
  have hlane := p.toNat_getElem_lanes i hi
  rw [hpacked] at hlane
  rw [Hasher.ofParameters, Parameters.getElem_applyTo, Message.start, Vector.getElem_ofFn,
    ← hlane, Nat.toUInt64_eq, UInt64.ofNat_toNat]
  rfl

/-- The opening alone gives out no frame. -/
theorem absorb_opening_fst {c : Setup} {p : Parameters} (h : c.parameters = .ok p) :
    (Backlog.empty.absorb c.opening).1 = [] :=
  Backlog.absorb_empty_of_le (length_opening_le (Parameters.of_sequential_eq_ok h).2.2.1)

/-- The hasher of a setup starts from what its parameter bytes make of the initialisation
vector. -/
theorem chaining_of_hasher {c : Setup} {s : Hasher} (h : c.hasher = .ok s) :
    s.chaining = Message.start c.parameterBytes := by
  obtain ⟨p, hp, hopening⟩ := absorbed_of_hasher h
  rw [hopening.chaining, Hasher.backlog_ofParameters, absorb_opening_fst hp, Message.chain_nil,
    chaining_ofParameters hp]

theorem exists_parameters {c : Setup} (hpos : 0 < c.digestLength)
    (hle : c.digestLength ≤ maxDigestLength) (hkeyLength : c.keyLength ≤ maxKeyLength) :
    ∃ p, c.parameters = .ok p := by
  rw [parameters, Parameters.sequential, if_neg (by omega), if_neg (by omega)]
  exact ⟨_, rfl⟩

theorem exists_hasher {c : Setup} (hpos : 0 < c.digestLength)
    (hle : c.digestLength ≤ maxDigestLength) (hkeyLength : c.keyLength ≤ maxKeyLength)
    (hkey : c.key ≠ some []) : ∃ s, c.hasher = .ok s := by
  obtain ⟨p, hp⟩ := exists_parameters hpos hle hkeyLength
  rw [parameters, keyLength] at hp
  cases hc : c.key with
  | none =>
      rw [hc] at hp
      simp only [hasher, hc, Hasher.unkeyed, hp]
      exact ⟨_, rfl⟩
  | some key =>
      have hne : key.isEmpty = false := by
        rw [List.isEmpty_eq_false_iff]
        rintro rfl
        exact hkey hc
      rw [hc] at hp
      simp only [hasher, hc, Hasher.keyed, hp, hne]
      exact ⟨_, rfl⟩

end Setup

end Blake2b
