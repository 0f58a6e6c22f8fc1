import Blake2b.Proofs.Run
/-!
# When a hash is refused

A hash of a whole message is refused for its setup or not at all. The setup is looked at in
a fixed order: the length of the digest, then the length of the key, and last whether there
is a key where one was asked for (`refusal`). The numbers are compared as they are, so a
length that would be in range modulo 256 is out of range.

Once there is a hasher, it has not given its digest yet. So it takes the message, whatever
that is, and gives the digest; the faults of these two steps never come up.
-/

namespace Blake2b

/-- A hasher was constructed, took the message and gave the digest `d`. -/
def Unrefused (constructed : Except Fault Hasher) (message : Bytes) (d : Digest) : Prop :=
  ∃ s next done, constructed = .ok s ∧ s.update message = (.ok (), next) ∧
    next.finalize = (.ok d, done)

namespace Setup

/-- Why a setup is refused, if it is. -/
def refusal (c : Setup) : Option Fault :=
  if c.digestLength = 0 ∨ c.digestLength > maxDigestLength then
    some (.outOfRange .digestLength c.digestLength)
  else if c.keyLength > maxKeyLength then some (.outOfRange .keyLength c.keyLength)
  else if c.key = some [] then some .emptyKey
  else none

/-- The digest of a whole message. -/
def hash (c : Setup) (message : Bytes) : Except Fault Digest :=
  match c.hasher with
  | .ok s => s.digestOf [message]
  | .error fault => .error fault

theorem hasher_of_parameters_error {c : Setup} {fault : Fault}
    (h : c.parameters = .error fault) : c.hasher = .error fault := by
  rw [parameters, keyLength] at h
  cases hkey : c.key with
  | none =>
      rw [hkey] at h
      simp only [hasher, hkey, Hasher.unkeyed, h]
      rfl
  | some key =>
      rw [hkey] at h
      simp only [hasher, hkey, Hasher.keyed, h]

/-- A key that is there but empty is refused behind the lengths. -/
theorem hasher_of_empty_key {c : Setup} {p : Parameters} (hp : c.parameters = .ok p)
    (hkey : c.key = some []) : c.hasher = .error .emptyKey := by
  rw [parameters, keyLength, hkey] at hp
  simp only [hasher, hkey, Hasher.keyed, hp]
  rfl

theorem hasher_of_refusal {c : Setup} {fault : Fault} (h : c.refusal = some fault) :
    c.hasher = .error fault := by
  unfold refusal at h
  split at h
  · rename_i hdigest
    cases h
    apply hasher_of_parameters_error
    rw [parameters, Parameters.sequential, if_pos hdigest]
  · rename_i hdigest
    split at h
    · rename_i hkeyLength
      cases h
      apply hasher_of_parameters_error
      rw [parameters, Parameters.sequential, if_neg hdigest, if_pos hkeyLength]
    · rename_i hkeyLength
      split at h
      · rename_i hkey
        cases h
        obtain ⟨p, hp⟩ := exists_parameters (c := c) (by omega) (by omega) (by omega)
        exact hasher_of_empty_key hp hkey
      · cases h

theorem exists_hasher_of_refusal {c : Setup} (h : c.refusal = none) :
    ∃ s, c.hasher = .ok s ∧ s.digestLength = c.digestLength ∧
      c.digestLength ≤ maxDigestLength := by
  unfold refusal at h
  split at h
  · cases h
  · rename_i hdigest
    split at h
    · cases h
    · rename_i hkeyLength
      split at h
      · cases h
      · rename_i hkey
        obtain ⟨s, hs⟩ := exists_hasher (c := c) (by omega) (by omega) (by omega) hkey
        exact ⟨s, hs, Hasher.digestLength_of_hasher hs, by omega⟩

theorem hash_of_refusal {c : Setup} {fault : Fault} (h : c.refusal = some fault)
    (message : Bytes) : c.hash message = .error fault := by
  rw [hash, hasher_of_refusal h]

/-- A setup that is not refused gives a digest of every message, of the length that was
asked for. -/
theorem hash_of_no_refusal {c : Setup} (h : c.refusal = none) (message : Bytes) :
    ∃ d, c.hash message = .ok d ∧ d.length = c.digestLength ∧
      d.toBytes.length = c.digestLength ∧ Unrefused c.hasher message d := by
  obtain ⟨s, hs, hlength, hle⟩ := exists_hasher_of_refusal h
  obtain ⟨next, hnext, habsorbed, -⟩ := (live_of_hasher hs).update_eq message
  have hdigestLength : next.digestLength = c.digestLength :=
    habsorbed.digestLength.trans hlength
  obtain ⟨d, done, hdone, hd, -⟩ := habsorbed.live.finalize_eq
  have hdlength : d.length = c.digestLength := hd.trans hdigestLength
  refine ⟨d, ?_, hdlength, ?_, s, next, done, hs, hnext, hdone⟩
  · have hdigestOf : s.digestOf [message] = next.finalize.1 := by
      simp only [Hasher.digestOf, Hasher.updateAll, hnext]
    rw [hash, hs]
    exact hdigestOf.trans (congrArg Prod.fst hdone)
  · rw [Digest.length_toBytes (hdlength ▸ hle), hdlength]

end Setup

/-- A hash is refused exactly if the length of the digest is out of range. A keyed hash is
refused for the length of the digest, else for a key that is too long, else for an empty key,
and else not. Where it is not refused, the digest has the length that was asked for, and no
step on the way was refused. -/
theorem hash_refused_for_setup (message key : Bytes) (digestLength : Nat) :
    (if digestLength = 0 ∨ digestLength > 64 then
      hash message digestLength = .error (.outOfRange .digestLength digestLength)
    else
      ∃ d, hash message digestLength = .ok d ∧ d.length = digestLength ∧
        d.toBytes.length = digestLength ∧
        Unrefused (Hasher.unkeyed digestLength none none) message d) ∧
    (if digestLength = 0 ∨ digestLength > 64 then
      keyedHash message key digestLength = .error (.outOfRange .digestLength digestLength)
    else if key.length > 64 then
      keyedHash message key digestLength = .error (.outOfRange .keyLength key.length)
    else if key = [] then
      keyedHash message key digestLength = .error .emptyKey
    else
      ∃ d, keyedHash message key digestLength = .ok d ∧ d.length = digestLength ∧
        d.toBytes.length = digestLength ∧
        Unrefused (Hasher.keyed digestLength key none none) message d) := by
  let c : Setup := ⟨digestLength, none, none, none⟩
  let k : Setup := ⟨digestLength, some key, none, none⟩
  have hc : hash message digestLength = c.hash message := rfl
  have hk : keyedHash message key digestLength = k.hash message := rfl
  rw [hc, hk]
  constructor
  · split
    · rename_i hdigest
      exact Setup.hash_of_refusal (c := c) (if_pos hdigest) message
    · rename_i hdigest
      exact Setup.hash_of_no_refusal (c := c) (if_neg hdigest) message
  · split
    · rename_i hdigest
      exact Setup.hash_of_refusal (c := k) (if_pos hdigest) message
    · rename_i hdigest
      split
      · rename_i hlong
        exact Setup.hash_of_refusal (c := k) ((if_neg hdigest).trans (if_pos hlong)) message
      · rename_i hlong
        have hlengths : k.refusal = if some key = some [] then some .emptyKey else none :=
          (if_neg hdigest).trans (if_neg hlong)
        split
        · rename_i hempty
          have hkey : some key = some [] := congrArg some hempty
          exact Setup.hash_of_refusal (c := k) (hlengths.trans (if_pos hkey)) message
        · rename_i hempty
          have hkey : some key ≠ some [] := fun h => hempty (Option.some.inj h)
          exact Setup.hash_of_no_refusal (c := k) (hlengths.trans (if_neg hkey)) message

-- 288 is 32 modulo 256
example : hash [] 288 = .error (.outOfRange .digestLength 288) := rfl

end Blake2b
