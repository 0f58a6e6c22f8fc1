import Blake2b.Proofs.Parameters
import Blake2b.Proofs.Setup
/-!
# Different setups start apart

A hash starts from a chaining value and from what is already in the window, and
two setups that differ start from a different one of the two. The chaining value
tells the parameters, and the window tells the key block. Neither is enough
alone: a key and the same key with a zero behind it fill one block alike, and the
parameters know of the key only its length. Together they give the key, and so
the whole setup up to salts and personalizations that are left out, which count
as sixteen zeros.
-/

namespace Blake2b

namespace Parameters

/-- A length in range fits into its byte. -/
theorem toUInt8_inj_of_le {m n : Nat} (hm : m ≤ 64) (hn : n ≤ 64) :
    m.toUInt8 = n.toUInt8 ↔ m = n := by
  constructor
  · intro h
    rw [← toNat_toUInt8_of_le hm, h, toNat_toUInt8_of_le hn]
  · intro h
    rw [h]

/-- The parameters of a sequential hash are equal exactly if the lengths are, and
the salt and the personalization with zeros for what is left out. -/
theorem sequential_eq_iff {digestLength keyLength digestLength' keyLength' : Nat}
    {salt salt' : Option Salt} {personal personal' : Option Personal} {p p' : Parameters}
    (h : sequential digestLength keyLength salt personal = .ok p)
    (h' : sequential digestLength' keyLength' salt' personal' = .ok p') :
    p = p' ↔
      digestLength = digestLength' ∧ keyLength = keyLength' ∧
        salt.getD (Vector.replicate saltLength 0) =
          salt'.getD (Vector.replicate saltLength 0) ∧
        personal.getD (Vector.replicate personalLength 0) =
          personal'.getD (Vector.replicate personalLength 0) := by
  obtain ⟨-, hdigest, hkey, -⟩ := of_sequential_eq_ok h
  obtain ⟨-, hdigest', hkey', -⟩ := of_sequential_eq_ok h'
  have hp := eq_of_sequential_eq_ok h
  have hp' := eq_of_sequential_eq_ok h'
  rw [hp, hp', mk.injEq, toUInt8_inj_of_le hdigest hdigest', toUInt8_inj_of_le hkey hkey']
  constructor
  · rintro ⟨hdigestLength, hkeyLength, -, -, -, -, -, -, hsalt, hpersonal⟩
    exact ⟨hdigestLength, hkeyLength, hsalt, hpersonal⟩
  · rintro ⟨hdigestLength, hkeyLength, hsalt, hpersonal⟩
    exact ⟨hdigestLength, hkeyLength, rfl, rfl, rfl, rfl, rfl, rfl, hsalt, hpersonal⟩

end Parameters

namespace Message

theorem length_paddedKey_ge (key : Bytes) : blockLength ≤ (paddedKey key).length := by
  rw [paddedKey, List.length_append, List.length_replicate, blockLength]
  omega

/-- The filling hides the length of a key and nothing else. -/
theorem paddedKey_injective {key other : Bytes} (hlength : key.length = other.length)
    (h : paddedKey key = paddedKey other) : key = other :=
  (List.append_inj h hlength).1

end Message

namespace Setup

/-- A hasher starts from its parameters, with the opening still in its window. -/
theorem start_of_hasher {c : Setup} {s : Hasher} (h : c.hasher = .ok s) :
    ∃ p, c.parameters = .ok p ∧ s.chaining = p.applyTo Compression.iv ∧
      s.intake.live = c.opening := by
  obtain ⟨p, hp, habsorbed⟩ := absorbed_of_hasher h
  have hlength := length_opening_le (Parameters.of_sequential_eq_ok hp).2.2.1
  have hsettled : Backlog.empty.absorb c.opening = ([], Backlog.empty.extend c.opening) :=
    Backlog.settle_of_le _ hlength
  refine ⟨p, hp, ?_, ?_⟩
  · rw [habsorbed.chaining, Hasher.backlog_ofParameters, hsettled]
    rfl
  · have hbacklog := habsorbed.backlog
    rw [Hasher.backlog_ofParameters, hsettled] at hbacklog
    exact congrArg Backlog.bytes hbacklog

theorem opening_of_none {c : Setup} (h : c.key = none) : c.opening = [] := by
  rw [opening, h]

theorem opening_of_some {c : Setup} {key : Bytes} (h : c.key = some key) :
    c.opening = Message.paddedKey key := by
  rw [opening, h]

theorem keyLength_of_some {c : Setup} {key : Bytes} (h : c.key = some key) :
    c.keyLength = key.length := by
  rw [keyLength, h]

theorem opening_eq_nil_iff (c : Setup) : c.opening = [] ↔ c.key = none := by
  constructor
  · intro h
    cases hkey : c.key with
    | none => rfl
    | some key =>
        have hge := Message.length_paddedKey_ge key
        rw [← opening_of_some hkey, h] at hge
        exact absurd hge (by decide)
  · exact opening_of_none

/-- The opening and the length of the key give the key. -/
theorem key_eq_of_opening_eq {c d : Setup} (hlength : c.keyLength = d.keyLength)
    (h : c.opening = d.opening) : c.key = d.key := by
  cases hc : c.key with
  | none =>
      rw [opening_of_none hc] at h
      exact ((opening_eq_nil_iff d).1 h.symm).symm
  | some key =>
      cases hd : d.key with
      | none =>
          rw [opening_of_none hd, opening_eq_nil_iff, hc] at h
          cases h
      | some other =>
          rw [opening_of_some hc, opening_of_some hd] at h
          rw [keyLength_of_some hc, keyLength_of_some hd] at hlength
          rw [Message.paddedKey_injective hlength h]

/-- Two hashers start alike exactly if their setups agree, with zeros for a salt or
a personalization that is left out. -/
theorem start_eq_iff {c d : Setup} {s t : Hasher} (hs : c.hasher = .ok s)
    (ht : d.hasher = .ok t) :
    (s.chaining, s.intake.live) = (t.chaining, t.intake.live) ↔
      c.digestLength = d.digestLength ∧ c.key = d.key ∧
        c.salt.getD (Vector.replicate 16 0) = d.salt.getD (Vector.replicate 16 0) ∧
        c.personal.getD (Vector.replicate 16 0) = d.personal.getD (Vector.replicate 16 0) := by
  obtain ⟨p, hp, hchaining, hlive⟩ := start_of_hasher hs
  obtain ⟨q, hq, hchaining', hlive'⟩ := start_of_hasher ht
  rw [hchaining, hlive, hchaining', hlive', Prod.mk.injEq]
  constructor
  · rintro ⟨happly, hopening⟩
    have hparameters : p = q := Parameters.applyTo_injective happly
    obtain ⟨hdigestLength, hkeyLength, hsalt, hpersonal⟩ :=
      (Parameters.sequential_eq_iff hp hq).1 hparameters
    exact ⟨hdigestLength, key_eq_of_opening_eq hkeyLength hopening, hsalt, hpersonal⟩
  · rintro ⟨hdigestLength, hkey, hsalt, hpersonal⟩
    have hkeyLength : c.keyLength = d.keyLength := by rw [keyLength, keyLength, hkey]
    have hparameters : p = q :=
      (Parameters.sequential_eq_iff hp hq).2 ⟨hdigestLength, hkeyLength, hsalt, hpersonal⟩
    exact ⟨by rw [hparameters], by rw [opening, opening, hkey]⟩

/-- Two hashers start from the same chaining value and the same bytes in the window
exactly if their setups agree, with zeros for a salt or a personalization that is
left out. In particular neither zeros behind a key nor leaving the key out gives the
start of another setup. -/
theorem start_separated (c d : Setup) (s t : Hasher) (hs : c.hasher = .ok s)
    (ht : d.hasher = .ok t) :
    ((s.chaining, s.intake.live) = (t.chaining, t.intake.live) ↔
      c.digestLength = d.digestLength ∧ c.key = d.key ∧
        c.salt.getD (Vector.replicate 16 0) = d.salt.getD (Vector.replicate 16 0) ∧
        c.personal.getD (Vector.replicate 16 0) = d.personal.getD (Vector.replicate 16 0)) ∧
    (∀ key zeros, c.key = some key → d.key = some (key ++ List.replicate (zeros + 1) 0) →
      (s.chaining, s.intake.live) ≠ (t.chaining, t.intake.live)) ∧
    (c.key = none → d.key ≠ none →
      (s.chaining, s.intake.live) ≠ (t.chaining, t.intake.live)) := by
  refine ⟨start_eq_iff hs ht, ?_, ?_⟩
  · intro key zeros hc hd heq
    have hkey := ((start_eq_iff hs ht).1 heq).2.1
    rw [hc, hd, Option.some_inj, List.self_eq_append_right] at hkey
    cases hkey
  · intro hc hd heq
    have hkey := ((start_eq_iff hs ht).1 heq).2.1
    exact hd (hkey ▸ hc)

/-- The key block of `[1]` is that of `[1, 0]`, and a salt of zeros is no salt; only
the length of the key tells these two apart. -/
theorem start_separated_zero_behind :
    let c : Setup := ⟨32, some [1], none, none⟩
    let d : Setup := ⟨32, some [1, 0], some (Vector.replicate 16 0), none⟩
    ∃ s t, c.hasher = .ok s ∧ d.hasher = .ok t ∧ c.opening = d.opening ∧
      (s.chaining, s.intake.live) ≠ (t.chaining, t.intake.live) := by
  intro c d
  obtain ⟨s, hs⟩ := exists_hasher (c := c) (by decide) (by decide) (by decide) (by decide)
  obtain ⟨t, ht⟩ := exists_hasher (c := d) (by decide) (by decide) (by decide) (by decide)
  exact ⟨s, t, hs, ht, by decide, (start_separated c d s t hs ht).2.1 [1] 0 rfl rfl⟩

end Setup

end Blake2b
