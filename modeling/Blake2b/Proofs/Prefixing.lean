import Blake2b.Proofs.Run
/-!
# A key is data that comes first

A keyed hasher takes in its key block on its own account: nothing has been handed in yet,
and its phase says so. In all that follows the block is data like any other. It waits in
the window until more comes behind it, it is counted, and it is the last block if nothing
comes. So a caller who has the parameters of a keyed hash can do without the keyed hasher,
and hand in the padded key and the message as one stream.

The pieces of that stream may be cut anywhere, also inside of the key block or across its
end. This is an instance of `Absorbed.digestOf_eq`, and needs no look at the key.
-/

namespace Blake2b

namespace Setup

/-- The hasher of a setup gives the digest that the hasher of its parameters gives for the
opening and the message together. -/
theorem digestOf_eq_prefixed {c : Setup} {s : Hasher} (h : c.hasher = .ok s) :
    ∃ p, c.parameters = .ok p ∧
      ∀ whole chunks : List Bytes, whole.flatten = c.opening ++ chunks.flatten →
        (Hasher.ofParameters p).digestOf whole = s.digestOf chunks := by
  obtain ⟨p, hp, hopening⟩ := absorbed_of_hasher h
  exact ⟨p, hp, fun _ _ hdata => hopening.digestOf_eq (Hasher.live_ofParameters p) hdata⟩

end Setup

theorem keyedHash_eq_digestOf {key : Bytes} {digestLength : Nat} {s : Hasher}
    (hs : Hasher.keyed digestLength key none none = .ok s) (hlive : s.Live)
    (chunks : List Bytes) :
    keyedHash chunks.flatten key digestLength = s.digestOf chunks := by
  rw [keyedHash, hs]
  exact (Hasher.Absorbed.refl hlive).digestOf_eq hlive (by simp)

/-- A keyed hash is the hash of the padded key and the message as one stream, under the
parameters of the keyed hash. The stream and the message may each be cut in any way. -/
theorem keyed_digestOf_eq_prefixed (digestLength : Nat) (hpos : 1 ≤ digestLength)
    (hle : digestLength ≤ 64) (key : Bytes) (hkey : 1 ≤ key.length) (hkeyLe : key.length ≤ 64)
    (salt : Option Salt) (personal : Option Personal) (message : Bytes)
    (whole chunks : List Bytes) (hwhole : whole.flatten = Message.paddedKey key ++ message)
    (hchunks : chunks.flatten = message) :
    ∃ p s d, Parameters.sequential digestLength key.length salt personal = .ok p ∧
      Hasher.keyed digestLength key salt personal = .ok s ∧ d.length = digestLength ∧
      (Hasher.ofParameters p).digestOf whole = .ok d ∧ s.digestOf chunks = .ok d ∧
      (salt = none → personal = none → keyedHash message key digestLength = .ok d) := by
  subst hchunks
  obtain ⟨s, hs⟩ := Setup.exists_hasher (c := ⟨digestLength, some key, salt, personal⟩)
    hpos hle hkeyLe (by rintro ⟨⟩; exact absurd hkey (by decide))
  have hlive := Setup.live_of_hasher hs
  obtain ⟨p, hp, hprefixed⟩ := Setup.digestOf_eq_prefixed hs
  obtain ⟨d, hd, hlength⟩ := hlive.exists_digestOf chunks
  refine ⟨p, s, d, hp, hs, hlength.trans (Hasher.digestLength_of_hasher hs),
    (hprefixed whole chunks hwhole).trans hd, hd, ?_⟩
  rintro rfl rfl
  exact (keyedHash_eq_digestOf hs hlive chunks).trans hd

/-- The first stream is cut inside of the key block and again across its end. The second has
no message, so that the key block is the last block. -/
theorem keyed_digestOf_eq_prefixed_cut_key :
    let key : Bytes := [1, 2, 3]
    let block := Message.paddedKey key
    let whole : List Bytes :=
      [block.take 2, [], (block.drop 2).take 100, block.drop 102 ++ [7], [8]]
    ∃ p s, Parameters.sequential 33 3 none none = .ok p ∧ Hasher.keyed 33 key none none = .ok s ∧
      (∃ d, (Hasher.ofParameters p).digestOf whole = .ok d ∧ s.digestOf [[7, 8]] = .ok d ∧
        keyedHash [7, 8] key 33 = .ok d) ∧
      ∃ d, (Hasher.ofParameters p).digestOf [block.take 2, block.drop 2] = .ok d ∧
        s.digestOf [] = .ok d ∧ keyedHash [] key 33 = .ok d := by
  intro key block whole
  have hwhole : whole.flatten = block ++ [7, 8] := by decide
  have hcut : [block.take 2, block.drop 2].flatten = block ++ [] := by decide
  obtain ⟨p, s, d, hp, hs, -, hd, hsame, hhash⟩ :=
    keyed_digestOf_eq_prefixed 33 (by decide) (by decide) key (by decide) (by decide) none none
      [7, 8] whole [[7, 8]] hwhole rfl
  obtain ⟨q, t, e, hq, ht, -, he, hsame', hhash'⟩ :=
    keyed_digestOf_eq_prefixed 33 (by decide) (by decide) key (by decide) (by decide) none none
      [] [block.take 2, block.drop 2] [] hcut rfl
  have hpq : p = q := Except.ok.inj (hp.symm.trans hq)
  have hst : s = t := Except.ok.inj (hs.symm.trans ht)
  subst hpq hst
  exact ⟨p, s, hp, hs, ⟨d, hd, hsame, hhash rfl rfl⟩, e, he, hsame', hhash' rfl rfl⟩

end Blake2b
