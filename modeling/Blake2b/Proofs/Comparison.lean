import Blake2b.Proofs.Hex
import Blake2b.Proofs.Run
/-!
# Comparing and showing digests

A digest is compared by a loop that goes over all positions and keeps one bit. The bit stays
set exactly if all bytes so far agreed, so what the loop answers at the end is whether the two
byte strings are equal (`verify_eq_true_iff`). This holds of every digest.

Two digests may have the same bytes and still be stored differently, behind their end. That
the digests of hashers are not needs a look at where they come from: they are cut out of the
output into storage that was zero before, and their length is in range (`Proper`). For these,
equal bytes, equal storage and equal text are the same thing.
-/

namespace Blake2b.Digest

/-- The digests that hashers give, at any point of any run. -/
def Given (d : Digest) : Prop :=
  ∃ (s : Hasher) (operations : List Operation), s.Constructed ∧
    (s.after operations).finalize.1 = .ok d

/-- The digest has a length in range, and nothing is stored behind its end. -/
structure Proper (d : Digest) : Prop where
  length_le : d.length ≤ maxDigestLength
  zeros : d.storage.toList =
    d.toBytes ++ List.replicate (maxDigestLength - d.length) 0

/-- The bit is set at the end exactly if it was set before and all bytes agree. -/
theorem foldl_zipWith_beq_eq_true_iff {xs ys : Bytes} (h : xs.length = ys.length)
    (sofar : Bool) :
    (List.zipWith (· == ·) xs ys).foldl (fun sofar same => sofar && same) sofar = true ↔
      sofar = true ∧ xs = ys := by
  induction xs generalizing ys sofar with
  | nil =>
      have hnil : ys = [] := List.eq_nil_of_length_eq_zero h.symm
      rw [hnil]
      simp
  | cons x xs ih =>
      cases ys with
      | nil => cases h
      | cons y ys =>
          rw [List.zipWith_cons_cons, List.foldl_cons, ih (Nat.succ.inj h), Bool.and_eq_true,
            beq_iff_eq, List.cons_eq_cons, and_assoc]

theorem verify_eq_true_iff (d : Digest) (expected : Bytes) :
    d.verify expected = true ↔ expected = d.toBytes := by
  by_cases hlength : d.toBytes.length = expected.length
  · rw [verify, if_pos hlength, agree, foldl_zipWith_beq_eq_true_iff hlength]
    exact ⟨fun h => h.2.symm, fun h => ⟨rfl, h.symm⟩⟩
  · rw [verify, if_neg hlength, Bool.false_eq_true, false_iff]
    intro h
    rw [h] at hlength
    exact hlength rfl

theorem beq_eq_true_iff (a b : Digest) : (a == b) = true ↔ a.toBytes = b.toBytes := by
  rw [beq_eq_verify, verify_eq_true_iff, eq_comm]

theorem proper_ofOutput (output : Vector UInt8 maxDigestLength) {length : Nat}
    (h : length ≤ maxDigestLength) : (ofOutput output length).Proper := by
  refine ⟨h, ?_⟩
  rw [toList_storage_ofOutput output length h, toBytes_ofOutput output length]
  rfl

theorem Given.proper {d : Digest} (h : d.Given) : d.Proper := by
  obtain ⟨s, operations, hs, hd⟩ := h
  have hlength : (s.after operations).digestLength ≤ maxDigestLength := by
    rw [Hasher.digestLength_after]
    exact hs.digestLength_le
  by_cases hphase : (s.after operations).phase = .finalized
  · rw [Hasher.finalize_of_finalized _ hphase] at hd
    cases hd
  · rw [Hasher.finalize_of_ne_finalized _ hphase] at hd
    cases hd
    exact proper_ofOutput _ hlength

theorem Proper.length_toBytes {d : Digest} (h : d.Proper) : d.toBytes.length = d.length :=
  Digest.length_toBytes h.length_le

/-- The bytes of a proper digest say how it is stored. -/
theorem Proper.stored_eq_iff {a b : Digest} (ha : a.Proper) (hb : b.Proper) :
    (a.storage, a.length) = (b.storage, b.length) ↔ a.toBytes = b.toBytes := by
  rw [Prod.mk.injEq]
  constructor
  · rintro ⟨hstorage, hlength⟩
    rw [toBytes, toBytes, hstorage, hlength]
  · intro hbytes
    have hlength : a.length = b.length := by
      rw [← ha.length_toBytes, ← hb.length_toBytes, hbytes]
    refine ⟨Vector.toList_inj.1 ?_, hlength⟩
    rw [ha.zeros, hb.zeros, hbytes, hlength]

/-- A digest is verified against its own bytes and against nothing else. Digests of hashers
are equal exactly if their bytes are, exactly if they are stored alike, and exactly if their
texts are equal. The text has two digits of lower case for each byte, and reads back as the
bytes. -/
theorem verify_and_hex_of_given (a b : Digest) (ha : a.Given) (hb : b.Given) (expected : Bytes) :
    (a.verify expected = true ↔ expected = a.toBytes) ∧
    ((a == b) = true ↔ a.toBytes = b.toBytes) ∧
    (a.toBytes = b.toBytes ↔ (a.storage, a.length) = (b.storage, b.length)) ∧
    ((a.storage, a.length) = (b.storage, b.length) ↔ a.hex = b.hex) ∧
    a.toBytes.length = a.length ∧ a.hex.length = 2 * a.length ∧
    (∀ c ∈ a.hex.toList, ('0' ≤ c ∧ c ≤ '9') ∨ ('a' ≤ c ∧ c ≤ 'f')) ∧
    Hex.decode? a.hex = some a.toBytes := by
  have hstored := ha.proper.stored_eq_iff hb.proper
  have hlength := ha.proper.length_toBytes
  refine ⟨a.verify_eq_true_iff expected, a.beq_eq_true_iff b, hstored.symm, ?_, hlength, ?_,
    fun c hc => Hex.isLower_of_mem_encode hc, Hex.decode?_encode a.toBytes⟩
  · rw [hstored, hex, hex, Hex.encode_inj]
  · rw [hex, Hex.length_encode, hlength]

/-- The digest of nothing in one byte and in two. The longer one is taken from a hasher that
had refused a buffer before. -/
theorem verify_and_hex_of_given_two_lengths :
    ∃ a b : Digest, a.Given ∧ b.Given ∧ a.verify a.toBytes = true ∧ (a == b) = false ∧
      a.hex.length = 2 ∧ Hex.decode? a.hex = some a.toBytes := by
  obtain ⟨s, hs⟩ := Setup.exists_hasher (c := ⟨1, none, none, none⟩)
    (by decide) (by decide) (by decide) (by decide)
  obtain ⟨t, ht⟩ := Setup.exists_hasher (c := ⟨2, none, none, none⟩)
    (by decide) (by decide) (by decide) (by decide)
  have hslength : s.digestLength = 1 := Hasher.digestLength_of_hasher hs
  have htlength : t.digestLength = 2 := Hasher.digestLength_of_hasher ht
  have hrefused : t.after [.finalizeInto []] = t := by
    apply Hasher.perform_of_refused
    rw [Hasher.isOk_perform, Hasher.accepts, Hasher.fillable]
    simp
  obtain ⟨a, ha, hla⟩ := (Setup.live_of_hasher hs).exists_digestOf []
  obtain ⟨b, hb, hlb⟩ := (Setup.live_of_hasher ht).exists_digestOf []
  have haGiven : a.Given := ⟨s, [], .ofSetup hs, ha⟩
  have hbGiven : b.Given := ⟨t, [.finalizeInto []], .ofSetup ht, by rw [hrefused]; exact hb⟩
  obtain ⟨hverify, hbeq, hstored, -, -, hhex, -, hread⟩ :=
    verify_and_hex_of_given a b haGiven hbGiven a.toBytes
  refine ⟨a, b, haGiven, hbGiven, hverify.2 rfl, ?_, ?_, hread⟩
  · rw [← Bool.not_eq_true, hbeq, hstored, Prod.mk.injEq, hla, hlb, hslength, htlength]
    exact fun h => absurd h.2 (by decide)
  · rw [hhex, hla, hslength]

end Blake2b.Digest
