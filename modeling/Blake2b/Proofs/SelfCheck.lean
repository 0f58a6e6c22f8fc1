import Blake2b.KnownAnswer.Check
import Blake2b.Proofs.Comparison
/-!
# What the self check tells

A sample is hashed twice, at once and in pieces, and both digests are compared with the
answer. The two are equal whatever the sample is, so the comparison of the second one never
decides: a sample is met exactly if the digest of its message is the answer. The check
passes exactly if every sample is met, and the command tells so by its exit code.
-/

namespace Blake2b.KnownAnswer

namespace Sample

theorem pieced_eq_whole (sample : Sample) : sample.pieced = sample.whole := by
  rw [pieced, whole, keyedHash]
  cases hs : Hasher.keyed maxDigestLength sample.key none none with
  | error fault => rfl
  | ok s =>
      have hlive : s.Live :=
        Setup.live_of_hasher (c := ⟨maxDigestLength, some sample.key, none, none⟩) hs
      have hdata : (pieces (pieceSize sample.message.length) sample.message).flatten =
          [] ++ [sample.message].flatten := by
        rw [flatten_pieces, List.flatten_singleton, List.nil_append]
      exact (Hasher.Absorbed.refl hlive).digestOf_eq hlive hdata

theorem isMet_eq (sample : Sample) :
    sample.isMet = sample.whole.map fun d => d.verify sample.expected := by
  rw [isMet, pieced_eq_whole]
  cases sample.whole with
  | error fault => rfl
  | ok d => exact congrArg Except.ok (Bool.and_self _)

theorem isMet_eq_ok_true_iff (sample : Sample) :
    sample.isMet = .ok true ↔ ∃ d, sample.whole = .ok d ∧ d.toBytes = sample.expected := by
  rw [isMet_eq]
  cases sample.whole with
  | error fault =>
      constructor
      · exact nofun
      · rintro ⟨d, hd, -⟩
        cases hd
  | ok d =>
      rw [Except.map, Except.ok.injEq, Digest.verify_eq_true_iff]
      constructor
      · intro h
        exact ⟨d, rfl, h.symm⟩
      · rintro ⟨d', hd, hbytes⟩
        cases hd
        exact hbytes.symm

end Sample

theorem checkAll_eq_ok_iff (samples : List Sample) :
    (checkAll samples).1 = .ok () ↔ ∀ sample ∈ samples, sample.isMet = .ok true := by
  induction samples with
  | nil => exact ⟨fun _ => nofun, fun _ => rfl⟩
  | cons sample rest ih =>
      rw [List.forall_mem_cons, checkAll]
      cases hmet : sample.isMet with
      | error fault => exact ⟨nofun, fun h => nomatch h.1⟩
      | ok met =>
          cases met with
          | true => exact ih.trans ⟨fun h => ⟨rfl, h⟩, fun h => h.2⟩
          | false => exact ⟨nofun, fun h => nomatch h.1⟩

theorem exitCode_eq_zero_iff (outcome : Except Fault Unit) :
    exitCode outcome = 0 ↔ outcome = .ok () := by
  cases outcome with
  | error fault => exact ⟨fun h => absurd h (by decide : (1 : UInt32) ≠ 0), nofun⟩
  | ok _ => exact ⟨fun _ => rfl, fun _ => rfl⟩

/-- The command exits with zero exactly if the digest of every message is its answer. -/
theorem report_eq_zero_iff (threshold : Log.Threshold) :
    (report threshold).1 = 0 ↔
      ∀ sample ∈ samples, ∃ d, sample.whole = .ok d ∧ d.toBytes = sample.expected := by
  have hreport : (report threshold).1 = exitCode (checkAll samples).1 := rfl
  rw [hreport, exitCode_eq_zero_iff, checkAll_eq_ok_iff]
  simp only [Sample.isMet_eq_ok_true_iff]

end Blake2b.KnownAnswer
