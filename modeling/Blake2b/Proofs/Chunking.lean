import Blake2b.Proofs.Absorption
/-!
# The pieces of a message do not matter

Many small updates and one large update do not leave the same hasher behind:
they settle their windows at different times, and so leave different bytes behind
the live ones. In everything else the two hashers agree, and `SameLive` is that
agreement.

The statement is about any live hasher, whatever its chaining value, counter and
flags are. It needs no induction of its own: both ways absorb the same data, and
what absorbing leaves is determined up to the dead bytes.
-/

namespace Blake2b.Hasher

/-- Two hashers agree in everything but the bytes behind the live ones. -/
structure SameLive (s t : Hasher) : Prop where
  chaining : s.chaining = t.chaining
  counter : s.intake.counter = t.intake.counter
  flags : s.intake.flags = t.intake.flags
  held : s.intake.held = t.intake.held
  live : s.intake.live = t.intake.live
  lastNode : s.intake.lastNode = t.intake.lastNode
  workspace : s.workspace = t.workspace
  staging : s.staging = t.staging
  digestLength : s.digestLength = t.digestLength
  phase : s.phase = t.phase

/-- What absorbing data leaves is determined up to the dead bytes. -/
theorem Absorbed.sameLive {s t u : Hasher} {data : Bytes} (ht : Absorbed s data t)
    (hu : Absorbed s data u) (hphase : t.phase = u.phase) : SameLive t u := by
  have hbacklog : t.intake.backlog = u.intake.backlog := ht.backlog.trans hu.backlog.symm
  have hheld : t.intake.held = u.intake.held := by
    rw [← ht.live.length_backlog, ← hu.live.length_backlog, hbacklog]
  have hcompressed := ht.compressed.trans hu.compressed.symm
  rw [Prod.mk.injEq] at hcompressed
  rw [Intake.backlog, Intake.backlog, Backlog.mk.injEq] at hbacklog
  obtain ⟨hlive, hcounter, hflags, hlastNode⟩ := hbacklog
  obtain ⟨hchaining, hworkspace⟩ := hcompressed
  exact
    { chaining := hchaining
      counter := hcounter
      flags := hflags
      held := hheld
      live := hlive
      lastNode := hlastNode
      workspace := hworkspace
      staging := ht.staging.trans hu.staging.symm
      digestLength := ht.digestLength.trans hu.digestLength.symm
      phase := hphase }

/-- Handing in a message in pieces and handing it in at once leave hashers that
agree up to the dead bytes. There has to be a piece, because an update of no
bytes still marks the hasher as absorbing. -/
theorem updateAll_sameLive_update (s : Hasher) (hphase : s.phase ≠ .finalized)
    (hheld : s.intake.held ≤ 128) (chunks : List Bytes) (hne : chunks ≠ []) :
    (s.updateAll chunks).1 = .ok () ∧ (s.update chunks.flatten).1 = .ok () ∧
      SameLive (s.updateAll chunks).2 (s.update chunks.flatten).2 := by
  have hlive : s.Live := ⟨hphase, hheld⟩
  obtain ⟨many, hmany, habsorbedMany, hphaseMany⟩ := hlive.updateAll_eq chunks
  obtain ⟨one, hone, habsorbedOne, hphaseOne⟩ := hlive.update_eq chunks.flatten
  rw [hmany, hone]
  refine ⟨rfl, rfl, habsorbedMany.sameLive habsorbedOne ?_⟩
  rw [hphaseMany hne, hphaseOne]

/-- A hasher in the middle of a stream, with a full block held back, stale bytes
behind it, and a counter whose low word is about to wrap. -/
def midStream : Hasher where
  chaining := Compression.iv
  intake :=
    { window := Vector.replicate windowLength 0xee
      held := 128
      counter := ⟨0xffffffffffffff80, 0⟩
      flags := .lowered
      lastNode := false }
  workspace := .zero
  staging := Vector.replicate maxDigestLength 0
  digestLength := 64
  phase := .absorbing

theorem updateAll_sameLive_update_midStream :
    midStream.phase ≠ .finalized ∧ midStream.intake.held ≤ 128 ∧
      let chunks : List Bytes := [[1], [], List.replicate 300 2]
      SameLive (midStream.updateAll chunks).2 (midStream.update chunks.flatten).2 := by
  refine ⟨nofun, Nat.le_refl 128, ?_⟩
  intro chunks
  exact (updateAll_sameLive_update midStream nofun (Nat.le_refl 128) chunks nofun).2.2

end Blake2b.Hasher
