import Blake2b.Recording
import Blake2b.Proofs.Intake
import Blake2b.Proofs.Workspace
/-!
# Taking in data

`Absorbed s data next` says what is known of a hasher `next` that was reached
from `s` by taking in `data`, in whatever pieces. It is stated with the backlog
of `s` and not with its window, and that is what makes it compose: data behind
data is data once more (`Absorbed.trans`). So it has to be shown of one update
only, and holds after any number of them.

Nothing is assumed of the chaining value, the counter or the flags of `s`, nor of
what its window holds behind the live bytes. The hasher must not have given its
digest, and must hold at most one block.
-/

namespace Blake2b.Hasher

/-- The hasher still takes in data, and holds at most one block. -/
structure Live (s : Hasher) : Prop where
  phase : s.phase ≠ .finalized
  held_le : s.intake.held ≤ blockLength

/-- What is known of a hasher that was reached from `s` by taking in `data`. -/
structure Absorbed (s : Hasher) (data : Bytes) (next : Hasher) : Prop where
  live : next.Live
  compressed : (next.chaining, next.workspace) =
    s.workspace.compressAll s.chaining (s.intake.backlog.absorb data).1
  backlog : next.intake.backlog = (s.intake.backlog.absorb data).2
  staging : next.staging = s.staging
  digestLength : next.digestLength = s.digestLength

theorem Live.isFinalized_eq {s : Hasher} (h : s.Live) : s.isFinalized = false := by
  simp [isFinalized, h.phase]

theorem Live.length_backlog {s : Hasher} (h : s.Live) :
    s.intake.backlog.bytes.length = s.intake.held :=
  s.intake.length_live (Nat.le_trans h.held_le (by decide))

theorem Live.length_backlog_le {s : Hasher} (h : s.Live) :
    s.intake.backlog.bytes.length ≤ blockLength := by
  rw [h.length_backlog]
  exact h.held_le

namespace Absorbed

theorem refl {s : Hasher} (h : s.Live) : Absorbed s [] s := by
  have hnil := s.intake.backlog.absorb_nil h.length_backlog_le
  refine ⟨h, ?_, ?_, rfl, rfl⟩
  · rw [hnil]
    rfl
  · rw [hnil]

/-- Data behind data is data: the frames of the second part come after those of
the first, and are compressed into what the first part left. -/
theorem trans {s t u : Hasher} {front back : Bytes} (h₁ : Absorbed s front t)
    (h₂ : Absorbed t back u) : Absorbed s (front ++ back) u := by
  have happend := s.intake.backlog.absorb_append front back
  rw [← h₁.backlog] at happend
  refine ⟨h₂.live, ?_, ?_, h₂.staging.trans h₁.staging,
    h₂.digestLength.trans h₁.digestLength⟩
  · rw [happend, Workspace.compressAll_append, ← h₁.compressed]
    exact h₂.compressed
  · rw [happend]
    exact h₂.backlog

theorem chaining {s next : Hasher} {data : Bytes} (h : Absorbed s data next) :
    next.chaining = Message.chain s.chaining (s.intake.backlog.absorb data).1 := by
  rw [← Workspace.compressAll_fst s.workspace, ← h.compressed]

end Absorbed

theorem Live.absorbed_absorb {s : Hasher} (h : s.Live) (data : Bytes) :
    Absorbed s data (s.absorb data) := by
  obtain ⟨hframes, hbacklog⟩ := s.intake.backlog_absorb data h.held_le
  refine ⟨⟨h.phase, s.intake.held_absorb_le data h.held_le⟩, ?_, hbacklog, rfl, rfl⟩
  rw [← hframes]
  rfl

theorem Live.update_eq {s : Hasher} (h : s.Live) (data : Bytes) :
    ∃ next, s.update data = (.ok (), next) ∧ Absorbed s data next ∧
      next.phase = .absorbing := by
  have hdata := h.absorbed_absorb data
  refine ⟨_, update_of_ne_finalized s data h.phase, ?_, rfl⟩
  exact ⟨⟨nofun, hdata.live.held_le⟩, hdata.compressed, hdata.backlog, hdata.staging,
    hdata.digestLength⟩

/-- Updates of a live hasher are all taken, and absorb all data together. -/
theorem Live.updateAll_eq {s : Hasher} (h : s.Live) (chunks : List Bytes) :
    ∃ next, s.updateAll chunks = (.ok (), next) ∧ Absorbed s chunks.flatten next ∧
      (chunks ≠ [] → next.phase = .absorbing) := by
  induction chunks generalizing s with
  | nil => exact ⟨s, rfl, Absorbed.refl h, fun hne => absurd rfl hne⟩
  | cons data rest ih =>
      obtain ⟨mid, hmid, hdata, hphase⟩ := h.update_eq data
      obtain ⟨next, hnext, hrest, hrestPhase⟩ := ih hdata.live
      refine ⟨next, ?_, hdata.trans hrest, fun _ => ?_⟩
      · rw [updateAll, hmid]
        exact hnext
      · cases rest with
        | nil =>
            have hsame : mid = next := congrArg Prod.snd hnext
            rw [← hsame]
            exact hphase
        | cons data' rest' => exact hrestPhase (List.cons_ne_nil data' rest')

/-- The frames that updates compress on their way are those that the backlog
gives out for all data together. -/
theorem Live.framesOfRun_updates {s : Hasher} (h : s.Live) (chunks : List Bytes)
    (rest : List Operation) :
    s.framesOfRun (chunks.map .update ++ rest) =
      (s.intake.backlog.absorb chunks.flatten).1 ++
        (s.updateAll chunks).2.framesOfRun rest := by
  induction chunks generalizing s with
  | nil =>
      rw [List.flatten_nil, s.intake.backlog.absorb_nil h.length_backlog_le]
      rfl
  | cons data chunks ih =>
      obtain ⟨mid, hmid, hdata, -⟩ := h.update_eq data
      have hframes : s.framesOf (.update data) = (s.intake.backlog.absorb data).1 := by
        rw [framesOf_update, h.isFinalized_eq, ← (s.intake.backlog_absorb data h.held_le).1]
        rfl
      have hafter : (s.perform (.update data)).2 = mid := congrArg Prod.snd hmid
      have hupdates : s.updateAll (data :: chunks) = mid.updateAll chunks := by
        rw [updateAll, hmid]
      have happend := s.intake.backlog.absorb_append data chunks.flatten
      rw [← hdata.backlog] at happend
      rw [List.map_cons, List.cons_append, framesOfRun_cons, hframes, hafter,
        ih hdata.live, hupdates, List.flatten_cons, happend, List.append_assoc]

theorem Live.framesOfRun_finalize {s : Hasher} (h : s.Live) :
    s.framesOfRun [.finalize] = [s.intake.backlog.lastFrame] := by
  rw [framesOfRun_cons, framesOfRun_nil, List.append_nil, framesOf_finalize, h.isFinalized_eq,
    ← s.intake.frame_close h.held_le]
  rfl

end Blake2b.Hasher
