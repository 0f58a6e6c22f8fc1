import Blake2b.Proofs.Accounting
import Blake2b.Proofs.Chunking
import Mathlib.Data.List.Chain
/-!
# Counting from any counter

How often an update compresses, and what it counts, depends on lengths alone: on how
much is held, how much arrives, and where the counter stands. The numbers are in
`marks_absorb`, `counter_absorb` and `held_absorb`, and they need nothing of the
counter, which may be any number below `2 ^ 128`.

The two words of the counter are looked at once more in `Carries`: from one frame to
the next the high word moves exactly if the low word wraps. That holds of one
addition, and so along all the frames of an update by induction on the blocks it
gives out, wherever among them the wrap comes.
-/

namespace Blake2b

/-- What of a frame is not taken from the bytes of the stream. -/
def Frame.mark (frame : Frame) : Counter × Flags := (frame.counter, frame.flags)

namespace Counter

/-- Counting `n` bytes leads from `t` to `u`, and the high word moves exactly if the
low word wraps. -/
structure Carries (n : Nat) (t u : Counter) : Prop where
  low : u.low.toNat = (t.low.toNat + n) % 2 ^ 64
  high : u.high = if 2 ^ 64 ≤ t.low.toNat + n then t.high + 1 else t.high
  changes : u.high ≠ t.high ↔ 2 ^ 64 ≤ t.low.toNat + n

theorem carries_add (t : Counter) (n : UInt64) : Carries n.toNat t (t.add n) := by
  have hwrap : t.low + n < t.low ↔ 2 ^ 64 ≤ t.low.toNat + n.toNat := by
    have hlow := t.low.toNat_lt
    have hn := n.toNat_lt
    rw [UInt64.lt_iff_toNat_lt, UInt64.toNat_add]
    omega
  have hhigh : (t.add n).high =
      if 2 ^ 64 ≤ t.low.toNat + n.toNat then t.high + 1 else t.high := by
    simp only [add, hwrap]
  have hmoves : t.high + 1 ≠ t.high := by
    intro h
    have hnumbers := congrArg UInt64.toNat h
    rw [UInt64.toNat_add, UInt64.toNat_one] at hnumbers
    omega
  refine ⟨UInt64.toNat_add t.low n, hhigh, ?_⟩
  rw [hhigh]
  split
  · rename_i h
    exact ⟨fun _ => h, fun _ => hmoves⟩
  · rename_i h
    exact ⟨fun hne => absurd rfl hne, fun hle => absurd hle h⟩

end Counter

/-- Every block that is taken off is counted from where the one before it left the
counter. -/
theorem Backlog.carries_settle (b : Backlog) :
    (b.counter :: b.settle.1.map Frame.counter).IsChain (Counter.Carries 128) := by
  fun_induction settle b with
  | case1 b h next ih =>
      rw [List.map_cons, List.isChain_cons_cons]
      exact ⟨Counter.carries_add b.counter 128, ih⟩
  | case2 b h => exact List.isChain_singleton b.counter

namespace Intake

/-- Absorbing in closed form: so many blocks are given out that at most one is held. -/
theorem absorb_eq_popBlocks (s : Intake) (data : Bytes) (h : s.held ≤ blockLength) :
    (s.absorb data).1 =
      (List.range (Message.innerCount (s.held + data.length))).map
        (s.backlog.extend data).frameAt ∧
    (s.absorb data).2.backlog =
      (s.backlog.extend data).popBlocks (Message.innerCount (s.held + data.length)) := by
  have hlength : (s.backlog.extend data).bytes.length = s.held + data.length := by
    rw [Backlog.extend, List.length_append, backlog,
      length_live s (Nat.le_trans h (by decide))]
  obtain ⟨hframes, hbacklog⟩ := s.backlog_absorb data h
  rw [hframes, hbacklog, Backlog.absorb, Backlog.settle_eq, hlength]
  exact ⟨rfl, rfl⟩

theorem marks_absorb (s : Intake) (data : Bytes) (h : s.held ≤ blockLength) :
    (s.absorb data).1.map Frame.mark =
      (List.range (Message.innerCount (s.held + data.length))).map fun i =>
        (Counter.ofNat (s.counter.toNat + 128 * (i + 1)), s.flags) := by
  rw [(s.absorb_eq_popBlocks data h).1, List.map_map]
  rfl

theorem counters_absorb (s : Intake) (data : Bytes) (h : s.held ≤ blockLength) :
    (s.absorb data).1.map (fun frame => frame.counter.toNat) =
      (List.range (Message.innerCount (s.held + data.length))).map fun i =>
        (s.counter.toNat + 128 * (i + 1)) % 2 ^ 128 := by
  have hmarks := congrArg (List.map fun mark => mark.1.toNat) (s.marks_absorb data h)
  simp only [List.map_map, Function.comp_def, Frame.mark, Counter.toNat_ofNat] at hmarks
  exact hmarks

theorem counter_absorb (s : Intake) (data : Bytes) (h : s.held ≤ blockLength) :
    (s.absorb data).2.counter =
      Counter.ofNat
        (s.counter.toNat + 128 * Message.innerCount (s.held + data.length)) :=
  congrArg Backlog.counter (s.absorb_eq_popBlocks data h).2

theorem held_absorb (s : Intake) (data : Bytes) (h : s.held ≤ blockLength) :
    (s.absorb data).2.held =
      s.held + data.length - 128 * Message.innerCount (s.held + data.length) := by
  have hwindow : s.held ≤ windowLength := Nat.le_trans h (by decide)
  have hafter : (s.absorb data).2.held ≤ windowLength :=
    Nat.le_trans (s.held_absorb_le data h) (by decide)
  have hlive : (s.absorb data).2.live =
      (s.live ++ data).drop (128 * Message.innerCount (s.held + data.length)) :=
    congrArg Backlog.bytes (s.absorb_eq_popBlocks data h).2
  rw [← length_live _ hafter, hlive, List.length_drop, List.length_append,
    length_live s hwindow]

theorem carries_absorb (s : Intake) (data : Bytes) (h : s.held ≤ blockLength) :
    (s.counter :: (s.absorb data).1.map Frame.counter).IsChain (Counter.Carries 128) := by
  rw [(s.backlog_absorb data h).1]
  exact (s.backlog.extend data).carries_settle

/-- Closing counts what is held, which is far from filling a word. -/
theorem carries_close (s : Intake) (h : s.held ≤ blockLength) :
    Counter.Carries s.held s.counter s.close.frame.counter ∧
      s.close.frame.counter.toNat = (s.counter.toNat + s.held) % 2 ^ 128 := by
  have hheld : s.held.toUInt64.toNat = s.held := by
    rw [Nat.toUInt64_eq, UInt64.toNat_ofNat']
    exact Nat.mod_eq_of_lt (Nat.lt_of_le_of_lt h (by decide))
  have hcarries := Counter.carries_add s.counter s.held.toUInt64
  have hvalue := Counter.toNat_add s.counter s.held.toUInt64
  rw [hheld] at hcarries hvalue
  exact ⟨hcarries, hvalue⟩

end Intake

namespace Hasher

/-- From any counter, an update compresses every block behind which more data stands,
and counts 128 for each of them modulo `2 ^ 128`; a finalisation directly after it
compresses one frame more, which counts what is left, and the digest or the filled
buffer is what that frame makes of the chaining value. From one frame to the next the
high word moves exactly if the low word wraps. -/
theorem update_counts (s : Hasher) (hphase : s.phase ≠ .finalized) (hheld : s.buffered ≤ 128)
    (data : Bytes) :
    let total := s.buffered + data.length
    let blocks := if total = 0 then 0 else (total - 1) / 128
    let frames := s.framesOf (.update data)
    let next := (s.update data).2
    s.recordedPerform (.update data) = ⟨frames, s.perform (.update data)⟩ ∧
    (s.update data).1 = .ok () ∧
    next.chaining = Message.chain s.chaining frames ∧
    frames.map (fun frame => frame.counter.toNat) =
      (List.range blocks).map (fun i => (s.counter.toNat + 128 * (i + 1)) % 2 ^ 128) ∧
    next.counter.toNat = (s.counter.toNat + 128 * blocks) % 2 ^ 128 ∧
    next.buffered = total - 128 * blocks ∧
    (s.counter :: frames.map Frame.counter).IsChain (Counter.Carries 128) ∧
    ∃ frame, frame.counter.toNat = (s.counter.toNat + total) % 2 ^ 128 ∧
      Counter.Carries next.buffered next.counter frame.counter ∧
      next.recordedPerform .finalize = ⟨[frame], next.perform .finalize⟩ ∧
      (∃ d, next.finalize.1 = .ok d ∧ d.length = next.digestLength ∧
        d.toBytes =
          (Message.serialize (compress next.chaining frame)).take next.digestLength) ∧
      ∀ buffer : Bytes,
        ((next.finalizeInto buffer).1 = .ok () ↔
          1 ≤ buffer.length ∧ buffer.length ≤ next.digestLength) ∧
        ((next.finalizeInto buffer).1 = .ok () →
          next.recordedPerform (.finalizeInto buffer) =
            ⟨[frame], next.perform (.finalizeInto buffer)⟩ ∧
          (next.finalizeInto buffer).2.1 =
            (Message.serialize (compress next.chaining frame)).take buffer.length) := by
  intro total blocks frames next
  have hblocks : blocks = Message.innerCount total := by
    simp only [blocks, Message.innerCount]
    split
    · omega
    · rfl
  have hframes : frames = (s.intake.absorb data).1 :=
    framesOf_update_of_ne_finalized hphase data
  have hupdate := s.update_of_ne_finalized data hphase
  have hnext : next = { s.absorb data with phase := .absorbing } := congrArg Prod.snd hupdate
  have hcounter : next.counter.toNat = (s.counter.toNat + 128 * blocks) % 2 ^ 128 := by
    rw [hnext, hblocks, ← Counter.toNat_ofNat]
    exact congrArg Counter.toNat (s.intake.counter_absorb data hheld)
  have hbuffered : next.buffered = total - 128 * blocks := by
    rw [hnext, hblocks]
    exact s.intake.held_absorb data hheld
  have hlive : next.Live := by
    rw [hnext]
    exact ⟨(by decide : Phase.absorbing ≠ Phase.finalized), s.intake.held_absorb_le data hheld⟩
  obtain ⟨hcarries, hvalue⟩ := next.intake.carries_close hlive.held_le
  have htotal : next.intake.close.frame.counter.toNat =
      (s.counter.toNat + total) % 2 ^ 128 := by
    have hwhole : 128 * blocks ≤ total := by
      rw [hblocks, Message.innerCount]
      omega
    have hsum : s.counter.toNat + 128 * blocks + (total - 128 * blocks) =
        s.counter.toNat + total := by omega
    calc
      next.intake.close.frame.counter.toNat
          = (next.counter.toNat + next.buffered) % 2 ^ 128 := hvalue
      _ = (s.counter.toNat + 128 * blocks + (total - 128 * blocks)) % 2 ^ 128 := by
        rw [hcounter, hbuffered, Nat.mod_add_mod]
      _ = (s.counter.toNat + total) % 2 ^ 128 := by rw [hsum]
  refine ⟨s.recordedPerform_eq _, congrArg Prod.fst hupdate,
    s.chaining_perform (.update data) rfl, ?_, hcounter, hbuffered, ?_,
    next.intake.close.frame, htotal, hcarries, hlive.closing⟩
  · rw [hframes, hblocks]
    exact s.intake.counters_absorb data hheld
  · rw [hframes]
    exact s.intake.carries_absorb data hheld

/-- Here the low word wraps at the first of three blocks, in the middle of an update. -/
theorem update_counts_midStream :
    let data : Bytes := List.replicate 300 2
    let next := (midStream.update data).2
    midStream.phase ≠ .finalized ∧ midStream.buffered ≤ 128 ∧
    (midStream.framesOf (.update data)).map (fun frame => frame.counter.toNat) =
      [2 ^ 64, 2 ^ 64 + 128, 2 ^ 64 + 256] ∧
    next.counter.toNat = 2 ^ 64 + 256 ∧ next.buffered = 44 ∧
    ∃ frame d, next.framesOf .finalize = [frame] ∧ frame.counter.toNat = 2 ^ 64 + 300 ∧
      next.finalize.1 = .ok d ∧
      d.toBytes =
        (Message.serialize (compress next.chaining frame)).take next.digestLength := by
  intro data next
  have hphase : midStream.phase ≠ .finalized := by decide
  have hheld : midStream.buffered ≤ 128 := by decide
  obtain ⟨-, -, -, hframes, hcounter, hbuffered, -, frame, hvalue, -, hrecorded,
    ⟨d, hd, -, hbytes⟩, -⟩ := update_counts midStream hphase hheld data
  have hlength : data.length = 300 := List.length_replicate
  rw [hlength] at hframes hcounter hbuffered hvalue
  exact ⟨hphase, hheld, hframes, hcounter, hbuffered, frame, d,
    congrArg Recorded.frames hrecorded, hvalue, hd, hbytes⟩

end Hasher

end Blake2b
