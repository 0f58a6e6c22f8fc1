import Blake2b.Proofs.Finalization
import Blake2b.Proofs.Setup
/-!
# Hashing in pieces is hashing at once

A hasher that receives a stream in pieces is always one block behind it. What it
has compressed are the blocks that end before the stream does, and the rest, which
is at least one byte if anything has come, is still in its window
(`OneBlockBehind`). Only the end of the stream tells it that the block it holds
is the last one.

From this follow the statements about whole messages: the frames that a hasher
compresses are the frames of the message, its digest is the front of the output
of the message, and messages whose frames agree are equal.
-/

namespace Blake2b

namespace Hasher

/-- The hasher has received `stream` and is at most one block behind it. -/
structure OneBlockBehind (parameters stream : Bytes) (s : Hasher) : Prop where
  held : s.intake.held =
    if stream.length = 0 then 0 else (stream.length - 1) % 128 + 1
  counter : s.intake.counter.toNat = (stream.length - s.intake.held) % 2 ^ 128
  live : s.intake.live = stream.drop (stream.length - s.intake.held)
  flags : s.intake.flags = ⟨0, 0⟩
  chaining : s.chaining =
    Message.chain (Message.start parameters)
      ((List.range ((stream.length - s.intake.held) / 128)).map (Message.innerFrame stream))

/-- The frames compressed for a message that is handed in in pieces, the last one
included. -/
def calls (s : Hasher) (chunks : List Bytes) : List Frame :=
  s.framesOfRun (chunks.map .update ++ [.finalize])

theorem Absorbed.backlog_eq {p : Parameters} {stream : Bytes} {s : Hasher}
    (h : (ofParameters p).Absorbed stream s) :
    s.intake.backlog =
      { bytes := stream.drop (128 * Message.innerCount stream.length)
        counter := Counter.ofNat (128 * Message.innerCount stream.length)
        flags := .lowered
        lastNode := false } := by
  rw [h.backlog, backlog_ofParameters, Backlog.absorb_empty_snd]

theorem Absorbed.held_eq {p : Parameters} {stream : Bytes} {s : Hasher}
    (h : (ofParameters p).Absorbed stream s) :
    s.intake.held = stream.length - 128 * Message.innerCount stream.length := by
  rw [← h.live.length_backlog, h.backlog_eq, List.length_drop]

/-- The bytes that are no longer held are whole blocks. -/
theorem Absorbed.length_sub_held {p : Parameters} {stream : Bytes} {s : Hasher}
    (h : (ofParameters p).Absorbed stream s) :
    stream.length - s.intake.held = 128 * Message.innerCount stream.length := by
  rw [h.held_eq]
  unfold Message.innerCount
  omega

theorem Absorbed.oneBlockBehind {c : Setup} {p : Parameters} {stream : Bytes} {s : Hasher}
    (hp : c.parameters = .ok p) (h : (ofParameters p).Absorbed stream s) :
    OneBlockBehind c.parameterBytes stream s := by
  have hbacklog := h.backlog_eq
  rw [Intake.backlog, Backlog.mk.injEq] at hbacklog
  obtain ⟨hlive, hcounter, hflags, -⟩ := hbacklog
  refine ⟨?_, ?_, ?_, hflags, ?_⟩
  · rw [h.held_eq]
    unfold Message.innerCount
    split
    · omega
    · omega
  · rw [hcounter, Counter.toNat_ofNat, h.length_sub_held]
  · rw [hlive, h.length_sub_held]
  · rw [h.chaining, backlog_ofParameters, Backlog.absorb_empty_fst, h.length_sub_held,
      Nat.mul_div_cancel_left _ (by decide), Setup.chaining_ofParameters hp]
    rfl

end Hasher

open Hasher

/-- Updates of the hasher of a setup are all taken. They absorb the opening and
the message as one stream, and compress its inner frames. -/
theorem Setup.updateAll_eq {c : Setup} {s : Hasher} (h : c.hasher = .ok s)
    (chunks : List Bytes) :
    ∃ p next, c.parameters = .ok p ∧ s.updateAll chunks = (.ok (), next) ∧
      (ofParameters p).Absorbed (c.stream chunks) next ∧
      ∀ rest, s.framesOfRun (chunks.map .update ++ rest) =
        Message.innerFrames (c.stream chunks) ++ next.framesOfRun rest := by
  obtain ⟨p, hp, hopening⟩ := absorbed_of_hasher h
  obtain ⟨next, hnext, hchunks, -⟩ := hopening.live.updateAll_eq chunks
  have hframes : (s.intake.backlog.absorb chunks.flatten).1 =
      Message.innerFrames (c.stream chunks) := by
    rw [stream, ← Backlog.absorb_empty_fst, Backlog.absorb_append, absorb_opening_fst hp,
      List.nil_append, hopening.backlog, backlog_ofParameters]
  refine ⟨p, next, hp, hnext, hopening.trans hchunks, fun rest => ?_⟩
  rw [hopening.live.framesOfRun_updates, hframes, hnext]

theorem Setup.calls_eq {c : Setup} {s : Hasher} (h : c.hasher = .ok s)
    (chunks : List Bytes) :
    s.calls chunks = Message.frames (c.stream chunks) := by
  obtain ⟨p, next, -, -, habsorbed, hframes⟩ := updateAll_eq h chunks
  rw [calls, hframes, habsorbed.live.framesOfRun_finalize, habsorbed.backlog,
    backlog_ofParameters, Backlog.lastFrame_absorb_empty, Message.frames_eq]

/-- The digest of a message in pieces is the front of what the compressed frames make of the
chaining value. -/
theorem Setup.exists_digestOf {c : Setup} {s : Hasher} (h : c.hasher = .ok s)
    (chunks : List Bytes) :
    ∃ d, s.digestOf chunks = .ok d ∧ d.length = c.digestLength ∧
      d.toBytes =
        (Message.serialize (Message.chain s.chaining (s.calls chunks))).take
          c.digestLength := by
  obtain ⟨p, next, hp, hnext, habsorbed, -⟩ := updateAll_eq h chunks
  have hlength : next.digestLength = c.digestLength :=
    habsorbed.digestLength.trans (Parameters.of_sequential_eq_ok hp).2.2.2
  have hchain : compress next.chaining next.intake.backlog.lastFrame =
      Message.chain s.chaining (s.calls chunks) := by
    rw [calls_eq h, chaining_of_hasher h, ← chaining_ofParameters hp, habsorbed.chaining,
      habsorbed.backlog, backlog_ofParameters, ← Backlog.frames_absorb_empty,
      Message.chain_append]
    rfl
  obtain ⟨d, done, hdone, hd, hbytes⟩ := habsorbed.live.finalize_eq
  refine ⟨d, ?_, hd.trans hlength, ?_⟩
  · rw [digestOf, hnext]
    exact congrArg Prod.fst hdone
  · rw [hbytes, hchain, hlength]

/-- The digest of a message that is handed in in pieces is the front of the
output of the message, whatever the pieces are. -/
theorem digestOf_eq_output (c : Setup) (s : Hasher) (h : c.hasher = .ok s)
    (chunks : List Bytes) :
    ∃ d, s.digestOf chunks = .ok d ∧ d.length = c.digestLength ∧
      d.toBytes =
        (Message.output c.parameterBytes (c.stream chunks)).take c.digestLength := by
  obtain ⟨d, hd, hlength, hbytes⟩ := Setup.exists_digestOf h chunks
  rw [Setup.chaining_of_hasher h, Setup.calls_eq h] at hbytes
  exact ⟨d, hd, hlength, hbytes⟩

/-- With a key, the key block is the first block of the stream; here three pieces
come behind it, one of them empty and one longer than a block. -/
theorem digestOf_eq_output_short_key :
    let c : Setup := ⟨33, some [1, 2, 3], none, none⟩
    let chunks : List Bytes := [[], List.replicate 200 7, [8]]
    c.parameterBytes = [33, 3, 1, 1] ++ List.replicate 60 0 ∧
    ∃ s, c.hasher = .ok s ∧ ∃ d, s.digestOf chunks = .ok d ∧ d.length = 33 ∧
      d.toBytes =
        (Message.output ([33, 3, 1, 1] ++ List.replicate 60 0) (c.stream chunks)).take 33 := by
  intro c chunks
  have hbytes : c.parameterBytes = [33, 3, 1, 1] ++ List.replicate 60 0 := by decide
  obtain ⟨s, hs⟩ := Setup.exists_hasher (c := c) (by decide) (by decide) (by decide) (by decide)
  exact ⟨hbytes, s, hs, hbytes ▸ digestOf_eq_output c s hs chunks⟩

/-- After any number of pieces the hasher is one block behind its stream. What it
has compressed are the blocks that end before the stream does, so that a full
last block still waits. -/
theorem updateAll_oneBlockBehind (c : Setup) (s : Hasher) (h : c.hasher = .ok s)
    (chunks : List Bytes) (k : Nat) :
    let stream := c.stream (chunks.take k)
    let compressed := s.framesOfRun ((chunks.take k).map .update)
    ∃ p next, c.parameters = .ok p ∧ p.packed.toList = c.parameterBytes ∧
      s.updateAll (chunks.take k) = (.ok (), next) ∧
      OneBlockBehind c.parameterBytes stream next ∧
      compressed =
        (List.range ((stream.length - next.intake.held) / 128)).map
          (Message.innerFrame stream) ∧
      ∀ i < compressed.length, 128 * (i + 1) < stream.length ∧
        (Message.block stream i).toList = (stream.drop (128 * i)).take 128 := by
  intro stream compressed
  obtain ⟨p, next, hp, hnext, habsorbed, hframes⟩ := Setup.updateAll_eq h (chunks.take k)
  have hcompressed : compressed = Message.innerFrames stream := by
    have hall := hframes []
    rw [List.append_nil, framesOfRun_nil, List.append_nil] at hall
    exact hall
  have hcount : (stream.length - next.intake.held) / 128 =
      Message.innerCount stream.length := by
    rw [habsorbed.length_sub_held, Nat.mul_div_cancel_left _ (by decide)]
  refine ⟨p, next, hp, Parameters.toList_packed_sequential hp, hnext,
    habsorbed.oneBlockBehind hp, ?_, fun i hi => ?_⟩
  · rw [hcompressed, hcount, Message.innerFrames]
  · have hend : 128 * (i + 1) < stream.length := by
      rw [hcompressed, Message.innerFrames, List.length_map, List.length_range] at hi
      unfold Message.innerCount at hi
      omega
    exact ⟨hend, Message.toList_block stream i (Nat.le_of_lt hend)⟩

/-- Two full blocks have arrived, and only the first of them is compressed. -/
theorem updateAll_oneBlockBehind_two_blocks :
    let c : Setup := ⟨64, none, none, none⟩
    let chunks : List Bytes := [List.replicate 128 1, List.replicate 128 2, [3]]
    let stream := c.stream (chunks.take 2)
    ∃ s, c.hasher = .ok s ∧
      ∃ p next, c.parameters = .ok p ∧ s.updateAll (chunks.take 2) = (.ok (), next) ∧
        OneBlockBehind c.parameterBytes stream next ∧
        s.framesOfRun ((chunks.take 2).map .update) =
          (List.range ((stream.length - next.intake.held) / 128)).map
            (Message.innerFrame stream) := by
  intro c chunks stream
  obtain ⟨s, hs⟩ := Setup.exists_hasher (c := c) (by decide) (by decide) (by decide) (by decide)
  obtain ⟨p, next, hp, -, hnext, hbehind, hcompressed, -⟩ :=
    updateAll_oneBlockBehind c s hs chunks 2
  exact ⟨s, hs, p, next, hp, hnext, hbehind, hcompressed⟩

/-- The flag of the last block is raised on the last frame of a message and on no
other, and the frames of one message begin with the frames of another one only
if the messages are equal. The pieces do not matter on either side. The frames are
those that the run has recorded, and the digest is made of them. -/
theorem calls_prefix_iff (c : Setup) (s : Hasher) (h : c.hasher = .ok s)
    (chunks other : List Bytes) :
    let operations := chunks.map .update ++ [.finalize]
    s.recordedRun operations = ⟨s.calls chunks, s.run operations⟩ ∧
    (∃ d, s.digestOf chunks = .ok d ∧
      d.toBytes =
        (Message.serialize (Message.chain s.chaining (s.calls chunks))).take
          c.digestLength) ∧
    (∃ inner last, s.calls chunks = inner ++ [last] ∧
      (∀ frame ∈ inner, frame.flags = ⟨0, 0⟩) ∧ last.flags = ⟨0xffffffffffffffff, 0⟩) ∧
    (s.calls chunks <+: s.calls other ↔ chunks.flatten = other.flatten) := by
  intro operations
  obtain ⟨d, hd, -, hbytes⟩ := Setup.exists_digestOf h chunks
  refine ⟨s.recordedRun_eq operations, ⟨d, hd, hbytes⟩, ?_⟩
  rw [Setup.calls_eq h, Setup.calls_eq h]
  refine ⟨⟨_, _, Message.frames_eq _, ?_, rfl⟩, ?_, ?_⟩
  · intro frame hframe
    exact Message.flags_of_mem_innerFrames hframe
  · intro hprefix
    have hstream : c.stream chunks = c.stream other := Message.eq_of_frames_prefix hprefix
    exact List.append_cancel_left hstream
  · intro hmessage
    have hstream : c.stream chunks = c.stream other :=
      congrArg (c.opening ++ ·) hmessage
    exact hstream ▸ List.prefix_refl _

/-- A message and the same message with a zero behind it fill one block alike,
and still their frames differ. -/
theorem calls_prefix_iff_zero_behind :
    let c : Setup := ⟨64, none, none, none⟩
    ∃ s d, c.hasher = .ok s ∧ s.digestOf [[1]] = .ok d ∧
      d.toBytes =
        (Message.serialize (Message.chain s.chaining (s.calls [[1]]))).take 64 ∧
      ¬ s.calls [[1]] <+: s.calls [[1], [0]] := by
  intro c
  obtain ⟨s, hs⟩ := Setup.exists_hasher (c := c) (by decide) (by decide) (by decide) (by decide)
  obtain ⟨-, ⟨d, hd, hbytes⟩, -, hiff⟩ := calls_prefix_iff c s hs [[1]] [[1], [0]]
  refine ⟨s, d, hs, hd, hbytes, fun hprefix => ?_⟩
  have hmessage := hiff.1 hprefix
  exact absurd hmessage (by decide)

end Blake2b
