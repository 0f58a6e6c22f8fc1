import Blake2b.Message
import Blake2b.Proofs.Counter
import Blake2b.Proofs.LittleEndian
/-!
# The frames of a message determine it

The last block of a stream is filled up with zeros, so the blocks alone do not
tell a stream from the same stream with zeros behind it. The counter of the last
frame does: it counts the stream and not the filling. And the flag of the last
block stands on one frame only, so that no list of frames goes on where another
one ends. Together they give `eq_of_frames_prefix`.

`innerCount n` is the number of blocks that are not the last one. Subtraction
of numbers stops at zero, so the empty stream needs no case of its own.
-/

namespace Blake2b.Message

theorem serialize_eq (h : ChainingValue) :
    serialize h = LittleEndian.encodeAll h.toList := by
  simp only [serialize, LittleEndian.encodeAll, LittleEndian.toList_encode]

/-- The number of blocks of a stream of length `n` that are not the last one. -/
def innerCount (n : Nat) : Nat := (n - 1) / 128

theorem blockCount_eq (n : Nat) : blockCount n = innerCount n + 1 := by
  unfold blockCount innerCount
  split
  · omega
  · omega

theorem innerCount_of_le {n : Nat} (h : n ≤ 128) : innerCount n = 0 := by
  unfold innerCount
  omega

theorem innerCount_of_gt {n : Nat} (h : n > 128) :
    innerCount n = innerCount (n - 128) + 1 := by
  unfold innerCount
  omega

def innerFrames (stream : Bytes) : List Frame :=
  (List.range (innerCount stream.length)).map (innerFrame stream)

theorem frames_eq (stream : Bytes) :
    frames stream =
      innerFrames stream ++ [lastFrame stream (innerCount stream.length)] := by
  simp only [frames, innerFrames, blockCount_eq, Nat.add_sub_cancel]

theorem getElem_block (stream : Bytes) (i j : Nat) (hj : j < blockLength) :
    (block stream i)[j] = stream.getD (128 * i + j) 0 := by
  simp [block]

theorem block_drop (stream : Bytes) (k i : Nat) :
    block (stream.drop (128 * k)) i = block stream (k + i) := by
  ext j hj
  have hposition : 128 * k + (128 * i + j) = 128 * (k + i) + j := by omega
  rw [getElem_block, getElem_block, List.getD_eq_getElem?_getD,
    List.getD_eq_getElem?_getD, List.getElem?_drop, hposition]

/-- A block within the stream is the stream there, and nothing is filled up. -/
theorem toList_block (stream : Bytes) (i : Nat) (h : 128 * (i + 1) ≤ stream.length) :
    (block stream i).toList = (stream.drop (128 * i)).take 128 := by
  apply List.ext_getElem
  · simp only [Vector.length_toList, List.length_take, List.length_drop, blockLength]
    omega
  · intro j hj _
    simp only [Vector.length_toList, blockLength] at hj
    rw [Vector.getElem_toList, getElem_block, List.getElem_take, List.getElem_drop,
      List.getD_eq_getElem?_getD, List.getElem?_eq_getElem (by omega)]
    rfl

theorem flags_of_mem_innerFrames {stream : Bytes} {frame : Frame}
    (h : frame ∈ innerFrames stream) : frame.flags = .lowered := by
  obtain ⟨i, -, rfl⟩ := List.mem_map.1 h
  rfl

theorem eq_of_block_eq {stream other : Bytes} (hlength : stream.length = other.length)
    (hblock : ∀ i ≤ innerCount stream.length, block stream i = block other i) :
    stream = other := by
  apply List.ext_getElem hlength
  intro j hj hj'
  have hi : j / 128 ≤ innerCount stream.length := by
    unfold innerCount
    omega
  have hposition : 128 * (j / 128) + j % 128 = j := by omega
  have hinside : j % 128 < blockLength := by simp only [blockLength]; omega
  have hbyte : (block stream (j / 128))[j % 128] = (block other (j / 128))[j % 128] := by
    rw [hblock _ hi]
  rw [getElem_block, getElem_block, hposition, List.getD_eq_getElem?_getD,
    List.getD_eq_getElem?_getD, List.getElem?_eq_getElem hj,
    List.getElem?_eq_getElem hj'] at hbyte
  exact hbyte

/-- With the number of blocks known, the counter of the last frame gives the
length: it is one of at most 129 numbers in a row. -/
theorem length_eq_of_counter_eq {m n : Nat} (hcount : innerCount m = innerCount n)
    (hcounter : Counter.ofNat m = Counter.ofNat n) : m = n := by
  rw [Counter.ofNat_eq_ofNat_iff] at hcounter
  unfold innerCount at hcount
  omega

theorem frames_injective {stream other : Bytes} (h : frames stream = frames other) :
    stream = other := by
  rw [frames_eq, frames_eq] at h
  obtain ⟨hinner, hlast⟩ := List.append_inj' h (by simp only [List.length_singleton])
  have hcount : innerCount stream.length = innerCount other.length := by
    simpa [innerFrames] using congrArg List.length hinner
  rw [List.singleton_inj, ← hcount, lastFrame, lastFrame, Frame.mk.injEq] at hlast
  obtain ⟨hlastBlock, hcounter, -⟩ := hlast
  refine eq_of_block_eq (length_eq_of_counter_eq hcount hcounter) fun i hi => ?_
  rcases Nat.lt_or_eq_of_le hi with hlt | rfl
  · rw [innerFrames, innerFrames, ← hcount] at hinner
    have hframe := List.map_inj_left.1 hinner i (List.mem_range.2 hlt)
    rw [innerFrame, innerFrame, Frame.mk.injEq] at hframe
    exact hframe.1
  · exact hlastBlock

/-- No list of frames goes on where another one ends. -/
theorem eq_of_frames_prefix {stream other : Bytes}
    (h : frames stream <+: frames other) : stream = other := by
  rw [frames_eq other, List.prefix_concat_iff, ← frames_eq other] at h
  rcases h with heq | hinner
  · exact frames_injective heq
  · -- the last frame of `stream` would be an inner frame of `other`
    have hmem : lastFrame stream (innerCount stream.length) ∈ innerFrames other := by
      apply hinner.subset
      rw [frames_eq]
      exact List.mem_append_right _ (List.mem_singleton.2 rfl)
    have hflags : (⟨0xffffffffffffffff, 0⟩ : Flags) = .lowered := flags_of_mem_innerFrames hmem
    exact absurd hflags (by decide)

end Blake2b.Message
