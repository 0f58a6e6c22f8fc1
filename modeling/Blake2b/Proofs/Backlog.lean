import Blake2b.Proofs.Message
/-!
# Backlogs

A backlog is what an intake holds, without the storage it lies in: the bytes
that wait, the counter, and the flags. It has no window and no capacity. Data
is put behind the waiting bytes all at once, and then blocks are taken off the
front as long as more than one block waits.

The recursion carries its own counter, so that no index arithmetic is needed to
see that taking in two pieces one after the other is taking in both at once
(`absorb_append`). The positional form, in which block `i` of the waiting bytes
has the counter `128 * (i + 1)` further on, is kept as the bridge to the frames
of a whole message.
-/

namespace Blake2b

/-- What an intake holds, apart from where it is stored. -/
structure Backlog where
  bytes : Bytes
  counter : Counter
  flags : Flags
  lastNode : Bool

namespace Backlog

def empty : Backlog := ⟨[], .zero, .lowered, false⟩

def extend (b : Backlog) (data : Bytes) : Backlog :=
  { b with bytes := b.bytes ++ data }

/-- The frame of the first block when more follows. -/
def headFrame (b : Backlog) : Frame :=
  ⟨Message.block b.bytes 0, b.counter.add blockLength.toUInt64, b.flags⟩

/-- The frame of the waiting bytes when nothing follows. -/
def lastFrame (b : Backlog) : Frame :=
  ⟨Message.block b.bytes 0, b.counter.add b.bytes.length.toUInt64,
    { lastBlock := Flags.raised
      lastNode := if b.lastNode then Flags.raised else b.flags.lastNode }⟩

def pop (b : Backlog) : Backlog :=
  { b with
    bytes := b.bytes.drop blockLength
    counter := b.counter.add blockLength.toUInt64 }

/-- Takes blocks off the front as long as more than one block waits. -/
def settle (b : Backlog) : List Frame × Backlog :=
  if b.bytes.length > blockLength then
    let next := b.pop.settle
    (b.headFrame :: next.1, next.2)
  else ([], b)
termination_by b.bytes.length
decreasing_by
  simp only [pop, List.length_drop, blockLength] at *
  omega

def absorb (b : Backlog) (data : Bytes) : List Frame × Backlog :=
  (b.extend data).settle

theorem settle_of_le (b : Backlog) (h : b.bytes.length ≤ blockLength) :
    b.settle = ([], b) := by
  rw [settle, if_neg (by omega)]

theorem settle_of_gt (b : Backlog) (h : b.bytes.length > blockLength) :
    b.settle = (b.headFrame :: b.pop.settle.1, b.pop.settle.2) := by
  rw [settle, if_pos h]

@[simp] theorem extend_nil (b : Backlog) : b.extend [] = b := by
  simp [extend]

theorem extend_append (b : Backlog) (front back : Bytes) :
    b.extend (front ++ back) = (b.extend front).extend back := by
  simp [extend]

theorem headFrame_extend (b : Backlog) (data : Bytes)
    (h : blockLength ≤ b.bytes.length) : (b.extend data).headFrame = b.headFrame := by
  have hblock : Message.block (b.bytes ++ data) 0 = Message.block b.bytes 0 := by
    ext j hj
    simp only [Message.block, Vector.getElem_ofFn, List.getD_eq_getElem?_getD]
    rw [List.getElem?_append_left (by omega)]
  simp only [headFrame, extend, hblock]

theorem pop_extend (b : Backlog) (data : Bytes) (h : blockLength ≤ b.bytes.length) :
    (b.extend data).pop = b.pop.extend data := by
  simp only [pop, extend, List.drop_append_of_le_length h]

/-- Settling early changes nothing: a block that is taken off before more data
comes would have been taken off after it as well. -/
theorem settle_extend (b : Backlog) (data : Bytes) :
    (b.extend data).settle =
      (b.settle.1 ++ (b.settle.2.absorb data).1, (b.settle.2.absorb data).2) := by
  fun_induction settle b with
  | case1 b h next ih =>
      -- the first block is full, so both sides take it off alike
      have hlonger : (b.extend data).bytes.length > blockLength := by
        simp only [extend, List.length_append]
        omega
      rw [settle_of_gt _ hlonger, headFrame_extend b data (by omega),
        pop_extend b data (by omega), ih, List.cons_append]
  | case2 b h => rw [List.nil_append, absorb]

theorem absorb_nil (b : Backlog) (h : b.bytes.length ≤ blockLength) :
    b.absorb [] = ([], b) := by
  rw [absorb, extend_nil, settle_of_le b h]

/-- The first block of a stream waits until more comes. -/
theorem absorb_empty_of_le {data : Bytes} (h : data.length ≤ blockLength) :
    (empty.absorb data).1 = [] := by
  rw [absorb, settle_of_le]
  exact h

/-- Taking in two pieces one after the other is taking in both at once. -/
theorem absorb_append (b : Backlog) (front back : Bytes) :
    b.absorb (front ++ back) =
      ((b.absorb front).1 ++ ((b.absorb front).2.absorb back).1,
        ((b.absorb front).2.absorb back).2) := by
  rw [absorb, extend_append, settle_extend]
  rfl

/-- The frame of block `i` of the waiting bytes when more follows. -/
def frameAt (b : Backlog) (i : Nat) : Frame :=
  ⟨Message.block b.bytes i, Counter.ofNat (b.counter.toNat + 128 * (i + 1)), b.flags⟩

def popBlocks (b : Backlog) (k : Nat) : Backlog :=
  { b with
    bytes := b.bytes.drop (128 * k)
    counter := Counter.ofNat (b.counter.toNat + 128 * k) }

theorem headFrame_eq_frameAt (b : Backlog) : b.headFrame = b.frameAt 0 := by
  have hcounter := Counter.add_ofNat b.counter.toNat blockLength.toUInt64
  rw [Counter.ofNat_toNat] at hcounter
  rw [headFrame, frameAt, hcounter]
  rfl

theorem frameAt_pop (b : Backlog) (i : Nat) : b.pop.frameAt i = b.frameAt (i + 1) := by
  have hcounter := Counter.ofNat_toNat_add b.counter blockLength.toUInt64 (128 * (i + 1))
  have hblock := Message.block_drop b.bytes 1 i
  have hsum : b.counter.toNat + blockLength.toUInt64.toNat + 128 * (i + 1) =
      b.counter.toNat + 128 * (i + 1 + 1) := by
    simp only [show blockLength.toUInt64.toNat = 128 from rfl]
    omega
  rw [frameAt, frameAt, Frame.mk.injEq]
  refine ⟨?_, ?_, rfl⟩
  · rw [Nat.add_comm i 1]
    exact hblock
  · rw [← hsum]
    exact hcounter

theorem popBlocks_zero (b : Backlog) : b.popBlocks 0 = b := by
  simp [popBlocks]

theorem popBlocks_pop (b : Backlog) (k : Nat) :
    b.pop.popBlocks k = b.popBlocks (k + 1) := by
  have hcounter := Counter.ofNat_toNat_add b.counter blockLength.toUInt64 (128 * k)
  have hsum : b.counter.toNat + blockLength.toUInt64.toNat + 128 * k =
      b.counter.toNat + 128 * (k + 1) := by
    simp only [show blockLength.toUInt64.toNat = 128 from rfl]
    omega
  have hlength : blockLength + 128 * k = 128 * (k + 1) := by
    simp only [blockLength]
    omega
  simp only [popBlocks, pop, List.drop_drop]
  rw [hcounter, hsum, hlength]

/-- The positional form of settling. -/
theorem settle_eq (b : Backlog) :
    b.settle =
      ((List.range (Message.innerCount b.bytes.length)).map b.frameAt,
        b.popBlocks (Message.innerCount b.bytes.length)) := by
  fun_induction settle b with
  | case1 b h next ih =>
      have hcount : Message.innerCount b.bytes.length =
          Message.innerCount b.pop.bytes.length + 1 := by
        rw [Message.innerCount_of_gt h, pop, List.length_drop]
      have hframes : (List.range (Message.innerCount b.pop.bytes.length)).map b.pop.frameAt =
          (List.range (Message.innerCount b.pop.bytes.length)).map
            fun i => b.frameAt (i + 1) :=
        List.map_congr_left fun i _ => frameAt_pop b i
      rw [show next = b.pop.settle from rfl, ih, hcount, List.range_succ_eq_map,
        List.map_cons, List.map_map, headFrame_eq_frameAt, popBlocks_pop, hframes]
      rfl
  | case2 b h =>
      rw [Message.innerCount_of_le (Nat.le_of_not_gt h), popBlocks_zero]
      rfl

theorem absorb_empty_fst (stream : Bytes) :
    (empty.absorb stream).1 = Message.innerFrames stream := by
  rw [absorb, settle_eq]
  apply List.map_congr_left
  intro i _
  simp only [frameAt, empty, Flags.lowered, extend, List.nil_append, Message.innerFrame,
    Counter.toNat_zero, Nat.zero_add]

theorem absorb_empty_snd (stream : Bytes) :
    (empty.absorb stream).2 =
      { bytes := stream.drop (128 * Message.innerCount stream.length)
        counter := Counter.ofNat (128 * Message.innerCount stream.length)
        flags := .lowered
        lastNode := false } := by
  rw [absorb, settle_eq]
  simp only [popBlocks, empty, extend, List.nil_append, Counter.toNat_zero, Nat.zero_add]

theorem lastFrame_absorb_empty (stream : Bytes) :
    (empty.absorb stream).2.lastFrame =
      Message.lastFrame stream (Message.innerCount stream.length) := by
  have hblock := Message.block_drop stream (Message.innerCount stream.length) 0
  have hcounter : (Counter.ofNat (128 * Message.innerCount stream.length)).add
      (stream.drop (128 * Message.innerCount stream.length)).length.toUInt64 =
        Counter.ofNat stream.length := by
    rw [Counter.add_ofNat, List.length_drop, Nat.toUInt64_eq, UInt64.toNat_ofNat']
    congr 1
    unfold Message.innerCount
    omega
  rw [absorb_empty_snd, lastFrame, Message.lastFrame, Frame.mk.injEq]
  exact ⟨hblock, hcounter, rfl⟩

/-- The frames of a stream that is taken in whole are those of the message. -/
theorem frames_absorb_empty (stream : Bytes) :
    (empty.absorb stream).1 ++ [(empty.absorb stream).2.lastFrame] =
      Message.frames stream := by
  rw [absorb_empty_fst, lastFrame_absorb_empty, Message.frames_eq]

end Backlog

end Blake2b
