import Blake2b.Intake
import Blake2b.Proofs.Backlog
import Blake2b.Proofs.Storage
/-!
# The window holds the backlog

An intake keeps its backlog at the front of a window of two blocks. `backlog`
forgets the window; what the window holds behind the live bytes is not part of
it. Every operation of the intake is the operation of the backlog of the same
name, as long as the window is not overfull: filling puts bytes behind the live
ones, shifting takes a block off, and so settling and absorbing give out the
same frames.

The bound on `held` differs by the operation. Settling starts from up to two
blocks and absorbing from at most one, and each turn of absorbing ends with at
most one again.
-/

namespace Blake2b.Intake

/-- What the intake holds, apart from where it is stored. -/
def backlog (s : Intake) : Backlog := ⟨s.live, s.counter, s.flags, s.lastNode⟩

theorem length_live (s : Intake) (h : s.held ≤ windowLength) :
    s.live.length = s.held :=
  Storage.length_take_toList s.window h

theorem backlog_fill (s : Intake) (piece : Bytes)
    (h : s.held + piece.length ≤ windowLength) :
    (s.fill piece).backlog = s.backlog.extend piece := by
  have hlive : (s.fill piece).live = s.live ++ piece :=
    Storage.take_overwrite s.window s.held piece h
  simp only [backlog, hlive, Backlog.extend]
  rfl

theorem getElem_head (s : Intake) (j : Nat) (hj : j < blockLength) :
    s.head[j] = s.window.toList.getD j 0 := by
  have hwindow : j < windowLength := Nat.lt_trans hj (by decide)
  simp only [head, Vector.getElem_ofFn, List.getD_eq_getElem?_getD]
  rw [List.getElem?_eq_getElem (by rw [Vector.length_toList]; exact hwindow),
    Option.getD_some, Vector.getElem_toList]

theorem toList_head (s : Intake) : s.head.toList = s.window.toList.take blockLength := by
  apply List.ext_getElem
  · rw [Vector.length_toList, Storage.length_take_toList s.window (by decide)]
  · intro j hj _
    rw [Vector.getElem_toList, List.getElem_take, Vector.getElem_toList]
    simp only [head, Vector.getElem_ofFn]

theorem head_eq_block (s : Intake) (h : blockLength ≤ s.held) :
    s.head = Message.block s.live 0 := by
  ext j hj
  rw [getElem_head, Message.getElem_block, Nat.mul_zero, Nat.zero_add, live,
    List.getD_eq_getElem?_getD, List.getD_eq_getElem?_getD,
    List.getElem?_take_of_lt (by omega)]

theorem frame_count (s : Intake) (h : blockLength ≤ s.held) :
    s.count.frame = s.backlog.headFrame := by
  have hhead : s.count.head = Message.block s.live 0 := head_eq_block s h
  rw [frame, Backlog.headFrame, hhead]
  rfl

/-- Shifting leaves the live bytes behind the first block. The bytes that are
moved lie in the window, so none of them is lost. -/
theorem live_shift (s : Intake) (h : s.held ≤ windowLength) :
    s.shift.live = s.live.drop blockLength := by
  have hmoved := Storage.length_slice s.window blockLength h
  have hfits : Storage.Fits windowLength 0
      (Storage.slice s.window blockLength s.held) := by
    unfold Storage.Fits
    omega
  have htake := Storage.take_overwrite s.window 0 _ hfits
  rw [hmoved, Nat.zero_add, List.take_zero, List.nil_append] at htake
  simp only [live, shift]
  rw [htake, List.drop_take, Storage.slice]

theorem backlog_shift (s : Intake) (h : s.held ≤ windowLength) :
    s.count.shift.backlog = s.backlog.pop := by
  have hlive : s.count.shift.live = s.live.drop blockLength := live_shift s.count h
  rw [backlog, Backlog.pop, Backlog.mk.injEq]
  exact ⟨hlive, rfl, rfl, rfl⟩

theorem backlog_settle (s : Intake) (h : s.held ≤ windowLength) :
    s.settle.1 = s.backlog.settle.1 ∧ s.settle.2.backlog = s.backlog.settle.2 := by
  fun_induction settle s with
  | case1 s hgt next ih =>
      have hheld : s.count.shift.held ≤ windowLength :=
        Nat.le_trans (Nat.sub_le s.held blockLength) h
      have hwaiting : s.backlog.bytes.length > blockLength := by
        rw [backlog, length_live s h]
        exact hgt
      obtain ⟨hframes, hbacklog⟩ := ih hheld
      rw [backlog_shift s h] at hframes hbacklog
      rw [Backlog.settle_of_gt s.backlog hwaiting, frame_count s (Nat.le_of_lt hgt)]
      exact ⟨congrArg _ hframes, hbacklog⟩
  | case2 s hle =>
      have hwaiting : s.backlog.bytes.length ≤ blockLength := by
        rw [backlog, length_live s h]
        exact Nat.le_of_not_gt hle
      rw [Backlog.settle_of_le s.backlog hwaiting]
      exact ⟨rfl, rfl⟩

theorem held_absorb_le (s : Intake) (data : Bytes) (h : s.held ≤ blockLength) :
    (s.absorb data).2.held ≤ blockLength := by
  fun_induction absorb s data with
  | case1 s => exact h
  | case2 s byte rest data room settled next ih => exact ih (held_settle_le _)

/-- Absorbing into the window absorbs into the backlog, however many turns the
window needs for it. -/
theorem backlog_absorb (s : Intake) (data : Bytes) (h : s.held ≤ blockLength) :
    (s.absorb data).1 = (s.backlog.absorb data).1 ∧
      (s.absorb data).2.backlog = (s.backlog.absorb data).2 := by
  fun_induction absorb s data with
  | case1 s =>
      have hwindow : s.held ≤ windowLength := Nat.le_trans h (by decide)
      have hwaiting : s.backlog.bytes.length ≤ blockLength := by
        rw [backlog, length_live s hwindow]
        exact h
      rw [Backlog.absorb_nil s.backlog hwaiting]
      exact ⟨rfl, rfl⟩
  | case2 s byte rest data room settled next ih =>
      have hroom : s.held + (data.take room).length ≤ windowLength := by
        simp only [room, List.length_take, windowLength, blockLength] at h ⊢
        omega
      -- one turn absorbs what there is room for, and the next ones the rest
      obtain ⟨hsettled, hbetween⟩ := backlog_settle (s.fill (data.take room)) hroom
      rw [backlog_fill s (data.take room) hroom] at hsettled hbetween
      obtain ⟨hnext, hafter⟩ := ih (held_settle_le _)
      have hturn := Backlog.absorb_append s.backlog (data.take room) (data.drop room)
      rw [List.take_append_drop] at hturn
      have hbacklog : settled.2.backlog = (s.backlog.absorb (data.take room)).2 := hbetween
      rw [hbacklog] at hnext hafter
      rw [hturn]
      refine ⟨?_, hafter⟩
      rw [← hnext]
      exact congrArg (· ++ next.1) hsettled

/-- Closing fills the last block up with zeros and leaves nothing stale in it. -/
theorem frame_close (s : Intake) (h : s.held ≤ blockLength) :
    s.close.frame = s.backlog.lastFrame := by
  have hwindow : s.held ≤ windowLength := Nat.le_trans h (by decide)
  have hhead : s.close.head = Message.block s.live 0 := by
    ext j hj
    rw [getElem_head, Message.getElem_block, Nat.mul_zero, Nat.zero_add,
      show s.close.window = Storage.fillFrom s.window s.held 0 from rfl,
      Storage.toList_fillFrom s.window s.held 0 hwindow, ← live,
      List.getD_eq_getElem?_getD, List.getD_eq_getElem?_getD]
    by_cases hlive : j < s.live.length
    · rw [List.getElem?_append_left hlive]
    · have hzero : j - s.live.length < windowLength - s.held := by
        rw [length_live s hwindow] at hlive ⊢
        simp only [blockLength, windowLength] at *
        omega
      rw [List.getElem?_append_right (Nat.le_of_not_lt hlive),
        List.getElem?_replicate_of_lt hzero,
        List.getElem?_eq_none (Nat.le_of_not_lt hlive)]
      rfl
  have hcount : s.held.toUInt64 = s.backlog.bytes.length.toUInt64 := by
    rw [backlog, length_live s hwindow]
  rw [frame, Backlog.lastFrame, hhead, ← hcount]
  rfl

end Blake2b.Intake
