import Blake2b.Proofs.Checked
import Blake2b.Proofs.Comparison
/-!
# A hasher stays within its bounds

Between two operations at most one block is held and the length of the digest is in range
(`InRange`). Inside of an operation the first of these is broken and mended again: a turn of
taking in data fills the window, up to two blocks, and settling it gives out at most one of
them. So the next turn finds room for at least one block, takes at least one byte, and the
loop comes to its end (`Turns`).

From this follows that the watched operations run into no trap: each of them makes the
accesses of the plain one through `checkedSlice`, `checkedCopy` and their like, and is equal
to it on every hasher that is in range. The hashers of a run are, and therefore every run is
watched to its end.
-/

namespace Blake2b

open Storage

namespace Intake

/-- What one turn of taking in data has to keep to, with `data` still to come. -/
structure Turn (s : Intake) (data : Bytes) : Prop where
  /-- The room in the window is not below zero. -/
  held_le : s.held ≤ 256
  /-- At least one byte is taken. -/
  takes : 1 ≤ (data.take (256 - s.held)).length
  /-- What is taken fits into the window. -/
  filled_le : (s.fill (data.take (256 - s.held))).held ≤ 256
  /-- At most one block is given out. -/
  once : (s.fill (data.take (256 - s.held))).settle.1.length ≤ 1

/-- The loop that takes in `data` comes to its end, and every turn of it is in order. -/
inductive Turns : Intake → Bytes → Prop where
  | done (s : Intake) : Turns s []
  | turn {s : Intake} {data : Bytes} (hdata : data ≠ []) (hturn : Turn s data)
      (hrest : Turns (s.fill (data.take (256 - s.held))).settle.2 (data.drop (256 - s.held))) :
      Turns s data

def checkedFill (s : Intake) (piece : Bytes) : Checked Intake := do
  let window ← checkedCopy s.window s.held (s.held + piece.length) piece
  return { s with window := window, held := s.held + piece.length }

/-- The frame at the front of the window, through a block of its own. -/
def checkedFrame (s : Intake) : Checked Frame := do
  let front ← checkedSlice s.window 0 blockLength
  let block ← checkedCopy Block.zero 0 blockLength front
  return ⟨block, s.counter, s.flags⟩

def checkedShift (s : Intake) : Checked Intake := do
  let behind ← checkedSlice s.window blockLength s.held
  let window ← checkedCopy s.window 0 behind.length behind
  let held ← checkedSub s.held blockLength
  return { s with window := window, held := held }

/-- Gives out a block if more than one is held. -/
def checkedSettle (s : Intake) : Checked (List Frame × Intake) :=
  if s.held > blockLength then do
    let frame ← s.count.checkedFrame
    let next ← s.count.checkedShift
    if next.held > blockLength then .error .unsettled else .ok ([frame], next)
  else .ok ([], s)

/-- Takes in data turn by turn. The recursion is on the length of the data alone, because a
turn that takes nothing is a trap. -/
def checkedAbsorb (s : Intake) (data : Bytes) : Checked (List Frame × Intake) :=
  if data = [] then .ok ([], s)
  else do
    let room ← checkedSub windowLength s.held
    let taken := min room data.length
    if _h : taken = 0 then .error .stalled
    else
      let piece ← checkedTake data taken
      let filled ← s.checkedFill piece
      let settled ← filled.checkedSettle
      let next ← settled.2.checkedAbsorb (data.drop taken)
      .ok (settled.1 ++ next.1, next.2)
termination_by data.length
decreasing_by
  rw [List.length_drop]
  omega

/-- Clears the window behind the live bytes and makes its front the last block. -/
def checkedClose (s : Intake) : Checked Intake := do
  let window ← checkedCopy s.window s.held windowLength
    (List.replicate (windowLength - s.held) 0)
  return { s.close with window := window }

theorem checkedFill_eq (s : Intake) {piece : Bytes}
    (h : s.held + piece.length ≤ windowLength) : s.checkedFill piece = .ok (s.fill piece) := by
  have hcopy := checkedCopy_eq s.window piece (Nat.le_add_right s.held piece.length) h
    (Nat.add_sub_cancel_left s.held piece.length).symm
  rw [checkedFill, Checked.bind_of_eq hcopy]
  rfl

theorem overwrite_slice_eq_head (s : Intake) :
    overwrite Block.zero 0 (slice s.window 0 blockLength) = s.head := by
  apply Vector.toList_inj.1
  rw [toList_overwrite_full _ _ (length_slice s.window 0 (by decide)), slice_zero, toList_head]

theorem checkedFrame_eq (s : Intake) : s.checkedFrame = .ok s.frame := by
  have hslice := checkedSlice_eq s.window (Nat.zero_le blockLength) (by decide)
  have hcopy := checkedCopy_eq Block.zero (slice s.window 0 blockLength)
    (Nat.zero_le blockLength) (Nat.le_refl blockLength) (length_slice s.window 0 (by decide))
  rw [checkedFrame, Checked.bind_of_eq hslice, Checked.bind_of_eq hcopy,
    overwrite_slice_eq_head]
  rfl

theorem checkedShift_eq (s : Intake) (hblock : blockLength ≤ s.held)
    (hwindow : s.held ≤ windowLength) : s.checkedShift = .ok s.shift := by
  have hlength := length_slice s.window blockLength hwindow
  have hslice := checkedSlice_eq s.window hblock hwindow
  have hcopy := checkedCopy_eq s.window (slice s.window blockLength s.held)
    (Nat.zero_le _) (by omega) (Nat.sub_zero _).symm
  rw [checkedShift, Checked.bind_of_eq hslice, Checked.bind_of_eq hcopy,
    Checked.bind_of_eq (checkedSub_eq hblock)]
  rfl

theorem held_shift_count_le (s : Intake) (h : s.held ≤ windowLength) :
    s.count.shift.held ≤ blockLength := by
  simp only [count, shift, windowLength, blockLength] at h ⊢
  omega

/-- A window of two blocks gives out at most one of them. -/
theorem settle_of_le_window (s : Intake) (h : s.held ≤ windowLength) :
    s.settle = if s.held > blockLength then ([s.count.frame], s.count.shift) else ([], s) := by
  split
  · rename_i hblock
    rw [settle_of_gt s hblock, settle_of_le _ (s.held_shift_count_le h)]
  · rename_i hblock
    exact settle_of_le s (Nat.le_of_not_gt hblock)

theorem checkedSettle_eq (s : Intake) (h : s.held ≤ windowLength) :
    s.checkedSettle = .ok s.settle := by
  rw [settle_of_le_window s h, checkedSettle]
  split
  · rename_i hblock
    have hheld : ¬ s.count.shift.held > blockLength :=
      Nat.not_lt_of_le (s.held_shift_count_le h)
    rw [Checked.bind_of_eq s.count.checkedFrame_eq,
      Checked.bind_of_eq (s.count.checkedShift_eq (Nat.le_of_lt hblock) h), if_neg hheld]
  · rfl

theorem turn_of_held_le (s : Intake) {data : Bytes} (hdata : data ≠ [])
    (h : s.held ≤ blockLength) : Turn s data := by
  have hlength : 0 < data.length := List.length_pos_iff.2 hdata
  have hfilled : (s.fill (data.take (256 - s.held))).held ≤ windowLength := by
    simp only [fill, List.length_take, windowLength, blockLength] at h ⊢
    omega
  refine ⟨Nat.le_trans h (by decide), ?_, hfilled, ?_⟩
  · simp only [List.length_take, blockLength] at h ⊢
    omega
  · rw [settle_of_le_window _ hfilled]
    split
    · exact Nat.le_refl 1
    · exact Nat.zero_le 1

/-- With at most one block held, data of any length is taken in. -/
theorem turns_of_held_le (s : Intake) (data : Bytes) (h : s.held ≤ blockLength) :
    Turns s data := by
  fun_induction absorb s data with
  | case1 s => exact .done s
  | case2 s byte rest data room settled next ih =>
      have hdata : data ≠ [] := List.cons_ne_nil byte rest
      exact .turn hdata (s.turn_of_held_le hdata h) (ih (held_settle_le _))

theorem checkedAbsorb_nil (s : Intake) : s.checkedAbsorb [] = .ok ([], s) := by
  rw [checkedAbsorb, if_pos rfl]

/-- A turn that is in order runs into no trap, and neither does the loop. -/
theorem Turns.checkedAbsorb_eq {s : Intake} {data : Bytes} (h : Turns s data) :
    s.checkedAbsorb data = .ok (s.absorb data) := by
  induction h with
  | done s => rw [checkedAbsorb_nil, absorb_nil]
  | @turn s data hdata hturn hrest ih =>
      have htakes := hturn.takes
      rw [List.length_take] at htakes
      have htake := checkedTake_eq data (Nat.min_le_right (256 - s.held) data.length)
      rw [← List.take_eq_take_min] at htake
      rw [checkedAbsorb, if_neg hdata, Checked.bind_of_eq (checkedSub_eq hturn.held_le),
        dif_neg (by omega), Checked.bind_of_eq htake,
        Checked.bind_of_eq (s.checkedFill_eq hturn.filled_le),
        Checked.bind_of_eq (checkedSettle_eq _ hturn.filled_le), ← List.drop_eq_drop_min,
        Checked.bind_of_eq ih]
      cases data with
      | nil => exact absurd rfl hdata
      | cons byte rest => rw [absorb_cons]

theorem checkedAbsorb_eq (s : Intake) (data : Bytes) (h : s.held ≤ blockLength) :
    s.checkedAbsorb data = .ok (s.absorb data) :=
  (s.turns_of_held_le data h).checkedAbsorb_eq

-- a full window has no room, and the loop over the data would never end
example : ({ empty with held := 256 }).checkedAbsorb [1] = .error .stalled := by
  rw [checkedAbsorb]
  rfl

theorem checkedClose_eq (s : Intake) (h : s.held ≤ windowLength) :
    s.checkedClose = .ok s.close := by
  have hcopy := checkedCopy_eq s.window (List.replicate (windowLength - s.held) 0) h
    (Nat.le_refl windowLength) List.length_replicate
  rw [checkedClose, Checked.bind_of_eq hcopy]
  rfl

end Intake

namespace Digest

/-- A digest in the given storage, whose length has to be in range. -/
def checkedNew (storage : Vector UInt8 maxDigestLength) (length : Nat) : Checked Digest :=
  if 1 ≤ length ∧ length ≤ maxDigestLength then .ok ⟨storage, length⟩
  else .error (.digestLength length)

def checkedOfOutput (output : Vector UInt8 maxDigestLength) (length : Nat) :
    Checked Digest := do
  let front ← checkedSlice output 0 length
  let storage ← checkedCopy (Vector.replicate maxDigestLength 0) 0 length front
  checkedNew storage length

def checkedBytes (d : Digest) : Checked Bytes := checkedSlice d.storage 0 d.length

theorem checkedOfOutput_eq (output : Vector UInt8 maxDigestLength) {length : Nat}
    (hpos : 1 ≤ length) (hle : length ≤ maxDigestLength) :
    checkedOfOutput output length = .ok (ofOutput output length) := by
  have hslice := checkedSlice_eq output (Nat.zero_le length) hle
  have hcopy := checkedCopy_eq (Vector.replicate maxDigestLength 0) (slice output 0 length)
    (Nat.zero_le length) hle (length_slice output 0 hle)
  rw [checkedOfOutput, Checked.bind_of_eq hslice, Checked.bind_of_eq hcopy, checkedNew,
    if_pos ⟨hpos, hle⟩]
  rfl

theorem checkedBytes_eq {d : Digest} (h : d.length ≤ maxDigestLength) :
    d.checkedBytes = .ok d.toBytes := by
  rw [checkedBytes, checkedSlice_eq d.storage (Nat.zero_le d.length) h, slice_zero, toBytes]

end Digest

namespace Hasher

def checkedAbsorb (s : Hasher) (data : Bytes) : Checked Hasher := do
  let taken ← s.intake.checkedAbsorb data
  let compressed ← s.workspace.checkedCompressAll s.chaining taken.1
  return { s with
    chaining := compressed.1
    intake := taken.2
    workspace := compressed.2 }

def checkedUpdate (s : Hasher) (data : Bytes) : Checked (Except Fault Unit × Hasher) :=
  if s.isFinalized then .ok (.error .alreadyFinalized, s)
  else do
    let next ← s.checkedAbsorb data
    return (.ok (), { next with phase := .absorbing })

def checkedWrite (s : Hasher) (data : Bytes) : Checked (Except Failure Nat × Hasher) := do
  let (outcome, next) ← s.checkedUpdate data
  return ((outcome.map fun _ => data.length).mapError .ofFault, next)

def checkedStage (s : Hasher) : Checked Hasher := do
  let last ← s.intake.checkedClose
  let frame ← last.checkedFrame
  let compressed ← s.workspace.checkedCompress s.chaining frame
  let staging ← checkedCopy s.staging 0 maxDigestLength
    (LittleEndian.encodeAll compressed.1.toList)
  return { s with
    chaining := compressed.1
    intake := last
    workspace := compressed.2
    staging := staging }

def checkedFinish (s : Hasher) : Checked Hasher := do
  let staged ← s.checkedStage
  return { staged.wipeWorking with phase := .finalized }

def checkedFinalize (s : Hasher) : Checked (Except Fault Digest × Hasher) :=
  if s.isFinalized then .ok (.error .alreadyFinalized, s)
  else do
    let done ← s.checkedFinish
    let digest ← Digest.checkedOfOutput done.staging s.digestLength
    return (.ok digest, done.wipeStaging)

def checkedFinalizeInto (s : Hasher) (buffer : Bytes) :
    Checked (Except Fault Unit × Bytes × Hasher) :=
  if s.isFinalized then .ok (.error .alreadyFinalized, buffer, s)
  else if buffer.length = 0 ∨ buffer.length > s.digestLength then
    .ok (.error (.outOfRange .outputLength buffer.length), buffer, s)
  else do
    let done ← s.checkedFinish
    let front ← checkedSlice done.staging 0 buffer.length
    let filled ← checkedRefill buffer front
    return (.ok (), filled, done.wipeStaging)

def checkedPerform (s : Hasher) : Operation → Checked (Response × Hasher)
  | .update data => do
      let done ← s.checkedUpdate data
      return (.updated done.1, done.2)
  | .write data => do
      let done ← s.checkedWrite data
      return (.written done.1, done.2)
  | .flush => .ok (.flushed s.flush.1, s.flush.2)
  | .finalize => do
      let done ← s.checkedFinalize
      return (.digest done.1, done.2)
  | .finalizeInto buffer => do
      let done ← s.checkedFinalizeInto buffer
      return (.filled done.1 done.2.1, done.2.2)
  | .setCounter t => .ok (.counterSet, s.setCounter t)

def checkedRun (s : Hasher) : List Operation → Checked (List (Response × Hasher))
  | [] => .ok []
  | operation :: rest => do
      let next ← s.checkedPerform operation
      let later ← next.2.checkedRun rest
      return next :: later

/-- A hasher with a key, which is laid into a block of its own. -/
def checkedKeyed (digestLength : Nat) (key : Bytes) (salt : Option Salt)
    (personal : Option Personal) : Checked (Except Fault Hasher) :=
  match Parameters.sequential digestLength key.length salt personal with
  | .error fault => .ok (.error fault)
  | .ok p =>
      if key.isEmpty then .ok (.error .emptyKey)
      else do
        let block ← checkedCopy Block.zero 0 key.length key
        let s ← (ofParameters p).checkedAbsorb block.toList
        return .ok s

section Functions

variable {s : Hasher}

theorem checkedAbsorb_eq (h : s.intake.held ≤ blockLength) (data : Bytes) :
    s.checkedAbsorb data = .ok (s.absorb data) := by
  rw [checkedAbsorb, Checked.bind_of_eq (s.intake.checkedAbsorb_eq data h),
    Checked.bind_of_eq (s.workspace.checkedCompressAll_eq s.chaining _)]
  rfl

theorem checkedUpdate_eq (h : s.intake.held ≤ blockLength) (data : Bytes) :
    s.checkedUpdate data = .ok (s.update data) := by
  rw [checkedUpdate, update]
  split
  · rfl
  · rw [Checked.bind_of_eq (checkedAbsorb_eq h data)]
    rfl

theorem checkedWrite_eq (h : s.intake.held ≤ blockLength) (data : Bytes) :
    s.checkedWrite data = .ok (s.write data) := by
  rw [checkedWrite, Checked.bind_of_eq (checkedUpdate_eq h data), write]
  rcases s.update data with ⟨_ | _, next⟩
  · rfl
  · rfl

theorem checkedStage_eq (h : s.intake.held ≤ blockLength) : s.checkedStage = .ok s.stage := by
  have hwindow : s.intake.held ≤ windowLength := Nat.le_trans h (by decide)
  have hlength (next : ChainingValue) :
      (LittleEndian.encodeAll next.toList).length = maxDigestLength := by
    rw [LittleEndian.length_encodeAll, Vector.length_toList]
  have hcopy (next : ChainingValue) :=
    checkedCopy_eq s.staging (LittleEndian.encodeAll next.toList) (Nat.zero_le maxDigestLength)
      (Nat.le_refl maxDigestLength) (hlength next)
  rw [checkedStage, Checked.bind_of_eq (s.intake.checkedClose_eq hwindow),
    Checked.bind_of_eq (s.intake.close.checkedFrame_eq),
    Checked.bind_of_eq (s.workspace.checkedCompress_eq s.chaining _),
    Checked.bind_of_eq (hcopy _)]
  simp only [stage]
  rfl

theorem checkedFinish_eq (h : s.intake.held ≤ blockLength) :
    s.checkedFinish = .ok s.finish := by
  rw [checkedFinish, Checked.bind_of_eq (checkedStage_eq h)]
  rfl

end Functions

namespace InRange

section Operations

variable {s : Hasher} (h : s.InRange)
include h

theorem checkedFinalize_eq : s.checkedFinalize = .ok s.finalize := by
  by_cases hphase : s.phase = .finalized
  · rw [checkedFinalize, if_pos (isFinalized_of_eq hphase), finalize_of_finalized s hphase]
  · have hdigest := Digest.checkedOfOutput_eq s.finish.staging h.digestLength_pos
      h.digestLength_le
    rw [checkedFinalize, isFinalized_of_ne hphase, finalize_of_ne_finalized s hphase]
    refine (Checked.bind_of_eq (checkedFinish_eq h.held_le) _).trans ?_
    exact Checked.bind_of_eq hdigest _

theorem checkedFinalizeInto_eq (buffer : Bytes) :
    s.checkedFinalizeInto buffer = .ok (s.finalizeInto buffer) := by
  by_cases hphase : s.phase = .finalized
  · rw [checkedFinalizeInto, if_pos (isFinalized_of_eq hphase),
      finalizeInto_of_finalized s buffer hphase]
  · rw [checkedFinalizeInto, isFinalized_of_ne hphase]
    cases hbuffer : s.fillable buffer with
    | false =>
        rw [finalizeInto_of_not_fillable s buffer hphase hbuffer]
        exact if_pos ((s.fillable_eq_false_iff buffer).1 hbuffer)
    | true =>
        have hfits : ¬ (buffer.length = 0 ∨ buffer.length > s.digestLength) := by
          rw [← fillable_eq_false_iff, hbuffer, Bool.true_eq_false]
          exact not_false
        have hle : buffer.length ≤ maxDigestLength :=
          Nat.le_trans (Nat.le_of_not_gt fun hgt => hfits (.inr hgt)) h.digestLength_le
        have hslice := checkedSlice_eq s.finish.staging (Nat.zero_le buffer.length) hle
        have hrefill := checkedRefill_eq (length_slice s.finish.staging 0 hle)
        rw [finalizeInto_of_fillable s buffer hphase hbuffer]
        refine (if_neg hfits).trans ?_
        refine (Checked.bind_of_eq (checkedFinish_eq h.held_le) _).trans ?_
        refine (Checked.bind_of_eq hslice _).trans ?_
        exact Checked.bind_of_eq hrefill _

/-- No operation on a hasher that is in range runs into a trap. -/
theorem checkedPerform_eq (operation : Operation) :
    s.checkedPerform operation = .ok (s.perform operation) := by
  cases operation with
  | update data => exact Checked.bind_of_eq (checkedUpdate_eq h.held_le data) _
  | write data => exact Checked.bind_of_eq (checkedWrite_eq h.held_le data) _
  | flush => rfl
  | finalize => exact Checked.bind_of_eq h.checkedFinalize_eq _
  | finalizeInto buffer => exact Checked.bind_of_eq (h.checkedFinalizeInto_eq buffer) _
  | setCounter t => rfl

end Operations

/-- What is watched and in range stays so: a run ends without a trap, however long it is. -/
theorem checkedRun_eq {s : Hasher} (h : s.InRange) (operations : List Operation) :
    s.checkedRun operations = .ok (s.run operations) := by
  induction operations generalizing s with
  | nil => rfl
  | cons operation rest ih =>
      rw [checkedRun, Checked.bind_of_eq (h.checkedPerform_eq operation),
        Checked.bind_of_eq (ih (h.perform operation)), run_cons]
      rfl

end InRange

theorem checkedKeyed_eq (digestLength : Nat) (key : Bytes) (salt : Option Salt)
    (personal : Option Personal) :
    checkedKeyed digestLength key salt personal =
      .ok (keyed digestLength key salt personal) := by
  rw [checkedKeyed, keyed]
  cases hp : Parameters.sequential digestLength key.length salt personal with
  | error fault => rfl
  | ok p =>
      -- the parameters were accepted, so the key is no longer than half a block
      have hkey : key.length ≤ blockLength :=
        Nat.le_trans (Parameters.of_sequential_eq_ok hp).2.2.1 (by decide)
      have hcopy := checkedCopy_eq Block.zero key (Nat.zero_le key.length) hkey
        (Nat.sub_zero _).symm
      have habsorb := checkedAbsorb_eq (s := ofParameters p) (Nat.zero_le _)
        (keyBlock key).toList
      cases key.isEmpty with
      | true => rfl
      | false =>
          refine (Checked.bind_of_eq hcopy _).trans ?_
          exact Checked.bind_of_eq habsorb _

end Hasher

namespace Setup

def checkedHasher (c : Setup) : Checked (Except Fault Hasher) :=
  match c.key with
  | none => .ok (Hasher.unkeyed c.digestLength c.salt c.personal)
  | some key => Hasher.checkedKeyed c.digestLength key c.salt c.personal

/-- Also a setup that is refused runs into no trap. -/
theorem checkedHasher_eq (c : Setup) : c.checkedHasher = .ok c.hasher := by
  rw [checkedHasher, hasher]
  cases c.key with
  | none => rfl
  | some key => exact Hasher.checkedKeyed_eq c.digestLength key c.salt c.personal

end Setup

/-- A constructed hasher is in range after every run, and no access on the way is out of
bounds: the watched run has no trap, and is the run. Data of any length that comes next is
taken in by turns, of which each takes at least one byte and gives out at most one block, and
the digest that comes next can be read. Nor does a construction have a trap, also if it is
refused. -/
theorem Hasher.run_within_bounds (s : Hasher) (h : Constructed s)
    (operations : List Operation) :
    (s.after operations).InRange ∧
    s.checkedRun operations = .ok (s.run operations) ∧
    (∀ data, (s.after operations).intake.Turns data) ∧
    (∀ d, (s.after operations).finalize.1 = .ok d → d.checkedBytes = .ok d.toBytes) ∧
    ∀ c : Setup, c.checkedHasher = .ok c.hasher := by
  have hafter := h.inRange.after operations
  refine ⟨hafter, h.inRange.checkedRun_eq operations, fun data => ?_, fun d hd => ?_,
    Setup.checkedHasher_eq⟩
  · exact (s.after operations).intake.turns_of_held_le data hafter.held_le
  · have hgiven : d.Given := ⟨s, operations, h, hd⟩
    exact Digest.checkedBytes_eq hgiven.proper.length_le

/-- Behind the key block 300 bytes need three turns, of which two fill the window to its
end. -/
theorem Hasher.run_within_bounds_full_window :
    let operations : List Operation := [.update (List.replicate 300 7), .setCounter ⟨5, 6⟩]
    ∃ s d, keyed 64 [1, 2, 3] none none = .ok s ∧ Constructed s ∧
      (s.after operations).InRange ∧ s.checkedRun operations = .ok (s.run operations) ∧
      s.intake.Turns (List.replicate 300 7) ∧
      (s.after operations).finalize.1 = .ok d ∧ d.checkedBytes = .ok d.toBytes := by
  intro operations
  obtain ⟨s, hs⟩ := Setup.exists_hasher (c := ⟨64, some [1, 2, 3], none, none⟩)
    (by decide) (by decide) (by decide) (by decide)
  have hconstructed : Constructed s := .ofSetup hs
  have hphase : (s.after operations).phase ≠ .finalized := by
    rw [after_cons, perform, update_of_ne_finalized s _ hconstructed.phase_ne]
    exact (by decide : Phase.absorbing ≠ Phase.finalized)
  have hdigest := congrArg Prod.fst (finalize_of_ne_finalized _ hphase)
  obtain ⟨hrange, hrun, -, hbytes, -⟩ := run_within_bounds s hconstructed operations
  obtain ⟨-, -, hturns, -, -⟩ := run_within_bounds s hconstructed []
  exact ⟨s, _, hs, hconstructed, hrange, hrun, hturns _, hdigest, hbytes _ hdigest⟩

end Blake2b
