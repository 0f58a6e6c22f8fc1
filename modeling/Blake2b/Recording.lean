import Blake2b.Operation
/-!
# Recorded operations

The operations once more, each of them with the frames that it compresses. A frame is
recorded where it is compressed, by `Workspace.recordedCompress`, and nowhere else: what
stands above only puts one record behind another.

A recorded operation without its record is the operation itself (`value_recordedPerform`).
So `framesOf` does not say what an operation should compress, it says what the operation
compressed.
-/

namespace Blake2b

/-- What a computation gives, with the frames that it compressed on its way. -/
@[ext]
structure Recorded (α : Type) where
  frames : List Frame
  value : α

namespace Recorded

instance : Monad Recorded where
  pure value := ⟨[], value⟩
  bind first next :=
    ⟨first.frames ++ (next first.value).frames, (next first.value).value⟩

section Functions

variable {α β : Type}

@[simp] theorem frames_pure (value : α) : (pure value : Recorded α).frames = [] := rfl

@[simp] theorem value_pure (value : α) : (pure value : Recorded α).value = value := rfl

@[simp] theorem frames_bind (first : Recorded α) (next : α → Recorded β) :
    (first >>= next).frames = first.frames ++ (next first.value).frames := rfl

@[simp] theorem value_bind (first : Recorded α) (next : α → Recorded β) :
    (first >>= next).value = (next first.value).value := rfl

end Functions

end Recorded

namespace Workspace

/-- Compresses a frame and records it. -/
def recordedCompress (w : Workspace) (h : ChainingValue) (frame : Frame) :
    Recorded (ChainingValue × Workspace) :=
  ⟨[frame], w.compress h frame⟩

def recordedCompressAll (w : Workspace) (h : ChainingValue) :
    List Frame → Recorded (ChainingValue × Workspace)
  | [] => pure (h, w)
  | frame :: frames => do
      let next ← w.recordedCompress h frame
      next.2.recordedCompressAll next.1 frames

@[simp] theorem value_recordedCompressAll (w : Workspace) (h : ChainingValue)
    (frames : List Frame) :
    (w.recordedCompressAll h frames).value = w.compressAll h frames := by
  induction frames generalizing w h with
  | nil => rfl
  | cons frame frames ih =>
      rw [recordedCompressAll, Recorded.value_bind, ih, compressAll_cons]
      rfl

@[simp] theorem frames_recordedCompressAll (w : Workspace) (h : ChainingValue)
    (frames : List Frame) : (w.recordedCompressAll h frames).frames = frames := by
  induction frames generalizing w h with
  | nil => rfl
  | cons frame frames ih =>
      rw [recordedCompressAll, Recorded.frames_bind, ih]
      rfl

end Workspace

namespace Hasher

def recordedAbsorb (s : Hasher) (data : Bytes) : Recorded Hasher := do
  let taken := s.intake.absorb data
  let compressed ← s.workspace.recordedCompressAll s.chaining taken.1
  return { s with
    chaining := compressed.1
    intake := taken.2
    workspace := compressed.2 }

def recordedUpdate (s : Hasher) (data : Bytes) : Recorded (Except Fault Unit × Hasher) :=
  if s.isFinalized then pure (.error .alreadyFinalized, s)
  else do
    let next ← s.recordedAbsorb data
    return (.ok (), { next with phase := .absorbing })

def recordedWrite (s : Hasher) (data : Bytes) : Recorded (Except Failure Nat × Hasher) := do
  match ← s.recordedUpdate data with
  | (.ok (), next) => return (.ok data.length, next)
  | (.error fault, next) => return (.error (.ofFault fault), next)

def recordedStage (s : Hasher) : Recorded Hasher := do
  let last := s.intake.close
  let compressed ← s.workspace.recordedCompress s.chaining last.frame
  return { s with
    chaining := compressed.1
    intake := last
    workspace := compressed.2
    staging := Storage.overwrite s.staging 0
      (LittleEndian.encodeAll compressed.1.toList) }

def recordedFinish (s : Hasher) : Recorded Hasher := do
  let staged ← s.recordedStage
  return { staged.wipeWorking with phase := .finalized }

def recordedFinalize (s : Hasher) : Recorded (Except Fault Digest × Hasher) :=
  if s.isFinalized then pure (.error .alreadyFinalized, s)
  else do
    let done ← s.recordedFinish
    return (.ok (.ofOutput done.staging s.digestLength), done.wipeStaging)

def recordedFinalizeInto (s : Hasher) (buffer : Bytes) :
    Recorded (Except Fault Unit × Bytes × Hasher) :=
  if s.isFinalized then pure (.error .alreadyFinalized, buffer, s)
  else if buffer.length = 0 ∨ buffer.length > s.digestLength then
    pure (.error (.outOfRange .outputLength buffer.length), buffer, s)
  else do
    let done ← s.recordedFinish
    return (.ok (), Storage.slice done.staging 0 buffer.length, done.wipeStaging)

def recordedPerform (s : Hasher) : Operation → Recorded (Response × Hasher)
  | .update data => do
      let done ← s.recordedUpdate data
      return (.updated done.1, done.2)
  | .write data => do
      let done ← s.recordedWrite data
      return (.written done.1, done.2)
  | .flush => pure (.flushed s.flush.1, s.flush.2)
  | .finalize => do
      let done ← s.recordedFinalize
      return (.digest done.1, done.2)
  | .finalizeInto buffer => do
      let done ← s.recordedFinalizeInto buffer
      return (.filled done.1 done.2.1, done.2.2)
  | .setCounter t => pure (.counterSet, s.setCounter t)

def recordedRun (s : Hasher) : List Operation → Recorded (List (Response × Hasher))
  | [] => pure []
  | operation :: rest => do
      let next ← s.recordedPerform operation
      let later ← next.2.recordedRun rest
      return next :: later

def recordedKeyed (digestLength : Nat) (key : Bytes) (salt : Option Salt)
    (personal : Option Personal) : Recorded (Except Fault Hasher) :=
  match Parameters.sequential digestLength key.length salt personal with
  | .error fault => pure (.error fault)
  | .ok p =>
      if key.isEmpty then pure (.error .emptyKey)
      else do
        let s ← (ofParameters p).recordedAbsorb (keyBlock key).toList
        return .ok s

/-- The frames that an operation compresses. -/
def framesOf (s : Hasher) (operation : Operation) : List Frame :=
  (s.recordedPerform operation).frames

/-- The frames that operations made in order compress. -/
def framesOfRun (s : Hasher) (operations : List Operation) : List Frame :=
  (s.recordedRun operations).frames

section Functions

variable (s : Hasher)

@[simp] theorem value_recordedAbsorb (data : Bytes) :
    (s.recordedAbsorb data).value = s.absorb data := by
  simp only [recordedAbsorb, Recorded.value_bind, Recorded.value_pure,
    Workspace.value_recordedCompressAll, absorb]

@[simp] theorem frames_recordedAbsorb (data : Bytes) :
    (s.recordedAbsorb data).frames = (s.intake.absorb data).1 := by
  simp only [recordedAbsorb, Recorded.frames_bind, Recorded.frames_pure,
    Workspace.frames_recordedCompressAll, List.append_nil]

@[simp] theorem value_recordedUpdate (data : Bytes) :
    (s.recordedUpdate data).value = s.update data := by
  rw [recordedUpdate, update]
  split
  · rfl
  · rw [Recorded.value_bind, value_recordedAbsorb, Recorded.value_pure]

theorem frames_recordedUpdate (data : Bytes) :
    (s.recordedUpdate data).frames =
      if s.isFinalized then [] else (s.intake.absorb data).1 := by
  rw [recordedUpdate]
  split
  · rfl
  · rw [Recorded.frames_bind, frames_recordedAbsorb, Recorded.frames_pure, List.append_nil]

theorem value_recordedWrite (data : Bytes) :
    (s.recordedWrite data).value = s.write data := by
  rw [recordedWrite, Recorded.value_bind, value_recordedUpdate, write]
  rcases s.update data with ⟨_ | _, next⟩
  · rfl
  · rfl

theorem frames_recordedWrite (data : Bytes) :
    (s.recordedWrite data).frames = (s.recordedUpdate data).frames := by
  rw [recordedWrite, Recorded.frames_bind]
  split
  · exact List.append_nil _
  · exact List.append_nil _

theorem value_recordedFinish : s.recordedFinish.value = s.finish := by
  simp only [recordedFinish, recordedStage, Recorded.value_bind, Recorded.value_pure,
    Workspace.recordedCompress, finish, stage]

theorem frames_recordedFinish : s.recordedFinish.frames = [s.intake.close.frame] := by
  simp only [recordedFinish, recordedStage, Recorded.frames_bind, Recorded.frames_pure,
    Workspace.recordedCompress, List.append_nil]

theorem value_recordedFinalize : s.recordedFinalize.value = s.finalize := by
  rw [recordedFinalize, finalize]
  split
  · rfl
  · rw [Recorded.value_bind, value_recordedFinish, Recorded.value_pure]

theorem frames_recordedFinalize :
    s.recordedFinalize.frames = if s.isFinalized then [] else [s.intake.close.frame] := by
  rw [recordedFinalize]
  split
  · rfl
  · rw [Recorded.frames_bind, frames_recordedFinish, Recorded.frames_pure, List.append_nil]

theorem value_recordedFinalizeInto (buffer : Bytes) :
    (s.recordedFinalizeInto buffer).value = s.finalizeInto buffer := by
  rw [recordedFinalizeInto, finalizeInto]
  split
  · rfl
  · split
    · rfl
    · rw [Recorded.value_bind, value_recordedFinish, Recorded.value_pure]

theorem frames_recordedFinalizeInto (buffer : Bytes) :
    (s.recordedFinalizeInto buffer).frames =
      if s.isFinalized then []
      else if buffer.length = 0 ∨ buffer.length > s.digestLength then []
      else [s.intake.close.frame] := by
  rw [recordedFinalizeInto]
  split
  · rfl
  · split
    · rfl
    · rw [Recorded.frames_bind, frames_recordedFinish, Recorded.frames_pure, List.append_nil]

/-- A recorded operation without its record is the operation. -/
theorem value_recordedPerform (operation : Operation) :
    (s.recordedPerform operation).value = s.perform operation := by
  cases operation with
  | update data =>
      rw [recordedPerform, Recorded.value_bind, value_recordedUpdate]
      rfl
  | write data =>
      rw [recordedPerform, Recorded.value_bind, value_recordedWrite]
      rfl
  | flush => rfl
  | finalize =>
      rw [recordedPerform, Recorded.value_bind, value_recordedFinalize]
      rfl
  | finalizeInto buffer =>
      rw [recordedPerform, Recorded.value_bind, value_recordedFinalizeInto]
      rfl
  | setCounter t => rfl

theorem recordedPerform_eq (operation : Operation) :
    s.recordedPerform operation = ⟨s.framesOf operation, s.perform operation⟩ := by
  rw [← value_recordedPerform]
  rfl

theorem framesOf_update (data : Bytes) :
    s.framesOf (.update data) = if s.isFinalized then [] else (s.intake.absorb data).1 := by
  rw [framesOf, recordedPerform, Recorded.frames_bind, frames_recordedUpdate,
    Recorded.frames_pure, List.append_nil]

theorem framesOf_write (data : Bytes) : s.framesOf (.write data) = s.framesOf (.update data) := by
  rw [framesOf, recordedPerform, Recorded.frames_bind, frames_recordedWrite, framesOf,
    recordedPerform, Recorded.frames_bind, Recorded.frames_pure, Recorded.frames_pure]

theorem framesOf_finalize :
    s.framesOf .finalize = if s.isFinalized then [] else [s.intake.close.frame] := by
  rw [framesOf, recordedPerform, Recorded.frames_bind, frames_recordedFinalize,
    Recorded.frames_pure, List.append_nil]

theorem framesOf_finalizeInto (buffer : Bytes) :
    s.framesOf (.finalizeInto buffer) =
      if s.isFinalized then []
      else if buffer.length = 0 ∨ buffer.length > s.digestLength then []
      else [s.intake.close.frame] := by
  rw [framesOf, recordedPerform, Recorded.frames_bind, frames_recordedFinalizeInto,
    Recorded.frames_pure, List.append_nil]

@[simp] theorem framesOfRun_nil : s.framesOfRun [] = [] := rfl

theorem framesOfRun_cons (operation : Operation) (rest : List Operation) :
    s.framesOfRun (operation :: rest) =
      s.framesOf operation ++ (s.perform operation).2.framesOfRun rest := by
  rw [framesOfRun, recordedRun, Recorded.frames_bind, Recorded.frames_bind,
    Recorded.frames_pure, List.append_nil, value_recordedPerform]
  rfl

end Functions

/-- A recorded run without its record is the run. -/
theorem recordedRun_eq (s : Hasher) (operations : List Operation) :
    s.recordedRun operations = ⟨s.framesOfRun operations, s.run operations⟩ := by
  have hvalue : (s.recordedRun operations).value = s.run operations := by
    induction operations generalizing s with
    | nil => rfl
    | cons operation rest ih =>
        rw [recordedRun, Recorded.value_bind, Recorded.value_bind, value_recordedPerform, ih]
        rfl
  rw [← hvalue]
  rfl

theorem value_recordedKeyed (digestLength : Nat) (key : Bytes) (salt : Option Salt)
    (personal : Option Personal) :
    (recordedKeyed digestLength key salt personal).value =
      keyed digestLength key salt personal := by
  rw [recordedKeyed, keyed]
  cases Parameters.sequential digestLength key.length salt personal with
  | error fault => rfl
  | ok p =>
      cases key.isEmpty with
      | true => rfl
      | false => exact congrArg Except.ok (value_recordedAbsorb _ _)

end Hasher

end Blake2b
