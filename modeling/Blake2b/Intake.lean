import Blake2b.Frame
import Blake2b.Storage
/-!
# Intake

The intake turns a stream that arrives in pieces into frames. It holds back the
last block it has seen, because only the end of the stream tells whether that
block is the last one: a full block is given out once more data has arrived
behind it. The window has room for two blocks; `held` of its bytes are live and
the rest are left over from earlier blocks.

The intake knows nothing of chaining values. It gives out the frames in order,
and whoever holds the intake compresses them, so that the frames of a stream
can be spoken of on their own.

Nothing in the type bounds `held`. It is at most 128 between two pieces and at
most 256 while a piece is taken in, and that is a fact about `absorb`.
-/

namespace Blake2b

abbrev windowLength : Nat := 256

/-- The input side of a hasher. -/
structure Intake where
  window : Vector UInt8 windowLength
  held : Nat
  counter : Counter
  flags : Flags
  lastNode : Bool
deriving DecidableEq

namespace Intake

/-- The intake of a stream that has not begun. -/
def empty : Intake where
  window := Vector.replicate windowLength 0
  held := 0
  counter := .zero
  flags := .lowered
  lastNode := false

def live (s : Intake) : Bytes := s.window.toList.take s.held

def head (s : Intake) : Block := Vector.ofFn fun i => s.window[i.val]

/-- The frame at the front of the window, with the counter and flags as they
stand. -/
def frame (s : Intake) : Frame := ⟨s.head, s.counter, s.flags⟩

/-- Puts a piece behind the live bytes. -/
def fill (s : Intake) (piece : Bytes) : Intake :=
  { s with
    window := Storage.overwrite s.window s.held piece
    held := s.held + piece.length }

def count (s : Intake) : Intake :=
  { s with counter := s.counter.add blockLength.toUInt64 }

/-- Moves the bytes behind the first block to the front. -/
def shift (s : Intake) : Intake :=
  { s with
    window := Storage.overwrite s.window 0
      (Storage.slice s.window blockLength s.held)
    held := s.held - blockLength }

/-- Gives out blocks from the front as long as more than one block is held. -/
def settle (s : Intake) : List Frame × Intake :=
  if s.held > blockLength then
    let next := s.count.shift.settle
    (s.count.frame :: next.1, next.2)
  else ([], s)
termination_by s.held
decreasing_by
  simp only [count, shift, blockLength] at *
  omega

theorem settle_of_le (s : Intake) (h : s.held ≤ blockLength) :
    s.settle = ([], s) := by
  rw [settle, if_neg (by omega)]

theorem settle_of_gt (s : Intake) (h : s.held > blockLength) :
    s.settle =
      (s.count.frame :: s.count.shift.settle.1, s.count.shift.settle.2) := by
  rw [settle, if_pos h]

theorem held_settle_le (s : Intake) : s.settle.2.held ≤ blockLength := by
  fun_induction settle s with
  | case1 s h next ih => exact ih
  | case2 s h => exact Nat.le_of_not_gt h

/-- Takes in data. Each turn fills the window as far as it goes and settles. -/
def absorb (s : Intake) : Bytes → List Frame × Intake
  | [] => ([], s)
  | byte :: rest =>
      let data := byte :: rest
      let room := windowLength - s.held
      let settled := (s.fill (data.take room)).settle
      let next := settled.2.absorb (data.drop room)
      (settled.1 ++ next.1, next.2)
termination_by data => (data.length, s.held)
decreasing_by
  have hsettle := held_settle_le
    (s.fill ((byte :: rest).take (windowLength - s.held)))
  simp only [blockLength, windowLength] at *
  by_cases hroom : 256 - s.held = 0
  · rw [hroom] at hsettle ⊢
    exact Prod.Lex.right _ (by omega)
  · exact Prod.Lex.left _ _ (by
      simp only [List.length_drop, List.length_cons]
      omega)

@[simp] theorem absorb_nil (s : Intake) : s.absorb [] = ([], s) := by
  rw [absorb]

theorem absorb_cons (s : Intake) (byte : UInt8) (rest : Bytes) :
    s.absorb (byte :: rest) =
      let settled :=
        (s.fill ((byte :: rest).take (windowLength - s.held))).settle
      let next := settled.2.absorb ((byte :: rest).drop (windowLength - s.held))
      (settled.1 ++ next.1, next.2) := by
  rw [absorb]

/-- Makes the front of the window the last block: counts what is held, raises
the flags, and clears the rest of the window. -/
def close (s : Intake) : Intake :=
  { s with
    window := Storage.fillFrom s.window s.held 0
    counter := s.counter.add s.held.toUInt64
    flags :=
      { lastBlock := Flags.raised
        lastNode := if s.lastNode then Flags.raised else s.flags.lastNode } }

/-- Clears all that the intake has seen. Of the contract of `zeroize` is taken over that
every byte of the window and every word of the counter and the flags is zero afterwards.
The mark of the last node is not cleared. -/
def wipe (s : Intake) : Intake := { empty with lastNode := s.lastNode }

end Intake

end Blake2b
