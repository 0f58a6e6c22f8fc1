import Blake2b.Compression.Mix
import Blake2b.Frame
import Blake2b.Storage
/-!
# Compression in a workspace

A workspace holds the work vector and the message words of one compression. It
is used again for the next block: loading lays the new values over whatever the
workspace holds, and every compression leaves it wiped. The function `compress`
runs in a workspace of its own.
-/

namespace Blake2b

open Compression

/-- The scratch words of one compression. -/
structure Workspace where
  vector : Work
  message : Work
deriving DecidableEq

namespace Workspace

def zero : Workspace := ⟨Vector.replicate 16 0, Vector.replicate 16 0⟩

def isWiped (w : Workspace) : Bool :=
  w.vector.toList.all (· == 0) && w.message.toList.all (· == 0)

def loadMessage (w : Workspace) (block : Block) : Workspace :=
  { w with message := Storage.overwrite w.message 0 block.words.toList }

/-- Loads the work vector: the chaining value, then the initialisation vector,
with counter and flags mixed into the last four words. -/
def loadVector (w : Workspace) (h : ChainingValue) (t : Counter) (f : Flags) :
    Workspace :=
  let v := Storage.overwrite (Storage.overwrite w.vector 0 h.toList) 8 iv.toList
  let v := v.set 12 (v[12] ^^^ t.low)
  let v := v.set 13 (v[13] ^^^ t.high)
  let v := v.set 14 (v[14] ^^^ f.lastBlock)
  let v := v.set 15 (v[15] ^^^ f.lastNode)
  { w with vector := v }

def load (w : Workspace) (h : ChainingValue) (frame : Frame) : Workspace :=
  (w.loadMessage frame.block).loadVector h frame.counter frame.flags

/-- Runs all rounds on the loaded words. -/
def run (w : Workspace) : Workspace :=
  { w with vector := runRounds w.message rounds w.vector }

/-- Folds both halves of the work vector into a chaining value. -/
def feedForward (w : Workspace) (h : ChainingValue) : ChainingValue :=
  Vector.ofFn fun i =>
    h.get i ^^^ (w.vector.get (i.castAdd 8) ^^^ w.vector.get (i.natAdd 8))

/-- Compresses a frame into a chaining value and wipes the workspace. Of the contract of
`zeroize` is taken over that every word is zero afterwards; that the writes cannot be
optimised away has no counterpart here. -/
def compress (w : Workspace) (h : ChainingValue) (frame : Frame) :
    ChainingValue × Workspace :=
  (((w.load h frame).run).feedForward h, zero)

/-- Compresses frames one after the other. -/
def compressAll (w : Workspace) (h : ChainingValue) :
    List Frame → ChainingValue × Workspace
  | [] => (h, w)
  | frame :: frames =>
      let next := w.compress h frame
      next.2.compressAll next.1 frames

/-- What each of several compressions leaves behind. -/
def trace (w : Workspace) (h : ChainingValue) :
    List Frame → List (ChainingValue × Workspace)
  | [] => []
  | frame :: frames =>
      let next := w.compress h frame
      next :: next.2.trace next.1 frames

@[simp] theorem compress_snd (w : Workspace) (h : ChainingValue) (frame : Frame) :
    (w.compress h frame).2 = zero := rfl

@[simp] theorem compressAll_nil (w : Workspace) (h : ChainingValue) :
    w.compressAll h [] = (h, w) := rfl

theorem compressAll_cons (w : Workspace) (h : ChainingValue) (frame : Frame)
    (frames : List Frame) :
    w.compressAll h (frame :: frames) =
      (w.compress h frame).2.compressAll (w.compress h frame).1 frames := rfl

theorem compressAll_append (w : Workspace) (h : ChainingValue)
    (front back : List Frame) :
    w.compressAll h (front ++ back) =
      (w.compressAll h front).2.compressAll (w.compressAll h front).1 back := by
  induction front generalizing w h with
  | nil => rfl
  | cons frame front ih =>
      rw [List.cons_append, compressAll_cons, compressAll_cons, ih]

@[simp] theorem trace_nil (w : Workspace) (h : ChainingValue) : w.trace h [] = [] := rfl

theorem trace_cons (w : Workspace) (h : ChainingValue) (frame : Frame)
    (frames : List Frame) :
    w.trace h (frame :: frames) =
      w.compress h frame :: (w.compress h frame).2.trace (w.compress h frame).1 frames := rfl

end Workspace

def compress (h : ChainingValue) (frame : Frame) : ChainingValue :=
  (Workspace.zero.compress h frame).1

end Blake2b
