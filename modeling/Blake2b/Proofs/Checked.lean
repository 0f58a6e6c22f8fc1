import Blake2b.Compression.Workspace
/-!
# Storage that is watched

The operations on fixed storage are total: what lies outside of a region is dropped, and a
difference below zero is zero. So a program that goes out of bounds is not wrong here, it is
only a different program. To say that nothing ever goes out of bounds, the accesses are made
once more by operations that look first, and stop in a trap if something is wrong. A watched
computation that ends without a trap, and ends in the same, is the plain one made within all
bounds.

Compression has no bounds that depend on its input. Its places are numbers here and not
elements of `Fin 16`, and the orders of the message words are plain numbers as well; that
`schedule` has the orders of `sigma` says that none of its numbers is sixteen or more.
-/

namespace Blake2b

/-- What may go wrong in storage of fixed size, and in the loop over the input. -/
inductive Trap where
  /-- A place outside of a region. -/
  | index (place size : Nat)
  /-- A range that runs backwards or beyond the end of a region. -/
  | range (start stop size : Nat)
  /-- A copy from one range to another one of different length. -/
  | mismatch (room length : Nat)
  /-- A difference below zero. -/
  | underflow (a b : Nat)
  /-- A turn of the loop in which nothing is taken in. -/
  | stalled
  /-- A turn of the loop in which a second block is given out. -/
  | unsettled
  /-- A digest whose length is out of range. -/
  | digestLength (length : Nat)
deriving DecidableEq

/-- A computation that is watched. -/
abbrev Checked : Type → Type := Except Trap

theorem Checked.bind_of_eq {α β : Type} {x : Checked α} {a : α} (h : x = .ok a)
    (f : α → Checked β) : (x >>= f) = f a := by
  rw [h]
  rfl

namespace Storage

section Accesses

variable {α : Type} {n : Nat} (region : Vector α n)

def checkedGet (i : Nat) : Checked α :=
  if h : i < n then .ok (region.get ⟨i, h⟩) else .error (.index i n)

def checkedSet (i : Nat) (a : α) : Checked (Vector α n) :=
  if h : i < n then .ok (region.set i a h) else .error (.index i n)

/-- The elements from `start` up to `stop`. -/
def checkedSlice (start stop : Nat) : Checked (List α) :=
  if start ≤ stop ∧ stop ≤ n then .ok (slice region start stop)
  else .error (.range start stop n)

/-- Copies a source over the positions from `start` up to `stop`, which it has to fill. -/
def checkedCopy (start stop : Nat) (source : List α) : Checked (Vector α n) :=
  if start ≤ stop ∧ stop ≤ n then
    if source.length = stop - start then .ok (overwrite region start source)
    else .error (.mismatch (stop - start) source.length)
  else .error (.range start stop n)

theorem checkedGet_eq {i : Nat} (h : i < n) : checkedGet region i = .ok (region.get ⟨i, h⟩) :=
  dif_pos h

theorem checkedSet_eq {i : Nat} (h : i < n) (a : α) :
    checkedSet region i a = .ok (region.set i a h) :=
  dif_pos h

theorem checkedSlice_eq {start stop : Nat} (hstart : start ≤ stop) (hstop : stop ≤ n) :
    checkedSlice region start stop = .ok (slice region start stop) :=
  if_pos ⟨hstart, hstop⟩

theorem checkedCopy_eq (source : List α) {start stop : Nat} (hstart : start ≤ stop)
    (hstop : stop ≤ n) (hlength : source.length = stop - start) :
    checkedCopy region start stop source = .ok (overwrite region start source) := by
  rw [checkedCopy, if_pos ⟨hstart, hstop⟩, if_pos hlength]

end Accesses

/-- The difference of two lengths. -/
def checkedSub (a b : Nat) : Checked Nat :=
  if b ≤ a then .ok (a - b) else .error (.underflow a b)

theorem checkedSub_eq {a b : Nat} (h : b ≤ a) : checkedSub a b = .ok (a - b) := if_pos h

/-- The first `k` elements of what a caller hands in. -/
def checkedTake {α : Type} (data : List α) (k : Nat) : Checked (List α) :=
  if k ≤ data.length then .ok (data.take k) else .error (.range 0 k data.length)

theorem checkedTake_eq {α : Type} (data : List α) {k : Nat} (h : k ≤ data.length) :
    checkedTake data k = .ok (data.take k) :=
  if_pos h

/-- Copies a source over all of what a caller hands in. -/
def checkedRefill {α : Type} (target source : List α) : Checked (List α) :=
  if source.length = target.length then .ok source
  else .error (.mismatch target.length source.length)

theorem checkedRefill_eq {α : Type} {target source : List α}
    (h : source.length = target.length) : checkedRefill target source = .ok source :=
  if_pos h

end Storage

namespace Compression

open Storage

/-- The orders of the message words, as plain numbers. -/
def schedule : Vector (Vector Nat 16) 10 :=
  #v[#v[0, 1, 2, 3, 4, 5, 6, 7, 8, 9, 10, 11, 12, 13, 14, 15],
     #v[14, 10, 4, 8, 9, 15, 13, 6, 1, 12, 0, 2, 11, 7, 5, 3],
     #v[11, 8, 12, 0, 5, 2, 15, 13, 10, 14, 3, 6, 7, 1, 9, 4],
     #v[7, 9, 3, 1, 13, 12, 11, 14, 2, 6, 5, 10, 4, 0, 15, 8],
     #v[9, 0, 5, 7, 2, 4, 10, 15, 14, 1, 11, 12, 6, 8, 3, 13],
     #v[2, 12, 6, 10, 0, 11, 8, 3, 4, 13, 7, 5, 15, 14, 1, 9],
     #v[12, 5, 1, 15, 14, 13, 4, 10, 0, 7, 6, 3, 9, 2, 8, 11],
     #v[13, 11, 7, 14, 12, 1, 3, 9, 5, 0, 15, 4, 8, 6, 2, 10],
     #v[6, 15, 14, 9, 11, 3, 0, 8, 12, 2, 13, 7, 1, 4, 10, 5],
     #v[10, 2, 8, 4, 7, 6, 1, 5, 15, 11, 9, 14, 3, 12, 13, 0]]

/-- A mixing step at four places of the work vector. -/
def checkedMixAt (v : Work) (i j k l : Nat) (x y : UInt64) : Checked Work := do
  let a ← checkedGet v i
  let b ← checkedGet v j
  let c ← checkedGet v k
  let d ← checkedGet v l
  let q := Quad.mix ⟨a, b, c, d⟩ x y
  let v ← checkedSet v i q.a
  let v ← checkedSet v j q.b
  let v ← checkedSet v k q.c
  checkedSet v l q.d

/-- The message word at a place of a row of the schedule. -/
def checkedWordAt (m : Work) (row : Vector Nat 16) (place : Nat) : Checked UInt64 := do
  let number ← checkedGet row place
  checkedGet m number

/-- A mixing step with the message words at two places of a row. -/
def checkedStep (m : Work) (row : Vector Nat 16) (v : Work) (i j k l place : Nat) :
    Checked Work := do
  let x ← checkedWordAt m row place
  let y ← checkedWordAt m row (place + 1)
  checkedMixAt v i j k l x y

def checkedRound (m : Work) (row : Vector Nat 16) (v : Work) : Checked Work := do
  let v ← checkedStep m row v 0 4 8 12 0
  let v ← checkedStep m row v 1 5 9 13 2
  let v ← checkedStep m row v 2 6 10 14 4
  let v ← checkedStep m row v 3 7 11 15 6
  let v ← checkedStep m row v 0 5 10 15 8
  let v ← checkedStep m row v 1 6 11 12 10
  let v ← checkedStep m row v 2 7 8 13 12
  checkedStep m row v 3 4 9 14 14

def checkedRounds (m : Work) : Nat → Work → Checked Work
  | 0, v => .ok v
  | n + 1, v => do
      let v ← checkedRounds m n v
      let row ← checkedGet schedule (n % 10)
      checkedRound m row v

theorem schedule_eq : schedule = sigma.map fun order => order.map Fin.val := by decide +kernel

theorem checkedGet_schedule (r : Nat) :
    checkedGet schedule (r % 10) = .ok ((order r).map Fin.val) := by
  have hr : r % 10 < 10 := Nat.mod_lt r (by decide)
  rw [checkedGet_eq schedule hr, schedule_eq]
  exact congrArg Except.ok (Vector.getElem_map _ hr)

theorem checkedMixAt_eq (v : Work) (i j k l : Fin 16) (x y : UInt64) :
    checkedMixAt v i j k l x y = .ok (mixAt v i j k l x y) := by
  simp only [checkedMixAt, checkedGet_eq _ i.isLt, checkedGet_eq _ j.isLt,
    checkedGet_eq _ k.isLt, checkedGet_eq _ l.isLt, checkedSet_eq _ i.isLt,
    checkedSet_eq _ j.isLt, checkedSet_eq _ k.isLt, checkedSet_eq _ l.isLt]
  rfl

/-- An order has no number that is not the place of a word. -/
theorem checkedWordAt_eq (m : Work) (s : Order) (place : Fin 16) :
    checkedWordAt m (s.map Fin.val) place = .ok (wordAt m s place) := by
  have hnumber : checkedGet (s.map Fin.val) place = .ok (s.get place).val := by
    rw [checkedGet_eq _ place.isLt]
    exact congrArg Except.ok (Vector.getElem_map Fin.val place.isLt)
  rw [checkedWordAt, Checked.bind_of_eq hnumber, checkedGet_eq _ (s.get place).isLt]
  rfl

theorem checkedStep_eq (m : Work) (s : Order) (v : Work) (i j k l place next : Fin 16)
    (h : next.val = place.val + 1) :
    checkedStep m (s.map Fin.val) v i j k l place =
      .ok (mixAt v i j k l (wordAt m s place) (wordAt m s next)) := by
  rw [checkedStep, Checked.bind_of_eq (checkedWordAt_eq m s place), ← h,
    Checked.bind_of_eq (checkedWordAt_eq m s next), checkedMixAt_eq]

theorem checkedRound_eq (m : Work) (s : Order) (v : Work) :
    checkedRound m (s.map Fin.val) v = .ok (round m s v) := by
  refine (Checked.bind_of_eq (checkedStep_eq m s v 0 4 8 12 0 1 rfl) _).trans ?_
  refine (Checked.bind_of_eq (checkedStep_eq m s _ 1 5 9 13 2 3 rfl) _).trans ?_
  refine (Checked.bind_of_eq (checkedStep_eq m s _ 2 6 10 14 4 5 rfl) _).trans ?_
  refine (Checked.bind_of_eq (checkedStep_eq m s _ 3 7 11 15 6 7 rfl) _).trans ?_
  refine (Checked.bind_of_eq (checkedStep_eq m s _ 0 5 10 15 8 9 rfl) _).trans ?_
  refine (Checked.bind_of_eq (checkedStep_eq m s _ 1 6 11 12 10 11 rfl) _).trans ?_
  refine (Checked.bind_of_eq (checkedStep_eq m s _ 2 7 8 13 12 13 rfl) _).trans ?_
  exact checkedStep_eq m s _ 3 4 9 14 14 15 rfl

theorem checkedRounds_eq (m : Work) (n : Nat) (v : Work) :
    checkedRounds m n v = .ok (runRounds m n v) := by
  induction n with
  | zero => rfl
  | succ n ih =>
      rw [checkedRounds, Checked.bind_of_eq ih, Checked.bind_of_eq (checkedGet_schedule n),
        checkedRound_eq, runRounds_succ]

end Compression

namespace Workspace

open Compression Storage

/-- Xors a word into a place of the work vector. -/
def checkedXor (v : Work) (place : Nat) (x : UInt64) : Checked Work := do
  let word ← checkedGet v place
  checkedSet v place (word ^^^ x)

def checkedLoad (w : Workspace) (h : ChainingValue) (frame : Frame) : Checked Workspace := do
  let message ← checkedCopy w.message 0 16 frame.block.words.toList
  let v ← checkedCopy w.vector 0 8 h.toList
  let v ← checkedCopy v 8 16 iv.toList
  let v ← checkedXor v 12 frame.counter.low
  let v ← checkedXor v 13 frame.counter.high
  let v ← checkedXor v 14 frame.flags.lastBlock
  let v ← checkedXor v 15 frame.flags.lastNode
  return ⟨v, message⟩

def checkedFeedForward (v : Work) (h : ChainingValue) : Checked ChainingValue :=
  Vector.ofFnM fun i => do
    let front ← checkedGet v i.val
    let back ← checkedGet v (i.val + 8)
    return h.get i ^^^ (front ^^^ back)

def checkedCompress (w : Workspace) (h : ChainingValue) (frame : Frame) :
    Checked (ChainingValue × Workspace) := do
  let loaded ← w.checkedLoad h frame
  let v ← checkedRounds loaded.message rounds loaded.vector
  let next ← checkedFeedForward v h
  return (next, zero)

def checkedCompressAll (w : Workspace) (h : ChainingValue) :
    List Frame → Checked (ChainingValue × Workspace)
  | [] => .ok (h, w)
  | frame :: frames => do
      let next ← w.checkedCompress h frame
      next.2.checkedCompressAll next.1 frames

theorem checkedXor_eq (v : Work) {place : Nat} (h : place < 16) (x : UInt64) :
    checkedXor v place x = .ok (v.set place (v[place] ^^^ x)) := by
  rw [checkedXor, Checked.bind_of_eq (checkedGet_eq v h), checkedSet_eq v h]
  rfl

theorem checkedLoad_eq (w : Workspace) (h : ChainingValue) (frame : Frame) :
    w.checkedLoad h frame = .ok (w.load h frame) := by
  have hmessage := checkedCopy_eq w.message frame.block.words.toList (Nat.zero_le 16)
    (Nat.le_refl 16) Vector.length_toList
  have hfront := checkedCopy_eq w.vector h.toList (Nat.zero_le 8) (by decide)
    Vector.length_toList
  have hback := checkedCopy_eq (overwrite w.vector 0 h.toList) iv.toList
    (show 8 ≤ 16 by decide) (Nat.le_refl 16) Vector.length_toList
  rw [checkedLoad, Checked.bind_of_eq hmessage, Checked.bind_of_eq hfront,
    Checked.bind_of_eq hback, Checked.bind_of_eq (checkedXor_eq _ (by decide) _),
    Checked.bind_of_eq (checkedXor_eq _ (by decide) _),
    Checked.bind_of_eq (checkedXor_eq _ (by decide) _),
    Checked.bind_of_eq (checkedXor_eq _ (by decide) _)]
  simp only [load, loadMessage, loadVector]
  rfl

theorem checkedFeedForward_eq (w : Workspace) (h : ChainingValue) :
    checkedFeedForward w.vector h = .ok (w.feedForward h) := by
  have hword (i : Fin 8) : (do
      let front ← checkedGet w.vector i.val
      let back ← checkedGet w.vector (i.val + 8)
      return h.get i ^^^ (front ^^^ back) : Checked UInt64) =
        pure (h.get i ^^^ (w.vector.get (i.castAdd 8) ^^^ w.vector.get (i.natAdd 8))) := by
    have hfront : checkedGet w.vector i.val = .ok (w.vector.get (i.castAdd 8)) :=
      checkedGet_eq w.vector (i.castAdd 8).isLt
    have hback : checkedGet w.vector (i.val + 8) = .ok (w.vector.get (i.natAdd 8)) := by
      rw [Nat.add_comm]
      exact checkedGet_eq w.vector (i.natAdd 8).isLt
    rw [Checked.bind_of_eq hfront, Checked.bind_of_eq hback]
  simp only [checkedFeedForward, hword, Vector.ofFnM_pure]
  rfl

/-- No place or range that compression reads or writes is out of bounds. -/
theorem checkedCompress_eq (w : Workspace) (h : ChainingValue) (frame : Frame) :
    w.checkedCompress h frame = .ok (w.compress h frame) := by
  rw [checkedCompress, Checked.bind_of_eq (w.checkedLoad_eq h frame),
    Checked.bind_of_eq (checkedRounds_eq _ _ _)]
  exact Checked.bind_of_eq ((w.load h frame).run.checkedFeedForward_eq h) _

theorem checkedCompressAll_eq (w : Workspace) (h : ChainingValue) (frames : List Frame) :
    w.checkedCompressAll h frames = .ok (w.compressAll h frames) := by
  induction frames generalizing w h with
  | nil => rfl
  | cons frame frames ih =>
      rw [checkedCompressAll, Checked.bind_of_eq (w.checkedCompress_eq h frame), ih,
        compressAll_cons]

end Workspace

end Blake2b
