import Blake2b.Message
import Blake2b.Proofs.Storage
/-!
# A workspace leaves no trace

Loading a frame overwrites every word of a workspace before any of them is read
(`load_eq`), so what the workspace held before does not matter, and compressing
frames one after the other in one workspace is the fold of compression over them,
after each frame as at the end.
-/

namespace Blake2b.Workspace

open Compression

/-- The initialisation vector with counter and flags mixed into its last words. -/
def marked (t : Counter) (f : Flags) : ChainingValue :=
  #v[iv.get 0, iv.get 1, iv.get 2, iv.get 3, iv.get 4 ^^^ t.low, iv.get 5 ^^^ t.high,
     iv.get 6 ^^^ f.lastBlock, iv.get 7 ^^^ f.lastNode]

/-- Xoring into the back half of a work vector leaves its front half alone. -/
theorem set_append_xor (h x : ChainingValue) (u : UInt64) {p : Nat} (hback : 8 ≤ p)
    (hp : p < 16) :
    Vector.set (h ++ x : Work) p ((h ++ x : Work)[p] ^^^ u) =
      (h ++ x.set (p - 8) (x[p - 8] ^^^ u) : Work) := by
  have hread : (h ++ x : Work)[p] = x[p - 8] := Vector.getElem_append_right hp hback
  rw [hread]
  exact Vector.set_append_right hp hback

/-- Chaining value and initialisation vector fill the work vector together. -/
theorem vector_loadVector (w : Workspace) (h : ChainingValue) (t : Counter) (f : Flags) :
    (w.loadVector h t f).vector = h ++ marked t f := by
  have hhalves : Storage.overwrite (Storage.overwrite w.vector 0 h.toList) 8 iv.toList =
      h ++ iv := by
    have happend := Storage.overwrite_append w.vector 0 h.toList iv.toList
    rw [Vector.length_toList, Nat.zero_add, ← Vector.toList_append] at happend
    rw [← happend]
    exact Storage.overwrite_toList w.vector (h ++ iv)
  unfold loadVector
  dsimp only
  rw [hhalves, set_append_xor h _ t.low (by decide) (by decide),
    set_append_xor h _ t.high (by decide) (by decide),
    set_append_xor h _ f.lastBlock (by decide) (by decide),
    set_append_xor h _ f.lastNode (by decide) (by decide)]
  rfl

/-- The words of the block cover all message words. -/
theorem message_loadMessage (w : Workspace) (block : Block) :
    (w.loadMessage block).message = block.words := by
  simp only [loadMessage, Storage.overwrite_toList]

theorem load_eq (w : Workspace) (h : ChainingValue) (frame : Frame) :
    w.load h frame = ⟨h ++ marked frame.counter frame.flags, frame.block.words⟩ := by
  have hvector :=
    (w.loadMessage frame.block).vector_loadVector h frame.counter frame.flags
  calc
    w.load h frame = ⟨(w.load h frame).vector, (w.loadMessage frame.block).message⟩ := rfl
    _ = ⟨h ++ marked frame.counter frame.flags, frame.block.words⟩ := by
      rw [message_loadMessage]
      exact congrArg (mk · _) hvector

/-- Compression in any workspace is compression in a workspace of its own. -/
theorem compress_eq (w : Workspace) (h : ChainingValue) (frame : Frame) :
    w.compress h frame = (Blake2b.compress h frame, zero) := by
  have hload : w.load h frame = zero.load h frame := by
    rw [load_eq, load_eq]
  rw [compress, hload]
  rfl

theorem compressAll_fst (w : Workspace) (h : ChainingValue) (frames : List Frame) :
    (w.compressAll h frames).1 = Message.chain h frames := by
  induction frames generalizing w h with
  | nil => rfl
  | cons frame frames ih =>
      rw [compressAll_cons, ih, compress_eq, Message.chain_cons]

/-- The positional form of a trace: what the first frames chain to, and a wiped workspace. -/
theorem trace_eq (w : Workspace) (h : ChainingValue) (frames : List Frame) :
    w.trace h frames =
      (List.range frames.length).map fun i =>
        (Message.chain h (frames.take (i + 1)), zero) := by
  induction frames generalizing w h with
  | nil => rfl
  | cons frame frames ih =>
      rw [trace_cons, compress_eq, ih, List.length_cons, List.range_succ_eq_map,
        List.map_cons, List.map_map]
      rfl

/-- One workspace serves any number of compressions, whatever it held before the first. After
each of them the chaining value is the one that compressions in workspaces of their own come
to, and every word of the workspace is zero. -/
theorem trace_eq_fresh (w : Workspace) (h : ChainingValue) (frames : List Frame) :
    (w.trace h frames).map Prod.fst =
      (List.range frames.length).map (fun i => (frames.take (i + 1)).foldl Blake2b.compress h) ∧
    ∀ step ∈ w.trace h frames, step.2.isWiped = true ∧
      step.2.vector = Vector.replicate 16 0 ∧ step.2.message = Vector.replicate 16 0 := by
  rw [trace_eq]
  refine ⟨?_, fun step hstep => ?_⟩
  · rw [List.map_map]
    rfl
  · obtain ⟨i, -, rfl⟩ := List.mem_map.1 hstep
    exact ⟨rfl, rfl, rfl⟩

end Blake2b.Workspace
