import Blake2b.Proofs.Run
/-!
# Nothing is left behind

Secrets pass through a hasher in two ways. Its scratch space, which is the
workspace, the staging area and the flags, is used during an operation and is
clean again at the end of it, whatever the operation was (`Clean`). The chaining
value, the counter and the window carry the message from one operation to the
next, and are wiped when the digest is given.

What a hasher then is depends on nothing but the length of its digest (`spent`).
From there on the counter can still be set, and nothing else moves. That nothing
of the flag of the last node is left needs the hasher to have been built without
it, since wiping keeps that flag.
-/

namespace Blake2b

theorem Workspace.compressAll_zero_snd (h : ChainingValue) (frames : List Frame) :
    (zero.compressAll h frames).2 = zero := by
  induction frames generalizing h with
  | nil => rfl
  | cons frame frames ih => rw [compressAll_cons, compress_snd, ih]

namespace Intake

theorem flags_settle (s : Intake) :
    s.settle.2.flags = s.flags ∧ s.settle.2.lastNode = s.lastNode := by
  fun_induction settle s with
  | case1 s h next ih =>
      have hflags : s.count.shift.flags = s.flags := by simp only [count, shift]
      have hlastNode : s.count.shift.lastNode = s.lastNode := by simp only [count, shift]
      exact ⟨ih.1.trans hflags, ih.2.trans hlastNode⟩
  | case2 s h => exact ⟨rfl, rfl⟩

/-- Only closing raises a flag. -/
theorem flags_absorb (s : Intake) (data : Bytes) :
    (s.absorb data).2.flags = s.flags ∧ (s.absorb data).2.lastNode = s.lastNode := by
  fun_induction absorb s data with
  | case1 s => exact ⟨rfl, rfl⟩
  | case2 s byte rest data room settled next ih =>
      obtain ⟨hflags, hlastNode⟩ := flags_settle (s.fill (data.take room))
      exact ⟨ih.1.trans hflags, ih.2.trans hlastNode⟩

end Intake

/-- The counter after an operation on a hasher that gives no digest any more. -/
def Operation.counterAfter (t : Counter) : Operation → Counter
  | setCounter u => u
  | update _ | write _ | flush | finalize | finalizeInto _ => t

namespace Hasher

/-- The scratch space holds nothing, and the stream is not of a last node. -/
structure Clean (s : Hasher) : Prop where
  vector : s.workspace.vector = Vector.replicate 16 0
  message : s.workspace.message = Vector.replicate 16 0
  staging : s.staging = Vector.replicate maxDigestLength 0
  flags : s.intake.flags = ⟨0, 0⟩
  lastNode : s.intake.lastNode = false

/-- A hasher that has given its digest. -/
def spent (digestLength : Nat) : Hasher where
  chaining := Vector.replicate 8 0
  intake :=
    { window := Vector.replicate windowLength 0
      held := 0
      counter := ⟨0, 0⟩
      flags := ⟨0, 0⟩
      lastNode := false }
  workspace := ⟨Vector.replicate 16 0, Vector.replicate 16 0⟩
  staging := Vector.replicate maxDigestLength 0
  digestLength := digestLength
  phase := .finalized

theorem clean_spent (digestLength : Nat) : (spent digestLength).Clean :=
  ⟨rfl, rfl, rfl, rfl, rfl⟩

theorem clean_ofParameters (p : Parameters) : (ofParameters p).Clean :=
  ⟨rfl, rfl, rfl, rfl, rfl⟩

namespace Clean

theorem workspace_eq {s : Hasher} (h : s.Clean) : s.workspace = .zero :=
  calc
    s.workspace = ⟨s.workspace.vector, s.workspace.message⟩ := rfl
    _ = .zero := by
      rw [h.vector, h.message]
      rfl

theorem absorb {s : Hasher} (h : s.Clean) (data : Bytes) : (s.absorb data).Clean := by
  have hworkspace : (s.absorb data).workspace = .zero := by
    simp only [Hasher.absorb, h.workspace_eq, Workspace.compressAll_zero_snd]
  obtain ⟨hflags, hlastNode⟩ := s.intake.flags_absorb data
  exact
    { vector := congrArg Workspace.vector hworkspace
      message := congrArg Workspace.message hworkspace
      staging := h.staging
      flags := hflags.trans h.flags
      lastNode := hlastNode.trans h.lastNode }

/-- Giving the digest wipes all that is not fixed by the length of the digest. -/
theorem wipeStaging_finish {s : Hasher} (h : s.Clean) :
    s.finish.wipeStaging = spent s.digestLength := by
  have hintake : s.stage.intake.wipe = Intake.empty := by
    simp only [stage, Intake.wipe, Intake.close, h.lastNode]
    rfl
  simp only [finish, wipeWorking, wipeStaging, hintake]
  rfl

theorem effect {s : Hasher} (h : s.Clean) (operation : Operation) :
    (s.effect operation).Clean := by
  cases operation with
  | update data =>
      have hdata := h.absorb data
      exact ⟨hdata.vector, hdata.message, hdata.staging, hdata.flags, hdata.lastNode⟩
  | write data =>
      have hdata := h.absorb data
      exact ⟨hdata.vector, hdata.message, hdata.staging, hdata.flags, hdata.lastNode⟩
  | flush => exact h
  | finalize =>
      rw [Hasher.effect, h.wipeStaging_finish]
      exact clean_spent _
  | finalizeInto buffer =>
      rw [Hasher.effect, h.wipeStaging_finish]
      exact clean_spent _
  | setCounter t => exact ⟨h.vector, h.message, h.staging, h.flags, h.lastNode⟩

theorem after {s : Hasher} (h : s.Clean) (operations : List Operation) :
    (s.after operations).Clean :=
  after_induction (fun _ operation _ hclean => hclean.effect operation) h operations

/-- A closing operation that is not refused leaves the spent hasher. -/
theorem perform_closing {s : Hasher} (h : s.Clean) {operation : Operation}
    (hcloses : operation.closes = true) (hok : (s.perform operation).1.isOk = true) :
    (s.perform operation).2 = spent s.digestLength := by
  rw [perform_of_accepted hok, effect_of_closes s hcloses, h.wipeStaging_finish]

end Clean

theorem Constructed.clean {s : Hasher} (h : Constructed s) : s.Clean := by
  obtain ⟨_, _, _, _, p, opening, -, rfl⟩ := h.exists_absorb
  exact (clean_ofParameters p).absorb opening

/-- A spent hasher takes a new counter and refuses everything else that would
change it. -/
theorem perform_spent (digestLength : Nat) (t : Counter) (operation : Operation) :
    (((spent digestLength).setCounter t).perform operation).2 =
      (spent digestLength).setCounter (operation.counterAfter t) := by
  rcases ((spent digestLength).setCounter t).perform_cases operation with
    ⟨hrefused, -, hsame⟩ | ⟨haccepts, -, heffect⟩
  · rw [hsame]
    cases operation with
    | setCounter u => cases hrefused
    | update data => rfl
    | write data => rfl
    | flush => rfl
    | finalize => rfl
    | finalizeInto buffer => rfl
  · rw [heffect]
    cases operation with
    | flush => rfl
    | setCounter u => rfl
    | update data => cases haccepts
    | write data => cases haccepts
    | finalize => cases haccepts
    | finalizeInto buffer => cases haccepts

theorem after_spent (digestLength : Nat) (t : Counter) (operations : List Operation) :
    ((spent digestLength).setCounter t).after operations =
      (spent digestLength).setCounter (operations.foldl Operation.counterAfter t) := by
  induction operations generalizing t with
  | nil => rfl
  | cons operation rest ih => rw [after_cons, perform_spent, ih, List.foldl_cons]

/-- After every operation the scratch space is clean. Once the digest is given,
by either finalisation, the hasher is the spent hasher of its digest length: two
runs with one digest length end alike, whatever went into them, and afterwards
only the counter moves. -/
theorem zeroized_of_run (s : Hasher) (h : Constructed s) (front : List Operation) :
    (s.after front).Clean ∧
    ∀ operation : Operation, operation.closes = true →
      ((s.after front).perform operation).1.isOk = true →
      s.after (front ++ [operation]) = spent s.digestLength ∧
      (∀ back, s.after (front ++ operation :: back) =
        (spent s.digestLength).setCounter (back.foldl Operation.counterAfter ⟨0, 0⟩)) ∧
      ∀ (other : Hasher) (otherFront : List Operation) (otherOperation : Operation),
        Constructed other → other.digestLength = s.digestLength →
        otherOperation.closes = true →
        ((other.after otherFront).perform otherOperation).1.isOk = true →
        other.after (otherFront ++ [otherOperation]) = s.after (front ++ [operation]) := by
  refine ⟨h.clean.after front, fun operation hcloses hok => ?_⟩
  have hend : ((s.after front).perform operation).2 = spent s.digestLength := by
    rw [(h.clean.after front).perform_closing hcloses hok, digestLength_after]
  refine ⟨by rw [after_concat, hend], fun back => ?_, ?_⟩
  · rw [after_append, after_cons, hend]
    exact after_spent s.digestLength ⟨0, 0⟩ back
  · intro other otherFront otherOperation hother hlength hotherCloses hotherOk
    rw [after_concat, after_concat, hend,
      (hother.clean.after otherFront).perform_closing hotherCloses hotherOk,
      digestLength_after, hlength]

/-- A keyed hasher that has taken in data and one without a key that has not end
alike, the one by its whole digest and the other by a single byte of it. -/
theorem zeroized_of_run_two_setups :
    let c : Setup := ⟨32, some [1, 2, 3], none, none⟩
    let d : Setup := ⟨32, none, some (Vector.replicate 16 7), none⟩
    ∃ s t, c.hasher = .ok s ∧ d.hasher = .ok t ∧
      s.after [.update [9], .finalize] = spent 32 ∧
      t.after [.finalizeInto [0xee]] = s.after [.update [9], .finalize] ∧
      s.after [.update [9], .finalize, .setCounter ⟨5, 6⟩, .update [8]] =
        (spent 32).setCounter ⟨5, 6⟩ := by
  intro c d
  obtain ⟨s, hs⟩ := Setup.exists_hasher (c := c) (by decide) (by decide) (by decide) (by decide)
  obtain ⟨t, ht⟩ := Setup.exists_hasher (c := d) (by decide) (by decide) (by decide) (by decide)
  have hslength : s.digestLength = 32 := digestLength_of_hasher hs
  have htlength : t.digestLength = 32 := digestLength_of_hasher ht
  have hsphase : s.phase ≠ .finalized := (Constructed.ofSetup hs).phase_ne
  have htphase : t.phase ≠ .finalized := (Constructed.ofSetup ht).phase_ne
  have hfed : (s.after [.update [9]]).phase ≠ .finalized := by
    rw [after_cons, after_nil, perform, update_of_ne_finalized s _ hsphase]
    exact (by decide : Phase.absorbing ≠ Phase.finalized)
  have hsok : ((s.after [.update [9]]).perform .finalize).1.isOk = true := by
    rw [isOk_perform, accepts, isFinalized_of_ne hfed]
    rfl
  have htok : ((t.after []).perform (.finalizeInto [0xee])).1.isOk = true := by
    rw [after_nil, isOk_perform, accepts, isFinalized_of_ne htphase, fillable, htlength]
    rfl
  obtain ⟨-, hclosed⟩ := zeroized_of_run s (.ofSetup hs) [.update [9]]
  obtain ⟨hend, hback, hother⟩ := hclosed .finalize rfl hsok
  rw [hslength] at hend hback
  exact ⟨s, t, hs, ht, hend,
    hother t [] (.finalizeInto [0xee]) (.ofSetup ht) (htlength.trans hslength.symm) rfl htok,
    hback [.setCounter ⟨5, 6⟩, .update [8]]⟩

end Hasher

end Blake2b
