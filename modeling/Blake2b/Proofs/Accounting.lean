import Blake2b.Proofs.Run
/-!
# The record accounts for the outcome

The frames that an operation has recorded are all that it did to the chaining value, and
its bytes come out of them: the chaining value after the operation is the fold of
compression over them, and a digest or a filled buffer is the front of that fold. An
operation that was refused has recorded nothing.

The record is that of the recorded form of an operation, and the outcome is that of the
operation itself. So `Accounts` begins with the two being one.
-/

namespace Blake2b.Hasher

/-- The chaining value after all frames of an operation. -/
def folded (s : Hasher) (operation : Operation) : ChainingValue :=
  Message.chain s.chaining (s.framesOf operation)

/-- What an operation does is what it makes of the frames that it has recorded. -/
structure Accounts (s : Hasher) (operation : Operation) : Prop where
  recorded : s.recordedPerform operation = ⟨s.framesOf operation, s.perform operation⟩
  refused : (s.perform operation).1.isOk = false → s.framesOf operation = []
  chaining : operation.closes = false →
    (s.perform operation).2.chaining = s.folded operation
  digest : ∀ d, (s.perform operation).1 = .digest (.ok d) →
    d.toBytes = (Message.serialize (s.folded operation)).take s.digestLength
  filled : ∀ output, (s.perform operation).1 = .filled (.ok ()) output →
    output = (Message.serialize (s.folded operation)).take output.length

theorem chaining_perform (s : Hasher) (operation : Operation) (h : operation.closes = false) :
    (s.perform operation).2.chaining = s.folded operation := by
  rw [folded]
  rcases s.perform_cases operation with ⟨hrefused, -, hsame⟩ | ⟨haccepts, -, heffect⟩
  · rw [hsame, framesOf_of_refused hrefused, Message.chain_nil]
  · rw [heffect]
    cases operation with
    | update data =>
        rw [framesOf_of_feeds (.inl rfl) haccepts]
        exact s.workspace.compressAll_fst s.chaining _
    | write data =>
        rw [framesOf_of_feeds (.inr rfl) haccepts]
        exact s.workspace.compressAll_fst s.chaining _
    | flush => rfl
    | setCounter t => rfl
    | finalize => cases h
    | finalizeInto buffer => cases h

/-- The output of a finalisation that is made is the fold over its one frame. -/
theorem toList_output_eq_folded {s : Hasher} {operation : Operation}
    (hcloses : operation.closes = true) (haccepts : s.accepts operation = true) :
    s.finish.staging.toList = Message.serialize (s.folded operation) := by
  rw [folded, framesOf_of_closes hcloses haccepts, toList_output]
  rfl

theorem toBytes_eq_folded {s : Hasher} {operation : Operation} {d : Digest}
    (h : (s.perform operation).1 = .digest (.ok d)) :
    d.toBytes = (Message.serialize (s.folded operation)).take s.digestLength := by
  have haccepts : s.accepts operation = true := by
    rw [← isOk_perform, h]
    rfl
  cases operation with
  | finalize =>
      have hphase := phase_ne_of_accepts haccepts (.inr rfl)
      rw [perform, finalize_of_ne_finalized s hphase] at h
      cases h
      rw [Digest.toBytes_ofOutput, toList_output_eq_folded rfl haccepts]
  | update data => cases h
  | write data => cases h
  | flush => cases h
  | finalizeInto buffer => cases h
  | setCounter t => cases h

theorem filled_eq_folded {s : Hasher} {operation : Operation} {output : Bytes}
    (h : (s.perform operation).1 = .filled (.ok ()) output) :
    output = (Message.serialize (s.folded operation)).take output.length := by
  have haccepts : s.accepts operation = true := by
    rw [← isOk_perform, h]
    rfl
  cases operation with
  | finalizeInto buffer =>
      have hphase := phase_ne_of_accepts haccepts (.inr rfl)
      have hbuffer : s.fillable buffer = true := by
        rw [accepts, Bool.and_eq_true] at haccepts
        exact haccepts.2
      rw [perform, finalizeInto_of_fillable s buffer hphase hbuffer] at h
      cases h
      rw [Storage.slice_zero, toList_output_eq_folded rfl haccepts]
      exact List.take_eq_take_iff.2 (by rw [List.length_take]; omega)
  | update data => cases h
  | write data => cases h
  | flush => cases h
  | finalize => cases h
  | setCounter t => cases h

/-- A live hasher ends its stream with one more frame, whichever way the digest is asked
for, and gives the front of what that frame makes of the chaining value. -/
theorem Live.closing {s : Hasher} (h : s.Live) :
    let frame := s.intake.close.frame
    let output := Message.serialize (compress s.chaining frame)
    s.recordedPerform .finalize = ⟨[frame], s.perform .finalize⟩ ∧
    (∃ d, s.finalize.1 = .ok d ∧ d.length = s.digestLength ∧
      d.toBytes = output.take s.digestLength) ∧
    ∀ buffer : Bytes,
      ((s.finalizeInto buffer).1 = .ok () ↔
        1 ≤ buffer.length ∧ buffer.length ≤ s.digestLength) ∧
      ((s.finalizeInto buffer).1 = .ok () →
        s.recordedPerform (.finalizeInto buffer) =
          ⟨[frame], s.perform (.finalizeInto buffer)⟩ ∧
        (s.finalizeInto buffer).2.1 = output.take buffer.length) := by
  intro frame output
  refine ⟨?_, ?_, fun buffer => ?_⟩
  · apply recordedPerform_of_closes rfl
    rw [accepts, h.isFinalized_eq]
    rfl
  · refine ⟨_, congrArg Prod.fst (s.finalize_of_ne_finalized h.phase), rfl, ?_⟩
    rw [Digest.toBytes_ofOutput, toList_output]
  · -- refused are exactly the lengths that the digest cannot fill
    have hrange : s.fillable buffer = true ↔
        1 ≤ buffer.length ∧ buffer.length ≤ s.digestLength := decide_eq_true_iff
    cases hfillable : s.fillable buffer with
    | false =>
        rw [hfillable] at hrange
        rw [s.finalizeInto_of_not_fillable buffer h.phase hfillable, ← hrange]
        refine ⟨⟨fun h => ?_, fun h => ?_⟩, fun h => ?_⟩
        · cases h
        · cases h
        · cases h
    | true =>
        have haccepts : s.accepts (.finalizeInto buffer) = true := by
          rw [accepts, h.isFinalized_eq, hfillable]
          rfl
        rw [recordedPerform_of_closes rfl haccepts,
          s.finalizeInto_of_fillable buffer h.phase hfillable, Storage.slice_zero,
          toList_output, ← hrange]
        exact ⟨⟨fun _ => hfillable, fun _ => rfl⟩, fun _ => ⟨rfl, rfl⟩⟩

theorem accounts (s : Hasher) (operation : Operation) : s.Accounts operation where
  recorded := s.recordedPerform_eq operation
  refused h := framesOf_of_refused (by rw [← isOk_perform, h])
  chaining := s.chaining_perform operation
  digest _ := toBytes_eq_folded
  filled _ := filled_eq_folded

end Blake2b.Hasher
