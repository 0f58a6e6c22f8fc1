import Blake2b.Proofs.Chunking
import Blake2b.Proofs.Lifecycle
import Mathlib.Data.List.Forall2
/-!
# Dead bytes never show

The window of a hasher holds more than what is waiting in it. Behind the live bytes lie
the ends of earlier blocks, and compression always reads a whole block. Still no answer
depends on them: `SameLive` hashers, which may differ in the dead bytes and in nothing
else, answer every operation alike, and are left `SameLive` by it. So two runs never come
apart, however long they are.

The reason is that both hold the same backlog, and that a hasher is known up to its dead
bytes from the backlog it began with and the data it has taken in (`Absorbed`). Giving the
digest wipes the window, dead bytes included; from then on the two are equal.
-/

namespace Blake2b.Hasher

namespace SameLive

theorem refl (s : Hasher) : SameLive s s :=
  ⟨rfl, rfl, rfl, rfl, rfl, rfl, rfl, rfl, rfl, rfl⟩

theorem backlog {s t : Hasher} (h : SameLive s t) : s.intake.backlog = t.intake.backlog := by
  rw [Intake.backlog, Intake.backlog, h.live, h.counter, h.flags, h.lastNode]

theorem held_le {s t : Hasher} (h : SameLive s t) (hheld : s.intake.held ≤ blockLength) :
    t.intake.held ≤ blockLength :=
  h.held ▸ hheld

/-- What is known of a hasher that has taken in data does not depend on the dead bytes it
began with. -/
theorem absorbed {s t u : Hasher} {data : Bytes} (h : SameLive s t)
    (hdata : Absorbed t data u) : Absorbed s data u := by
  refine ⟨hdata.live, ?_, ?_, hdata.staging.trans h.staging.symm,
    hdata.digestLength.trans h.digestLength.symm⟩
  · rw [h.chaining, h.workspace, h.backlog]
    exact hdata.compressed
  · rw [h.backlog]
    exact hdata.backlog

theorem withPhase {s t : Hasher} (h : SameLive s t) (phase : Phase) :
    SameLive { s with phase := phase } { t with phase := phase } :=
  { h with phase := rfl }

theorem absorb {s t : Hasher} (h : SameLive s t) (hs : s.Live) (data : Bytes) :
    SameLive (s.absorb data) (t.absorb data) := by
  have ht : t.Live := ⟨h.phase ▸ hs.phase, h.held_le hs.held_le⟩
  exact (hs.absorbed_absorb data).sameLive (h.absorbed (ht.absorbed_absorb data)) h.phase

/-- Giving the digest leaves no dead bytes to differ in. -/
theorem wipeStaging_finish {s t : Hasher} (h : SameLive s t) :
    s.finish.wipeStaging = t.finish.wipeStaging := by
  simp only [finish, wipeWorking, wipeStaging, stage, Intake.wipe, Intake.close, h.lastNode,
    h.digestLength]

theorem answer_eq {s t : Hasher} (h : SameLive s t) (hheld : s.intake.held ≤ blockLength)
    (operation : Operation) : s.answer operation = t.answer operation :=
  answer_congr h.phase h.digestLength
    (staging_finish_eq hheld (h.held_le hheld) h.chaining h.backlog) operation

theorem accepts_eq {s t : Hasher} (h : SameLive s t) (hheld : s.intake.held ≤ blockLength)
    (operation : Operation) : s.accepts operation = t.accepts operation := by
  rw [← isOk_answer, ← isOk_answer, h.answer_eq hheld operation]

theorem effect {s t : Hasher} (h : SameLive s t) (hheld : s.intake.held ≤ blockLength)
    {operation : Operation} (haccepts : s.accepts operation = true) :
    SameLive (s.effect operation) (t.effect operation) := by
  -- a hasher that accepts data is live, and only then is the window read
  have hlive (hfeeds : operation.feeds = true) : s.Live :=
    ⟨phase_ne_of_accepts haccepts (.inl hfeeds), hheld⟩
  cases operation with
  | update data => exact (h.absorb (hlive rfl) data).withPhase .absorbing
  | write data => exact (h.absorb (hlive rfl) data).withPhase .absorbing
  | flush => exact h
  | finalize =>
      rw [Hasher.effect, Hasher.effect, h.wipeStaging_finish]
      exact refl _
  | finalizeInto buffer =>
      rw [Hasher.effect, Hasher.effect, h.wipeStaging_finish]
      exact refl _
  | setCounter u => exact { h with counter := rfl }

/-- One operation: the answers are equal, and the hashers stay equal up to dead bytes. -/
theorem perform {s t : Hasher} (h : SameLive s t) (hheld : s.intake.held ≤ blockLength)
    (operation : Operation) :
    (s.perform operation).1 = (t.perform operation).1 ∧
      SameLive (s.perform operation).2 (t.perform operation).2 := by
  rw [perform_eq, perform_eq, ← h.accepts_eq hheld]
  refine ⟨h.answer_eq hheld operation, ?_⟩
  cases haccepts : s.accepts operation with
  | false => exact h
  | true => exact h.effect hheld haccepts

theorem perform_closing {s t : Hasher} (h : SameLive s t) (hheld : s.intake.held ≤ blockLength)
    {operation : Operation} (hcloses : operation.closes = true)
    (hok : (s.perform operation).1.isOk = true) :
    (s.perform operation).2 = (t.perform operation).2 := by
  have hok' : (t.perform operation).1.isOk = true := by
    rw [← (h.perform hheld operation).1, hok]
  rw [perform_of_accepted hok, perform_of_accepted hok', effect_of_closes s hcloses,
    effect_of_closes t hcloses, h.wipeStaging_finish]

/-- All operations of a run: what holds of one operation holds of each. -/
theorem run {s t : Hasher} (h : SameLive s t) (hheld : s.intake.held ≤ blockLength)
    (operations : List Operation) :
    List.Forall₂ (fun x y => x.1 = y.1 ∧ SameLive x.2 y.2) (s.run operations)
      (t.run operations) := by
  induction operations generalizing s t with
  | nil => exact .nil
  | cons operation rest ih =>
      have hstep := h.perform hheld operation
      rw [run_cons, run_cons]
      exact .cons hstep (ih hstep.2 (held_perform_le hheld operation))

/-- A run in which the digest is given ends in one hasher, not in two that agree. -/
theorem after_eq {s t : Hasher} (h : SameLive s t) (hheld : s.intake.held ≤ blockLength)
    {operations : List Operation} (hclosed : s.hasClosed operations = true) :
    s.after operations = t.after operations := by
  induction operations generalizing s t with
  | nil => cases hclosed
  | cons operation rest ih =>
      rw [hasClosed_cons, Bool.or_eq_true, isClosing, Bool.and_eq_true] at hclosed
      rw [after_cons, after_cons]
      -- either this operation gives the digest, or a later one does
      rcases hclosed with ⟨hcloses, hok⟩ | hrest
      · rw [h.perform_closing hheld hcloses hok]
      · exact ih (h.perform hheld operation).2 (held_perform_le hheld operation) hrest

end SameLive

/-- Two hashers that differ in dead bytes alone give equal answers to all operations of a
run, and differ in dead bytes alone after each of them. Once a finalisation is not refused
they are equal. -/
theorem runs_agree_of_sameLive (s t : Hasher) (hheld : s.intake.held ≤ 128)
    (h : SameLive s t) (operations : List Operation) :
    List.Forall₂ (fun x y => x.1 = y.1 ∧ SameLive x.2 y.2) (s.run operations)
      (t.run operations) ∧
    (s.hasClosed operations = true → s.after operations = t.after operations) :=
  ⟨h.run hheld operations, h.after_eq hheld⟩

/-- Here one dead byte is another one, in the place where the next byte of data comes. The
first operation and the last are refused, the second compresses three blocks, and the third
gives the digest. -/
theorem runs_agree_of_sameLive_midStream :
    let other : Hasher :=
      { midStream with
        intake :=
          { midStream.intake with
            window := Storage.overwrite midStream.intake.window 128 [0x11] } }
    let operations : List Operation :=
      [.finalizeInto [], .update (List.replicate 300 2), .finalize, .write [3]]
    midStream ≠ other ∧ midStream.intake.held ≤ 128 ∧ SameLive midStream other ∧
      (midStream.run operations).map Prod.fst = (other.run operations).map Prod.fst ∧
      midStream.hasClosed operations = true ∧
      midStream.after operations = other.after operations := by
  intro other operations
  have hwindow : midStream.intake.window.toList ≠ other.intake.window.toList := by
    decide +kernel
  have hlive : SameLive midStream other :=
    ⟨rfl, rfl, rfl, rfl, by decide +kernel, rfl, rfl, rfl, rfl, rfl⟩
  have hclosed : midStream.hasClosed operations = true := by
    rw [← isFinalized_after rfl]
    rfl
  obtain ⟨hruns, hafter⟩ :=
    runs_agree_of_sameLive midStream other (Nat.le_refl 128) hlive operations
  refine ⟨fun heq => hwindow (congrArg (·.intake.window.toList) heq), Nat.le_refl 128, hlive, ?_,
    hclosed, hafter hclosed⟩
  rw [← List.forall₂_eq_eq_eq, List.forall₂_map_left_iff, List.forall₂_map_right_iff]
  exact hruns.imp fun _ _ hstep => hstep.1

end Blake2b.Hasher
