import Blake2b.Proofs.Finalization
import Blake2b.Proofs.Setup
/-!
# Runs of operations

An operation is either accepted, and then has an effect that depends on the
hasher and the operation alone, or it is refused, and then leaves the hasher as
it was. `accepts`, `effect` and `answer` say which, what, and with which answer,
and `perform_eq` is all that later proofs need to know of an operation: what one
operation keeps is shown of its effect, one case for each operation, and what a
run keeps follows by induction on the run.

A run begins with a hasher that was constructed. That is the hasher of a setup,
or the hasher of parameters alone, to which the key block has still to be handed
in.
-/

namespace Blake2b

namespace Operation

/-- The operation hands in data, possibly none. -/
def feeds : Operation → Bool
  | update _ | write _ => true
  | flush | finalize | finalizeInto _ | setCounter _ => false

/-- The operation asks for the digest. -/
def closes : Operation → Bool
  | finalize | finalizeInto _ => true
  | update _ | write _ | flush | setCounter _ => false

end Operation

namespace Hasher

/-- The hashers that a run begins with. -/
inductive Constructed : Hasher → Prop where
  | ofSetup {c : Setup} {s : Hasher} (h : c.hasher = .ok s) : Constructed s
  | ofParameters {digestLength keyLength : Nat} {salt : Option Salt}
      {personal : Option Personal} {p : Parameters}
      (h : Parameters.sequential digestLength keyLength salt personal = .ok p) :
      Constructed (ofParameters p)

/-- Whether an operation is made, and not refused. -/
def accepts (s : Hasher) : Operation → Bool
  | .update _ | .write _ | .finalize => !s.isFinalized
  | .finalizeInto buffer => !s.isFinalized && s.fillable buffer
  | .flush | .setCounter _ => true

/-- What an operation makes of a hasher that accepts it. -/
def effect (s : Hasher) : Operation → Hasher
  | .update data | .write data => { s.absorb data with phase := .absorbing }
  | .flush => s
  | .finalize | .finalizeInto _ => s.finish.wipeStaging
  | .setCounter t => s.setCounter t

/-- What an operation answers. The bytes of an answer are taken from the output of the
hasher, which is the staging area at the end of the stream. -/
def answer (s : Hasher) : Operation → Response
  | .update _ => .updated (if s.isFinalized then .error .alreadyFinalized else .ok ())
  | .write data =>
      .written (if s.isFinalized then .error (.ofFault .alreadyFinalized) else .ok data.length)
  | .flush => .flushed (.ok ())
  | .finalize =>
      .digest
        (if s.isFinalized then .error .alreadyFinalized
          else .ok (.ofOutput s.finish.staging s.digestLength))
  | .finalizeInto buffer =>
      if s.isFinalized then .filled (.error .alreadyFinalized) buffer
      else if s.fillable buffer then
        .filled (.ok ()) (Storage.slice s.finish.staging 0 buffer.length)
      else .filled (.error (.outOfRange .outputLength buffer.length)) buffer
  | .setCounter _ => .counterSet

theorem write_of_finalized (s : Hasher) (data : Bytes) (h : s.phase = .finalized) :
    s.write data = (.error (.ofFault .alreadyFinalized), s) := by
  rw [write, update_of_finalized s data h]

theorem write_of_ne_finalized (s : Hasher) (data : Bytes) (h : s.phase ≠ .finalized) :
    s.write data = (.ok data.length, { s.absorb data with phase := .absorbing }) := by
  rw [write, update_of_ne_finalized s data h]

/-- An operation gives its answer, and has its effect if it is accepted. -/
theorem perform_eq (s : Hasher) (operation : Operation) :
    s.perform operation =
      (s.answer operation, if s.accepts operation then s.effect operation else s) := by
  by_cases hphase : s.phase = .finalized
  · have hfinal := isFinalized_of_eq hphase
    cases operation with
    | update data =>
        rw [perform, update_of_finalized s data hphase, answer, accepts, hfinal]
        rfl
    | write data =>
        rw [perform, write_of_finalized s data hphase, answer, accepts, hfinal]
        rfl
    | finalize =>
        rw [perform, finalize_of_finalized s hphase, answer, accepts, hfinal]
        rfl
    | finalizeInto buffer =>
        rw [perform, finalizeInto_of_finalized s buffer hphase, answer, accepts, hfinal]
        rfl
    | flush => rfl
    | setCounter t => rfl
  · have hfinal := isFinalized_of_ne hphase
    cases operation with
    | update data =>
        rw [perform, update_of_ne_finalized s data hphase, answer, accepts, hfinal]
        rfl
    | write data =>
        rw [perform, write_of_ne_finalized s data hphase, answer, accepts, hfinal]
        rfl
    | finalize =>
        rw [perform, finalize_of_ne_finalized s hphase, answer, accepts, hfinal]
        rfl
    | finalizeInto buffer =>
        cases hbuffer : s.fillable buffer with
        | false =>
            rw [perform, finalizeInto_of_not_fillable s buffer hphase hbuffer, answer, accepts,
              hfinal, hbuffer]
            rfl
        | true =>
            rw [perform, finalizeInto_of_fillable s buffer hphase hbuffer, answer, accepts,
              hfinal, hbuffer]
            rfl
    | flush => rfl
    | setCounter t => rfl

theorem isOk_answer (s : Hasher) (operation : Operation) :
    (s.answer operation).isOk = s.accepts operation := by
  cases operation with
  | update data =>
      rw [answer, accepts]
      cases s.isFinalized with
      | false => rfl
      | true => rfl
  | write data =>
      rw [answer, accepts]
      cases s.isFinalized with
      | false => rfl
      | true => rfl
  | flush => rfl
  | finalize =>
      rw [answer, accepts]
      cases s.isFinalized with
      | false => rfl
      | true => rfl
  | finalizeInto buffer =>
      rw [answer, accepts]
      cases s.isFinalized with
      | false =>
          cases s.fillable buffer with
          | false => rfl
          | true => rfl
      | true => rfl
  | setCounter t => rfl

/-- An operation is refused and changes nothing, or it is accepted and has its
effect. -/
theorem perform_cases (s : Hasher) (operation : Operation) :
    (s.accepts operation = false ∧ (s.perform operation).1.isOk = false ∧
      (s.perform operation).2 = s) ∨
    (s.accepts operation = true ∧ (s.perform operation).1.isOk = true ∧
      (s.perform operation).2 = s.effect operation) := by
  rw [perform_eq, isOk_answer]
  cases s.accepts operation with
  | false => exact .inl ⟨rfl, rfl, rfl⟩
  | true => exact .inr ⟨rfl, rfl, rfl⟩

theorem isOk_perform (s : Hasher) (operation : Operation) :
    (s.perform operation).1.isOk = s.accepts operation := by
  rw [perform_eq, isOk_answer]

/-- A refused operation changes nothing. -/
theorem perform_of_refused {s : Hasher} {operation : Operation}
    (h : (s.perform operation).1.isOk = false) : (s.perform operation).2 = s := by
  rcases s.perform_cases operation with ⟨-, -, hsame⟩ | ⟨-, hok, -⟩
  · exact hsame
  · rw [hok] at h
    cases h

theorem perform_of_accepted {s : Hasher} {operation : Operation}
    (h : (s.perform operation).1.isOk = true) :
    (s.perform operation).2 = s.effect operation := by
  rcases s.perform_cases operation with ⟨-, hok, -⟩ | ⟨-, -, heffect⟩
  · rw [hok] at h
    cases h
  · exact heffect

/-- A refused operation compresses nothing. -/
theorem framesOf_of_refused {s : Hasher} {operation : Operation}
    (h : s.accepts operation = false) : s.framesOf operation = [] := by
  cases operation with
  | update data =>
      have hfinal : s.isFinalized = true := by simpa [accepts] using h
      rw [framesOf_update, if_pos hfinal]
  | write data =>
      have hfinal : s.isFinalized = true := by simpa [accepts] using h
      rw [framesOf_write, framesOf_update, if_pos hfinal]
  | flush => rfl
  | finalize =>
      have hfinal : s.isFinalized = true := by simpa [accepts] using h
      rw [framesOf_finalize, if_pos hfinal]
  | finalizeInto buffer =>
      rw [accepts, Bool.and_eq_false_iff, Bool.not_eq_false', fillable_eq_false_iff] at h
      rw [framesOf_finalizeInto]
      rcases h with hfinal | hbuffer
      · rw [if_pos hfinal]
      · rw [if_pos hbuffer, ite_self]
  | setCounter t => rfl

/-- Data is accepted, and a digest is given, only before the phase is final. -/
theorem isFinalized_of_accepts {s : Hasher} {operation : Operation}
    (haccepts : s.accepts operation = true)
    (h : operation.feeds = true ∨ operation.closes = true) : s.isFinalized = false := by
  cases operation with
  | update data => simpa [accepts] using haccepts
  | write data => simpa [accepts] using haccepts
  | finalize => simpa [accepts] using haccepts
  | finalizeInto buffer =>
      rw [accepts, Bool.and_eq_true] at haccepts
      simpa using haccepts.1
  | flush => simp [Operation.feeds, Operation.closes] at h
  | setCounter t => simp [Operation.feeds, Operation.closes] at h

theorem phase_ne_of_accepts {s : Hasher} {operation : Operation}
    (haccepts : s.accepts operation = true)
    (h : operation.feeds = true ∨ operation.closes = true) : s.phase ≠ .finalized :=
  ne_finalized_of_isFinalized (isFinalized_of_accepts haccepts h)

theorem framesOf_update_of_ne_finalized {s : Hasher} (h : s.phase ≠ .finalized) (data : Bytes) :
    s.framesOf (.update data) = (s.intake.absorb data).1 := by
  rw [framesOf_update, isFinalized_of_ne h]
  rfl

/-- Data that is accepted is compressed as far as the intake gives out frames for it. -/
theorem framesOf_of_feeds {s : Hasher} {operation : Operation} {data : Bytes}
    (hdata : operation = .update data ∨ operation = .write data)
    (haccepts : s.accepts operation = true) :
    s.framesOf operation = (s.intake.absorb data).1 := by
  rcases hdata with rfl | rfl
  · exact framesOf_update_of_ne_finalized (phase_ne_of_accepts haccepts (.inl rfl)) data
  · rw [framesOf_write]
    exact framesOf_update_of_ne_finalized (phase_ne_of_accepts haccepts (.inl rfl)) data

/-- A digest that is given takes one more frame. -/
theorem framesOf_of_closes {s : Hasher} {operation : Operation}
    (hcloses : operation.closes = true) (haccepts : s.accepts operation = true) :
    s.framesOf operation = [s.intake.close.frame] := by
  have hfinal := isFinalized_of_accepts haccepts (.inr hcloses)
  cases operation with
  | finalize =>
      rw [framesOf_finalize, hfinal]
      rfl
  | finalizeInto buffer =>
      have hbuffer : ¬ (buffer.length = 0 ∨ buffer.length > s.digestLength) := by
        rw [accepts, Bool.and_eq_true] at haccepts
        rw [← fillable_eq_false_iff, haccepts.2]
        exact Bool.noConfusion
      rw [framesOf_finalizeInto, hfinal]
      exact if_neg hbuffer
  | update data => cases hcloses
  | write data => cases hcloses
  | flush => cases hcloses
  | setCounter t => cases hcloses

theorem recordedPerform_of_closes {s : Hasher} {operation : Operation}
    (hcloses : operation.closes = true) (haccepts : s.accepts operation = true) :
    s.recordedPerform operation = ⟨[s.intake.close.frame], s.perform operation⟩ := by
  rw [recordedPerform_eq, framesOf_of_closes hcloses haccepts]

theorem phase_effect (s : Hasher) (operation : Operation) :
    (s.effect operation).phase =
      if operation.closes then .finalized
      else if operation.feeds then .absorbing
      else s.phase := by
  cases operation with
  | update data => rfl
  | write data => rfl
  | flush => rfl
  | finalize => rfl
  | finalizeInto buffer => rfl
  | setCounter t => rfl

/-- Both finalisations have one effect. -/
theorem effect_of_closes (s : Hasher) {operation : Operation} (h : operation.closes = true) :
    s.effect operation = s.finish.wipeStaging := by
  cases operation with
  | finalize => rfl
  | finalizeInto buffer => rfl
  | update data => cases h
  | write data => cases h
  | flush => cases h
  | setCounter t => cases h

theorem isFinalized_effect (s : Hasher) (operation : Operation) :
    (s.effect operation).isFinalized =
      (operation.closes || !operation.feeds && s.isFinalized) := by
  rw [isFinalized, phase_effect]
  cases operation.closes with
  | true => rfl
  | false =>
      cases operation.feeds with
      | true => rfl
      | false => rfl

theorem after_concat (s : Hasher) (front : List Operation) (operation : Operation) :
    s.after (front ++ [operation]) = ((s.after front).perform operation).2 := by
  rw [after_append, after_cons, after_nil]

/-- What every accepted operation keeps, every run keeps. -/
theorem after_induction {P : Hasher → Prop}
    (hstep : ∀ s operation, s.accepts operation = true → P s → P (s.effect operation))
    {s : Hasher} (h : P s) (operations : List Operation) : P (s.after operations) := by
  induction operations generalizing s with
  | nil => exact h
  | cons operation rest ih =>
      rw [after_cons]
      apply ih
      rcases s.perform_cases operation with ⟨-, -, hsame⟩ | ⟨haccepts, -, heffect⟩
      · rw [hsame]
        exact h
      · rw [heffect]
        exact hstep s operation haccepts h

theorem digestLength_effect (s : Hasher) (operation : Operation) :
    (s.effect operation).digestLength = s.digestLength := by
  cases operation with
  | update data => rfl
  | write data => rfl
  | flush => rfl
  | finalize => simp only [effect, wipeStaging, finish, wipeWorking, stage]
  | finalizeInto buffer => simp only [effect, wipeStaging, finish, wipeWorking, stage]
  | setCounter t => rfl

theorem digestLength_after (s : Hasher) (operations : List Operation) :
    (s.after operations).digestLength = s.digestLength :=
  after_induction (P := fun t => t.digestLength = s.digestLength)
    (fun t operation _ h => (t.digestLength_effect operation).trans h) rfl operations

/-- Between two operations at most one block is held. -/
theorem held_effect_le {s : Hasher} (h : s.intake.held ≤ blockLength) (operation : Operation) :
    (s.effect operation).intake.held ≤ blockLength := by
  cases operation with
  | update data => exact s.intake.held_absorb_le data h
  | write data => exact s.intake.held_absorb_le data h
  | flush => exact h
  | finalize => exact Nat.zero_le _
  | finalizeInto buffer => exact Nat.zero_le _
  | setCounter t => exact h

theorem held_perform_le {s : Hasher} (h : s.intake.held ≤ blockLength) (operation : Operation) :
    (s.perform operation).2.intake.held ≤ blockLength := by
  rcases s.perform_cases operation with ⟨-, -, hsame⟩ | ⟨-, -, heffect⟩
  · rw [hsame]
    exact h
  · rw [heffect]
    exact held_effect_le h operation

/-- What holds of a hasher between two operations. -/
structure InRange (s : Hasher) : Prop where
  digestLength_pos : 1 ≤ s.digestLength
  digestLength_le : s.digestLength ≤ 64
  held_le : s.intake.held ≤ 128

namespace InRange

theorem effect {s : Hasher} (h : s.InRange) (operation : Operation) :
    (s.effect operation).InRange := by
  have hlength := s.digestLength_effect operation
  exact ⟨hlength ▸ h.digestLength_pos, hlength ▸ h.digestLength_le,
    held_effect_le h.held_le operation⟩

theorem after {s : Hasher} (h : s.InRange) (operations : List Operation) :
    (s.after operations).InRange :=
  after_induction (fun _ operation _ hrange => hrange.effect operation) h operations

theorem perform {s : Hasher} (h : s.InRange) (operation : Operation) :
    (s.perform operation).2.InRange :=
  h.after [operation]

end InRange

/-- An answer depends on the phase, the length of the digest and the output, and on
nothing else of the hasher. -/
theorem answer_congr {s t : Hasher} (hphase : s.phase = t.phase)
    (hlength : s.digestLength = t.digestLength)
    (houtput : s.finish.staging = t.finish.staging) (operation : Operation) :
    s.answer operation = t.answer operation := by
  have hfinal : s.isFinalized = t.isFinalized := by rw [isFinalized, isFinalized, hphase]
  cases operation with
  | update data => rw [answer, answer, hfinal]
  | write data => rw [answer, answer, hfinal]
  | flush => rfl
  | finalize => rw [answer, answer, hfinal, hlength, houtput]
  | finalizeInto buffer => rw [answer, answer, fillable, fillable, hfinal, hlength, houtput]
  | setCounter u => rfl

theorem digestLength_of_hasher {c : Setup} {s : Hasher} (h : c.hasher = .ok s) :
    s.digestLength = c.digestLength := by
  obtain ⟨p, hp, rfl⟩ := Setup.hasher_eq_ok h
  exact (Parameters.of_sequential_eq_ok hp).2.2.2

namespace Constructed

/-- A constructed hasher is that of its parameters after it has taken in what its
stream begins with, if anything. -/
theorem exists_absorb {s : Hasher} (h : Constructed s) :
    ∃ digestLength keyLength salt personal p opening,
      Parameters.sequential digestLength keyLength salt personal = .ok p ∧
        s = (Hasher.ofParameters p).absorb opening := by
  cases h with
  | @ofSetup c s h =>
      obtain ⟨p, hp, hs⟩ := Setup.hasher_eq_ok h
      exact ⟨_, _, _, _, p, c.opening, hp, hs⟩
  | @ofParameters digestLength keyLength salt personal p h =>
      exact ⟨_, _, _, _, p, [], h, (absorb_nil _).symm⟩

theorem phase_eq {s : Hasher} (h : Constructed s) : s.phase = .fresh := by
  obtain ⟨_, _, _, _, p, opening, -, rfl⟩ := h.exists_absorb
  rfl

theorem phase_ne {s : Hasher} (h : Constructed s) : s.phase ≠ .finalized := by
  rw [h.phase_eq]
  decide

theorem digestLength_le {s : Hasher} (h : Constructed s) :
    s.digestLength ≤ maxDigestLength := by
  obtain ⟨_, _, _, _, p, opening, hp, rfl⟩ := h.exists_absorb
  obtain ⟨-, hle, -, hlength⟩ := Parameters.of_sequential_eq_ok hp
  exact Nat.le_trans (Nat.le_of_eq hlength) hle

theorem inRange {s : Hasher} (h : Constructed s) : s.InRange := by
  have hle := h.digestLength_le
  obtain ⟨_, _, _, _, p, opening, hp, rfl⟩ := h.exists_absorb
  obtain ⟨hpos, -, -, hlength⟩ := Parameters.of_sequential_eq_ok hp
  exact ⟨Nat.le_trans hpos (Nat.le_of_eq hlength.symm), hle,
    Intake.empty.held_absorb_le opening (Nat.zero_le _)⟩

end Constructed

end Hasher

end Blake2b
