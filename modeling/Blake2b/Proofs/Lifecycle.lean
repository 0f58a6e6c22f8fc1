import Blake2b.Proofs.Run
/-!
# The life of a hasher

A hasher gives one digest. Until then it takes whatever is handed in, and
afterwards it refuses all data and every further digest. Whether it has come to
that is written in its phase, but a caller sees it in the journal of the run:
the digest has been given if some finalisation of the run was not refused. The
lemma `isFinalized_add_closings` is the tie between the two. It counts: each
finalisation that is not refused takes the phase from not final to final, and
nothing takes it back, so there is at most one.

A refused operation leaves no trace, neither in the hasher nor in the buffer that
was to be filled. So the refused operations can be struck from a run, and the
others have the same answers (`journal_accepted`).
-/

namespace Blake2b

namespace Hasher

/-- The operations of a run, each with its answer and the hasher after it. -/
def journal (s : Hasher) (operations : List Operation) :
    List (Operation × Response × Hasher) :=
  operations.zip (s.run operations)

/-- The entry is a finalisation that was not refused. -/
def isClosing (entry : Operation × Response × Hasher) : Bool :=
  entry.1.closes && entry.2.1.isOk

/-- Some finalisation of the run was not refused. -/
def hasClosed (s : Hasher) (operations : List Operation) : Bool :=
  (s.journal operations).any isClosing

/-- The operations of a run that were not refused. -/
def accepted (s : Hasher) (operations : List Operation) : List Operation :=
  ((s.journal operations).filter fun entry => entry.2.1.isOk).map Prod.fst

/-- What an operation has to answer, given the length of the digest and whether
the digest has been given before. A buffer that is refused comes back as it was. -/
def Answers (digestLength : Nat) (closed : Bool) : Operation → Response → Prop
  | .update _, response =>
      response = .updated (if closed then .error .alreadyFinalized else .ok ())
  | .write data, response =>
      response = .written
        (if closed then .error (.ofFault .alreadyFinalized) else .ok data.length)
  | .flush, response => response = .flushed (.ok ())
  | .finalize, response =>
      if closed then response = .digest (.error .alreadyFinalized)
      else ∃ d, response = .digest (.ok d) ∧ d.length = digestLength
  | .finalizeInto buffer, response =>
      if closed then response = .filled (.error .alreadyFinalized) buffer
      else if buffer.length = 0 ∨ buffer.length > digestLength then
        response = .filled (.error (.outOfRange .outputLength buffer.length)) buffer
      else ∃ output, response = .filled (.ok ()) output ∧ output.length = buffer.length
  | .setCounter _, response => response = .counterSet

@[simp] theorem journal_nil (s : Hasher) : s.journal [] = [] := rfl

theorem journal_cons (s : Hasher) (operation : Operation) (rest : List Operation) :
    s.journal (operation :: rest) =
      (operation, s.perform operation) :: (s.perform operation).2.journal rest := rfl

theorem hasClosed_cons (s : Hasher) (operation : Operation) (rest : List Operation) :
    s.hasClosed (operation :: rest) =
      (isClosing (operation, s.perform operation) ||
        (s.perform operation).2.hasClosed rest) := rfl

theorem run_append (s : Hasher) (front back : List Operation) :
    s.run (front ++ back) = s.run front ++ (s.after front).run back := by
  induction front generalizing s with
  | nil => rfl
  | cons operation front ih =>
      rw [List.cons_append, run_cons, run_cons, ih, after_cons, List.cons_append]

/-- One operation makes the phase final exactly if it is a closing one. -/
theorem isFinalized_add_isClosing (s : Hasher) (operation : Operation) :
    s.isFinalized.toNat + (isClosing (operation, s.perform operation)).toNat =
      (s.perform operation).2.isFinalized.toNat := by
  rcases s.perform_cases operation with ⟨-, hok, hsame⟩ | ⟨haccepts, hok, heffect⟩
  · rw [isClosing, hok, hsame, Bool.and_false]
    rfl
  · rw [isClosing, hok, heffect, Bool.and_true]
    rw [isFinalized_effect]
    cases hcloses : operation.closes with
    | true =>
        rw [isFinalized_of_accepts haccepts (.inr hcloses)]
        rfl
    | false =>
        cases hfeeds : operation.feeds with
        | true =>
            rw [isFinalized_of_accepts haccepts (.inl hfeeds)]
            rfl
        | false => rfl

/-- Over a run the phase becomes final as often as a finalisation is not
refused. -/
theorem isFinalized_add_closings (s : Hasher) (operations : List Operation) :
    s.isFinalized.toNat + (s.journal operations).countP isClosing =
      (s.after operations).isFinalized.toNat := by
  induction operations generalizing s with
  | nil => rfl
  | cons operation rest ih =>
      have hstep := s.isFinalized_add_isClosing operation
      have hrest := ih (s.perform operation).2
      rw [journal_cons, List.countP_cons, after_cons, ← hrest, ← hstep]
      cases isClosing (operation, s.perform operation) with
      | false => simp
      | true => simp; omega

theorem isFinalized_after {s : Hasher} (h : s.isFinalized = false)
    (operations : List Operation) :
    (s.after operations).isFinalized = s.hasClosed operations := by
  have hcount := s.isFinalized_add_closings operations
  rw [h, Bool.toNat_false, Nat.zero_add] at hcount
  rw [Bool.eq_iff_iff, hasClosed, List.any_eq_true, ← List.countP_pos_iff, hcount]
  cases (s.after operations).isFinalized with
  | false => simp
  | true => simp

theorem countP_isClosing_le (s : Hasher) (operations : List Operation) :
    (s.journal operations).countP isClosing ≤ 1 := by
  have hcount := s.isFinalized_add_closings operations
  have hle := (s.after operations).isFinalized.toNat_le
  omega

/-- As long as the phase is not final, it tells whether data was handed in. -/
theorem phase_perform {s : Hasher} {operation : Operation}
    (h : (s.perform operation).2.isFinalized = false) :
    (s.perform operation).2.phase =
      if operation.feeds then .absorbing else s.phase := by
  rcases s.perform_cases operation with ⟨hrefused, -, hsame⟩ | ⟨-, -, heffect⟩
  · rw [hsame] at h ⊢
    cases operation with
    | update data => simp [accepts, h] at hrefused
    | write data => simp [accepts, h] at hrefused
    | flush => rfl
    | finalize => rfl
    | finalizeInto buffer => rfl
    | setCounter t => rfl
  · rw [heffect] at h ⊢
    rw [isFinalized_effect, Bool.or_eq_false_iff] at h
    rw [phase_effect, h.1]
    rfl

theorem phase_after {s : Hasher} {operations : List Operation}
    (h : (s.after operations).isFinalized = false) :
    (s.after operations).phase =
      if operations.any Operation.feeds then .absorbing else s.phase := by
  induction operations generalizing s with
  | nil => rfl
  | cons operation rest ih =>
      have hcount := (s.perform operation).2.isFinalized_add_closings rest
      rw [← after_cons, h, Bool.toNat_false] at hcount
      have hnext : (s.perform operation).2.isFinalized = false :=
        Bool.toNat_eq_zero.1 (by omega)
      rw [after_cons, ih h, phase_perform hnext, List.any_cons]
      cases operation.feeds with
      | false => rfl
      | true => simp

/-- Every answer is the one that the phase calls for. -/
theorem answers_perform (s : Hasher) (h : s.digestLength ≤ maxDigestLength)
    (operation : Operation) :
    Answers s.digestLength s.isFinalized operation (s.perform operation).1 := by
  rw [perform_eq]
  cases operation with
  | update data => rfl
  | write data => rfl
  | flush => rfl
  | finalize =>
      simp only [Answers, answer]
      cases s.isFinalized with
      | true => rfl
      | false => exact ⟨_, rfl, rfl⟩
  | finalizeInto buffer =>
      simp only [Answers, answer]
      cases s.isFinalized with
      | true => rfl
      | false =>
          cases hbuffer : s.fillable buffer with
          | false =>
              rw [fillable_eq_false_iff] at hbuffer
              rw [if_neg (by decide), if_pos hbuffer]
              rfl
          | true =>
              rw [fillable, decide_eq_true_iff] at hbuffer
              rw [if_neg (by decide), if_neg (by omega)]
              refine ⟨_, rfl, ?_⟩
              rw [Storage.slice_zero, Storage.length_take_toList _ (by omega)]
  | setCounter t => rfl

theorem accepted_cons (s : Hasher) (operation : Operation) (rest : List Operation) :
    s.accepted (operation :: rest) =
      if (s.perform operation).1.isOk then
        operation :: (s.perform operation).2.accepted rest
      else (s.perform operation).2.accepted rest := by
  rw [accepted, journal_cons, List.filter_cons]
  split
  · rfl
  · rfl

/-- Striking the refused operations from a run strikes their entries from the
journal and changes no other entry. -/
theorem journal_accepted (s : Hasher) (operations : List Operation) :
    s.journal (s.accepted operations) =
      (s.journal operations).filter fun entry => entry.2.1.isOk := by
  induction operations generalizing s with
  | nil => rfl
  | cons operation rest ih =>
      rw [accepted_cons, journal_cons, List.filter_cons]
      cases hok : (s.perform operation).1.isOk with
      | false =>
          -- nothing has changed, so the rest runs from the same hasher
          rw [perform_of_refused hok]
          exact ih s
      | true =>
          have hrest := ih (s.perform operation).2
          exact congrArg ((operation, s.perform operation) :: ·) hrest

theorem after_accepted (s : Hasher) (operations : List Operation) :
    s.after (s.accepted operations) = s.after operations := by
  induction operations generalizing s with
  | nil => rfl
  | cons operation rest ih =>
      rw [accepted_cons, after_cons]
      cases hok : (s.perform operation).1.isOk with
      | false =>
          rw [perform_of_refused hok]
          exact ih s
      | true => exact ih (s.perform operation).2

/-- Every operation of a run answers as the run before it calls for, and a refused
one changes nothing. At most one finalisation is not refused; the phase tells
whether there was one and whether data was handed in. Without its refused
operations the run gives the same answers and ends in the same hasher. -/
theorem lifecycle_of_run (s : Hasher) (h : Constructed s) (operations : List Operation) :
    (∀ front operation back, operations = front ++ operation :: back →
      let before := s.after front
      let answer := before.perform operation
      s.run operations = s.run front ++ answer :: answer.2.run back ∧
        Answers s.digestLength (s.hasClosed front) operation answer.1 ∧
        (answer.1.isOk = false → answer.2 = before)) ∧
    (s.journal operations).countP isClosing ≤ 1 ∧
    (s.after operations).phase =
      (if s.hasClosed operations then .finalized
        else if operations.any Operation.feeds then .absorbing else .fresh) ∧
    s.journal (s.accepted operations) =
      (s.journal operations).filter (fun entry => entry.2.1.isOk) ∧
    s.after (s.accepted operations) = s.after operations := by
  have hopen : s.isFinalized = false := isFinalized_of_ne h.phase_ne
  refine ⟨?_, s.countP_isClosing_le operations, ?_, s.journal_accepted operations,
    s.after_accepted operations⟩
  · rintro front operation back rfl
    have hlength := s.digestLength_after front
    have hanswers := (s.after front).answers_perform (hlength ▸ h.digestLength_le) operation
    rw [hlength, isFinalized_after hopen] at hanswers
    exact ⟨by rw [run_append, run_cons], hanswers, perform_of_refused⟩
  · rw [← isFinalized_after hopen]
    cases hfinal : (s.after operations).isFinalized with
    | true => simpa [isFinalized] using hfinal
    | false =>
        rw [phase_after hfinal, h.phase_eq]
        rfl

/-- A buffer that is one byte too long is refused, and comes back as it was; the
run goes on as if nothing had been asked. -/
theorem lifecycle_of_run_long_buffer :
    let c : Setup := ⟨32, some [1, 2, 3], none, none⟩
    let buffer : Bytes := List.replicate 33 0xee
    let operations : List Operation :=
      [.finalizeInto buffer, .write [], .finalize, .update [1]]
    ∃ s, c.hasher = .ok s ∧
      s.perform (.finalizeInto buffer) =
        (.filled (.error (.outOfRange .outputLength 33)) buffer, s) ∧
      (s.journal operations).countP isClosing ≤ 1 ∧
      s.after (s.accepted operations) = s.after operations := by
  intro c buffer operations
  obtain ⟨s, hs⟩ := Setup.exists_hasher (c := c) (by decide) (by decide) (by decide) (by decide)
  have hlength : s.digestLength = 32 := digestLength_of_hasher hs
  obtain ⟨hsteps, hcount, -, -, hafter⟩ := lifecycle_of_run s (.ofSetup hs) operations
  obtain ⟨-, hanswer, hsame⟩ := hsteps [] (.finalizeInto buffer) _ rfl
  rw [hlength] at hanswer
  have hrefused : (s.perform (.finalizeInto buffer)).1 =
      .filled (.error (.outOfRange .outputLength 33)) buffer := hanswer
  refine ⟨s, hs, Prod.ext hrefused (hsame ?_), hcount, hafter⟩
  rw [after_nil, hrefused]
  rfl

end Hasher

end Blake2b
