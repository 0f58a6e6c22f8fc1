import Blake2b.Proofs.Counting
import Blake2b.Proofs.Lifecycle
import Blake2b.Proofs.Wiping
/-!
# Only lengths show

Outside the bytes of the digest, what a caller can see of a hasher is its outline: the
phase, the length of the digest, the counter, and how much is held. An outline can be
run on its own. It takes the shapes of operations, which are their kinds and lengths,
and gives the shapes of answers, the outlines in between and the counters and flags of
the frames that are compressed; no byte of a key or a message is ever at hand in it.

The main lemma is `transcript_eq`: the transcript of a hasher is that of its outline.
So two runs whose operations have the same shapes cannot be told apart, and it does not
take a comparison of the two runs to see it.
-/

namespace Blake2b

/-- An operation without the bytes it carries. -/
inductive Operation.Shape where
  | update (length : Nat)
  | write (length : Nat)
  | flush
  | finalize
  | finalizeInto (length : Nat)
  | setCounter (t : Counter)
deriving DecidableEq

def Operation.shape : Operation → Operation.Shape
  | update data => .update data.length
  | write data => .write data.length
  | flush => .flush
  | finalize => .finalize
  | finalizeInto buffer => .finalizeInto buffer.length
  | setCounter t => .setCounter t

/-- An answer without the bytes it carries. -/
inductive Response.Shape where
  | updated (outcome : Except Fault Unit)
  | written (outcome : Except Failure Nat)
  | flushed (outcome : Except Failure Unit)
  | digest (outcome : Except Fault Nat)
  | filled (outcome : Except Fault Unit) (length : Nat)
  | counterSet

def Response.shape : Response → Response.Shape
  | updated outcome => .updated outcome
  | written outcome => .written outcome
  | flushed outcome => .flushed outcome
  | digest outcome => .digest (outcome.map fun d => d.toBytes.length)
  | filled outcome buffer => .filled outcome buffer.length
  | counterSet => .counterSet

/-- What of a hasher depends on lengths alone. -/
structure Outline where
  phase : Phase
  digestLength : Nat
  counter : Counter
  buffered : Nat
  flags : Flags
  lastNode : Bool

/-- What shows of one operation: its answer, the hasher after it, and the counters and
flags of the frames that it compressed. -/
structure Entry where
  answer : Response.Shape
  after : Outline
  compressed : List (Counter × Flags)

namespace Outline

def isFinalized (o : Outline) : Bool := o.phase = .finalized

/-- Whether an operation of this shape is made, and not refused. -/
def accepts (o : Outline) : Operation.Shape → Bool
  | .update _ | .write _ | .finalize => !o.isFinalized
  | .finalizeInto length => !o.isFinalized && decide (0 < length ∧ length ≤ o.digestLength)
  | .flush | .setCounter _ => true

/-- The number of blocks that are given out when so many bytes arrive. -/
def blocks (o : Outline) (length : Nat) : Nat := Message.innerCount (o.buffered + length)

def effect (o : Outline) : Operation.Shape → Outline
  | .update length | .write length =>
      { o with
        counter := Counter.ofNat (o.counter.toNat + 128 * o.blocks length)
        buffered := o.buffered + length - 128 * o.blocks length
        phase := .absorbing }
  | .flush => o
  | .finalize | .finalizeInto _ =>
      { o with counter := .zero, buffered := 0, flags := .lowered, phase := .finalized }
  | .setCounter t => { o with counter := t }

def next (o : Outline) (shape : Operation.Shape) : Outline :=
  if o.accepts shape then o.effect shape else o

def answer (o : Outline) : Operation.Shape → Response.Shape
  | .update _ => .updated (if o.isFinalized then .error .alreadyFinalized else .ok ())
  | .write length =>
      .written (if o.isFinalized then .error (.ofFault .alreadyFinalized) else .ok length)
  | .flush => .flushed (.ok ())
  | .finalize =>
      .digest (if o.isFinalized then .error .alreadyFinalized else .ok o.digestLength)
  | .finalizeInto length =>
      .filled
        (if o.isFinalized then .error .alreadyFinalized
          else if length = 0 ∨ length > o.digestLength then
            .error (.outOfRange .outputLength length)
          else .ok ())
        length
  | .setCounter _ => .counterSet

/-- The counter and flags of the last frame. -/
def lastMark (o : Outline) : Counter × Flags :=
  (o.counter.add o.buffered.toUInt64,
    { lastBlock := Flags.raised
      lastNode := if o.lastNode then Flags.raised else o.flags.lastNode })

/-- The counters and flags of the frames that an operation of this shape compresses
if it is accepted. -/
def marksOfEffect (o : Outline) : Operation.Shape → List (Counter × Flags)
  | .update length | .write length =>
      (List.range (o.blocks length)).map fun i =>
        (Counter.ofNat (o.counter.toNat + 128 * (i + 1)), o.flags)
  | .finalize | .finalizeInto _ => [o.lastMark]
  | .flush | .setCounter _ => []

def marks (o : Outline) (shape : Operation.Shape) : List (Counter × Flags) :=
  if o.accepts shape then o.marksOfEffect shape else []

def transcript (o : Outline) : List Operation.Shape → List Entry
  | [] => []
  | shape :: rest =>
      ⟨o.answer shape, o.next shape, o.marks shape⟩ :: (o.next shape).transcript rest

end Outline

namespace Hasher

def outline (s : Hasher) : Outline where
  phase := s.phase
  digestLength := s.digestLength
  counter := s.counter
  buffered := s.buffered
  flags := s.intake.flags
  lastNode := s.intake.lastNode

/-- What shows of a run, operation by operation. -/
def transcript (s : Hasher) : List Operation → List Entry
  | [] => []
  | operation :: rest =>
      ⟨(s.perform operation).1.shape, (s.perform operation).2.outline,
          (s.framesOf operation).map Frame.mark⟩ ::
        (s.perform operation).2.transcript rest

theorem accepts_outline (s : Hasher) (operation : Operation) :
    s.outline.accepts operation.shape = s.accepts operation := by
  cases operation with
  | update data => rfl
  | write data => rfl
  | flush => rfl
  | finalize => rfl
  | finalizeInto buffer => rfl
  | setCounter t => rfl

/-- Absorbing data does to the outline what its length says. -/
theorem outline_absorb {s : Hasher} (h : s.intake.held ≤ blockLength) (data : Bytes) :
    { s.absorb data with phase := .absorbing }.outline =
      s.outline.effect (.update data.length) := by
  obtain ⟨hflags, hlastNode⟩ := s.intake.flags_absorb data
  have hcounter := s.intake.counter_absorb data h
  have hheld := s.intake.held_absorb data h
  simp only [outline, absorb, counter, buffered, hflags, hlastNode, hcounter, hheld]
  rfl

theorem outline_effect {s : Hasher} (h : s.intake.held ≤ blockLength) (operation : Operation) :
    (s.effect operation).outline = s.outline.effect operation.shape := by
  have hclosed : s.finish.wipeStaging.outline = s.outline.effect .finalize := by
    simp only [outline, wipeStaging, finish, wipeWorking, stage]
    rfl
  cases operation with
  | update data => exact outline_absorb h data
  | write data => exact outline_absorb h data
  | flush => rfl
  | finalize => exact hclosed
  | finalizeInto buffer => exact hclosed
  | setCounter t => rfl

theorem outline_perform {s : Hasher} (h : s.intake.held ≤ blockLength) (operation : Operation) :
    (s.perform operation).2.outline = s.outline.next operation.shape := by
  rw [Outline.next, accepts_outline]
  rcases s.perform_cases operation with ⟨hrefused, -, hsame⟩ | ⟨haccepts, -, heffect⟩
  · rw [hsame, hrefused]
    rfl
  · rw [heffect, haccepts, outline_effect h]
    rfl

theorem shape_perform {s : Hasher} (h : s.digestLength ≤ maxDigestLength)
    (operation : Operation) :
    (s.perform operation).1.shape = s.outline.answer operation.shape := by
  have hanswers := s.answers_perform h operation
  have hclosed : s.outline.isFinalized = s.isFinalized := rfl
  have hdigestLength : s.outline.digestLength = s.digestLength := rfl
  cases operation with
  | update data =>
      simp only [Answers] at hanswers
      rw [hanswers]
      rfl
  | write data =>
      simp only [Answers] at hanswers
      rw [hanswers]
      rfl
  | flush => rfl
  | finalize =>
      simp only [Answers] at hanswers
      simp only [Operation.shape, Outline.answer, hclosed]
      by_cases hfinal : s.isFinalized = true
      · rw [if_pos hfinal] at hanswers ⊢
        rw [hanswers]
        rfl
      · rw [if_neg hfinal] at hanswers ⊢
        obtain ⟨d, hd, hlength⟩ := hanswers
        have hbytes : d.toBytes.length = s.digestLength :=
          (Digest.length_toBytes (hlength ▸ h)).trans hlength
        rw [hd, hdigestLength, ← hbytes]
        rfl
  | finalizeInto buffer =>
      simp only [Answers] at hanswers
      simp only [Operation.shape, Outline.answer, hclosed, hdigestLength]
      by_cases hfinal : s.isFinalized = true
      · rw [if_pos hfinal] at hanswers ⊢
        rw [hanswers]
        rfl
      · rw [if_neg hfinal] at hanswers ⊢
        by_cases hrange : buffer.length = 0 ∨ buffer.length > s.digestLength
        · rw [if_pos hrange] at hanswers ⊢
          rw [hanswers]
          rfl
        · rw [if_neg hrange] at hanswers ⊢
          obtain ⟨output, houtput, hlength⟩ := hanswers
          rw [houtput, ← hlength]
          rfl
  | setCounter t => rfl

theorem marks_framesOf {s : Hasher} (h : s.intake.held ≤ blockLength) (operation : Operation) :
    (s.framesOf operation).map Frame.mark = s.outline.marks operation.shape := by
  rw [Outline.marks, accepts_outline]
  cases haccepts : s.accepts operation with
  | false =>
      rw [framesOf_of_refused haccepts]
      rfl
  | true =>
      cases operation with
      | update data =>
          rw [framesOf_of_feeds (.inl rfl) haccepts]
          exact s.intake.marks_absorb data h
      | write data =>
          rw [framesOf_of_feeds (.inr rfl) haccepts]
          exact s.intake.marks_absorb data h
      | flush => rfl
      | finalize =>
          rw [framesOf_of_closes rfl haccepts]
          rfl
      | finalizeInto buffer =>
          rw [framesOf_of_closes rfl haccepts]
          rfl
      | setCounter t => rfl

/-- The transcript of a hasher is that of its outline. -/
theorem transcript_eq {s : Hasher} (h : s.InRange) (operations : List Operation) :
    s.transcript operations = s.outline.transcript (operations.map Operation.shape) := by
  induction operations generalizing s with
  | nil => rfl
  | cons operation rest ih =>
      rw [transcript, List.map_cons, Outline.transcript, shape_perform h.digestLength_le,
        marks_framesOf h.held_le, ih (h.perform operation), outline_perform h.held_le]

end Hasher

namespace Setup

/-- The outline that a run begins with: of the key it shows that there is one, of the
salt and the personalization nothing. -/
theorem outline_of_hasher {c : Setup} {s : Hasher} (h : c.hasher = .ok s) :
    s.outline =
      { phase := .fresh
        digestLength := c.digestLength
        counter := .zero
        buffered := if c.key.isSome then 128 else 0
        flags := .lowered
        lastNode := false } := by
  obtain ⟨p, hp, hs⟩ := hasher_eq_ok h
  obtain ⟨-, -, hkeyLength, hdigestLength⟩ := Parameters.of_sequential_eq_ok hp
  have hempty : Intake.empty.held ≤ blockLength := Nat.zero_le _
  have hlength : Intake.empty.held + c.opening.length = if c.key.isSome then 128 else 0 := by
    rw [← length_opening hkeyLength]
    exact Nat.zero_add _
  have hnone : Message.innerCount (if c.key.isSome then 128 else 0) = 0 := by
    split
    · rfl
    · rfl
  have hcounter := Intake.empty.counter_absorb c.opening hempty
  have hheld := Intake.empty.held_absorb c.opening hempty
  obtain ⟨hflags, hlastNode⟩ := Intake.empty.flags_absorb c.opening
  rw [hlength, hnone] at hcounter hheld
  simp only [hs, Hasher.outline, Hasher.absorb, Hasher.counter, Hasher.buffered,
    Hasher.ofParameters, hcounter, hheld, hflags, hlastNode, hdigestLength]
  rfl

theorem inRange_of_hasher {c : Setup} {s : Hasher} (h : c.hasher = .ok s) : s.InRange :=
  (Hasher.Constructed.ofSetup h).inRange

/-- Two runs of one shape show the same. The setups may differ in the bytes and in the
length of the key, in the salt and in the personalization, and the operations in every
byte that they carry. To construct the hashers nothing is compressed, and what any
operation of a run compresses accounts for all that it does. -/
theorem transcript_eq_of_shape (c d : Setup) (s t : Hasher)
    (hs : c.hasher = .ok s) (ht : d.hasher = .ok t)
    (hform : c.key.isSome = d.key.isSome) (hlength : c.digestLength = d.digestLength)
    (operations others : List Operation)
    (hshape : operations.map Operation.shape = others.map Operation.shape) :
    c.recordedHasher = ⟨[], .ok s⟩ ∧ d.recordedHasher = ⟨[], .ok t⟩ ∧
      s.outline = t.outline ∧ s.transcript operations = t.transcript others ∧
      ∀ front operation,
        (s.after front).Accounts operation ∧ (t.after front).Accounts operation := by
  have houtline : s.outline = t.outline := by
    rw [outline_of_hasher hs, outline_of_hasher ht, hform, hlength]
  have htranscript : s.transcript operations = t.transcript others := by
    calc
      s.transcript operations
          = s.outline.transcript (operations.map Operation.shape) :=
        Hasher.transcript_eq (inRange_of_hasher hs) operations
      _ = t.outline.transcript (others.map Operation.shape) := by rw [houtline, hshape]
      _ = t.transcript others := (Hasher.transcript_eq (inRange_of_hasher ht) others).symm
  exact ⟨by rw [recordedHasher_eq, hs], by rw [recordedHasher_eq, ht], houtline, htranscript,
    fun front operation =>
      ⟨(s.after front).accounts operation, (t.after front).accounts operation⟩⟩

/-- Two keys of different lengths, one of them with a salt. The runs compress a block,
are refused a buffer that is too long, let the low word of the counter wrap, give their
digests and are refused more data. -/
theorem transcript_eq_of_shape_two_keys :
    let c : Setup := ⟨32, some [1], none, none⟩
    let d : Setup := ⟨32, some [2, 3], some (Vector.replicate 16 7), none⟩
    let operations : List Operation :=
      [.update [4], .finalizeInto (List.replicate 33 0), .setCounter ⟨0xffffffffffffffff, 0⟩,
        .write [5, 6], .finalize, .update [7]]
    let others : List Operation :=
      [.update [8], .finalizeInto (List.replicate 33 9), .setCounter ⟨0xffffffffffffffff, 0⟩,
        .write [10, 11], .finalize, .update [12]]
    ∃ s t, c.hasher = .ok s ∧ d.hasher = .ok t ∧ c.key.isSome = d.key.isSome ∧
      c.digestLength = d.digestLength ∧
      operations.map Operation.shape = others.map Operation.shape ∧
      s.transcript operations = t.transcript others ∧
      (s.transcript operations).map Entry.compressed =
        [[(⟨128, 0⟩, .lowered)], [], [], [],
          [(⟨2, 1⟩, ⟨0xffffffffffffffff, 0⟩)], []] := by
  intro c d operations others
  obtain ⟨s, hs⟩ := exists_hasher (c := c) (by decide) (by decide) (by decide) (by decide)
  obtain ⟨t, ht⟩ := exists_hasher (c := d) (by decide) (by decide) (by decide) (by decide)
  have hshape : operations.map Operation.shape = others.map Operation.shape := by decide
  obtain ⟨-, -, -, hsame, -⟩ :=
    transcript_eq_of_shape c d s t hs ht rfl rfl operations others hshape
  refine ⟨s, t, hs, ht, rfl, rfl, hshape, hsame, ?_⟩
  rw [Hasher.transcript_eq (inRange_of_hasher hs), outline_of_hasher hs]
  decide

end Setup

end Blake2b
