import Blake2b.Hasher
import Blake2b.KnownAnswer.Table
import Blake2b.Log
/-!
# The self check

Every known answer is met twice, once with the message in one piece and once in
pieces whose size depends on its length. The check stops at the first answer
that is not met and logs how it ended. `report` is the check as a command: it
adds the verdict to the log and gives the exit code.
-/

namespace Blake2b.KnownAnswer

/-- A message with the key and the answer it should have. -/
structure Sample where
  key : Bytes
  message : Bytes
  expected : Bytes

/-- The size of the pieces in which a message is handed in. -/
def pieceSize (length : Nat) : Nat := length % 17 + 1

/-- The digest of a message of a sample in one piece. -/
def Sample.whole (sample : Sample) : Except Fault Digest :=
  keyedHash sample.message sample.key maxDigestLength

/-- The digest of a message of a sample in pieces. -/
def Sample.pieced (sample : Sample) : Except Fault Digest :=
  match Hasher.keyed maxDigestLength sample.key none none with
  | .error fault => .error fault
  | .ok s => s.digestOf (pieces (pieceSize sample.message.length) sample.message)

/-- Whether both digests of a sample are the expected one. -/
def Sample.isMet (sample : Sample) : Except Fault Bool := do
  let whole ← sample.whole
  let pieced ← sample.pieced
  return whole.verify sample.expected && pieced.verify sample.expected

def samples : List Sample :=
  answers.zipIdx.map fun (answer, n) =>
    { key := key.toList
      message := (message n).toList.take n
      expected := answer.toList }

/-- Checks samples in order, up to the first that is not met. -/
def checkAll : List Sample → Except Fault Unit × List Log.Event
  | [] =>
      (.ok (), [⟨.debug, "blake2b self-test passed", [("vectors", toString count)]⟩])
  | sample :: rest =>
      match sample.isMet with
      | .error fault => (.error fault, [])
      | .ok true => checkAll rest
      | .ok false =>
          let length := sample.message.length
          (.error (.unexpectedAnswer length),
            [⟨.error, "blake2b known-answer mismatch",
              [("message_length", toString length)]⟩])

def check : Except Fault Unit × List Log.Event := checkAll samples

def verdict : Except Fault Unit → Log.Event
  | .ok () => ⟨.info, "BLAKE2b self-test: PASS", [("vectors", toString count)]⟩
  | .error fault => ⟨.error, "BLAKE2b self-test: FAIL", [("error", fault.message)]⟩

def exitCode : Except Fault Unit → UInt32
  | .ok () => 0
  | .error _ => 1

/-- The check as a command: its exit code, and the lines it shows. -/
def report (threshold : Log.Threshold) : UInt32 × List String :=
  let checked := check
  (exitCode checked.1, threshold.lines (checked.2 ++ [verdict checked.1]))

end Blake2b.KnownAnswer
