import Blake2b.Stream.Sink
/-!
# Operations as data

The operations on a hasher as values, so that whole runs can be spoken of.
`perform` makes one operation; `run` makes a list of them in order, each on what
the one before left behind, also when that one was refused.
-/

namespace Blake2b

inductive Operation where
  | update (data : Bytes)
  | write (data : Bytes)
  | flush
  | finalize
  | finalizeInto (buffer : Bytes)
  | setCounter (t : Counter)

inductive Response where
  | updated (outcome : Except Fault Unit)
  | written (outcome : Except Failure Nat)
  | flushed (outcome : Except Failure Unit)
  | digest (outcome : Except Fault Digest)
  | filled (outcome : Except Fault Unit) (buffer : Bytes)
  | counterSet

/-- Whether the operation was made, and not refused. -/
def Response.isOk : Response → Bool
  | updated outcome => outcome.isOk
  | written outcome => outcome.isOk
  | flushed outcome => outcome.isOk
  | digest outcome => outcome.isOk
  | filled outcome _ => outcome.isOk
  | counterSet => true

namespace Hasher

def perform (s : Hasher) : Operation → Response × Hasher
  | .update data => ((.updated (s.update data).1), (s.update data).2)
  | .write data => ((.written (s.write data).1), (s.write data).2)
  | .flush => ((.flushed s.flush.1), s.flush.2)
  | .finalize => ((.digest s.finalize.1), s.finalize.2)
  | .finalizeInto buffer =>
      let done := s.finalizeInto buffer
      (.filled done.1 done.2.1, done.2.2)
  | .setCounter t => (.counterSet, s.setCounter t)

/-- Makes operations in order and gives each answer with the hasher after it. -/
def run (s : Hasher) : List Operation → List (Response × Hasher)
  | [] => []
  | operation :: rest =>
      let next := s.perform operation
      next :: next.2.run rest

/-- The hasher after operations made in order. -/
def after (s : Hasher) : List Operation → Hasher
  | [] => s
  | operation :: rest => (s.perform operation).2.after rest

@[simp] theorem run_nil (s : Hasher) : s.run [] = [] := rfl

theorem run_cons (s : Hasher) (operation : Operation) (rest : List Operation) :
    s.run (operation :: rest) =
      s.perform operation :: (s.perform operation).2.run rest := rfl

@[simp] theorem after_nil (s : Hasher) : s.after [] = s := rfl

theorem after_cons (s : Hasher) (operation : Operation) (rest : List Operation) :
    s.after (operation :: rest) = (s.perform operation).2.after rest := rfl

theorem after_append (s : Hasher) (front back : List Operation) :
    s.after (front ++ back) = (s.after front).after back := by
  induction front generalizing s with
  | nil => rfl
  | cons operation front ih => rw [List.cons_append, after_cons, after_cons, ih]

end Hasher

end Blake2b
