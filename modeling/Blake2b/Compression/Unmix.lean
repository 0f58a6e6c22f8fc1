import Blake2b.Compression.Mix
/-!
# Undoing the rounds

Every step of mixing can be undone by one that knows the message words: a sum
by a difference, a rotation right by one left, an xor by itself. `unmix` undoes
`mix` in reverse order, and so on up to all rounds; the diagonals are undone
before the columns, and the last round first.
-/

namespace Blake2b.Compression

/-- Rotates a word left by `k` places, for `0 < k < 64`. -/
def rotateLeft (x k : UInt64) : UInt64 := (x <<< k) ||| (x >>> (64 - k))

def Quad.unhalf (q : Quad) (x r s : UInt64) : Quad :=
  let b := rotateLeft q.b s ^^^ q.c
  let c := q.c - q.d
  let d := rotateLeft q.d r ^^^ q.a
  let a := q.a - x - b
  ⟨a, b, c, d⟩

def Quad.unmix (q : Quad) (x y : UInt64) : Quad :=
  (q.unhalf y 16 63).unhalf x 32 24

def unmixAt (v : Work) (i j k l : Fin 16) (x y : UInt64) : Work :=
  putQuad v i j k l ((quadAt v i j k l).unmix x y)

/-- Undoes one step of a round. -/
def unmixStep (m : Work) (s : Order) (step : Step) (v : Work) : Work :=
  unmixAt v step.a step.b step.c step.d (wordAt m s step.x) (wordAt m s step.y)

/-- Undoes the steps of the columns, the last of them first. -/
def uncolumns (m : Work) (s : Order) (v : Work) : Work :=
  columnSteps.foldr (unmixStep m s) v

/-- Undoes the steps of the diagonals, the last of them first. -/
def undiagonals (m : Work) (s : Order) (v : Work) : Work :=
  diagonalSteps.foldr (unmixStep m s) v

def unround (m : Work) (s : Order) (v : Work) : Work :=
  uncolumns m s (undiagonals m s v)

/-- Undoes the first `n` rounds, the last of them first. -/
def undoRounds (m : Work) : Nat → Work → Work
  | 0, v => v
  | n + 1, v => undoRounds m n (unround m (order n) v)

@[simp] theorem undoRounds_zero (m v : Work) : undoRounds m 0 v = v := rfl

theorem undoRounds_succ (m : Work) (n : Nat) (v : Work) :
    undoRounds m (n + 1) v = undoRounds m n (unround m (order n) v) := rfl

end Blake2b.Compression
