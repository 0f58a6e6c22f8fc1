import Blake2b.Compression.Schedule
/-!
# Mixing

The work vector has sixteen words, read as a matrix of four rows. One mixing
step takes two message words into four words of the vector; a round mixes the
four columns and then the four diagonals, in the order of its schedule. The
step itself is on a `Quad` of words, and `mixAt` carries it to four positions of
the vector, so that facts about mixing need no positions and facts about
positions need no arithmetic.
-/

namespace Blake2b.Compression

/-- The sixteen words that the rounds work on. -/
abbrev Work := Vector UInt64 16

/-- Rotates a word right by `k` places, for `0 < k < 64`. -/
def rotateRight (x k : UInt64) : UInt64 := (x >>> k) ||| (x <<< (64 - k))

structure Quad where
  a : UInt64
  b : UInt64
  c : UInt64
  d : UInt64
deriving DecidableEq

/-- Half a mixing step: takes in the word `x`, turning `d` by `r` and `b` by `s`. -/
def Quad.half (q : Quad) (x r s : UInt64) : Quad :=
  let a := q.a + q.b + x
  let d := rotateRight (q.d ^^^ a) r
  let c := q.c + d
  let b := rotateRight (q.b ^^^ c) s
  ⟨a, b, c, d⟩

/-- Takes two message words into four words. -/
def Quad.mix (q : Quad) (x y : UInt64) : Quad :=
  (q.half x 32 24).half y 16 63

def quadAt (v : Work) (i j k l : Fin 16) : Quad := ⟨v[i], v[j], v[k], v[l]⟩

def putQuad (v : Work) (i j k l : Fin 16) (q : Quad) : Work :=
  (((v.set i q.a).set j q.b).set k q.c).set l q.d

def mixAt (v : Work) (i j k l : Fin 16) (x y : UInt64) : Work :=
  putQuad v i j k l ((quadAt v i j k l).mix x y)

/-- The message word at a place of the order. -/
def wordAt (m : Work) (s : Order) (place : Fin 16) : UInt64 := m.get (s.get place)

/-- Makes one step of a round on the message words `m` in the order `s`. -/
def mixStep (m : Work) (s : Order) (v : Work) (step : Step) : Work :=
  mixAt v step.a step.b step.c step.d (wordAt m s step.x) (wordAt m s step.y)

/-- Mixes each column with the first eight message words of the order. -/
def columns (m : Work) (s : Order) (v : Work) : Work :=
  columnSteps.foldl (mixStep m s) v

/-- Mixes each diagonal with the last eight message words of the order. -/
def diagonals (m : Work) (s : Order) (v : Work) : Work :=
  diagonalSteps.foldl (mixStep m s) v

def round (m : Work) (s : Order) (v : Work) : Work :=
  diagonals m s (columns m s v)

def runRounds (m : Work) : Nat → Work → Work
  | 0, v => v
  | n + 1, v => round m (order n) (runRounds m n v)

@[simp] theorem runRounds_zero (m v : Work) : runRounds m 0 v = v := rfl

theorem runRounds_succ (m : Work) (n : Nat) (v : Work) :
    runRounds m (n + 1) v = round m (order n) (runRounds m n v) := rfl

end Blake2b.Compression
