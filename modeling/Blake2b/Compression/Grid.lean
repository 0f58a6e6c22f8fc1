import Blake2b.Compression.Schedule
import Blake2b.Frame
/-!
# Compression on a grid of numbers

The compression function once more, in the form in which it is specified: on a
grid of four rows of four numbers below `2 ^ 64`. A round mixes all columns at
once, turns row `i` left by `i` places so that the diagonals stand in columns,
mixes all columns again, and turns the rows back. Words are numbers here, sums
are taken modulo `2 ^ 64`, and a rotation moves the low digits to the top; there
is no scratch storage and no position is ever written to.
-/

namespace Blake2b.Compression

def sum (x y : Nat) : Nat := (x + y) % UInt64.size

/-- Rotation right by `k` places: the low `k` bits go to the top. -/
def rotr (x k : Nat) : Nat :=
  x / Nat.pow 2 k + x % Nat.pow 2 k * Nat.pow 2 (64 - k)

structure Column where
  a : Nat
  b : Nat
  c : Nat
  d : Nat

/-- Mixes two message words into a column. -/
def Column.mix (q : Column) (x y : Nat) : Column :=
  let a := sum (sum q.a q.b) x
  let d := rotr (q.d ^^^ a) 32
  let c := sum q.c d
  let b := rotr (q.b ^^^ c) 24
  let a := sum (sum a b) y
  let d := rotr (d ^^^ a) 16
  let c := sum c d
  let b := rotr (b ^^^ c) 63
  ⟨a, b, c, d⟩

abbrev Row := Vector Nat 4

/-- Turns a row left by `k` places. -/
def turnLeft (row : Row) (k : Nat) : Row :=
  Vector.ofFn fun j => row.get (Fin.ofNat 4 (j.val + k))

/-- Turns a row right by `k` places, for `k ≤ 4`. -/
def turnRight (row : Row) (k : Nat) : Row := turnLeft row (4 - k)

/-- Four rows of four numbers. -/
structure Grid where
  row0 : Row
  row1 : Row
  row2 : Row
  row3 : Row

namespace Grid

def column (g : Grid) (j : Fin 4) : Column := ⟨g.row0[j], g.row1[j], g.row2[j], g.row3[j]⟩

def ofColumns (columns : Fin 4 → Column) : Grid where
  row0 := Vector.ofFn fun j => (columns j).a
  row1 := Vector.ofFn fun j => (columns j).b
  row2 := Vector.ofFn fun j => (columns j).c
  row3 := Vector.ofFn fun j => (columns j).d

/-- Mixes a pair of words into each column, all columns at once. -/
def mixColumns (g : Grid) (words : Fin 4 → Nat × Nat) : Grid :=
  ofColumns fun j => (g.column j).mix (words j).1 (words j).2

/-- Turns row `i` left by `i` places. -/
def turn (g : Grid) : Grid :=
  ⟨g.row0, turnLeft g.row1 1, turnLeft g.row2 2, turnLeft g.row3 3⟩

/-- Turns row `i` right by `i` places. -/
def turnBack (g : Grid) : Grid :=
  ⟨g.row0, turnRight g.row1 1, turnRight g.row2 2, turnRight g.row3 3⟩

/-- One round on the message words `m` in the order `s`. -/
def round (m : Vector Nat 16) (s : Order) (g : Grid) : Grid :=
  let columns := g.mixColumns fun j =>
    (m[s[2 * j.val]], m[s[2 * j.val + 1]])
  let diagonals := columns.turn.mixColumns fun j =>
    (m[s[8 + 2 * j.val]], m[s[8 + 2 * j.val + 1]])
  diagonals.turnBack

/-- The first `n` rounds. Round `r` takes the message words in order `r % 10`. -/
def runRounds (m : Vector Nat 16) : Nat → Grid → Grid
  | 0, g => g
  | n + 1, g => (g.runRounds m n).round m (sigma.get ⟨n % 10, Nat.mod_lt n (by decide)⟩)

def numbers (g : Grid) : Vector Nat 16 := g.row0 ++ g.row1 ++ g.row2 ++ g.row3

def start (h : Vector Nat 8) (t : Counter) (f : Flags) : Grid where
  row0 := #v[h[0], h[1], h[2], h[3]]
  row1 := #v[h[4], h[5], h[6], h[7]]
  row2 := #v[iv[0].toNat, iv[1].toNat, iv[2].toNat, iv[3].toNat]
  row3 :=
    #v[iv[4].toNat ^^^ t.low.toNat, iv[5].toNat ^^^ t.high.toNat,
       iv[6].toNat ^^^ f.lastBlock.toNat, iv[7].toNat ^^^ f.lastNode.toNat]

end Grid

def messageNumbers (block : Block) : Vector Nat 16 :=
  Vector.ofFn fun i => LittleEndian.digitsValue ((block.toList.drop (8 * i.val)).take 8)

/-- Compression of a frame into a chaining value, both as numbers: twelve rounds. -/
def compressNumbers (h : Vector Nat 8) (frame : Frame) : Vector Nat 8 :=
  let v := ((Grid.start h frame.counter frame.flags).runRounds
    (messageNumbers frame.block) 12).numbers
  Vector.ofFn fun i => h[i] ^^^ v[i.val] ^^^ v[i.val + 8]

end Blake2b.Compression
