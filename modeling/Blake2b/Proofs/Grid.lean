import Blake2b.Proofs.LittleEndian
import Blake2b.Proofs.Mix
import Blake2b.Proofs.Workspace
/-!
# Compression in place is compression on the grid

The work vector is a grid of four rows, one behind the other. A mixing step works
in place on four words of it, and the steps of a round are made one after the
other. On the grid, all columns are mixed at once, and the diagonals are columns
of the grid with its rows turned. The two agree because the four columns have no
place in common, and neither have the four diagonals: each step finds the words
that the vector held before any of them (`columnAt_columns`, `diagonalAt_diagonals`).

Words become numbers in `numbers_mix`; what a round adds to it is about places alone.
-/

namespace Blake2b.Compression

/-- The numbers of four words. -/
def Quad.numbers (q : Quad) : Column := ⟨q.a.toNat, q.b.toNat, q.c.toNat, q.d.toNat⟩

/-- Mixing words is mixing their numbers. -/
theorem Quad.numbers_mix (q : Quad) (x y : UInt64) :
    (q.mix x y).numbers = q.numbers.mix x.toNat y.toNat := by
  have h32 (x : UInt64) : (rotateRight x 32).toNat = rotr x.toNat 32 :=
    toNat_rotateRight x (by decide) (by decide)
  have h24 (x : UInt64) : (rotateRight x 24).toNat = rotr x.toNat 24 :=
    toNat_rotateRight x (by decide) (by decide)
  have h16 (x : UInt64) : (rotateRight x 16).toNat = rotr x.toNat 16 :=
    toNat_rotateRight x (by decide) (by decide)
  have h63 (x : UInt64) : (rotateRight x 63).toNat = rotr x.toNat 63 :=
    toNat_rotateRight x (by decide) (by decide)
  simp only [mix, half, numbers, Column.mix, UInt64.toNat_add, UInt64.toNat_xor, h32, h24, h16,
    h63]
  rfl

/-- Place `p` of the work vector or of an order, for `p < 16`. -/
def slot (p : Nat) : Fin 16 := ⟨p % 16, Nat.mod_lt p (by decide)⟩

theorem slot_of_lt {p : Nat} (hp : p < 16) : slot p = ⟨p, hp⟩ :=
  Fin.ext (Nat.mod_eq_of_lt hp)

/-- The place of row `i` and column `j`, with the columns counted around. -/
def place (i j : Nat) : Fin 16 := slot (4 * i + j % 4)

theorem place_mod (i j : Nat) : place i (j % 4) = place i j := by
  rw [place, place, Nat.mod_mod]

theorem get_place {α : Type} (v : Vector α 16) {i j p : Nat} (hp : p < 16)
    (h : 4 * i + j % 4 = p) : v.get (place i j) = v[p] := by
  rw [place, h, slot_of_lt hp]
  rfl

def columnAt (v : Work) (j : Nat) : Quad :=
  quadAt v (place 0 j) (place 1 j) (place 2 j) (place 3 j)

def diagonalAt (v : Work) (j : Nat) : Quad :=
  quadAt v (place 0 j) (place 1 (j + 1)) (place 2 (j + 2)) (place 3 (j + 3))

/-- The message words for column `j`, where those for column `0` stand at place `k`. -/
def pairAt (m : Work) (s : Order) (k j : Nat) : UInt64 × UInt64 :=
  (wordAt m s (slot (k + 2 * j)), wordAt m s (slot (k + 2 * j + 1)))

theorem quadAt_mixAt (v : Work) {i j k l : Fin 16} (x y : UInt64) (h : [i, j, k, l].Nodup) :
    quadAt (mixAt v i j k l x y) i j k l = (quadAt v i j k l).mix x y :=
  quadAt_putQuad v i j k l _ h

theorem quadAt_mixAt_of_disjoint (v : Work) {i j k l i' j' k' l' : Fin 16} (x y : UInt64)
    (h : ∀ p ∈ [i', j', k', l'], p ∉ [i, j, k, l]) :
    quadAt (mixAt v i j k l x y) i' j' k' l' = quadAt v i' j' k' l' :=
  quadAt_putQuad_of_disjoint v i j k l _ h

theorem columns_eq (m : Work) (s : Order) (v : Work) :
    columns m s v =
      mixAt
        (mixAt
          (mixAt (mixAt v 0 4 8 12 (wordAt m s 0) (wordAt m s 1))
            1 5 9 13 (wordAt m s 2) (wordAt m s 3))
          2 6 10 14 (wordAt m s 4) (wordAt m s 5))
        3 7 11 15 (wordAt m s 6) (wordAt m s 7) := rfl

theorem diagonals_eq (m : Work) (s : Order) (v : Work) :
    diagonals m s v =
      mixAt
        (mixAt
          (mixAt (mixAt v 0 5 10 15 (wordAt m s 8) (wordAt m s 9))
            1 6 11 12 (wordAt m s 10) (wordAt m s 11))
          2 7 8 13 (wordAt m s 12) (wordAt m s 13))
        3 4 9 14 (wordAt m s 14) (wordAt m s 15) := rfl

/-- The steps of the columns do not meet: each finds its column as it was. -/
theorem columnAt_columns (m : Work) (s : Order) (v : Work) (j : Fin 4) :
    columnAt (columns m s v) j =
      (columnAt v j).mix (pairAt m s 0 j).1 (pairAt m s 0 j).2 := by
  have h0 : quadAt (columns m s v) 0 4 8 12 =
      (quadAt v 0 4 8 12).mix (wordAt m s 0) (wordAt m s 1) := by
    simp (disch := decide) only [columns_eq, quadAt_mixAt, quadAt_mixAt_of_disjoint]
  have h1 : quadAt (columns m s v) 1 5 9 13 =
      (quadAt v 1 5 9 13).mix (wordAt m s 2) (wordAt m s 3) := by
    simp (disch := decide) only [columns_eq, quadAt_mixAt, quadAt_mixAt_of_disjoint]
  have h2 : quadAt (columns m s v) 2 6 10 14 =
      (quadAt v 2 6 10 14).mix (wordAt m s 4) (wordAt m s 5) := by
    simp (disch := decide) only [columns_eq, quadAt_mixAt, quadAt_mixAt_of_disjoint]
  have h3 : quadAt (columns m s v) 3 7 11 15 =
      (quadAt v 3 7 11 15).mix (wordAt m s 6) (wordAt m s 7) := by
    simp (disch := decide) only [columns_eq, quadAt_mixAt, quadAt_mixAt_of_disjoint]
  match j with
  | 0 => exact h0
  | 1 => exact h1
  | 2 => exact h2
  | 3 => exact h3

/-- The steps of the diagonals do not meet either. -/
theorem diagonalAt_diagonals (m : Work) (s : Order) (v : Work) (j : Fin 4) :
    diagonalAt (diagonals m s v) j =
      (diagonalAt v j).mix (pairAt m s 8 j).1 (pairAt m s 8 j).2 := by
  have h0 : quadAt (diagonals m s v) 0 5 10 15 =
      (quadAt v 0 5 10 15).mix (wordAt m s 8) (wordAt m s 9) := by
    simp (disch := decide) only [diagonals_eq, quadAt_mixAt, quadAt_mixAt_of_disjoint]
  have h1 : quadAt (diagonals m s v) 1 6 11 12 =
      (quadAt v 1 6 11 12).mix (wordAt m s 10) (wordAt m s 11) := by
    simp (disch := decide) only [diagonals_eq, quadAt_mixAt, quadAt_mixAt_of_disjoint]
  have h2 : quadAt (diagonals m s v) 2 7 8 13 =
      (quadAt v 2 7 8 13).mix (wordAt m s 12) (wordAt m s 13) := by
    simp (disch := decide) only [diagonals_eq, quadAt_mixAt, quadAt_mixAt_of_disjoint]
  have h3 : quadAt (diagonals m s v) 3 4 9 14 =
      (quadAt v 3 4 9 14).mix (wordAt m s 14) (wordAt m s 15) := by
    simp (disch := decide) only [diagonals_eq, quadAt_mixAt, quadAt_mixAt_of_disjoint]
  match j with
  | 0 => exact h0
  | 1 => exact h1
  | 2 => exact h2
  | 3 => exact h3

theorem getElem_turnLeft (row : Row) (k j : Nat) (hj : j < 4) :
    (turnLeft row k)[j] = row[(j + k) % 4] := by
  rw [turnLeft, Vector.getElem_ofFn]
  rfl

theorem turnLeft_turnLeft (row : Row) (k l : Nat) :
    turnLeft (turnLeft row k) l = turnLeft row (l + k) := by
  apply Vector.ext
  intro j hj
  simp only [getElem_turnLeft, Nat.mod_add_mod, Nat.add_assoc]

theorem turnLeft_four (row : Row) : turnLeft row 4 = row := by
  apply Vector.ext
  intro j hj
  simp only [getElem_turnLeft, Nat.add_mod_right, Nat.mod_eq_of_lt hj]

namespace Grid

/-- The work vector as a grid of numbers, row behind row. -/
def ofWork (v : Work) : Grid where
  row0 := Vector.ofFn fun j => (v.get (place 0 j)).toNat
  row1 := Vector.ofFn fun j => (v.get (place 1 j)).toNat
  row2 := Vector.ofFn fun j => (v.get (place 2 j)).toNat
  row3 := Vector.ofFn fun j => (v.get (place 3 j)).toNat

/-- A grid is known by its columns. -/
theorem ofColumns_column (g : Grid) : ofColumns g.column = g := by
  simp only [ofColumns, column, Fin.getElem_fin, Vector.ofFn_getElem]

theorem turnBack_turn (g : Grid) : g.turn.turnBack = g := by
  simp only [turn, turnBack, turnRight, turnLeft_turnLeft, Nat.reduceSub, Nat.reduceAdd,
    turnLeft_four]

theorem column_ofWork (v : Work) (j : Fin 4) :
    (ofWork v).column j = (columnAt v j).numbers := by
  simp only [column, ofWork, columnAt, Quad.numbers, quadAt_eq, Fin.getElem_fin,
    Vector.getElem_ofFn]

/-- A diagonal of the work vector is a column of the grid with its rows turned. -/
theorem column_turn_ofWork (v : Work) (j : Fin 4) :
    (ofWork v).turn.column j = (diagonalAt v j).numbers := by
  simp only [column, turn, ofWork, diagonalAt, Quad.numbers, quadAt_eq, Fin.getElem_fin,
    getElem_turnLeft, Vector.getElem_ofFn, place_mod]

/-- Grids whose columns are mixed into those of another one. -/
theorem eq_mixColumns {g g' : Grid} {words : Fin 4 → Nat × Nat}
    (h : ∀ j, g'.column j = (g.column j).mix (words j).1 (words j).2) :
    g' = g.mixColumns words := by
  rw [← ofColumns_column g', mixColumns]
  congr 1
  funext j
  exact h j

theorem ofWork_columns (m : Work) (s : Order) (v : Work) :
    ofWork (columns m s v) =
      (ofWork v).mixColumns fun j => (pairAt m s 0 j).map UInt64.toNat UInt64.toNat := by
  apply eq_mixColumns
  intro j
  rw [column_ofWork, column_ofWork, columnAt_columns, Quad.numbers_mix]
  rfl

theorem ofWork_diagonals (m : Work) (s : Order) (v : Work) :
    ofWork (diagonals m s v) =
      ((ofWork v).turn.mixColumns fun j =>
        (pairAt m s 8 j).map UInt64.toNat UInt64.toNat).turnBack := by
  have hturned : (ofWork (diagonals m s v)).turn =
      (ofWork v).turn.mixColumns fun j =>
        (pairAt m s 8 j).map UInt64.toNat UInt64.toNat := by
    apply eq_mixColumns
    intro j
    rw [column_turn_ofWork, column_turn_ofWork, diagonalAt_diagonals, Quad.numbers_mix]
    rfl
  rw [← turnBack_turn (ofWork (diagonals m s v)), hturned]

theorem ofWork_round (m : Work) (s : Order) (v : Work) :
    ofWork (Compression.round m s v) = (ofWork v).round (m.map UInt64.toNat) s := by
  have hnumber {p : Nat} (hp : p < 16) :
      (wordAt m s (slot p)).toNat = (m.map UInt64.toNat)[s[p]] := by
    rw [slot_of_lt hp, Fin.getElem_fin, Vector.getElem_map]
    rfl
  have hcolumns (j : Fin 4) : (pairAt m s 0 j).map UInt64.toNat UInt64.toNat =
      ((m.map UInt64.toNat)[s[2 * j.val]], (m.map UInt64.toNat)[s[2 * j.val + 1]]) := by
    rw [pairAt, Prod.map, hnumber (by omega), hnumber (by omega)]
    simp only [Nat.zero_add]
  have hdiagonals (j : Fin 4) : (pairAt m s 8 j).map UInt64.toNat UInt64.toNat =
      ((m.map UInt64.toNat)[s[8 + 2 * j.val]], (m.map UInt64.toNat)[s[8 + 2 * j.val + 1]]) := by
    rw [pairAt, Prod.map, hnumber (by omega), hnumber (by omega)]
  rw [Compression.round, ofWork_diagonals, ofWork_columns, round]
  simp only [hcolumns, hdiagonals]

theorem ofWork_runRounds (m : Work) (n : Nat) (v : Work) :
    ofWork (Compression.runRounds m n v) = (ofWork v).runRounds (m.map UInt64.toNat) n := by
  induction n with
  | zero => rfl
  | succ n ih =>
      rw [runRounds_succ, ofWork_round, ih]
      rfl

theorem getElem_numbers (g : Grid) (p : Nat) (hp : p < 16) :
    g.numbers[p] =
      if h2 : p < 12 then
        if h1 : p < 8 then if h0 : p < 4 then g.row0[p] else g.row1[p - 4]
        else g.row2[p - 8]
      else g.row3[p - 12] := by
  have hrows : g.numbers[p] = (g.row0 ++ g.row1 ++ g.row2 ++ g.row3)[p] := rfl
  rw [hrows]
  simp only [Vector.getElem_append]

theorem numbers_ofWork (v : Work) : (ofWork v).numbers = v.map UInt64.toNat := by
  apply Vector.ext
  intro p hp
  rw [getElem_numbers, Vector.getElem_map]
  simp only [ofWork, Vector.getElem_ofFn]
  split
  · split
    · split
      · rw [get_place v hp (by omega)]
      · rw [get_place v hp (by omega)]
    · rw [get_place v hp (by omega)]
  · rw [get_place v hp (by omega)]

theorem columnAt_append (h x : ChainingValue) (j : Fin 4) :
    columnAt (h ++ x : Work) j = ⟨h[j.val], h[4 + j.val], x[j.val], x[4 + j.val]⟩ := by
  have h0 : (h ++ x : Work).get (place 0 j) = h[j.val] := by
    rw [get_place (p := j.val) _ (by omega) (by omega)]
    exact Vector.getElem_append_left (by omega)
  have h1 : (h ++ x : Work).get (place 1 j) = h[4 + j.val] := by
    rw [get_place (p := 4 + j.val) _ (by omega) (by omega)]
    exact Vector.getElem_append_left (by omega)
  have h2 : (h ++ x : Work).get (place 2 j) = x[j.val] := by
    rw [get_place (p := j.val + 8) _ (by omega) (by omega)]
    exact Vector.getElem_append_right (by omega) (by omega)
  have h3 : (h ++ x : Work).get (place 3 j) = x[4 + j.val] := by
    rw [get_place (p := 4 + j.val + 8) _ (by omega) (by omega)]
    exact Vector.getElem_append_right (by omega) (by omega)
  rw [columnAt, quadAt_eq, h0, h1, h2, h3]

theorem ofWork_append_marked (h : ChainingValue) (t : Counter) (f : Flags) :
    ofWork (h ++ Workspace.marked t f) = start (h.map UInt64.toNat) t f := by
  rw [← ofColumns_column (ofWork _), ← ofColumns_column (start _ _ _)]
  apply congrArg
  funext j
  rw [column_ofWork, columnAt_append]
  match j with
  | 0 | 1 | 2 | 3 =>
      simp only [start, column, Fin.getElem_fin, Vector.getElem_map, Quad.numbers]
      rfl

end Grid

theorem messageNumbers_eq (block : Block) :
    messageNumbers block = block.words.map UInt64.toNat := by
  apply Vector.ext
  intro i hi
  rw [messageNumbers, Vector.getElem_ofFn, Vector.getElem_map, Block.words,
    LittleEndian.getElem_decodeLanes, LittleEndian.toNat_decode, LittleEndian.toList_lane]

theorem toNat_feedForward (w : Workspace) (h : ChainingValue) (i : Nat) (hi : i < 8) :
    (w.feedForward h)[i].toNat =
      h[i].toNat ^^^ w.vector[i].toNat ^^^ w.vector[i + 8].toNat := by
  have hback : w.vector.get (Fin.natAdd 8 ⟨i, hi⟩) = w.vector[i + 8] := by
    simp only [Nat.add_comm i 8]
    rfl
  rw [Workspace.feedForward, Vector.getElem_ofFn, hback, UInt64.toNat_xor, UInt64.toNat_xor,
    Nat.xor_assoc]
  rfl

/-- Compression in place on words is compression on the grid of numbers: rows from
the chaining value and the initialisation vector, columns mixed at once, and rows
turned for the diagonals and turned back. -/
theorem compress_eq_compressNumbers (h : ChainingValue) (frame : Frame) :
    (compress h frame).map UInt64.toNat =
      compressNumbers (h.map UInt64.toNat) frame := by
  have hgrid := Grid.ofWork_runRounds frame.block.words 12
    (h ++ Workspace.marked frame.counter frame.flags)
  rw [Grid.ofWork_append_marked, ← messageNumbers_eq] at hgrid
  have hcompress : compress h frame =
      ((Workspace.mk (h ++ Workspace.marked frame.counter frame.flags)
        frame.block.words).run).feedForward h := by
    rw [compress, Workspace.compress, Workspace.load_eq]
  apply Vector.ext
  intro i hi
  rw [Vector.getElem_map, hcompress, toNat_feedForward, compressNumbers, Vector.getElem_ofFn,
    ← hgrid, Grid.numbers_ofWork]
  simp only [Fin.getElem_fin, Vector.getElem_map, Workspace.run, rounds]

end Blake2b.Compression
