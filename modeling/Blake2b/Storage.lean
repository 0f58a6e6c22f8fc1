/-!
# Fixed storage

The hasher works in regions of fixed size: its input window, its work vectors
and the staging area of its output. `overwrite target offset source` lays
`source` over the region from position `offset` on and leaves every other
position as it was, so that what a region held before is part of every
statement about it. Elements that would fall past the end are dropped, which
keeps the operation total; `Fits` says that none are.
-/

namespace Blake2b.Storage

/-- Lays `source` over `target` from position `offset` on. -/
def overwrite {α : Type} {n : Nat} (target : Vector α n) (offset : Nat) :
    List α → Vector α n
  | [] => target
  | a :: rest => overwrite (target.setIfInBounds offset a) (offset + 1) rest

/-- The whole of `source` lies inside a region of `n` positions. -/
def Fits {α : Type} (n offset : Nat) (source : List α) : Prop :=
  offset + source.length ≤ n

/-- The elements at the positions from `start` up to `stop`. -/
def slice {α : Type} {n : Nat} (region : Vector α n) (start stop : Nat) : List α :=
  (region.toList.drop start).take (stop - start)

/-- Fills every position from `offset` on with `a`. -/
def fillFrom {α : Type} {n : Nat} (target : Vector α n) (offset : Nat) (a : α) :
    Vector α n :=
  overwrite target offset (List.replicate (n - offset) a)

@[simp] theorem overwrite_nil {α : Type} {n : Nat} (target : Vector α n)
    (offset : Nat) : overwrite target offset [] = target := rfl

theorem overwrite_cons {α : Type} {n : Nat} (target : Vector α n) (offset : Nat)
    (a : α) (rest : List α) :
    overwrite target offset (a :: rest) =
      overwrite (target.setIfInBounds offset a) (offset + 1) rest := rfl

/-- Laying down two lists one behind the other is laying down both at once. -/
theorem overwrite_append {α : Type} {n : Nat} (target : Vector α n) (offset : Nat)
    (front back : List α) :
    overwrite target offset (front ++ back) =
      overwrite (overwrite target offset front) (offset + front.length) back := by
  induction front generalizing target offset with
  | nil => simp
  | cons a front ih =>
      rw [List.cons_append, overwrite_cons, overwrite_cons, ih,
        List.length_cons, Nat.add_assoc, Nat.add_comm 1]

/-- A position reads the source where the source was laid, and its old content
elsewhere. -/
theorem getElem_overwrite {α : Type} {n : Nat} (target : Vector α n) (offset : Nat)
    (source : List α) (i : Nat) (hi : i < n) :
    (overwrite target offset source)[i] =
      if h : offset ≤ i ∧ i < offset + source.length then
        source[i - offset]
      else target[i] := by
  induction source generalizing target offset with
  | nil => rw [overwrite_nil, dif_neg (by simp only [List.length_nil]; omega)]
  | cons a rest ih =>
      rw [overwrite_cons, ih, Vector.getElem_setIfInBounds]
      simp only [List.length_cons]
      by_cases hrest : offset + 1 ≤ i ∧ i < offset + 1 + rest.length
      · have hindex : i - offset = i - (offset + 1) + 1 := by omega
        rw [dif_pos hrest, dif_pos ⟨by omega, by omega⟩]
        simp only [hindex, List.getElem_cons_succ]
      · rw [dif_neg hrest]
        by_cases hhere : offset = i
        · subst hhere
          rw [if_pos rfl, dif_pos ⟨by omega, by omega⟩]
          simp only [Nat.sub_self, List.getElem_cons_zero]
        · rw [if_neg hhere, dif_neg (by omega)]

/-- A source that covers the whole region decides its content. -/
theorem overwrite_toList {α : Type} {n : Nat} (target source : Vector α n) :
    overwrite target 0 source.toList = source := by
  ext i hi
  rw [getElem_overwrite]
  simp [hi]

end Blake2b.Storage
