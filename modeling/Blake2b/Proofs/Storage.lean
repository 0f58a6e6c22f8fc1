import Blake2b.Storage
/-!
# Regions as lists

What the operations on a region leave behind, read as a list. A source that
fits replaces as many elements as it has, and `toList_overwrite` says so with
the front and the back of the old content around it. The special cases below it
are those that the window and the staging area need.
-/

namespace Blake2b.Storage

/-- A source that fits lies between the untouched front and the untouched back
of the region. -/
theorem toList_overwrite {α : Type} {n : Nat} (target : Vector α n) (offset : Nat)
    (source : List α) (h : Fits n offset source) :
    (overwrite target offset source).toList =
      target.toList.take offset ++ source ++
        target.toList.drop (offset + source.length) := by
  unfold Fits at h
  induction source generalizing target offset with
  | nil => simp
  | cons a rest ih =>
      rw [List.length_cons] at h
      have hinside : offset < target.toList.length := by
        rw [Vector.length_toList]
        omega
      have hfront : (target.toList.set offset a).take (offset + 1) =
          target.toList.take offset ++ [a] := by
        have hlength := List.length_take_of_le (Nat.le_of_lt hinside)
        rw [List.set_eq_take_append_cons_drop, if_pos hinside, List.take_append, hlength,
          List.take_of_length_le (by omega), Nat.add_sub_cancel_left,
          List.take_succ_cons, List.take_zero]
      have hback : (target.toList.set offset a).drop (offset + 1 + rest.length) =
          target.toList.drop (offset + 1 + rest.length) :=
        List.drop_set_of_lt (by omega)
      rw [overwrite_cons, ih _ _ (by omega), Vector.toList_setIfInBounds, hfront, hback,
        List.length_cons, Nat.add_assoc offset, Nat.add_comm 1, List.append_assoc _ [a],
        List.singleton_append]

theorem toList_overwrite_full {α : Type} {n : Nat} (target : Vector α n)
    (source : List α) (h : source.length = n) :
    (overwrite target 0 source).toList = source := by
  rw [toList_overwrite target 0 source (by unfold Fits; omega), Nat.zero_add, h]
  simp

theorem length_take_toList {α : Type} {n : Nat} (region : Vector α n) {k : Nat} (h : k ≤ n) :
    (region.toList.take k).length = k := by
  rw [List.length_take, Vector.length_toList, Nat.min_eq_left h]

theorem slice_zero {α : Type} {n : Nat} (region : Vector α n) (stop : Nat) :
    slice region 0 stop = region.toList.take stop := by
  rw [slice, List.drop_zero, Nat.sub_zero]

theorem length_slice {α : Type} {n : Nat} (region : Vector α n) (start : Nat) {stop : Nat}
    (h : stop ≤ n) : (slice region start stop).length = stop - start := by
  rw [slice, List.length_take, List.length_drop, Vector.length_toList]
  omega

/-- What is laid behind the first `k` elements can be read together with them. -/
theorem take_overwrite {α : Type} {n : Nat} (target : Vector α n) (k : Nat)
    (source : List α) (h : Fits n k source) :
    (overwrite target k source).toList.take (k + source.length) =
      target.toList.take k ++ source := by
  have hk : k ≤ target.toList.length := by
    unfold Fits at h
    rw [Vector.length_toList]
    omega
  have hlength : (target.toList.take k ++ source).length = k + source.length := by
    rw [List.length_append, List.length_take_of_le hk]
  rw [toList_overwrite target k source h, ← hlength, List.take_left]

theorem toList_fillFrom {α : Type} {n : Nat} (target : Vector α n) (k : Nat) (a : α)
    (h : k ≤ n) :
    (fillFrom target k a).toList =
      target.toList.take k ++ List.replicate (n - k) a := by
  have hfits : Fits n k (List.replicate (n - k) a) := by
    unfold Fits
    rw [List.length_replicate]
    omega
  rw [fillFrom, toList_overwrite target k _ hfits, List.length_replicate,
    List.drop_of_length_le (by rw [Vector.length_toList]; omega), List.append_nil]

end Blake2b.Storage
