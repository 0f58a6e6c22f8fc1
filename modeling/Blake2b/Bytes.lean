/-!
# Byte strings

A byte string is a list of bytes. Messages reach a hasher in pieces, and
`pieces size data` cuts a list into consecutive pieces of `size` elements, the
last one possibly shorter. The head of the list is taken apart first, so every
piece is non-empty and the recursion is on a shorter list whatever `size` is;
the sizes `0` and `1` both give singletons.
-/

namespace Blake2b

abbrev Bytes := List UInt8

/-- Consecutive pieces of `size` elements, the last one possibly shorter. -/
def pieces {α : Type} (size : Nat) : List α → List (List α)
  | [] => []
  | a :: rest =>
      (a :: rest.take (size - 1)) :: pieces size (rest.drop (size - 1))
termination_by data => data.length
decreasing_by
  simp only [List.length_drop, List.length_cons]
  omega

/-- Cutting loses nothing: the pieces in order are the list again. -/
@[simp] theorem flatten_pieces {α : Type} (size : Nat) (data : List α) :
    (pieces size data).flatten = data := by
  fun_induction pieces size data with
  | case1 => rfl
  | case2 a rest ih =>
      rw [List.flatten_cons, ih, List.cons_append, List.take_append_drop]

theorem ne_nil_of_mem_pieces {α : Type} {size : Nat} {data piece : List α}
    (h : piece ∈ pieces size data) : piece ≠ [] := by
  fun_induction pieces size data with
  | case1 => cases h
  | case2 a rest ih =>
      rcases List.mem_cons.1 h with rfl | h
      · exact List.cons_ne_nil _ _
      · exact ih h

theorem length_le_of_mem_pieces {α : Type} {size : Nat} (hsize : 0 < size)
    {data piece : List α} (h : piece ∈ pieces size data) : piece.length ≤ size := by
  fun_induction pieces size data with
  | case1 => cases h
  | case2 a rest ih =>
      rcases List.mem_cons.1 h with rfl | h
      · simp only [List.length_cons, List.length_take]
        omega
      · exact ih h

end Blake2b
