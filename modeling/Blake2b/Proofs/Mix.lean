import Blake2b.Compression.Grid
import Blake2b.Compression.Unmix
import Blake2b.Proofs.Counter
/-!
# Mixing, words and places apart

Mixing is arithmetic on four words, carried to four places of the work vector.
The two are kept apart here as well.

The arithmetic is read on numbers. A rotation right moves the low `k` bits of a
number to the top (`toNat_rotateRight`), and a second one by `64 - k` places moves
them back, so that turning left undoes turning right without a look at single bits.

The places enter through `get_putQuad` alone. Four words that are put down at
four different places can be read there again, and every other place is as it was;
from that, what one mixing step does to the words of another one is seen from the
places and not from the words.
-/

namespace Blake2b.Compression

theorem rotr_eq (n k : Nat) : rotr n k = n / 2 ^ k + n % 2 ^ k * 2 ^ (64 - k) := rfl

/-- Without its low `k` bits a number has `64 - k` bits left. -/
theorem div_two_pow_lt {n k : Nat} (hn : n < 2 ^ 64) (hk : k ≤ 64) :
    n / 2 ^ k < 2 ^ (64 - k) := by
  rw [Nat.div_lt_iff_lt_mul (Nat.two_pow_pos k), ← Nat.pow_add, Nat.sub_add_cancel hk]
  exact hn

theorem shiftRight_or_shiftLeft {n k : Nat} (hn : n < 2 ^ 64) (hk : k ≤ 64) :
    n >>> k ||| n <<< (64 - k) % 2 ^ 64 = rotr n k := by
  have hsplit : 2 ^ 64 = 2 ^ k * 2 ^ (64 - k) := by
    rw [← Nat.pow_add, Nat.add_sub_of_le hk]
  have htop : n <<< (64 - k) % 2 ^ 64 = (n % 2 ^ k) <<< (64 - k) := by
    rw [Nat.shiftLeft_eq, Nat.shiftLeft_eq, hsplit, Nat.mul_mod_mul_right]
  rw [htop, Nat.shiftRight_eq_div_pow, Nat.or_comm,
    ← Nat.shiftLeft_add_eq_or_of_lt (div_two_pow_lt hn hk), Nat.shiftLeft_eq, Nat.add_comm,
    rotr_eq]

/-- Two rotations that make up a whole turn change nothing. -/
theorem rotr_rotr {n k : Nat} (hn : n < 2 ^ 64) (hk : k ≤ 64) :
    rotr (rotr n k) (64 - k) = n := by
  have hlow := div_two_pow_lt hn hk
  have hback : 64 - (64 - k) = k := Nat.sub_sub_self hk
  rw [rotr_eq (rotr n k), rotr_eq n k, Nat.add_mul_div_right _ _ (Nat.two_pow_pos _),
    Nat.add_mul_mod_self_right, Nat.div_eq_of_lt hlow, Nat.mod_eq_of_lt hlow, hback,
    Nat.zero_add, Nat.mod_add_div']

theorem toNat_sub_of_le_width {k : UInt64} (hk : k.toNat ≤ 64) :
    (64 - k).toNat = 64 - k.toNat :=
  UInt64.toNat_sub_of_le 64 k (UInt64.le_iff_toNat_le.2 hk)

theorem toNat_rotateRight (x : UInt64) {k : UInt64} (hpos : 0 < k.toNat)
    (hlt : k.toNat < 64) : (rotateRight x k).toNat = rotr x.toNat k.toNat := by
  have hleft : (64 - k).toNat % 64 = 64 - k.toNat := by
    rw [toNat_sub_of_le_width (Nat.le_of_lt hlt)]
    omega
  rw [rotateRight, UInt64.toNat_or, UInt64.toNat_shiftRight, UInt64.toNat_shiftLeft, hleft,
    Nat.mod_eq_of_lt hlt, shiftRight_or_shiftLeft x.toNat_lt (Nat.le_of_lt hlt)]

theorem rotateLeft_eq (x k : UInt64) : rotateLeft x k = rotateRight x (64 - k) := by
  have hback : 64 - (64 - k) = k := by grind
  rw [rotateLeft, rotateRight, hback, UInt64.or_comm]

/-- Rotating by `k` places and then by the rest of a turn changes nothing. -/
theorem rotateRight_rotateRight (x : UInt64) {k l : UInt64} (hk : 0 < k.toNat)
    (hl : 0 < l.toNat) (hturn : k.toNat + l.toNat = 64) :
    rotateRight (rotateRight x k) l = x := by
  have hrest : l.toNat = 64 - k.toNat := by omega
  apply UInt64.toNat.inj
  rw [toNat_rotateRight _ hl (by omega), toNat_rotateRight _ hk (by omega), hrest,
    rotr_rotr x.toNat_lt (by omega)]

theorem rotateLeft_rotateRight (x : UInt64) {k : UInt64} (hpos : 0 < k.toNat)
    (hlt : k.toNat < 64) : rotateLeft (rotateRight x k) k = x := by
  have hrest := toNat_sub_of_le_width (Nat.le_of_lt hlt)
  rw [rotateLeft_eq, rotateRight_rotateRight x hpos (by omega) (by omega)]

theorem rotateRight_rotateLeft (x : UInt64) {k : UInt64} (hpos : 0 < k.toNat)
    (hlt : k.toNat < 64) : rotateRight (rotateLeft x k) k = x := by
  have hrest := toNat_sub_of_le_width (Nat.le_of_lt hlt)
  rw [rotateLeft_eq, rotateRight_rotateRight x (by omega) hpos (by omega)]

theorem work_ext {v w : Work} (h : ∀ p : Fin 16, v.get p = w.get p) : v = w := by
  apply Vector.ext
  intro p hp
  exact h ⟨p, hp⟩

section Places

variable (v : Work) (i j k l : Fin 16) (q : Quad)

theorem quadAt_eq : quadAt v i j k l = ⟨v.get i, v.get j, v.get k, v.get l⟩ := rfl

/-- Each place reads the word that was put there last, or its old word. -/
theorem get_putQuad (p : Fin 16) :
    (putQuad v i j k l q).get p =
      if p = l then q.d else if p = k then q.c else if p = j then q.b
      else if p = i then q.a else v.get p := by
  have hget (w : Work) : w.get p = w[p.val] := rfl
  simp only [hget, putQuad, Vector.getElem_set, Fin.val_inj, eq_comm]

theorem quadAt_putQuad (h : [i, j, k, l].Nodup) :
    quadAt (putQuad v i j k l q) i j k l = q := by
  simp only [List.nodup_cons, List.mem_cons, List.not_mem_nil, or_false, not_or] at h
  obtain ⟨⟨hij, hik, hil⟩, ⟨hjk, hjl⟩, hkl, -⟩ := h
  simp only [quadAt_eq, get_putQuad, if_true, if_neg hij, if_neg hik, if_neg hil, if_neg hjk,
    if_neg hjl, if_neg hkl]

/-- Words that are put down elsewhere do not show. -/
theorem quadAt_putQuad_of_disjoint {i' j' k' l' : Fin 16}
    (h : ∀ p ∈ [i', j', k', l'], p ∉ [i, j, k, l]) :
    quadAt (putQuad v i j k l q) i' j' k' l' = quadAt v i' j' k' l' := by
  have hkeep : ∀ p ∈ [i', j', k', l'], (putQuad v i j k l q).get p = v.get p := by
    intro p hp
    have hnot := h p hp
    simp only [List.mem_cons, List.not_mem_nil, or_false, not_or] at hnot
    obtain ⟨hi, hj, hk, hl⟩ := hnot
    rw [get_putQuad, if_neg hl, if_neg hk, if_neg hj, if_neg hi]
  simp only [List.forall_mem_cons] at hkeep
  obtain ⟨hi, hj, hk, hl, -⟩ := hkeep
  rw [quadAt_eq, quadAt_eq, hi, hj, hk, hl]

theorem putQuad_quadAt : putQuad v i j k l (quadAt v i j k l) = v := by
  simp only [putQuad, quadAt, Fin.getElem_fin, Vector.set_getElem_self]

theorem putQuad_putQuad (q' : Quad) :
    putQuad (putQuad v i j k l q) i j k l q' = putQuad v i j k l q' := by
  apply work_ext
  intro p
  simp only [get_putQuad]
  split
  · rfl
  · split
    · rfl
    · split
      · rfl
      · split
        · rfl
        · rfl

end Places

end Blake2b.Compression
