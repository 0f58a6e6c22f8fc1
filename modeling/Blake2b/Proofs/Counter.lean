import Blake2b.Counter
import Mathlib.Algebra.Group.Nat.Defs
/-!
# Counting modulo `2 ^ 128`

Two words with a carry between them are a number modulo `2 ^ 128`. The lemma
that says so is `toNat_add`; once it is there, counters are numbers, and no
later proof looks at the words again.
-/

namespace Blake2b.Counter

theorem toNat_lt (t : Counter) : t.toNat < 2 ^ 128 := by
  have hlow := t.low.toNat_lt
  have hhigh := t.high.toNat_lt
  simp only [toNat, UInt64.size]
  omega

/-- A word that is added comes back smaller than before exactly when it wraps,
and then the high word takes the carry. -/
theorem toNat_add (t : Counter) (n : UInt64) :
    (t.add n).toNat = (t.toNat + n.toNat) % 2 ^ 128 := by
  have hlow := t.low.toNat_lt
  have hhigh := t.high.toNat_lt
  have hn := n.toNat_lt
  simp only [toNat, add, UInt64.size]
  split
  all_goals
    rename_i hwrap
    simp only [UInt64.lt_iff_toNat_lt, UInt64.toNat_add, UInt64.toNat_one] at hwrap ⊢
    omega

theorem toNat_ofNat (n : Nat) : (ofNat n).toNat = n % 2 ^ 128 := by
  simp only [toNat, ofNat, Nat.toUInt64_eq, UInt64.toNat_ofNat', UInt64.size]
  omega

theorem toNat_injective {t u : Counter} (h : t.toNat = u.toNat) : t = u := by
  have htlow := t.low.toNat_lt
  have hulow := u.low.toNat_lt
  simp only [toNat, UInt64.size] at h
  have hlow : t.low = u.low := UInt64.toNat.inj (by omega)
  have hhigh : t.high = u.high := UInt64.toNat.inj (by omega)
  calc
    t = ⟨t.low, t.high⟩ := rfl
    _ = ⟨u.low, u.high⟩ := by rw [hlow, hhigh]
    _ = u := rfl

@[simp] theorem ofNat_toNat (t : Counter) : ofNat t.toNat = t := by
  apply toNat_injective
  rw [toNat_ofNat, Nat.mod_eq_of_lt t.toNat_lt]

/-- Two numbers give one counter exactly when they agree modulo `2 ^ 128`. -/
theorem ofNat_eq_ofNat_iff (m n : Nat) :
    ofNat m = ofNat n ↔ m % 2 ^ 128 = n % 2 ^ 128 := by
  rw [← toNat_ofNat, ← toNat_ofNat]
  constructor
  · intro h
    rw [h]
  · exact toNat_injective

theorem add_ofNat (m : Nat) (n : UInt64) : (ofNat m).add n = ofNat (m + n.toNat) := by
  apply toNat_injective
  rw [toNat_add, toNat_ofNat, toNat_ofNat, Nat.mod_add_mod]

theorem ofNat_toNat_add (t : Counter) (n : UInt64) (k : Nat) :
    ofNat ((t.add n).toNat + k) = ofNat (t.toNat + n.toNat + k) := by
  rw [ofNat_eq_ofNat_iff, toNat_add, Nat.mod_add_mod]

end Blake2b.Counter
