import Blake2b.Proofs.Mix
import Blake2b.Proofs.Workspace
import Mathlib.Logic.Function.Basic
/-!
# The rounds are a permutation

With the message words known, every mixing step can be undone, because nothing is
thrown away in it: what is added can be subtracted, a rotation can be turned back,
and a word is xored with one that is still there. Half a step is undone in
`unhalf_half` and `half_unhalf`, and everything above it is composition: two halves
make a step, steps at places that are pairwise different are undone from the last to
the first (`foldr_unmixStep_foldl`), and so are the rounds.

So for one block the work vector after the rounds tells the vector that was loaded,
and with it the chaining value, the counter and the flags.
-/

namespace Blake2b.Compression

theorem xor_xor_cancel_right (x y : UInt64) : x ^^^ y ^^^ y = x := by
  rw [UInt64.xor_assoc, UInt64.xor_self, UInt64.xor_zero]

namespace Quad

theorem unhalf_half (q : Quad) (x : UInt64) {r s : UInt64}
    (hr : 0 < r.toNat ∧ r.toNat < 64) (hs : 0 < s.toNat ∧ s.toNat < 64) :
    (q.half x r s).unhalf x r s = q := by
  simp only [half, unhalf, rotateLeft_rotateRight _ hr.1 hr.2,
    rotateLeft_rotateRight _ hs.1 hs.2, xor_xor_cancel_right, UInt64.add_sub_cancel]

theorem half_unhalf (q : Quad) (x : UInt64) {r s : UInt64}
    (hr : 0 < r.toNat ∧ r.toNat < 64) (hs : 0 < s.toNat ∧ s.toNat < 64) :
    (q.unhalf x r s).half x r s = q := by
  simp only [half, unhalf, UInt64.sub_add_cancel, xor_xor_cancel_right,
    rotateRight_rotateLeft _ hr.1 hr.2, rotateRight_rotateLeft _ hs.1 hs.2]

theorem unmix_mix (q : Quad) (x y : UInt64) : (q.mix x y).unmix x y = q := by
  rw [mix, unmix, unhalf_half _ y (by decide) (by decide),
    unhalf_half q x (by decide) (by decide)]

theorem mix_unmix (q : Quad) (x y : UInt64) : (q.unmix x y).mix x y = q := by
  rw [mix, unmix, half_unhalf _ x (by decide) (by decide),
    half_unhalf q y (by decide) (by decide)]

end Quad

section Places

variable (v : Work) {i j k l : Fin 16} (x y : UInt64)

theorem unmixAt_mixAt (h : [i, j, k, l].Nodup) :
    unmixAt (mixAt v i j k l x y) i j k l x y = v := by
  rw [unmixAt, mixAt, quadAt_putQuad _ _ _ _ _ _ h, Quad.unmix_mix, putQuad_putQuad,
    putQuad_quadAt]

theorem mixAt_unmixAt (h : [i, j, k, l].Nodup) :
    mixAt (unmixAt v i j k l x y) i j k l x y = v := by
  rw [unmixAt, mixAt, quadAt_putQuad _ _ _ _ _ _ h, Quad.mix_unmix, putQuad_putQuad,
    putQuad_quadAt]

end Places

/-- The places of the work vector that a step reads and writes. -/
def Step.places (step : Step) : List (Fin 16) := [step.a, step.b, step.c, step.d]

section Steps

variable (m : Work) (s : Order) {steps : List Step}

/-- Steps whose places are pairwise different are undone from the last to the first. -/
theorem foldr_unmixStep_foldl (h : ∀ step ∈ steps, step.places.Nodup) (v : Work) :
    steps.foldr (unmixStep m s) (steps.foldl (mixStep m s) v) = v := by
  induction steps generalizing v with
  | nil => rfl
  | cons step steps ih =>
      rw [List.foldl_cons, List.foldr_cons, ih fun step hstep => h step (.tail _ hstep),
        unmixStep, mixStep, unmixAt_mixAt _ _ _ (h step List.mem_cons_self)]

theorem foldl_mixStep_foldr (h : ∀ step ∈ steps, step.places.Nodup) (v : Work) :
    steps.foldl (mixStep m s) (steps.foldr (unmixStep m s) v) = v := by
  induction steps with
  | nil => rfl
  | cons step steps ih =>
      rw [List.foldr_cons, List.foldl_cons, mixStep, unmixStep,
        mixAt_unmixAt _ _ _ (h step List.mem_cons_self),
        ih fun step hstep => h step (.tail _ hstep)]

theorem nodup_places_of_mem_columnSteps : ∀ step ∈ columnSteps, step.places.Nodup := by
  decide

theorem nodup_places_of_mem_diagonalSteps : ∀ step ∈ diagonalSteps, step.places.Nodup := by
  decide

end Steps

section Rounds

variable (m : Work) (s : Order) (v : Work)

theorem unround_round : unround m s (round m s v) = v := by
  rw [unround, round, undiagonals, diagonals,
    foldr_unmixStep_foldl m s nodup_places_of_mem_diagonalSteps, uncolumns, columns,
    foldr_unmixStep_foldl m s nodup_places_of_mem_columnSteps]

theorem round_unround : round m s (unround m s v) = v := by
  rw [unround, round, uncolumns, columns,
    foldl_mixStep_foldr m s nodup_places_of_mem_columnSteps, undiagonals, diagonals,
    foldl_mixStep_foldr m s nodup_places_of_mem_diagonalSteps]

theorem undoRounds_runRounds (n : Nat) : undoRounds m n (runRounds m n v) = v := by
  induction n with
  | zero => rfl
  | succ n ih => rw [runRounds_succ, undoRounds_succ, unround_round, ih]

theorem runRounds_undoRounds (n : Nat) : runRounds m n (undoRounds m n v) = v := by
  induction n generalizing v with
  | zero => rfl
  | succ n ih => rw [undoRounds_succ, runRounds_succ, ih, round_unround]

end Rounds

theorem runRounds_injective (m : Work) (n : Nat) : Function.Injective (runRounds m n) :=
  Function.LeftInverse.injective fun v => undoRounds_runRounds m v n

/-- Counter and flags can be read off the initialisation vector they are mixed into. -/
theorem marked_injective {t t' : Counter} {f f' : Flags}
    (h : Workspace.marked t f = Workspace.marked t' f') : t = t' ∧ f = f' := by
  have hlow : iv[4] ^^^ t.low = iv[4] ^^^ t'.low := congrArg (·[4]) h
  have hhigh : iv[5] ^^^ t.high = iv[5] ^^^ t'.high := congrArg (·[5]) h
  have hblock : iv[6] ^^^ f.lastBlock = iv[6] ^^^ f'.lastBlock := congrArg (·[6]) h
  have hnode : iv[7] ^^^ f.lastNode = iv[7] ^^^ f'.lastNode := congrArg (·[7]) h
  rw [UInt64.xor_right_inj] at hlow hhigh hblock hnode
  constructor
  · cases t
    cases t'
    rw [Counter.mk.injEq]
    exact ⟨hlow, hhigh⟩
  · cases f
    cases f'
    rw [Flags.mk.injEq]
    exact ⟨hblock, hnode⟩

/-- For every message the rounds are a bijection of the work vectors, and undoing the
steps in reverse order is its inverse. So for one block, the work vector that is
folded into the chaining value tells the chaining value, the counter and the flags. -/
theorem runRounds_permutes :
    (∀ m : Work, Function.Bijective (runRounds m rounds) ∧
      Function.LeftInverse (undoRounds m rounds) (runRounds m rounds) ∧
      Function.RightInverse (undoRounds m rounds) (runRounds m rounds)) ∧
    ∀ (block : Block) (w w' : Workspace) (h h' : ChainingValue) (t t' : Counter)
      (f f' : Flags),
      (w.load h ⟨block, t, f⟩).run.vector = (w'.load h' ⟨block, t', f'⟩).run.vector ↔
        h = h' ∧ t = t' ∧ f = f' := by
  constructor
  · intro m
    have hleft : Function.LeftInverse (undoRounds m rounds) (runRounds m rounds) :=
      fun v => undoRounds_runRounds m v rounds
    have hright : Function.RightInverse (undoRounds m rounds) (runRounds m rounds) :=
      fun v => runRounds_undoRounds m v rounds
    exact ⟨⟨hleft.injective, hright.surjective⟩, hleft, hright⟩
  · intro block w w' h h' t t' f f'
    rw [Workspace.load_eq, Workspace.load_eq]
    constructor
    · intro hvector
      have hloaded := runRounds_injective block.words rounds hvector
      obtain ⟨hchaining, hmarked⟩ := Vector.append_inj hloaded
      exact ⟨hchaining, marked_injective hmarked⟩
    · rintro ⟨rfl, rfl, rfl⟩
      rfl

end Blake2b.Compression
