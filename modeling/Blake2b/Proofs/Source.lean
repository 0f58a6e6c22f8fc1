import Blake2b.Proofs.Finalization
import Blake2b.Proofs.Run
import Blake2b.Stream.Source
/-!
# Hashing a source is hashing what it gives

A source is read up to its stop, which is the first reading that has no bytes or
fails for another reason than an interruption; a source that has given all its
readings has no bytes any more. What comes before the stop is data and
interruptions. The data is handed in piece by piece, and so the digest is that of
all of it at once; the interruptions leave no trace.

One buffer serves all readings, and a short reading leaves the end of a longer one
in it. That end is never handed in: `slice_overwrite` says that what is read back
from the buffer is the reading alone.
-/

namespace Blake2b

theorem Storage.slice_overwrite {α : Type} {n : Nat} (target : Vector α n)
    (source : List α) (h : source.length ≤ n) :
    slice (overwrite target 0 source) 0 source.length = source := by
  have htake := take_overwrite target 0 source (by unfold Fits; omega)
  rw [Nat.zero_add, List.take_zero, List.nil_append] at htake
  rw [slice_zero, htake]

namespace Reading

/-- The bytes of a reading, none if it fails. -/
def data : Reading → Bytes
  | bytes data => data
  | failure _ _ => []

/-- The reading was interrupted, and is to be made again. -/
def isInterruption : Reading → Bool
  | bytes _ => false
  | failure kind _ => kind = .interrupted

/-- The source is not read any further. -/
def isStop : Reading → Bool
  | bytes data => data.isEmpty
  | failure kind _ => kind ≠ .interrupted

/-- The reading stays within the buffer. -/
def Bounded (reading : Reading) : Prop := reading.data.length ≤ capacity

instance (reading : Reading) : Decidable reading.Bounded :=
  inferInstanceAs (Decidable (reading.data.length ≤ capacity))

/-- The readings of a source before its stop. -/
def beforeStop (source : List Reading) : List Reading :=
  source.takeWhile fun reading => !reading.isStop

/-- The first reading of a source that is a stop. A source that has nothing more
to give gives no bytes. -/
def stop (source : List Reading) : Reading := (source.find? isStop).getD (.bytes [])

/-- The readings of a source without its interruptions. -/
def uninterrupted (source : List Reading) : List Reading :=
  source.filter fun reading => !reading.isInterruption

theorem beforeStop_cons_of_isStop {reading : Reading} (h : reading.isStop = true)
    (rest : List Reading) : beforeStop (reading :: rest) = [] := by
  simp [beforeStop, h]

theorem beforeStop_cons {reading : Reading} (h : reading.isStop = false)
    (rest : List Reading) : beforeStop (reading :: rest) = reading :: beforeStop rest := by
  simp [beforeStop, h]

theorem stop_cons_of_isStop {reading : Reading} (h : reading.isStop = true)
    (rest : List Reading) : stop (reading :: rest) = reading := by
  simp [stop, h]

theorem stop_cons {reading : Reading} (h : reading.isStop = false)
    (rest : List Reading) : stop (reading :: rest) = stop rest := by
  simp [stop, h]

theorem uninterrupted_cons_interruption (message : String) (rest : List Reading) :
    uninterrupted (.failure .interrupted message :: rest) = uninterrupted rest := rfl

theorem uninterrupted_cons {reading : Reading} (h : reading.isInterruption = false)
    (rest : List Reading) : uninterrupted (reading :: rest) = reading :: uninterrupted rest := by
  simp [uninterrupted, h]

/-- A source without a stop is read whole. -/
theorem beforeStop_eq_self {source : List Reading}
    (h : ∀ reading ∈ source, reading.isStop = false) :
    beforeStop source = source ∧ stop source = .bytes [] := by
  induction source with
  | nil => exact ⟨rfl, rfl⟩
  | cons reading rest ih =>
      have hreading := h reading List.mem_cons_self
      obtain ⟨hbefore, hstop⟩ := ih fun reading hmem => h reading (.tail _ hmem)
      rw [beforeStop_cons hreading, stop_cons hreading, hbefore, hstop]
      exact ⟨rfl, rfl⟩

theorem bounded_of_mem_ofData (data : Bytes) : ∀ reading ∈ ofData data, reading.Bounded := by
  intro reading hmem
  rw [ofData] at hmem
  split at hmem
  · rw [List.mem_singleton.1 hmem]
    exact Nat.zero_le _
  · obtain ⟨piece, hpiece, rfl⟩ := List.mem_map.1 hmem
    exact length_le_of_mem_pieces (by decide) hpiece

/-- The readings that data is given out in are the data, and then nothing. -/
theorem readUp_ofData (data : Bytes) :
    (beforeStop (ofData data)).flatMap Reading.data = data ∧
      stop (ofData data) = .bytes [] := by
  rw [ofData]
  split
  · rename_i hempty
    rw [List.isEmpty_iff.1 hempty]
    exact ⟨rfl, rfl⟩
  · have hnever : ∀ reading ∈ (pieces capacity data).map bytes, reading.isStop = false := by
      intro reading hmem
      obtain ⟨piece, hpiece, rfl⟩ := List.mem_map.1 hmem
      exact List.isEmpty_eq_false_iff.2 (ne_nil_of_mem_pieces hpiece)
    obtain ⟨hbefore, hstop⟩ := beforeStop_eq_self hnever
    refine ⟨?_, hstop⟩
    rw [hbefore, List.flatMap_map]
    exact List.flatMap_id.trans (flatten_pieces capacity data)

end Reading

namespace Hasher

/-- What draining a source comes to, told from its readings before the stop and
from the stop. -/
structure Drained (s : Hasher) (source : List Reading)
    (outcome : Except Failure Hasher × List Reading) : Prop where
  made : outcome.2 = Reading.beforeStop source ++ [Reading.stop source]
  ended : ∀ data, Reading.stop source = .bytes data →
    ∃ next, outcome.1 = .ok next ∧
      Absorbed s ((Reading.beforeStop source).flatMap Reading.data) next
  failed : ∀ kind message, Reading.stop source = .failure kind message →
    outcome.1 = .error (.ofStream kind message)

section Readings

variable (s : Hasher) (buffer : ReadBuffer) (rest : List Reading)

/-- The front of the buffer is handed in, whatever lies behind it. -/
theorem drain_bytes {data : Bytes} (hne : data ≠ []) (hlength : data.length ≤ Reading.capacity)
    {next : Hasher} (hupdate : s.update data = (.ok (), next)) :
    s.drain buffer (.bytes data :: rest) =
      ((next.drain (Storage.overwrite buffer 0 data) rest).1,
        .bytes data :: (next.drain (Storage.overwrite buffer 0 data) rest).2) := by
  have hnonempty : data.isEmpty = false := List.isEmpty_eq_false_iff.2 hne
  simp only [drain, hnonempty, Bool.false_eq_true, if_false,
    Storage.slice_overwrite buffer data hlength, hupdate]

theorem drain_interruption (message : String) :
    s.drain buffer (.failure .interrupted message :: rest) =
      ((s.drain buffer rest).1, .failure .interrupted message :: (s.drain buffer rest).2) := by
  simp only [drain, if_true]

theorem drain_failure {kind : FailureKind} (h : kind ≠ .interrupted) (message : String) :
    s.drain buffer (.failure kind message :: rest) =
      (.error (.ofStream kind message), [.failure kind message]) := by
  simp only [drain, if_neg h]

end Readings

namespace Drained

/-- A source that ends at once leaves the hasher as it is. -/
theorem of_end {s : Hasher} (h : s.Live) {source : List Reading}
    (hbefore : Reading.beforeStop source = []) (hstop : Reading.stop source = .bytes []) :
    s.Drained source (.ok s, [.bytes []]) := by
  refine ⟨by rw [hbefore, hstop]; rfl, fun _ _ => ⟨s, rfl, ?_⟩, fun kind message hfailure => ?_⟩
  · rw [hbefore]
    exact Absorbed.refl h
  · rw [hstop] at hfailure
    cases hfailure

theorem of_failure (s : Hasher) {kind : FailureKind} (h : kind ≠ .interrupted)
    (message : String) (rest : List Reading) :
    s.Drained (.failure kind message :: rest)
      (.error (.ofStream kind message), [.failure kind message]) := by
  have hstop : (Reading.failure kind message).isStop = true := by simp [Reading.isStop, h]
  have hreading := Reading.stop_cons_of_isStop hstop rest
  refine ⟨?_, fun data hdata => ?_, fun kind' message' hfailure => ?_⟩
  · rw [Reading.beforeStop_cons_of_isStop hstop, hreading]
    rfl
  · rw [hreading] at hdata
    cases hdata
  · rw [hreading] at hfailure
    cases hfailure
    rfl

/-- A reading that is not a stop is put before what comes of the rest. -/
theorem cons {s mid : Hasher} {reading : Reading} {rest : List Reading}
    {outcome : Except Failure Hasher × List Reading} (hstop : reading.isStop = false)
    (hdata : Absorbed s reading.data mid) (hrest : mid.Drained rest outcome) :
    s.Drained (reading :: rest) (outcome.1, reading :: outcome.2) := by
  have hbefore := Reading.beforeStop_cons hstop rest
  have hsame := Reading.stop_cons hstop rest
  refine ⟨?_, fun data hend => ?_, fun kind message hfailure => ?_⟩
  · rw [hbefore, hsame, hrest.made, List.cons_append]
  · rw [hsame] at hend
    obtain ⟨next, hnext, habsorbed⟩ := hrest.ended data hend
    refine ⟨next, hnext, ?_⟩
    rw [hbefore, List.flatMap_cons]
    exact hdata.trans habsorbed
  · rw [hsame] at hfailure
    exact hrest.failed kind message hfailure

end Drained

/-- Draining a live hasher follows the readings up to the stop. -/
theorem Live.drained_drain {s : Hasher} (h : s.Live) (buffer : ReadBuffer)
    (source : List Reading) (hbounded : ∀ reading ∈ source, reading.Bounded) :
    s.Drained source (s.drain buffer source) := by
  induction source generalizing s buffer with
  | nil => exact .of_end h rfl rfl
  | cons reading rest ih =>
      have hrest : ∀ reading ∈ rest, reading.Bounded := fun reading hmem =>
        hbounded reading (List.mem_cons_of_mem _ hmem)
      cases reading with
      | bytes data =>
          by_cases hempty : data = []
          · subst hempty
            exact .of_end h rfl rfl
          · have hlength : data.length ≤ Reading.capacity :=
              hbounded (.bytes data) List.mem_cons_self
            obtain ⟨next, hnext, habsorbed, -⟩ := h.update_eq data
            rw [drain_bytes s buffer rest hempty hlength hnext]
            exact .cons (List.isEmpty_eq_false_iff.2 hempty) habsorbed
              (ih habsorbed.live _ hrest)
      | failure kind message =>
          by_cases hkind : kind = .interrupted
          · subst hkind
            rw [drain_interruption]
            exact .cons rfl (Absorbed.refl h) (ih h buffer hrest)
          · rw [drain_failure s buffer rest hkind]
            exact .of_failure s hkind message rest

/-- Striking the interruptions from a source strikes them from the readings that
are made, and changes nothing else. -/
theorem drain_uninterrupted (s : Hasher) (buffer : ReadBuffer) (source : List Reading) :
    s.drain buffer (Reading.uninterrupted source) =
      ((s.drain buffer source).1, Reading.uninterrupted (s.drain buffer source).2) := by
  induction source generalizing s buffer with
  | nil => rfl
  | cons reading rest ih =>
      cases reading with
      | bytes data =>
          rw [Reading.uninterrupted_cons rfl]
          simp only [drain]
          split
          · rfl
          · split
            · rw [ih]
              rfl
            · rfl
      | failure kind message =>
          by_cases hkind : kind = .interrupted
          · subst hkind
            rw [Reading.uninterrupted_cons_interruption, ih, drain_interruption,
              Reading.uninterrupted_cons_interruption]
          · have hkept : (Reading.failure kind message).isInterruption = false := by
              simp [Reading.isInterruption, hkind]
            rw [Reading.uninterrupted_cons hkept, drain_failure s buffer _ hkind,
              drain_failure s buffer _ hkind, Reading.uninterrupted_cons hkept]
            rfl

end Hasher

section Unkeyed

variable {digestLength : Nat} {s : Hasher}

theorem unkeyed_of_out_of_range (h : digestLength = 0 ∨ digestLength > maxDigestLength) :
    Hasher.unkeyed digestLength none none =
      .error (.outOfRange .digestLength digestLength) := by
  rw [Hasher.unkeyed, Parameters.sequential, if_pos h]
  rfl

theorem exists_unkeyed (hpos : 1 ≤ digestLength) (hle : digestLength ≤ maxDigestLength) :
    ∃ s, Hasher.unkeyed digestLength none none = .ok s ∧ s.Live := by
  obtain ⟨s, hs⟩ := Setup.exists_hasher (c := ⟨digestLength, none, none, none⟩) hpos hle
    (Nat.zero_le _) nofun
  exact ⟨s, hs, Setup.live_of_hasher hs⟩

/-- The digest of a message is that of any hasher that has taken it in. -/
theorem hash_eq_finalize {next : Hasher} {message : Bytes}
    (hs : Hasher.unkeyed digestLength none none = .ok s) (hlive : s.Live)
    (hnext : s.Absorbed message next) : hash message digestLength = next.finalize.1 := by
  obtain ⟨once, honce, hdigest⟩ := hlive.digestOf_eq [message]
  rw [List.flatten_singleton] at honce
  rw [hash, hs]
  exact hdigest.trans (honce.finalize_fst_eq hnext)

theorem hashSource_eq_drain (hs : Hasher.unkeyed digestLength none none = .ok s)
    (source : List Reading) :
    hashSource source digestLength =
      ((s.drain (Vector.replicate Reading.capacity 0) source).1.bind fun last =>
          last.finalize.1.mapError .ofFault,
        (s.drain (Vector.replicate Reading.capacity 0) source).2) := by
  simp only [hashSource, hs]
  cases s.drain (Vector.replicate Reading.capacity 0) source with
  | mk outcome made =>
      cases outcome with
      | error failure => rfl
      | ok last => rfl

end Unkeyed

/-- Data that is given out in readings is hashed as if it were handed in at once. -/
theorem hashSource_ofData (data : Bytes) (digestLength : Nat) :
    (hashSource (Reading.ofData data) digestLength).1 =
      (hash data digestLength).mapError .ofFault := by
  by_cases hrange : digestLength = 0 ∨ digestLength > maxDigestLength
  · rw [hashSource, hash, unkeyed_of_out_of_range hrange]
    rfl
  · have hpos : 1 ≤ digestLength := by omega
    have hle : digestLength ≤ maxDigestLength := by omega
    obtain ⟨s, hs, hlive⟩ := exists_unkeyed hpos hle
    have hdrained := hlive.drained_drain (Vector.replicate Reading.capacity 0) _
      (Reading.bounded_of_mem_ofData data)
    obtain ⟨hbefore, hstop⟩ := Reading.readUp_ofData data
    obtain ⟨next, hnext, habsorbed⟩ := hdrained.ended [] hstop
    rw [hbefore] at habsorbed
    rw [hashSource_eq_drain hs, hash_eq_finalize hs hlive habsorbed, hnext]
    rfl

/-- Hashing a source reads it up to its stop and no further. If the source ended
there, the digest is that of all data before it; if it failed there, the failure is
given back as it is. Interruptions change nothing but the readings that are made. A
digest length out of range is refused before the first reading. -/
theorem hashSource_up_to_stop (source : List Reading)
    (hbounded : ∀ reading ∈ source, reading.Bounded) (digestLength : Nat) :
    (1 ≤ digestLength ∧ digestLength ≤ 64 →
      (hashSource source digestLength).2 =
        Reading.beforeStop source ++ [Reading.stop source] ∧
      (∀ data, Reading.stop source = .bytes data →
        ∃ d, hash ((Reading.beforeStop source).flatMap Reading.data) digestLength = .ok d ∧
          (hashSource source digestLength).1 = .ok d) ∧
      (∀ kind message, Reading.stop source = .failure kind message →
        (hashSource source digestLength).1 = .error ⟨kind, message, none⟩) ∧
      hashSource (Reading.uninterrupted source) digestLength =
        ((hashSource source digestLength).1,
          Reading.uninterrupted (hashSource source digestLength).2)) ∧
    (digestLength = 0 ∨ digestLength > 64 →
      hashSource source digestLength =
        (.error ⟨.other, (Fault.outOfRange .digestLength digestLength).message,
          some (.outOfRange .digestLength digestLength)⟩, [])) := by
  refine ⟨fun hrange => ?_, fun hrange => ?_⟩
  · obtain ⟨s, hs, hlive⟩ := exists_unkeyed hrange.1 hrange.2
    have hdrained := hlive.drained_drain (Vector.replicate Reading.capacity 0) source hbounded
    rw [hashSource_eq_drain hs, hashSource_eq_drain hs]
    refine ⟨hdrained.made, fun data hend => ?_, fun kind message hfailure => ?_, ?_⟩
    · obtain ⟨next, hnext, habsorbed⟩ := hdrained.ended data hend
      obtain ⟨d, hd⟩ : ∃ d, next.finalize.1 = .ok d :=
        ⟨_, congrArg Prod.fst (next.finalize_of_ne_finalized habsorbed.live.phase)⟩
      refine ⟨d, ?_, ?_⟩
      · rw [hash_eq_finalize hs hlive habsorbed, hd]
      · simp only [hnext, Except.bind, hd]
        rfl
    · rw [hdrained.failed kind message hfailure]
      rfl
    · rw [Hasher.drain_uninterrupted]
  · rw [hashSource, unkeyed_of_out_of_range hrange]
    rfl

/-- The second piece is shorter than the first, so most of the first is still in
the buffer when it is handed in. An interruption stands between the two, and what
comes after the end is not read. -/
theorem hashSource_up_to_stop_stale :
    let source : List Reading :=
      [.bytes [1, 2, 3], .failure .interrupted "again", .bytes [4], .bytes [], .bytes [5]]
    (∀ reading ∈ source, reading.Bounded) ∧
      (hashSource source 32).2 =
        [.bytes [1, 2, 3], .failure .interrupted "again", .bytes [4], .bytes []] ∧
      ∃ d, hash [1, 2, 3, 4] 32 = .ok d ∧ (hashSource source 32).1 = .ok d := by
  intro source
  have hbounded : ∀ reading ∈ source, reading.Bounded := by decide
  obtain ⟨hmade, hended, -, -⟩ :=
    (hashSource_up_to_stop source hbounded 32).1 ⟨by decide, by decide⟩
  exact ⟨hbounded, hmade, hended [] rfl⟩

end Blake2b
