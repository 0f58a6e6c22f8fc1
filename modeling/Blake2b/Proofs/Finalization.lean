import Blake2b.Proofs.Chunking
/-!
# Ending a stream

Ending the stream is refused if it has been ended before, or if the buffer that is
to be filled does not suit the length of the digest. Otherwise it compresses one
more frame, the last frame of the backlog, and the digest is the front of what that
gives. The staging area is overwritten as a whole, so nothing that it held before
comes into the digest.

A digest can be given as a value or written into a buffer. Each way copies a front of its
own out of the staging area and wipes the rest, and the two agree because both fronts are
cut from one output.
-/

namespace Blake2b

/-- The storage of a digest holds the front of the output and zeros behind it. -/
theorem Digest.toList_storage_ofOutput (output : Vector UInt8 maxDigestLength) (length : Nat)
    (h : length ≤ maxDigestLength) :
    (ofOutput output length).storage.toList =
      output.toList.take length ++ List.replicate (maxDigestLength - length) 0 := by
  have hlength := Storage.length_take_toList output h
  have hfits : Storage.Fits maxDigestLength 0 (output.toList.take length) := by
    unfold Storage.Fits
    omega
  rw [ofOutput, Storage.slice_zero, Storage.toList_overwrite _ 0 _ hfits, List.take_zero,
    List.nil_append, Nat.zero_add, hlength, Vector.toList_replicate, List.drop_replicate]

theorem Digest.toBytes_ofOutput (output : Vector UInt8 maxDigestLength) (length : Nat) :
    (ofOutput output length).toBytes = output.toList.take length := by
  rcases Nat.le_total length maxDigestLength with h | h
  · rw [toBytes, toList_storage_ofOutput output length h]
    exact List.take_left' (Storage.length_take_toList output h)
  · -- no length beyond the storage takes more than all of it
    have hwhole : output.toList.take length = output.toList :=
      List.take_of_length_le (Nat.le_trans (Nat.le_of_eq Vector.length_toList) h)
    simp only [toBytes, ofOutput, Storage.slice_zero, hwhole,
      Storage.toList_overwrite_full _ _ Vector.length_toList]

theorem Digest.length_toBytes {d : Digest} (h : d.length ≤ maxDigestLength) :
    d.toBytes.length = d.length :=
  Storage.length_take_toList d.storage h

namespace Hasher

/-- A buffer of this length can be filled with the front of the digest. -/
def fillable (s : Hasher) (buffer : Bytes) : Bool :=
  decide (0 < buffer.length ∧ buffer.length ≤ s.digestLength)

theorem isFinalized_of_eq {s : Hasher} (h : s.phase = .finalized) :
    s.isFinalized = true := by
  simp [isFinalized, h]

theorem isFinalized_of_ne {s : Hasher} (h : s.phase ≠ .finalized) :
    s.isFinalized = false := by
  simp [isFinalized, h]

theorem ne_finalized_of_isFinalized {s : Hasher} (h : s.isFinalized = false) :
    s.phase ≠ .finalized := by
  simpa [isFinalized] using h

theorem fillable_eq_false_iff (s : Hasher) (buffer : Bytes) :
    s.fillable buffer = false ↔ buffer.length = 0 ∨ buffer.length > s.digestLength := by
  simp only [fillable, decide_eq_false_iff_not]
  omega

section Functions

variable (s : Hasher)

theorem finalize_of_finalized (h : s.phase = .finalized) :
    s.finalize = (.error .alreadyFinalized, s) := by
  rw [finalize, if_pos (isFinalized_of_eq h)]

theorem finalize_of_ne_finalized (h : s.phase ≠ .finalized) :
    s.finalize =
      (.ok (.ofOutput s.finish.staging s.digestLength), s.finish.wipeStaging) := by
  simp only [finalize, isFinalized_of_ne h, Bool.false_eq_true, if_false]

theorem finalizeInto_of_finalized (buffer : Bytes) (h : s.phase = .finalized) :
    s.finalizeInto buffer = (.error .alreadyFinalized, buffer, s) := by
  rw [finalizeInto, if_pos (isFinalized_of_eq h)]

theorem finalizeInto_of_not_fillable (buffer : Bytes) (h : s.phase ≠ .finalized)
    (hbuffer : s.fillable buffer = false) :
    s.finalizeInto buffer =
      (.error (.outOfRange .outputLength buffer.length), buffer, s) := by
  rw [fillable_eq_false_iff] at hbuffer
  simp only [finalizeInto, isFinalized_of_ne h, Bool.false_eq_true, if_false, if_pos hbuffer]

theorem finalizeInto_of_fillable (buffer : Bytes) (h : s.phase ≠ .finalized)
    (hbuffer : s.fillable buffer = true) :
    s.finalizeInto buffer =
      (.ok (), Storage.slice s.finish.staging 0 buffer.length, s.finish.wipeStaging) := by
  have hlength : ¬ (buffer.length = 0 ∨ buffer.length > s.digestLength) := by
    rw [← fillable_eq_false_iff, hbuffer]
    exact nofun
  simp only [finalizeInto, isFinalized_of_ne h, Bool.false_eq_true, if_false, if_neg hlength]

end Functions

theorem staging_finish (s : Hasher) : s.finish.staging = s.stage.staging := by
  simp only [finish, wipeWorking]

/-- The staging area is filled as a whole, and from the last frame alone. -/
theorem toList_staging_finish (s : Hasher) :
    s.finish.staging.toList =
      LittleEndian.encodeAll (compress s.chaining s.intake.close.frame).toList := by
  have hlength : (LittleEndian.encodeAll
      (compress s.chaining s.intake.close.frame).toList).length = maxDigestLength := by
    rw [LittleEndian.length_encodeAll, Vector.length_toList]
  rw [staging_finish]
  simp only [stage, Workspace.compress_eq]
  exact Storage.toList_overwrite_full _ _ hlength

/-- The output is what the last frame makes of the chaining value, digit by digit. -/
theorem toList_output (s : Hasher) :
    s.finish.staging.toList =
      Message.serialize (compress s.chaining s.intake.close.frame) := by
  rw [toList_staging_finish, Message.serialize_eq]

theorem Live.toList_staging_stage {s : Hasher} (h : s.Live) :
    s.stage.staging.toList =
      LittleEndian.encodeAll (compress s.chaining s.intake.backlog.lastFrame).toList := by
  rw [← staging_finish, toList_staging_finish, s.intake.frame_close h.held_le]

/-- The output depends on the chaining value and the backlog, and on nothing that lies
behind the live bytes. -/
theorem staging_finish_eq {s t : Hasher} (hs : s.intake.held ≤ blockLength)
    (ht : t.intake.held ≤ blockLength) (hchaining : s.chaining = t.chaining)
    (hbacklog : s.intake.backlog = t.intake.backlog) :
    s.finish.staging = t.finish.staging := by
  apply Vector.toList_inj.1
  rw [toList_staging_finish, toList_staging_finish, s.intake.frame_close hs,
    t.intake.frame_close ht, hchaining, hbacklog]

/-- A live hasher gives its digest. -/
theorem Live.finalize_eq {s : Hasher} (h : s.Live) :
    ∃ d next, s.finalize = (.ok d, next) ∧ d.length = s.digestLength ∧
      d.toBytes =
        (Message.serialize
          (compress s.chaining s.intake.backlog.lastFrame)).take s.digestLength := by
  refine ⟨_, _, s.finalize_of_ne_finalized h.phase, rfl, ?_⟩
  rw [Digest.toBytes_ofOutput, toList_output, s.intake.frame_close h.held_le]

/-- The answer to a finalisation depends on the data that was taken in, and not on
its pieces or on what lies behind the live bytes. -/
theorem Absorbed.finalize_fst_eq {s t u : Hasher} {data : Bytes} (ht : Absorbed s data t)
    (hu : Absorbed s data u) : t.finalize.1 = u.finalize.1 := by
  have hstaging : t.finish.staging = u.finish.staging :=
    staging_finish_eq ht.live.held_le hu.live.held_le (ht.chaining.trans hu.chaining.symm)
      (ht.backlog.trans hu.backlog.symm)
  rw [t.finalize_of_ne_finalized ht.live.phase, u.finalize_of_ne_finalized hu.live.phase,
    hstaging, ht.digestLength, hu.digestLength]

/-- The digest of a message in pieces is that of a hasher which has taken in the message. -/
theorem Live.digestOf_eq {s : Hasher} (h : s.Live) (chunks : List Bytes) :
    ∃ next, Absorbed s chunks.flatten next ∧ s.digestOf chunks = next.finalize.1 := by
  obtain ⟨next, hnext, habsorbed, -⟩ := h.updateAll_eq chunks
  exact ⟨next, habsorbed, by rw [digestOf, hnext]⟩

theorem Live.exists_digestOf {s : Hasher} (h : s.Live) (chunks : List Bytes) :
    ∃ d, s.digestOf chunks = .ok d ∧ d.length = s.digestLength := by
  obtain ⟨next, hnext, hdigest⟩ := h.digestOf_eq chunks
  refine ⟨.ofOutput next.finish.staging next.digestLength, ?_, hnext.digestLength⟩
  rw [hdigest, next.finalize_of_ne_finalized hnext.live.phase]

/-- A hasher that has taken in the front of a stream gives for the rest of it the digest that
the hasher before gives for all of it. The two ways of cutting need not agree anywhere. -/
theorem Absorbed.digestOf_eq {s t : Hasher} {front : Bytes} (h : Absorbed s front t)
    (hs : s.Live) {whole rest : List Bytes} (hdata : whole.flatten = front ++ rest.flatten) :
    s.digestOf whole = t.digestOf rest := by
  obtain ⟨u, hu, hwhole⟩ := hs.digestOf_eq whole
  obtain ⟨v, hv, hrest⟩ := h.live.digestOf_eq rest
  have hstream : Absorbed s whole.flatten v := hdata ▸ h.trans hv
  rw [hwhole, hrest]
  exact hu.finalize_fst_eq hstream

/-- The two ways to the digest agree. A buffer of any length up to that of the digest is
filled with the front of the digest, whatever it held before, and the hasher ends alike. The
bytes of the output behind the length of the digest are not in the storage of the digest. -/
theorem finalizeInto_eq_take_finalize (s : Hasher) (h : s.Live) (hle : s.digestLength ≤ 64) :
    ∃ d next, s.finalize = (.ok d, next) ∧
      d.length = s.digestLength ∧ d.toBytes.length = s.digestLength ∧
      d.toBytes =
        (LittleEndian.encodeAll
          (compress s.chaining s.intake.backlog.lastFrame).toList).take s.digestLength ∧
      d.storage.toList.drop s.digestLength = List.replicate (64 - s.digestLength) 0 ∧
      ∀ buffer : Bytes, 1 ≤ buffer.length → buffer.length ≤ s.digestLength →
        s.finalizeInto buffer = (.ok (), d.toBytes.take buffer.length, next) := by
  have hbytes := Digest.toBytes_ofOutput s.finish.staging s.digestLength
  have hstorage := Digest.toList_storage_ofOutput s.finish.staging s.digestLength hle
  refine ⟨_, _, s.finalize_of_ne_finalized h.phase, rfl, Digest.length_toBytes hle, ?_, ?_,
    fun buffer hpos hbuffer => ?_⟩
  · rw [hbytes, staging_finish, h.toList_staging_stage]
  · rw [hstorage]
    exact List.drop_left' (Storage.length_take_toList s.finish.staging hle)
  · have hfillable : s.fillable buffer = true := decide_eq_true ⟨hpos, hbuffer⟩
    -- the buffer is a front of the output, and so is the digest, which is not shorter
    rw [s.finalizeInto_of_fillable buffer h.phase hfillable, hbytes, Storage.slice_zero,
      List.take_take, Nat.min_eq_left hbuffer]

/-- A digest of 33 bytes ends inside of a word, and so do the three bytes that the buffer
takes of it. -/
theorem finalizeInto_eq_take_finalize_midWord :
    let s : Hasher := { midStream with digestLength := 33 }
    s.Live ∧ s.digestLength ≤ 64 ∧
      ∃ d next, s.finalize = (.ok d, next) ∧ d.length = 33 ∧
        d.storage.toList.drop 33 = List.replicate 31 0 ∧
        s.finalizeInto [0xee, 0xee, 0xee] = (.ok (), d.toBytes.take 3, next) := by
  intro s
  have hlive : s.Live := ⟨by decide, Nat.le_refl 128⟩
  have hle : s.digestLength ≤ 64 := by decide
  obtain ⟨d, next, hd, hlength, -, -, hzeros, hfills⟩ := finalizeInto_eq_take_finalize s hlive hle
  exact ⟨hlive, hle, d, next, hd, hlength, hzeros,
    hfills [0xee, 0xee, 0xee] (by decide) (by decide)⟩

end Hasher

end Blake2b
