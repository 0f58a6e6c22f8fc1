import Blake2b.Proofs.Finalization
import Blake2b.Proofs.LittleEndian
/-!
# Regions of whole words

A region of `8 * k` bytes is `k` words, written one behind the other. Lane `i` of such a
region begins where the bytes of the first `i` words end, so `encodeLanes` writes what
`decodeLanes` reads, and each of the two undoes the other.

A block becomes message words in this way and the last chaining value becomes the output.
Both lay their words over a region that was used before. The words are as many as the region
has lanes, so nothing in it is left as it was.
-/

namespace Blake2b

namespace LittleEndian

/-- The region whose lanes are the bytes of the given words. -/
def encodeLanes {k : Nat} (words : Vector UInt64 k) : Vector UInt8 (8 * k) :=
  ⟨(encodeAll words.toList).toArray, by
    rw [List.size_toArray, length_encodeAll, Vector.length_toList]⟩

theorem toList_encodeLanes {k : Nat} (words : Vector UInt64 k) :
    (encodeLanes words).toList = encodeAll words.toList := rfl

/-- Every word takes eight bytes, so lanes are skipped by skipping words. -/
theorem drop_encodeAll (words : List UInt64) (i : Nat) :
    (encodeAll words).drop (8 * i) = encodeAll (words.drop i) := by
  induction i generalizing words with
  | zero => rfl
  | succ i ih =>
      cases words with
      | nil => rw [encodeAll_nil, List.drop_nil, List.drop_nil, encodeAll_nil]
      | cons word words =>
          rw [Nat.mul_succ, Nat.add_comm, ← List.drop_drop, encodeAll_cons,
            List.drop_left' Vector.length_toList, ih, List.drop_succ_cons]

theorem lane_encodeLanes {k : Nat} (words : Vector UInt64 k) (i : Fin k) :
    lane (encodeLanes words) i = encode (words.get i) := by
  have hi : i.val < words.toList.length := by
    rw [Vector.length_toList]
    exact i.isLt
  apply Vector.toList_inj.1
  rw [toList_lane, toList_encodeLanes, drop_encodeAll, List.drop_eq_getElem_cons hi,
    encodeAll_cons, List.take_left' Vector.length_toList, Vector.getElem_toList]
  rfl

theorem decodeLanes_encodeLanes {k : Nat} (words : Vector UInt64 k) :
    decodeLanes (encodeLanes words) = words := by
  apply Vector.ext
  intro i hi
  rw [getElem_decodeLanes, lane_encodeLanes, decode_encode]
  rfl

theorem encodeLanes_decodeLanes {k : Nat} (bytes : Vector UInt8 (8 * k)) :
    encodeLanes (decodeLanes bytes) = bytes :=
  decodeLanes_injective (decodeLanes_encodeLanes (decodeLanes bytes))

end LittleEndian

open LittleEndian

/-- The words of a block, written one behind the other, are the block. -/
theorem Block.encodeAll_words (block : Block) :
    encodeAll block.words.toList = block.toList := by
  rw [← toList_encodeLanes, words, encodeLanes_decodeLanes]

/-- Some block has the given words. -/
theorem Block.exists_words_eq (words : Vector UInt64 16) :
    ∃ block : Block, block.toList = encodeAll words.toList ∧ block.words = words :=
  ⟨@encodeLanes 16 words, toList_encodeLanes words, decodeLanes_encodeLanes words⟩

/-- The lanes of the output are the words of the last chaining value. -/
theorem Hasher.staging_finish_eq_encodeLanes (s : Hasher) :
    s.finish.staging = @encodeLanes 8 (compress s.chaining s.intake.close.frame) := by
  apply Vector.toList_inj.1
  rw [toList_staging_finish]
  exact (toList_encodeLanes _).symm

theorem Hasher.chaining_stage (s : Hasher) :
    s.stage.chaining = compress s.chaining s.intake.close.frame := by
  simp only [stage, Workspace.compress_eq]

/-- Words and bytes are made of each other without loss. A word is the sum of its bytes, each
weighted by its place, and the two directions of the codec undo each other. Whatever the
message words were before, a block that is loaded can be written again from them, and any
sixteen words are loaded from the block that they are written to. Of the output no byte is
left over from before, and its lanes are the words of the last chaining value. -/
theorem lanes_read_back :
    (∀ bytes : Vector UInt8 8,
      (decode bytes).toNat = ∑ i : Fin 8, (bytes.get i).toNat * 256 ^ i.val ∧
        encode (decode bytes) = bytes) ∧
    (∀ word : UInt64, decode (encode word) = word) ∧
    (∀ (w : Workspace) (block : Block),
      encodeAll (w.loadMessage block).message.toList = block.toList) ∧
    (∀ words : Vector UInt64 16, ∃ block : Block, block.toList = encodeAll words.toList ∧
      ∀ w : Workspace, (w.loadMessage block).message = words) ∧
    ∀ s : Hasher,
      s.stage.chaining = compress s.chaining s.intake.close.frame ∧
        s.finish.staging.toList = encodeAll s.stage.chaining.toList ∧
        ∀ i : Fin 8, decode (@lane 8 s.finish.staging i) = s.stage.chaining.get i := by
  refine ⟨fun bytes => ⟨?_, encode_decode bytes⟩, decode_encode, fun w block => ?_,
    fun words => ?_, fun s => ⟨s.chaining_stage, ?_, fun i => ?_⟩⟩
  · rw [toNat_decode, digitsValue_toList]
  · rw [w.message_loadMessage, block.encodeAll_words]
  · obtain ⟨block, hbytes, hwords⟩ := Block.exists_words_eq words
    exact ⟨block, hbytes, fun w => (w.message_loadMessage block).trans hwords⟩
  · rw [s.toList_staging_finish, s.chaining_stage]
  · rw [s.staging_finish_eq_encodeLanes, lane_encodeLanes, decode_encode, s.chaining_stage]

end Blake2b
