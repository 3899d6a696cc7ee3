import AssetOverlay.Proofs.Detour.Breakage

/-!
# The grammar of detour blocks

A byte string is read as a block if and only if it starts with a stored one.  The size of the block
is that of the stored one, and each of its records gives a detour.
-/

namespace AssetOverlay

/-! ## What was read is stored -/

namespace Block

/-- Where a block can be read, one is stored: nothing is broken. -/
theorem exists_block_of_decode {bytes : Bytes} {header : Header}
    (h : decode bytes = .ok (some header)) :
    ∃ block : StoredBlock, block.bytes <+: bytes := by
  by_cases hletters : Bytes.ofText "GSIC" <+: bytes
  · rcases block_stored_or_broken hletters with ⟨block, rest, rfl⟩ | ⟨failure, hbroken⟩
    · exact ⟨block, List.prefix_append _ _⟩
    · rw [decode_broken hbroken] at h
      cases h
  · rw [(decode_eq_none_iff bytes).mpr hletters] at h
    cases h

/-- What was read is a stored block and nothing of what follows it. -/
theorem exists_stored_of_decode {bytes : Bytes} {header : Header}
    (h : decode bytes = .ok (some header)) :
    ∃ (block : StoredBlock) (rest : Bytes), bytes = block.bytes ++ rest ∧
      header = ⟨block.records.map Detour.ofRecord, block.bytes.length⟩ := by
  obtain ⟨block, rest, rfl⟩ := exists_block_of_decode h
  rw [decode_stored] at h
  cases h
  exact ⟨block, rest, rfl, rfl⟩

theorem size_le_length {bytes : Bytes} {header : Header} (h : decode bytes = .ok (some header)) :
    header.size ≤ bytes.length := by
  obtain ⟨block, rest, rfl, rfl⟩ := exists_stored_of_decode h
  rw [List.length_append]
  exact Nat.le_add_right _ _

/-- A block is read the same, whatever follows it. -/
theorem decode_take_append {bytes : Bytes} {header : Header}
    (h : decode bytes = .ok (some header)) (rest : Bytes) :
    decode (bytes.take header.size ++ rest) = .ok (some header) := by
  obtain ⟨block, behind, rfl, rfl⟩ := exists_stored_of_decode h
  rw [List.take_left, decode_stored]

/-- Taking off a block leaves what follows it. -/
theorem strip_of_decode {bytes : Bytes} {header : Header} (h : decode bytes = .ok (some header)) :
    strip bytes = .ok (bytes.drop header.size, header.detours) := by
  rw [strip, h]

/-- A block is taken off what it stands in front of. -/
theorem strip_append {block : Bytes} {header : Header}
    (hblock : decode block = .ok (some header)) (hsize : header.size = block.length)
    (body : Bytes) :
    strip (block ++ body) = .ok (body, header.detours) := by
  have hread := decode_take_append hblock body
  rw [hsize, List.take_length] at hread
  rw [strip_of_decode hread, hsize, List.drop_left]

theorem strip_of_not_announced {bytes : Bytes} (h : ¬ Bytes.ofText "GSIC" <+: bytes) :
    strip bytes = .ok (bytes, []) := by
  rw [strip, (decode_eq_none_iff bytes).mpr h]

end Block

/-! ## Sizes -/

/-- The records do not fill a block. -/
theorem StoredBlock.lt_length_bytes (block : StoredBlock) :
    256 * block.records.length < block.bytes.length := by
  have hfields : ∀ fields : List StoredField, 256 * (fields.flatMap StoredField.records).length ≤
      (fields.flatMap StoredField.bytes).length := by
    intro fields
    induction fields with
    | nil => exact Nat.le_refl _
    | cons field rest ih =>
      simp only [List.flatMap_cons, List.length_append, StoredField.length_bytes]
      omega
  have hblock := hfields block.fields
  simp only [records, bytes, List.length_append, Bytes.length_ofWord32]
  omega

/-- A byte string has no block exactly if it does not start with the letters `GSIC`.  A block is read
from it exactly if it starts with a stored one, and then the size is that of the stored block, which
fits and is not filled by its records, and every record gives a detour by its words.  Any other byte
string with these letters in front can't be read. -/
theorem decode_iff_stored (bytes : Bytes) :
    (Block.decode bytes = .ok none ↔ ¬ Bytes.ofText "GSIC" <+: bytes) ∧
      (∀ header, Block.decode bytes = .ok (some header) ↔
        ∃ block : StoredBlock, block.bytes <+: bytes ∧ header.size = block.bytes.length ∧
          header.detours = block.records.map fun record ↦
            ⟨record.word32At 0, record.word32At 4, record.word32At 8, record.word32At 12,
              record.word32At 16, ⟨record.word64At 20⟩⟩) ∧
      (∀ header, Block.decode bytes = .ok (some header) →
        header.size ≤ bytes.length ∧ 256 * header.detours.length < header.size) ∧
      (Bytes.ofText "GSIC" <+: bytes → (¬ ∃ block : StoredBlock, block.bytes <+: bytes) →
        ∃ failure, Block.decode bytes = .error failure) := by
  have hread (header : Block.Header) : Block.decode bytes = .ok (some header) ↔
      ∃ block : StoredBlock, block.bytes <+: bytes ∧ header.size = block.bytes.length ∧
        header.detours = block.records.map Detour.ofRecord := by
    constructor
    · intro h
      obtain ⟨block, rest, rfl⟩ := Block.exists_block_of_decode h
      rw [Block.decode_stored] at h
      cases h
      exact ⟨block, List.prefix_append _ _, rfl, rfl⟩
    · rintro ⟨block, ⟨rest, rfl⟩, hsize, hdetours⟩
      rw [Block.decode_stored, ← hsize, ← hdetours]
  refine ⟨Block.decode_eq_none_iff bytes, hread, ?_, ?_⟩
  · intro header h
    obtain ⟨block, hstarts, hsize, hdetours⟩ := (hread header).mp h
    rw [hsize, hdetours, List.length_map]
    exact ⟨hstarts.length_le, block.lt_length_bytes⟩
  · intro hletters hnone
    cases h : Block.decode bytes with
    | error failure => exact ⟨failure, rfl⟩
    | ok header =>
      cases header with
      | none => exact absurd hletters ((Block.decode_eq_none_iff bytes).mp h)
      | some header => exact absurd (Block.exists_block_of_decode h) hnone

end AssetOverlay
