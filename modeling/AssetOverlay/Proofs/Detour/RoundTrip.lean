import AssetOverlay.Proofs.Detour.Grammar

/-!
# Writing and reading detour blocks

A detour has a word for each of its values, so reading a stored detour gives back the one that was
written.  The other way around only the used part of a record comes back, and the reserved part is
cleared.  What is written for a list of detours is the stored block with a single field, and what
follows a block doesn't depend on how the block is divided into fields, nor on its reserved bytes.
-/

namespace AssetOverlay

/-! ## Records -/

namespace Detour

theorem length_toRecord (detour : Detour) : detour.toRecord.length = recordSize := by
  simp only [toRecord, List.length_append, Bytes.length_ofWord32, Bytes.length_ofWord64,
    List.length_replicate]
  rfl

theorem ofRecord_toRecord (detour : Detour) : ofRecord detour.toRecord = detour := by
  have hword (place : Nat) (word : UInt32) (rest : Bytes)
      (h : detour.toRecord.drop place = Bytes.ofWord32 word ++ rest) :
      detour.toRecord.word32At place = word := Bytes.word32At_of_drop_eq rest h
  have htarget : detour.toRecord.word64At 20 = detour.target.value :=
    Bytes.word64At_of_drop_eq (List.replicate (recordSize - usedSize) 0) rfl
  rw [ofRecord, hword 0 detour.replacement _ rfl, hword 4 detour.replacedNamespace _ rfl,
    hword 8 detour.replacedFunction _ rfl, hword 12 detour.codeOffset _ rfl,
    hword 16 detour.codeSize _ rfl, htarget]

/-- The used part of a record is kept, and its reserved part is cleared. -/
theorem toRecord_ofRecord {record : Bytes} (h : record.length = recordSize) :
    toRecord (ofRecord record) =
      record.take usedSize ++ List.replicate (recordSize - usedSize) 0 := by
  have hlength : record.length = 256 := h
  have hword (place : Nat) (hplace : place ≤ 16) :
      Bytes.ofWord32 (record.word32At place) = (record.drop place).take 4 :=
    Bytes.ofWord32_word32At_eq_take (by omega)
  have htarget : Bytes.ofWord64 (record.word64At 20) = (record.drop 20).take 8 :=
    Bytes.ofWord64_word64At_eq_take (by omega)
  have hused : record.take 4 ++ (record.drop 4).take 4 ++ (record.drop 8).take 4 ++
      (record.drop 12).take 4 ++ (record.drop 16).take 4 ++ (record.drop 20).take 8 =
        record.take usedSize := by
    rw [← List.take_add, ← List.take_add, ← List.take_add, ← List.take_add, ← List.take_add]
    rfl
  rw [toRecord, ofRecord]
  dsimp only
  rw [hword 0 (by decide), hword 4 (by decide), hword 8 (by decide), hword 12 (by decide),
    hword 16 (by decide), htarget, List.drop_zero, hused]

theorem toRecord_ofRecord_of_clear {record : Bytes} (h : record.length = recordSize)
    (hclear : ∀ place, usedSize ≤ place → place < recordSize → record.byteAt place = 0) :
    toRecord (ofRecord record) = record := by
  have hreserved : record.drop usedSize = List.replicate (recordSize - usedSize) 0 := by
    refine List.eq_replicate_iff.mpr ⟨by rw [List.length_drop, h], ?_⟩
    intro byte hbyte
    obtain ⟨place, hplace, rfl⟩ := List.mem_iff_getElem.mp hbyte
    rw [List.length_drop, h] at hplace
    have hzero := hclear (usedSize + place) (Nat.le_add_right ..) (by omega)
    rwa [← Bytes.byteAt_drop, Bytes.byteAt, List.getD_eq_getElem] at hzero
  rw [toRecord_ofRecord h, ← hreserved, List.take_append_drop]

/-- Where a byte of a record lies among the records. -/
theorem byteAt_flatten_records {records : List Bytes}
    (h : ∀ record ∈ records, record.length = recordSize) (rest : Bytes) {index place : Nat}
    (hindex : index < records.length) (hplace : place < recordSize) :
    Bytes.byteAt (records.flatten ++ rest) (recordSize * index + place) =
      records[index].byteAt place := by
  induction records generalizing index with
  | nil => exact absurd hindex (Nat.not_lt_zero _)
  | cons record records ih =>
    obtain ⟨hrecord, hrecords⟩ := List.forall_mem_cons.mp h
    rw [List.flatten_cons, List.append_assoc]
    cases index with
    | zero =>
      rw [Nat.mul_zero, Nat.zero_add]
      exact Bytes.byteAt_append_left _ (hrecord ▸ hplace)
    | succ index =>
      rw [Nat.mul_succ, Nat.add_comm (recordSize * index), Nat.add_assoc, ← Bytes.byteAt_drop,
        List.drop_left' hrecord]
      exact ih hrecords (Nat.lt_of_succ_lt_succ hindex)

end Detour

/-! ## Blocks with a single field -/

/-- The field that stores the given detours. -/
def StoredField.ofDetours (detours : List Detour) (h : detours.length < 2 ^ 32) : StoredField where
  records := detours.map Detour.toRecord
  count_lt := by rwa [List.length_map]
  size_eq := by
    rw [List.forall_mem_map]
    exact fun detour _ ↦ detour.length_toRecord

namespace StoredBlock

/-- The block with the given field and no other. -/
def single (field : StoredField) : StoredBlock where
  fields := [field]
  count_lt := by
    rw [List.length_singleton]
    decide

theorem records_single (field : StoredField) : (single field).records = field.records :=
  List.flatMap_singleton ..

theorem length_bytes_single (field : StoredField) :
    (single field).bytes.length = 16 + 256 * field.records.length := by
  have hletters : (Bytes.ofText "GSIC").length = 4 := by decide
  simp only [bytes, single, List.flatMap_singleton, List.length_append, hletters,
    Bytes.length_ofWord32, field.length_bytes]
  omega

/-- The records of a single field start after four words. -/
theorem drop_bytes_single (field : StoredField) (rest : Bytes) :
    ((single field).bytes ++ rest).drop 16 = field.records.flatten ++ rest := by
  have hbytes : (single field).bytes ++ rest =
      Bytes.ofText "GSIC" ++ Bytes.ofWord32 1 ++ Bytes.ofWord32 0 ++
        Bytes.ofWord32 (UInt32.ofNat field.records.length) ++ (field.records.flatten ++ rest) := by
    simp [bytes, single, StoredField.bytes]
  rw [hbytes]
  exact List.drop_left' (by simp only [List.length_append, Bytes.length_ofWord32]; decide)

theorem exists_eq_single {block : StoredBlock} {rest : Bytes}
    (h : (block.bytes ++ rest).word32At 4 = 1) : ∃ field, block = single field := by
  have hcount : (block.bytes ++ rest).word32At 4 = UInt32.ofNat block.fields.length := by
    apply Bytes.word32At_of_drop_eq (block.fields.flatMap StoredField.bytes ++ rest)
    rw [bytes, List.append_assoc, List.append_assoc]
    exact List.drop_left' (by decide)
  have hlength : block.fields.length = 1 := by
    rw [← UInt32.toNat_ofNat_of_lt' block.count_lt, ← hcount, h]
    rfl
  obtain ⟨fields, hfields⟩ := block
  obtain ⟨field, rfl⟩ := List.length_eq_one_iff.mp hlength
  exact ⟨field, rfl⟩

end StoredBlock

namespace Block

/-- What is written for a list of detours is a stored block. -/
theorem encode_eq_bytes {detours : List Detour} (h : detours.length < 2 ^ 32) :
    encode detours = (StoredBlock.single (StoredField.ofDetours detours h)).bytes := by
  have hmagic : Bytes.ofText "GSIC" = magic := by decide
  simp [StoredBlock.single, StoredBlock.bytes, StoredField.ofDetours, StoredField.bytes, encode,
    hmagic, List.flatMap]

theorem decode_encode {detours : List Detour} (h : detours.length < 2 ^ 32) (rest : Bytes) :
    decode (encode detours ++ rest) = .ok (some ⟨detours, 16 + 256 * detours.length⟩) := by
  have hread : (StoredField.ofDetours detours h).records.map Detour.ofRecord = detours := by
    rw [StoredField.ofDetours, List.map_map]
    exact List.map_id'' Detour.ofRecord_toRecord detours
  rw [encode_eq_bytes h, decode_stored, StoredBlock.records_single, hread,
    StoredBlock.length_bytes_single, StoredField.ofDetours, List.length_map]

theorem strip_encode {detours : List Detour} (h : detours.length < 2 ^ 32) (rest : Bytes) :
    strip (encode detours ++ rest) = .ok (rest, detours) := by
  have hlength : (encode detours).length = 16 + 256 * detours.length := by
    rw [encode_eq_bytes h, StoredBlock.length_bytes_single, StoredField.ofDetours, List.length_map]
  rw [strip_of_decode (decode_encode h rest), List.drop_left' hlength]

/-- A field whose records are clear behind their used part is written as it was stored. -/
theorem encode_of_clear {field : StoredField}
    (h : ∀ record ∈ field.records, ∀ place, Detour.usedSize ≤ place → place < Detour.recordSize →
      record.byteAt place = 0) :
    encode (field.records.map Detour.ofRecord) = (StoredBlock.single field).bytes := by
  have hcount : (field.records.map Detour.ofRecord).length < 2 ^ 32 := by
    rw [List.length_map]
    exact field.count_lt
  have hrecords : (field.records.map Detour.ofRecord).map Detour.toRecord = field.records := by
    rw [List.map_map]
    refine (List.map_congr_left fun record hrecord ↦ ?_).trans (List.map_id _)
    exact Detour.toRecord_ofRecord_of_clear (field.size_eq record hrecord) (h record hrecord)
  have hfield : StoredField.ofDetours (field.records.map Detour.ofRecord) hcount = field := by
    cases field with
    | mk records count_lt size_eq => exact (StoredField.mk.injEq ..).mpr hrecords
  rw [encode_eq_bytes hcount, hfield]

end Block

/-- Detours that were written are read, and then what was put behind them is left.  A block that was
read can be written again, with a single field and with all reserved bytes zero, without an effect
on what is left or on its detours, and if it was like that before, no byte changes. -/
theorem block_round_trip :
    (∀ (detours : List Detour) (rest : Bytes), detours.length < 2 ^ 32 →
      Block.decode (Block.encode detours ++ rest) =
          .ok (some ⟨detours, 16 + 256 * detours.length⟩) ∧
        Block.strip (Block.encode detours ++ rest) = .ok (rest, detours)) ∧
    ∀ (bytes : Bytes) (header : Block.Header), Block.decode bytes = .ok (some header) →
      (header.detours.length < 2 ^ 32 →
        Block.strip (Block.encode header.detours ++ bytes.drop header.size) =
          Block.strip bytes) ∧
      (bytes.word32At 4 = 1 →
        (∀ index < header.detours.length, ∀ place, 28 ≤ place → place < 256 →
          bytes.byteAt (16 + 256 * index + place) = 0) →
        Block.encode header.detours = bytes.take header.size) := by
  refine ⟨fun detours rest h ↦ ⟨Block.decode_encode h rest, Block.strip_encode h rest⟩, ?_⟩
  intro bytes header hdecode
  refine ⟨fun h ↦ ?_, fun hsingle hclear ↦ ?_⟩
  · rw [Block.strip_encode h, Block.strip_of_decode hdecode]
  · obtain ⟨block, rest, rfl, rfl⟩ := Block.exists_stored_of_decode hdecode
    obtain ⟨field, rfl⟩ := StoredBlock.exists_eq_single hsingle
    dsimp only at hclear ⊢
    rw [List.take_left, StoredBlock.records_single]
    apply Block.encode_of_clear
    intro record hrecord place hused hplace
    obtain ⟨index, hindex, rfl⟩ := List.mem_iff_getElem.mp hrecord
    rw [StoredBlock.records_single, List.length_map] at hclear
    have hzero := hclear index hindex place hused hplace
    rw [Nat.add_assoc, ← Bytes.byteAt_drop, StoredBlock.drop_bytes_single] at hzero
    rw [← hzero]
    exact (Detour.byteAt_flatten_records field.size_eq rest hindex hplace).symm

end AssetOverlay
