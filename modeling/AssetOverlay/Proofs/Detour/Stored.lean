import AssetOverlay.Detour.Block
import AssetOverlay.Proofs.Bytes.Words

/-!
# Stored detour blocks

This module tells from the writing side which byte strings are blocks.  A *stored field* is the tag
zero, a count and that many records of 256 bytes, a *stored block* the letters `GSIC`, a count and
that many stored fields.  What a record holds does not matter.

What is stored is read to its end, whatever follows it.
-/

namespace AssetOverlay

/-! ## Stored blocks -/

/-- A field as it may be stored: no more records than a word can count, each of full size. -/
structure StoredField where
  records : List Bytes
  count_lt : records.length < 2 ^ 32
  size_eq : ∀ record ∈ records, record.length = 256

/-- The bytes of a field: its tag, the number of its records, and these. -/
def StoredField.bytes (field : StoredField) : Bytes :=
  Bytes.ofWord32 0 ++ Bytes.ofWord32 (UInt32.ofNat field.records.length) ++ field.records.flatten

/-- A block as it may be stored: no more fields than a word can count. -/
structure StoredBlock where
  fields : List StoredField
  count_lt : fields.length < 2 ^ 32

namespace StoredBlock

/-- The bytes of a block: its letters, the number of its fields, and these. -/
def bytes (block : StoredBlock) : Bytes :=
  Bytes.ofText "GSIC" ++ Bytes.ofWord32 (UInt32.ofNat block.fields.length) ++
    block.fields.flatMap StoredField.bytes

/-- The records of all fields. -/
def records (block : StoredBlock) : List Bytes :=
  block.fields.flatMap StoredField.records

end StoredBlock

/-! ## Records -/

namespace Detour

theorem length_flatten_records {records : List Bytes}
    (h : ∀ record ∈ records, record.length = recordSize) :
    records.flatten.length = recordSize * records.length := by
  induction records with
  | nil => rfl
  | cons record rest ih =>
    obtain ⟨hrecord, hrest⟩ := List.forall_mem_cons.mp h
    rw [List.flatten_cons, List.length_append, hrecord, ih hrest, List.length_cons, Nat.mul_succ,
      Nat.add_comm]

/-- Bytes of the right length are records one after the other. -/
theorem exists_records {count : Nat} {bytes : Bytes} (h : bytes.length = recordSize * count) :
    ∃ records : List Bytes, records.length = count ∧
      (∀ record ∈ records, record.length = recordSize) ∧ bytes = records.flatten := by
  induction count generalizing bytes with
  | zero => exact ⟨[], rfl, by simp, List.length_eq_zero_iff.mp h⟩
  | succ count ih =>
    have hrest : (bytes.drop recordSize).length = recordSize * count := by
      rw [List.length_drop, h, Nat.mul_succ, Nat.add_sub_cancel]
    obtain ⟨records, hlength, hsize, hflatten⟩ := ih hrest
    refine ⟨bytes.take recordSize :: records, by rw [List.length_cons, hlength], ?_, ?_⟩
    · refine List.forall_mem_cons.mpr ⟨?_, hsize⟩
      rw [List.length_take, h, Nat.mul_succ]
      omega
    · rw [List.flatten_cons, ← hflatten, List.take_append_drop]

theorem ofRecords_flatten {records : List Bytes}
    (h : ∀ record ∈ records, record.length = recordSize) :
    ofRecords records.length records.flatten = records.map ofRecord := by
  induction records with
  | nil => rfl
  | cons record rest ih =>
    obtain ⟨hrecord, hrest⟩ := List.forall_mem_cons.mp h
    rw [List.length_cons, ofRecords, List.flatten_cons, List.take_left' hrecord,
      List.drop_left' hrecord, ih hrest, List.map_cons]

end Detour

/-- The records do not fill a field: its tag and its count come first. -/
theorem StoredField.length_bytes (field : StoredField) :
    field.bytes.length = 8 + 256 * field.records.length := by
  have hsize := Detour.length_flatten_records field.size_eq
  simp only [bytes, List.length_append, Bytes.length_ofWord32, hsize]
  rfl

/-! ## Reading what is stored -/

namespace Block

theorem announced_iff (bytes : Bytes) :
    announced bytes = true ↔ Bytes.ofText "GSIC" <+: bytes := by
  have hmagic : Bytes.ofText "GSIC" = magic := by decide
  rw [hmagic, List.prefix_iff_eq_take, announced, beq_iff_eq]
  exact eq_comm

theorem announced_letters (rest : Bytes) : announced (Bytes.ofText "GSIC" ++ rest) = true :=
  (announced_iff _).mpr (List.prefix_append _ _)

/-- The count comes behind the letters, and then the fields. -/
theorem read_counted (count : UInt32) (fields : Bytes) :
    read (Bytes.ofText "GSIC" ++ (Bytes.ofWord32 count ++ fields)) =
      readFields 0 count.toNat 8 fields := by
  have hletters : (Bytes.ofText "GSIC").length = 4 := by decide
  rw [read, if_pos (announced_letters _), List.drop_left' hletters,
    Bytes.nextWord32?_eq_some_iff.mpr rfl]

theorem read_uncounted {rest : Bytes} (h : rest.length < 4) :
    read (Bytes.ofText "GSIC" ++ rest) = ⟨[], .error (.fieldCount 4)⟩ := by
  have hletters : (Bytes.ofText "GSIC").length = 4 := by decide
  rw [read, if_pos (announced_letters rest), List.drop_left' hletters,
    Bytes.nextWord32?_eq_none_iff.mpr h]

/-- A stored field is read to its end, whatever follows it. -/
theorem readFields_field (index remaining offset : Nat) (field : StoredField) (rest : Bytes) :
    readFields index (remaining + 1) offset (field.bytes ++ rest) =
      let later := readFields (index + 1) remaining (offset + field.bytes.length) rest
      ⟨field.records.map Detour.ofRecord ++ later.detours, later.outcome⟩ := by
  have hcount : (UInt32.ofNat field.records.length).toNat = field.records.length :=
    UInt32.toNat_ofNat_of_lt' field.count_lt
  have hbytes : field.bytes ++ rest =
      Bytes.ofWord32 0 ++ (Bytes.ofWord32 (UInt32.ofNat field.records.length) ++
        (field.records.flatten ++ rest)) := by
    simp only [StoredField.bytes, List.append_assoc]
  have hsplit : Bytes.splitExactly? (Detour.recordSize * field.records.length)
      (field.records.flatten ++ rest) = some (field.records.flatten, rest) :=
    Bytes.splitExactly?_eq_some_iff.mpr ⟨Detour.length_flatten_records field.size_eq, rfl⟩
  have hafter : offset + 8 + Detour.recordSize * field.records.length =
      offset + field.bytes.length := by
    rw [field.length_bytes, Nat.add_assoc]
    rfl
  rw [hbytes, readFields, Bytes.nextWord32?_eq_some_iff.mpr rfl]
  dsimp only
  rw [if_pos rfl, Bytes.nextWord32?_eq_some_iff.mpr rfl]
  dsimp only
  rw [hcount, hsplit]
  dsimp only
  rw [Detour.ofRecords_flatten field.size_eq, hafter]

/-- Stored fields are read, and then the remaining ones from what follows them. -/
theorem readFields_append (index remaining offset : Nat) (fields : List StoredField)
    (rest : Bytes) :
    readFields index (fields.length + remaining) offset
        (fields.flatMap StoredField.bytes ++ rest) =
      let later := readFields (index + fields.length) remaining
        (offset + (fields.flatMap StoredField.bytes).length) rest
      ⟨(fields.flatMap StoredField.records).map Detour.ofRecord ++ later.detours,
        later.outcome⟩ := by
  induction fields generalizing index offset with
  | nil => simp only [List.length_nil, List.flatMap_nil, List.nil_append, List.map_nil,
      Nat.zero_add, Nat.add_zero]
  | cons field fields ih =>
    rw [List.length_cons, Nat.add_right_comm, List.flatMap_cons, List.append_assoc,
      readFields_field, ih, List.flatMap_cons, List.map_append, List.length_append,
      Nat.add_assoc index 1, Nat.add_comm 1, Nat.add_assoc offset]
    simp only [List.append_assoc]

/-- Stored fields are read to their end, whatever follows them. -/
theorem readFields_stored (index offset : Nat) (fields : List StoredField) (rest : Bytes) :
    readFields index fields.length offset (fields.flatMap StoredField.bytes ++ rest) =
      ⟨(fields.flatMap StoredField.records).map Detour.ofRecord,
        .ok (offset + (fields.flatMap StoredField.bytes).length)⟩ := by
  have hread := readFields_append index 0 offset fields rest
  rw [Nat.add_zero] at hread
  rw [hread, readFields]
  dsimp only
  rw [List.append_nil]

/-- A stored block is read to its end, whatever follows it. -/
theorem decode_stored (block : StoredBlock) (rest : Bytes) :
    decode (block.bytes ++ rest) =
      .ok (some ⟨block.records.map Detour.ofRecord, block.bytes.length⟩) := by
  let fields := block.fields.flatMap StoredField.bytes
  have hletters : (Bytes.ofText "GSIC").length = 4 := by decide
  have hcount : (UInt32.ofNat block.fields.length).toNat = block.fields.length :=
    UInt32.toNat_ofNat_of_lt' block.count_lt
  have hbytes : block.bytes ++ rest = Bytes.ofText "GSIC" ++
      (Bytes.ofWord32 (UInt32.ofNat block.fields.length) ++ (fields ++ rest)) := by
    simp only [StoredBlock.bytes, List.append_assoc, fields]
  have hread : read (block.bytes ++ rest) =
      ⟨block.records.map Detour.ofRecord, .ok block.bytes.length⟩ := by
    rw [hbytes, read_counted, hcount, readFields_stored]
    simp only [StoredBlock.records, StoredBlock.bytes, List.length_append, hletters,
      Bytes.length_ofWord32]
  rw [decode, hread, hbytes, if_pos (announced_letters _)]

theorem decode_eq_none_iff (bytes : Bytes) :
    decode bytes = .ok none ↔ ¬ Bytes.ofText "GSIC" <+: bytes := by
  rw [← announced_iff]
  unfold decode
  split
  · next hannounced =>
    refine iff_of_false ?_ (not_not_intro hannounced)
    split <;> exact nofun
  · next hannounced => exact iff_of_true rfl hannounced

end Block

end AssetOverlay
