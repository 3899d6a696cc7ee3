import AssetOverlay.Proofs.Detour.Stored

/-!
# Broken detour blocks

Reading a block fails for what stands behind the fields that are stored in front of it: a word or a
record that is not all there, or a tag that no field has.  This module tells from the bytes alone
what is broken and where, and reading fails with exactly that.

Cutting a block off inside of it only ever leaves something out, and adding bytes to a string can't
make up for an unknown tag.
-/

namespace AssetOverlay

/-! ## What is broken -/

/-- What keeps a byte string from starting with a stored field.  The field has the given index, and
the byte string starts at the offset. -/
inductive BrokenField (index offset : Nat) : Bytes → Block.Failure → Prop where
  | tagMissing {bytes : Bytes} (h : bytes.length < 4) :
    BrokenField index offset bytes (.fieldTag offset index)
  | tagUnknown {tag : UInt32} (rest : Bytes) (h : tag ≠ 0) :
    BrokenField index offset (Bytes.ofWord32 tag ++ rest) (.unknownTag offset tag.toNat)
  | countMissing {rest : Bytes} (h : rest.length < 4) :
    BrokenField index offset (Bytes.ofWord32 0 ++ rest) (.detourCount (offset + 4))
  | recordsMissing {count : UInt32} {rest : Bytes} (h : rest.length < 256 * count.toNat) :
    BrokenField index offset (Bytes.ofWord32 0 ++ (Bytes.ofWord32 count ++ rest))
      (.detours (offset + 8) count.toNat)

/-- What keeps a byte string that starts with the letters of a block from starting with a stored one:
its count is missing, or there are fewer stored fields than that before a broken one. -/
inductive BrokenBlock : Bytes → Block.Failure → Prop where
  | countMissing {rest : Bytes} (h : rest.length < 4) :
    BrokenBlock (Bytes.ofText "GSIC" ++ rest) (.fieldCount 4)
  | fieldBroken {count : UInt32} {fields : List StoredField} {rest : Bytes}
    {failure : Block.Failure} (hcount : fields.length < count.toNat)
    (h : BrokenField fields.length (8 + (fields.flatMap StoredField.bytes).length) rest failure) :
    BrokenBlock (Bytes.ofText "GSIC" ++ (Bytes.ofWord32 count ++
      (fields.flatMap StoredField.bytes ++ rest))) failure

/-! ## A byte string is stored or broken -/

theorem field_stored_or_broken (index offset : Nat) (bytes : Bytes) :
    (∃ (field : StoredField) (rest : Bytes), bytes = field.bytes ++ rest) ∨
      ∃ failure, BrokenField index offset bytes failure := by
  cases htag : bytes.nextWord32? with
  | none => exact .inr ⟨_, .tagMissing (Bytes.nextWord32?_eq_none_iff.mp htag)⟩
  | some tagged =>
    obtain ⟨tag, afterTag⟩ := tagged
    obtain rfl := Bytes.nextWord32?_eq_some_iff.mp htag
    by_cases hzero : tag = 0
    · subst hzero
      cases hcount : afterTag.nextWord32? with
      | none => exact .inr ⟨_, .countMissing (Bytes.nextWord32?_eq_none_iff.mp hcount)⟩
      | some counted =>
        obtain ⟨count, afterCount⟩ := counted
        obtain rfl := Bytes.nextWord32?_eq_some_iff.mp hcount
        by_cases hsize : afterCount.length < 256 * count.toNat
        · exact .inr ⟨_, .recordsMissing hsize⟩
        · left
          have hcontent : (afterCount.take (256 * count.toNat)).length =
              Detour.recordSize * count.toNat := List.length_take_of_le (Nat.not_lt.mp hsize)
          obtain ⟨records, hlength, hrecords, hflatten⟩ := Detour.exists_records hcontent
          refine ⟨⟨records, hlength ▸ count.toNat_lt, hrecords⟩,
            afterCount.drop (256 * count.toNat), ?_⟩
          calc
            _ = Bytes.ofWord32 0 ++ (Bytes.ofWord32 count ++
                (records.flatten ++ afterCount.drop (256 * count.toNat))) := by
              rw [← hflatten, List.take_append_drop]
            _ = _ := by
              simp only [StoredField.bytes, hlength, UInt32.ofNat_toNat, List.append_assoc]
    · exact .inr ⟨_, .tagUnknown afterTag hzero⟩

/-- So many fields are stored, or a broken one comes first. -/
theorem fields_stored_or_broken (index offset count : Nat) (bytes : Bytes) :
    (∃ (fields : List StoredField) (rest : Bytes), fields.length = count ∧
      bytes = fields.flatMap StoredField.bytes ++ rest) ∨
    ∃ (fields : List StoredField) (rest : Bytes) (failure : Block.Failure),
      fields.length < count ∧ bytes = fields.flatMap StoredField.bytes ++ rest ∧
        BrokenField (index + fields.length) (offset + (fields.flatMap StoredField.bytes).length)
          rest failure := by
  -- After a stored field the same question is put about one field less.
  induction count generalizing index offset bytes with
  | zero => exact .inl ⟨[], bytes, rfl, rfl⟩
  | succ count ih =>
    rcases field_stored_or_broken index offset bytes with ⟨field, rest, rfl⟩ | ⟨failure, hbroken⟩
    · rcases ih (index + 1) (offset + field.bytes.length) rest with
        ⟨fields, behind, hlength, rfl⟩ | ⟨fields, behind, failure, hlength, rfl, hbroken⟩
      · refine .inl ⟨field :: fields, behind, by rw [List.length_cons, hlength], ?_⟩
        rw [List.flatMap_cons, List.append_assoc]
      · refine .inr ⟨field :: fields, behind, failure, Nat.succ_lt_succ hlength, ?_, ?_⟩
        · rw [List.flatMap_cons, List.append_assoc]
        · rw [Nat.add_assoc index 1, Nat.add_comm 1, Nat.add_assoc offset] at hbroken
          rw [List.length_cons, List.flatMap_cons, List.length_append]
          exact hbroken
    · exact .inr ⟨[], bytes, failure, Nat.succ_pos count, rfl, hbroken⟩

theorem block_stored_or_broken {bytes : Bytes} (h : Bytes.ofText "GSIC" <+: bytes) :
    (∃ (block : StoredBlock) (rest : Bytes), bytes = block.bytes ++ rest) ∨
      ∃ failure, BrokenBlock bytes failure := by
  obtain ⟨afterLetters, rfl⟩ := h
  cases hcount : Bytes.nextWord32? afterLetters with
  | none => exact .inr ⟨_, .countMissing (Bytes.nextWord32?_eq_none_iff.mp hcount)⟩
  | some counted =>
    obtain ⟨count, afterCount⟩ := counted
    obtain rfl := Bytes.nextWord32?_eq_some_iff.mp hcount
    rcases fields_stored_or_broken 0 8 count.toNat afterCount with
      ⟨fields, rest, hlength, rfl⟩ | ⟨fields, rest, failure, hlength, rfl, hbroken⟩
    · refine .inl ⟨⟨fields, hlength ▸ count.toNat_lt⟩, rest, ?_⟩
      simp only [StoredBlock.bytes, hlength, UInt32.ofNat_toNat, List.append_assoc]
    · rw [Nat.zero_add] at hbroken
      exact .inr ⟨failure, .fieldBroken hlength hbroken⟩

namespace Block

/-! ## Reading what is broken -/

theorem readFields_broken {index offset : Nat} {bytes : Bytes} {failure : Failure}
    (h : BrokenField index offset bytes failure) (remaining : Nat) :
    (readFields index (remaining + 1) offset bytes).outcome = .error failure := by
  rw [readFields]
  cases h with
  | tagMissing h => rw [Bytes.nextWord32?_eq_none_iff.mpr h]
  | tagUnknown rest h =>
    rw [Bytes.nextWord32?_eq_some_iff.mpr rfl]
    dsimp only
    rw [if_neg h]
  | countMissing h =>
    rw [Bytes.nextWord32?_eq_some_iff.mpr rfl]
    dsimp only
    rw [if_pos rfl, Bytes.nextWord32?_eq_none_iff.mpr h]
  | @recordsMissing count rest h =>
    have hsplit : rest.splitExactly? (Detour.recordSize * count.toNat) = none :=
      Bytes.splitExactly?_eq_none_iff.mpr h
    rw [Bytes.nextWord32?_eq_some_iff.mpr rfl]
    dsimp only
    rw [if_pos rfl, Bytes.nextWord32?_eq_some_iff.mpr rfl]
    dsimp only
    rw [hsplit]

theorem decode_broken {bytes : Bytes} {failure : Failure} (h : BrokenBlock bytes failure) :
    decode bytes = .error failure := by
  cases h with
  | countMissing h => rw [decode, if_pos (announced_letters _), read_uncounted h]
  | @fieldBroken count fields rest failure hcount h =>
    obtain ⟨remaining, hremaining⟩ : ∃ remaining, count.toNat = fields.length + (remaining + 1) :=
      ⟨count.toNat - fields.length - 1, by omega⟩
    have houtcome := readFields_broken h remaining
    rw [decode, if_pos (announced_letters _), read_counted, hremaining, readFields_append,
      Nat.zero_add]
    dsimp only
    rw [houtcome]

/-- Reading fails with exactly what is broken. -/
theorem decode_eq_error_iff {bytes : Bytes} {failure : Failure} :
    decode bytes = .error failure ↔ BrokenBlock bytes failure := by
  refine ⟨fun h ↦ ?_, decode_broken⟩
  by_cases hletters : Bytes.ofText "GSIC" <+: bytes
  · rcases block_stored_or_broken hletters with ⟨block, rest, rfl⟩ | ⟨other, hbroken⟩
    · rw [decode_stored] at h
      cases h
    · rw [decode_broken hbroken] at h
      cases h
      exact hbroken
  · rw [(decode_eq_none_iff bytes).mpr hletters] at h
    cases h

end Block

end AssetOverlay
