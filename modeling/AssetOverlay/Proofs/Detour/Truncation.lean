import AssetOverlay.Proofs.Detour.Grammar

/-!
# Truncated detour blocks

A block is read from its own bytes alone, so it is read wherever it is followed by something else,
and not where it is cut off.  Then the failure is that of a read that runs past the end.

A failure names the place at which a read started.  If the read ran past the end, it started inside
of the byte string and takes more bytes than are left.  If a tag is unknown, the tag is there, so the
failure stays the same if more bytes follow.
-/

namespace AssetOverlay

/-- The read that ran past the end: where it started, and how many bytes it takes.  An unknown tag
was read. -/
def Block.Failure.pastEnd? : Block.Failure → Option (Nat × Nat)
  | fieldCount offset => some (offset, 4)
  | fieldTag offset _ => some (offset, 4)
  | detourCount offset => some (offset, 4)
  | detours offset count => some (offset, 256 * count)
  | unknownTag _ _ => none

/-! ## Reads past the end -/

theorem BrokenField.pastEnd {index offset start size : Nat} {bytes : Bytes}
    {failure : Block.Failure} (h : BrokenField index offset bytes failure)
    (hpast : failure.pastEnd? = some (start, size)) :
    start ≤ offset + bytes.length ∧ offset + bytes.length < start + size := by
  cases h with
  | tagMissing h =>
    cases hpast
    omega
  | tagUnknown rest h => cases hpast
  | countMissing h =>
    cases hpast
    rw [List.length_append, Bytes.length_ofWord32]
    omega
  | recordsMissing h =>
    cases hpast
    rw [List.length_append, List.length_append, Bytes.length_ofWord32, Bytes.length_ofWord32]
    omega

theorem BrokenBlock.pastEnd {start size : Nat} {bytes : Bytes} {failure : Block.Failure}
    (h : BrokenBlock bytes failure) (hpast : failure.pastEnd? = some (start, size)) :
    start ≤ bytes.length ∧ bytes.length < start + size := by
  have hletters : (Bytes.ofText "GSIC").length = 4 := by decide
  cases h with
  | countMissing h =>
    cases hpast
    rw [List.length_append, hletters]
    omega
  | fieldBroken hcount h =>
    have hfield := h.pastEnd hpast
    rw [List.length_append, List.length_append, List.length_append, hletters,
      Bytes.length_ofWord32]
    omega

/-! ## Tags -/

/-- How many bytes come before a field. -/
theorem length_before_field (count : UInt32) (fields : List StoredField) :
    (Bytes.ofText "GSIC" ++ Bytes.ofWord32 count ++ fields.flatMap StoredField.bytes).length =
      8 + (fields.flatMap StoredField.bytes).length := by
  have hletters : (Bytes.ofText "GSIC").length = 4 := by decide
  rw [List.length_append, List.length_append, hletters, Bytes.length_ofWord32]

/-- As many fields are stored before a missing tag as its failure says. -/
theorem BrokenBlock.exists_fields {offset index : Nat} {bytes : Bytes}
    (h : BrokenBlock bytes (.fieldTag offset index)) :
    ∃ (count : UInt32) (fields : List StoredField),
      bytes.take offset =
          Bytes.ofText "GSIC" ++ Bytes.ofWord32 count ++ fields.flatMap StoredField.bytes ∧
        fields.length = index ∧ index < count.toNat := by
  cases h with
  | @fieldBroken count fields rest _ hcount h =>
    cases h with
    | tagMissing h =>
      refine ⟨count, fields, ?_, rfl, hcount⟩
      rw [← List.append_assoc, ← List.append_assoc,
        List.take_left' (length_before_field count fields)]

/-- An unknown tag is there, and it is not zero. -/
theorem BrokenBlock.exists_tag {offset tag : Nat} {bytes : Bytes}
    (h : BrokenBlock bytes (.unknownTag offset tag)) :
    ∃ (word : UInt32) (rest : Bytes), word ≠ 0 ∧ word.toNat = tag ∧
      bytes.drop offset = Bytes.ofWord32 word ++ rest := by
  cases h with
  | @fieldBroken count fields rest _ hcount h =>
    cases h with
    | @tagUnknown word behind h =>
      refine ⟨word, behind, h, rfl, ?_⟩
      rw [← List.append_assoc, ← List.append_assoc,
        List.drop_left' (length_before_field count fields)]

/-- No bytes that follow make up for an unknown tag. -/
theorem BrokenBlock.append {offset tag : Nat} {bytes : Bytes}
    (h : BrokenBlock bytes (.unknownTag offset tag)) (rest : Bytes) :
    BrokenBlock (bytes ++ rest) (.unknownTag offset tag) := by
  cases h with
  | fieldBroken hcount h =>
    cases h with
    | tagUnknown behind h =>
      simp only [List.append_assoc]
      exact .fieldBroken hcount (.tagUnknown _ h)

/-! ## Truncation -/

namespace Block

/-- A block that is cut off behind its letters is a broken one. -/
theorem decode_take {bytes : Bytes} {header : Header} (h : decode bytes = .ok (some header))
    {cut : Nat} (hletters : 4 ≤ cut) (hcut : cut < header.size) :
    ∃ failure, decode (bytes.take cut) = .error failure ∧ failure.pastEnd?.isSome := by
  cases hread : decode (bytes.take cut) with
  | ok found =>
    cases found with
    | none =>
      have hfour : (Bytes.ofText "GSIC").length = 4 := by decide
      have hstarts : Bytes.ofText "GSIC" <+: bytes := by
        by_contra hnone
        rw [(decode_eq_none_iff bytes).mpr hnone] at h
        cases h
      refine absurd (List.prefix_take_iff.mpr ⟨hstarts, ?_⟩) ((decode_eq_none_iff _).mp hread)
      rwa [hfour]
    | some other =>
      -- A block that ends before the cut would be read from the whole byte string, too.
      have hsize : other.size ≤ cut :=
        (size_le_length hread).trans (List.length_take_le cut bytes)
      have hwhole := decode_take_append hread (bytes.drop other.size)
      rw [List.take_take, Nat.min_eq_left hsize, List.take_append_drop, h] at hwhole
      cases hwhole
      omega
  | error failure =>
    refine ⟨failure, rfl, ?_⟩
    cases failure with
    | unknownTag offset tag =>
      -- The tag would be unknown in the whole byte string, too.
      have hbroken := (decode_eq_error_iff.mp hread).append (bytes.drop cut)
      rw [List.take_append_drop] at hbroken
      rw [decode_broken hbroken] at h
      cases h
    | _ => rfl

end Block

/-- A block is read from its own bytes alone, and not if it is cut off behind its letters.  Where
reading fails, the failure names a read that starts inside of the byte string and runs past its end,
or else a tag that is there and is not zero, which makes reading fail in the same way whatever
follows.  Before a tag that can't be read there are as many stored fields as the failure says. -/
theorem failures_locate_breakage (bytes : Bytes) :
    (∀ header, Block.decode bytes = .ok (some header) →
      (∀ rest, Block.decode (bytes.take header.size ++ rest) = .ok (some header)) ∧
      ∀ cut, 4 ≤ cut → cut < header.size →
        ∃ failure, Block.decode (bytes.take cut) = .error failure ∧ failure.pastEnd?.isSome) ∧
    (∀ failure start size, Block.decode bytes = .error failure →
      failure.pastEnd? = some (start, size) →
        start ≤ bytes.length ∧ bytes.length - start < size) ∧
    (∀ offset tag, Block.decode bytes = .error (.unknownTag offset tag) →
      offset + 4 ≤ bytes.length ∧ (bytes.word32At offset).toNat = tag ∧ tag ≠ 0 ∧
        ∀ rest, Block.decode (bytes ++ rest) = .error (.unknownTag offset tag)) ∧
    (∀ offset index, Block.decode bytes = .error (.fieldTag offset index) →
      ∃ (count : UInt32) (fields : List StoredField),
        bytes.take offset =
            Bytes.ofText "GSIC" ++ Bytes.ofWord32 count ++ fields.flatMap StoredField.bytes ∧
          fields.length = index ∧ index < count.toNat) := by
  refine ⟨fun header h ↦ ⟨Block.decode_take_append h, fun cut ↦ Block.decode_take h⟩, ?_, ?_, ?_⟩
  · intro failure start size h hpast
    have hplace := (Block.decode_eq_error_iff.mp h).pastEnd hpast
    omega
  · intro offset tag h
    have hbroken := Block.decode_eq_error_iff.mp h
    obtain ⟨word, rest, hzero, rfl, hdrop⟩ := hbroken.exists_tag
    have hlength := congrArg List.length hdrop
    rw [List.length_drop, List.length_append, Bytes.length_ofWord32] at hlength
    refine ⟨by omega, by rw [Bytes.word32At_of_drop_eq rest hdrop], ?_, ?_⟩
    · exact fun hnat ↦ hzero (UInt32.toNat_inj.mp hnat)
    · exact fun behind ↦ Block.decode_broken (hbroken.append behind)
  · exact fun offset index h ↦ (Block.decode_eq_error_iff.mp h).exists_fields

/-- A block that is cut off inside of the record of its second field. -/
example :
    let field (count : UInt32) := Bytes.ofWord32 0 ++ Bytes.ofWord32 count
    let block := Bytes.ofText "GSIC" ++ Bytes.ofWord32 2 ++ field 0 ++ field 1 ++
      List.replicate 256 0
    Block.decode block = .ok (some ⟨[⟨0, 0, 0, 0, 0, ⟨0⟩⟩], 280⟩) ∧
      Block.decode (block.take 279) = .error (.detours 24 1) := by
  decide +kernel

end AssetOverlay
