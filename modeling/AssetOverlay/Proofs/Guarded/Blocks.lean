import AssetOverlay.Proofs.Detour.Grammar
import AssetOverlay.Proofs.Guarded.Steps

/-!
# Blocks in guarded steps

A block is read at a cursor, which starts behind its letters and moves over every value that was
read.  The cursor never leaves the byte string, because what is left behind it is compared with what
the next value takes before that value is read.  So no step of reading a block is trapped, and what
is read is what the block holds.
-/

namespace AssetOverlay.Guarded

/-- The word at the cursor, if it is all there. -/
def nextWord? (buffer : Bytes) (cursor : Nat) : Guarded (Option UInt32) := do
  let left ← difference buffer.length cursor
  if left < 4 then return none else return some (← word32At buffer cursor)

/-- The detour that a record holds. -/
def detourOf (record : Bytes) : Guarded Detour := do
  return {
    replacement := ← word32At record 0
    replacedNamespace := ← word32At record 4
    replacedFunction := ← word32At record 8
    codeOffset := ← word32At record 12
    codeSize := ← word32At record 16
    target := ⟨← word64At record 20⟩ }

/-- The detours of so many records from the cursor on. -/
def detours (buffer : Bytes) : (count cursor : Nat) → Guarded (List Detour)
  | 0, _ => return []
  | count + 1, cursor => do
    let first ← detourOf (← part buffer cursor (cursor + 256))
    return first :: (← detours buffer count (cursor + 256))

/-- The detours of so many records from the cursor on, if they are all there. -/
def detours? (buffer : Bytes) (count cursor : Nat) : Guarded (Option (List Detour)) := do
  let size ← product count 256
  let left ← difference buffer.length cursor
  if left < size then return none
  else
    makeRoom size left
    return some (← detours buffer count cursor)

/-- The remaining fields from the cursor on. -/
def readFields (buffer : Bytes) (index : Nat) : (remaining cursor : Nat) → Guarded Block.Reading
  | 0, cursor => return ⟨[], .ok cursor⟩
  | remaining + 1, cursor => do
    match ← nextWord? buffer cursor with
    | none => return ⟨[], .error (.fieldTag cursor index)⟩
    | some tag =>
      if tag = 0 then
        match ← nextWord? buffer (cursor + 4) with
        | none => return ⟨[], .error (.detourCount (cursor + 4))⟩
        | some count =>
          match ← detours? buffer count.toNat (cursor + 8) with
          | none => return ⟨[], .error (.detours (cursor + 8) count.toNat)⟩
          | some found =>
            let later ← readFields buffer (index + 1) remaining (cursor + 8 + 256 * count.toNat)
            return ⟨found ++ later.detours, later.outcome⟩
      else
        let offset ← difference (cursor + 4) 4
        return ⟨[], .error (.unknownTag offset tag.toNat)⟩

/-- The block in front of a byte string. -/
def read (buffer : Bytes) : Guarded Block.Reading := do
  if Block.announced buffer then
    match ← nextWord? buffer 4 with
    | none => return ⟨[], .error (.fieldCount 4)⟩
    | some count => readFields buffer 0 count.toNat 8
  else return ⟨[], .ok 0⟩

def decode (buffer : Bytes) : Guarded (Except Block.Failure (Option Block.Header)) := do
  if Block.announced buffer then
    let reading ← read buffer
    match reading.outcome with
    | .ok size => return .ok (some ⟨reading.detours, size⟩)
    | .error failure => return .error failure
  else return .ok none

def strip (buffer : Bytes) : Guarded (Except Block.Failure (Bytes × List Detour)) := do
  match ← decode buffer with
  | .ok (some header) => return .ok (← dropFront buffer header.size, header.detours)
  | .ok none => return .ok (buffer, [])
  | .error failure => return .error failure

/-! ## No step is trapped -/

section Words

variable {buffer : Bytes} {cursor : Nat}

theorem nextWord?_eq_none (h : cursor ≤ buffer.length)
    (hnone : Bytes.nextWord32? (buffer.drop cursor) = none) :
    nextWord? buffer cursor = .ok none := by
  rw [Bytes.nextWord32?_eq_none_iff, List.length_drop] at hnone
  rw [nextWord?, difference_eq h, ok_bind, if_pos hnone, pure_eq]

theorem nextWord?_eq_some {word : UInt32} {rest : Bytes} (h : cursor ≤ buffer.length)
    (hsome : Bytes.nextWord32? (buffer.drop cursor) = some (word, rest)) :
    nextWord? buffer cursor = .ok (some word) ∧ cursor + 4 ≤ buffer.length ∧
      buffer.drop (cursor + 4) = rest := by
  rw [Bytes.nextWord32?_eq_some_iff] at hsome
  have hlength := congrArg List.length hsome
  rw [List.length_drop, List.length_append, Bytes.length_ofWord32] at hlength
  have hinside : cursor + 4 ≤ buffer.length := by omega
  refine ⟨?_, hinside, ?_⟩
  · rw [nextWord?, difference_eq h, ok_bind, if_neg (by omega), word32At_eq hinside,
      Bytes.word32At_of_drop_eq rest hsome]
    rfl
  · rw [← List.drop_drop, hsome, List.drop_left' (Bytes.length_ofWord32 word)]

end Words

theorem detourOf_eq {record : Bytes} (h : record.length = 256) :
    detourOf record = .ok (Detour.ofRecord record) := by
  rw [detourOf, word32At_eq (by omega), word32At_eq (by omega), word32At_eq (by omega),
    word32At_eq (by omega), word32At_eq (by omega), word64At_eq (by omega)]
  rfl

theorem detours_eq {buffer records rest : Bytes} {count cursor : Nat}
    (hrecords : records.length = 256 * count) (hdrop : buffer.drop cursor = records ++ rest) :
    detours buffer count cursor = .ok (Detour.ofRecords count records) := by
  induction count generalizing records cursor with
  | zero => rfl
  | succ count ih =>
    have hleft := congrArg List.length hdrop
    rw [List.length_drop, List.length_append] at hleft
    have hinside : ¬ buffer.length < cursor + 256 := by omega
    have htake : (buffer.drop cursor).take 256 = records.take 256 := by
      rw [hdrop, List.take_append_of_le_length (by omega)]
    have hpart : part buffer cursor (cursor + 256) = .ok (records.take 256) := by
      rw [part_eq (Nat.le_add_right _ _) (Nat.not_lt.mp hinside), List.extract_eq_take_drop,
        Nat.add_sub_cancel_left, htake]
    have hlength : (records.take 256).length = 256 := List.length_take_of_le (by omega)
    have hlater : buffer.drop (cursor + 256) = records.drop 256 ++ rest := by
      rw [← List.drop_drop, hdrop, List.drop_append_of_le_length (by omega)]
    have hcount : (records.drop 256).length = 256 * count := by
      rw [List.length_drop]
      omega
    rw [detours, hpart, ok_bind, detourOf_eq hlength, ok_bind, ih hcount hlater, ok_bind, pure_eq]
    rfl

section Records

variable {buffer : Bytes} {count cursor : Nat} (h : cursor ≤ buffer.length)
  (hcount : count < 2 ^ 32)

include h hcount

theorem detours?_eq_none
    (hnone : Bytes.splitExactly? (Detour.recordSize * count) (buffer.drop cursor) = none) :
    detours? buffer count cursor = .ok none := by
  have hshort : buffer.length - cursor < count * 256 := by
    rw [Bytes.splitExactly?_eq_none_iff, List.length_drop] at hnone
    rwa [Nat.mul_comm]
  rw [detours?, product_eq (by omega), ok_bind, difference_eq h, ok_bind, if_pos hshort, pure_eq]

theorem detours?_eq_some {records rest : Bytes}
    (hsome : Bytes.splitExactly? (Detour.recordSize * count) (buffer.drop cursor) =
      some (records, rest)) :
    detours? buffer count cursor = .ok (some (Detour.ofRecords count records)) ∧
      cursor + 256 * count ≤ buffer.length ∧ buffer.drop (cursor + 256 * count) = rest := by
  obtain ⟨hlength, hdrop⟩ := Bytes.splitExactly?_eq_some_iff.mp hsome
  change records.length = 256 * count at hlength
  have hleft := congrArg List.length hdrop
  rw [List.length_drop, List.length_append, hlength] at hleft
  have hroom : count * 256 ≤ buffer.length - cursor := by omega
  refine ⟨?_, by omega, ?_⟩
  · rw [detours?, product_eq (by omega), ok_bind, difference_eq h, ok_bind,
      if_neg (Nat.not_lt.mpr hroom), makeRoom_eq hroom, ok_bind, detours_eq hlength hdrop]
    rfl
  · rw [← List.drop_drop, hdrop, List.drop_left' hlength]

end Records

/-- The remaining fields are read from the cursor on as they are from the bytes behind it. -/
theorem readFields_eq {buffer : Bytes} {index remaining cursor : Nat}
    (h : cursor ≤ buffer.length) :
    readFields buffer index remaining cursor =
      .ok (Block.readFields index remaining cursor (buffer.drop cursor)) := by
  -- The invariant is that the cursor is not behind the end; whatever is read keeps it.
  induction remaining generalizing index cursor with
  | zero => rfl
  | succ remaining ih =>
    rw [readFields, Block.readFields]
    cases htag : Bytes.nextWord32? (buffer.drop cursor) with
    | none =>
      rw [nextWord?_eq_none h htag]
      rfl
    | some tagged =>
      obtain ⟨tag, afterTag⟩ := tagged
      obtain ⟨hread, hinside, rfl⟩ := nextWord?_eq_some h htag
      rw [hread, ok_bind]
      dsimp only
      by_cases hzero : tag = 0
      · rw [if_pos hzero, if_pos hzero]
        cases hcounted : Bytes.nextWord32? (buffer.drop (cursor + 4)) with
        | none =>
          rw [nextWord?_eq_none hinside hcounted]
          rfl
        | some counted =>
          obtain ⟨count, afterCount⟩ := counted
          obtain ⟨hread, hinside, rfl⟩ := nextWord?_eq_some hinside hcounted
          rw [hread, ok_bind]
          dsimp only
          cases hsplit : Bytes.splitExactly? (Detour.recordSize * count.toNat)
              (buffer.drop (cursor + 4 + 4)) with
          | none =>
            rw [detours?_eq_none hinside count.toNat_lt hsplit]
            rfl
          | some parts =>
            obtain ⟨records, rest⟩ := parts
            obtain ⟨hdetours, hnext, rfl⟩ := detours?_eq_some hinside count.toNat_lt hsplit
            rw [hdetours, ok_bind]
            dsimp only
            rw [ih hnext]
            rfl
      · rw [if_neg hzero, if_neg hzero, difference_eq (Nat.le_add_left _ _), ok_bind,
          Nat.add_sub_cancel, pure_eq]

/-- No step of reading a block is trapped. -/
theorem read_eq (buffer : Bytes) : read buffer = .ok (Block.read buffer) := by
  rw [read, Block.read]
  by_cases hannounced : Block.announced buffer
  · rw [if_pos hannounced, if_pos hannounced]
    have hletters : 4 ≤ buffer.length := by
      have hshort := ((Block.announced_iff buffer).mp hannounced).length_le
      have hletters : (Bytes.ofText "GSIC").length = 4 := by decide
      rwa [hletters] at hshort
    cases hcount : Bytes.nextWord32? (buffer.drop 4) with
    | none =>
      rw [nextWord?_eq_none hletters hcount]
      rfl
    | some counted =>
      obtain ⟨count, fields⟩ := counted
      obtain ⟨hread, hinside, rfl⟩ := nextWord?_eq_some hletters hcount
      rw [hread, ok_bind]
      exact readFields_eq hinside
  · rw [if_neg hannounced, if_neg hannounced, pure_eq]

theorem decode_eq (buffer : Bytes) : decode buffer = .ok (Block.decode buffer) := by
  rw [decode, Block.decode]
  split
  · rw [read_eq, ok_bind]
    cases (Block.read buffer).outcome with
    | ok size => rfl
    | error failure => rfl
  · rfl

/-- No more bytes are taken off than there are. -/
theorem strip_eq (buffer : Bytes) : strip buffer = .ok (Block.strip buffer) := by
  rw [strip, decode_eq, ok_bind, Block.strip]
  cases h : Block.decode buffer with
  | error failure => rfl
  | ok found =>
    cases found with
    | none => rfl
    | some header =>
      dsimp only
      rw [dropFront_eq (Block.size_le_length h)]
      rfl

end AssetOverlay.Guarded
