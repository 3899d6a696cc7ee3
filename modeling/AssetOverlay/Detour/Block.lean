import AssetOverlay.Detour

/-!
# Detour blocks

Some script compilers put a block of detours in front of a compiled script:

    "GSIC"  field count  field ... field

A field is a tag, which has to be zero, a count, and that many stored detours.  All counts and tags
are 32-bit words.  The script itself starts where the block ends, so the block is taken off before
anything else looks at the script.

Reading a block gives the detours met on the way even if it fails later, because each detour is
reported as it is read.
-/

namespace AssetOverlay.Block

/-- The four bytes that announce a block. -/
def magic : Bytes := [0x47, 0x53, 0x49, 0x43]

/-- Why a block can't be read.  The offset is that of the value that could not be read or
understood. -/
inductive Failure where
  /-- The field count is not there. -/
  | fieldCount (offset : Nat)
  /-- The tag of the field with this index is not there. -/
  | fieldTag (offset index : Nat)
  /-- The count of a field is not there. -/
  | detourCount (offset : Nat)
  /-- Fewer bytes are left than that many detours take. -/
  | detours (offset count : Nat)
  /-- No field has this tag. -/
  | unknownTag (offset tag : Nat)
deriving DecidableEq

namespace Failure

def message : Failure → String
  | fieldCount offset => "can't read gsic fields at " ++ Hex.marked offset
  | fieldTag offset index =>
    "can't read gsic field type " ++ toString index ++ " at " ++ Hex.marked offset
  | detourCount offset => "can't read gsic detours count at " ++ Hex.marked offset
  | detours offset count =>
    "can't read " ++ toString count ++ " detours at " ++ Hex.marked offset
  | unknownTag offset tag =>
    "bad gsic field type " ++ toString tag ++ " at " ++ Hex.marked offset

end Failure

/-- What reading a block yields: the detours that were read, and then the size of the block or the
reason why reading stopped. -/
structure Reading where
  detours : List Detour
  outcome : Except Failure Nat

/-- Reads the remaining fields.  The bytes are those from the offset on. -/
def readFields (index : Nat) : (remaining offset : Nat) → Bytes → Reading
  | 0, offset, _ => ⟨[], .ok offset⟩
  | remaining + 1, offset, bytes =>
    match bytes.nextWord32? with
    | none => ⟨[], .error (.fieldTag offset index)⟩
    | some (tag, afterTag) =>
      if tag = 0 then
        match afterTag.nextWord32? with
        | none => ⟨[], .error (.detourCount (offset + 4))⟩
        | some (count, afterCount) =>
          match afterCount.splitExactly? (Detour.recordSize * count.toNat) with
          | none => ⟨[], .error (.detours (offset + 8) count.toNat)⟩
          | some (records, rest) =>
            let later := readFields (index + 1) remaining
              (offset + 8 + Detour.recordSize * count.toNat) rest
            ⟨Detour.ofRecords count.toNat records ++ later.detours, later.outcome⟩
      else ⟨[], .error (.unknownTag offset tag.toNat)⟩

/-- Whether a byte string announces a block. -/
def announced (bytes : Bytes) : Bool :=
  bytes.take 4 == magic

/-- Reads the block in front of a byte string.  Where none is announced, it is empty. -/
def read (bytes : Bytes) : Reading :=
  if announced bytes then
    match Bytes.nextWord32? (bytes.drop 4) with
    | none => ⟨[], .error (.fieldCount 4)⟩
    | some (count, fields) => readFields 0 count.toNat 8 fields
  else ⟨[], .ok 0⟩

/-- A block that was read. -/
structure Header where
  /-- The detours of all fields in their order. -/
  detours : List Detour
  /-- How many bytes the block takes. -/
  size : Nat
deriving DecidableEq

/-- The block in front of a byte string, none where none is announced. -/
def decode (bytes : Bytes) : Except Failure (Option Header) :=
  if announced bytes then
    match (read bytes).outcome with
    | .ok size => .ok (some ⟨(read bytes).detours, size⟩)
    | .error failure => .error failure
  else .ok none

/-- Takes the block off a byte string: the bytes after it, and its detours. -/
def strip (bytes : Bytes) : Except Failure (Bytes × List Detour) :=
  match decode bytes with
  | .ok (some header) => .ok (bytes.drop header.size, header.detours)
  | .ok none => .ok (bytes, [])
  | .error failure => .error failure

/-- The block with a single field that holds the given detours. -/
def encode (detours : List Detour) : Bytes :=
  magic ++ Bytes.ofWord32 1 ++ Bytes.ofWord32 0 ++
    Bytes.ofWord32 (UInt32.ofNat detours.length) ++ detours.flatMap Detour.toRecord

end AssetOverlay.Block
