import AssetOverlay.Key

/-!
# The import table of a script

The header of a script gives a 16-bit import count and a signed 32-bit offset of the import table.
An import is a record of 12 bytes, followed by as many 4-byte address slots as the word at its
position 8 says; the next record starts after the slots.  A record starts with the canonical
identifier of the function, and its byte 10 is the number of arguments.

Compilers express their own intrinsics as calls of `IsProfileBuild`, and those with arguments are
redirected to `SeriousCustom`, the function that the host provides.  The table is walked record by
record, each redirected in place before the next one is looked at.  Redirecting changes only the
first four bytes of a record, so it can't change where the next one starts.
-/

namespace AssetOverlay.Imports

/-- Where the header holds the import count. -/
def countOffset : Nat := 40

/-- Where the header holds the offset of the import table. -/
def tableOffset : Nat := 56

/-- The size of an import record without its address slots. -/
def recordSize : Nat := 12

/-- The function that stands for the intrinsics of a compiler. -/
def sentinel : UInt32 := CanonicalId.ofName "IsProfileBuild"

/-- The function of the host to which intrinsics are redirected. -/
def hostFunction : UInt32 := CanonicalId.ofName "SeriousCustom"

/-- Whether a record is a call of the sentinel with arguments. -/
def isIntrinsic (record : Bytes) : Bool :=
  record.word32At 0 == sentinel && record.byteAt 10 != 0

/-- A record after redirection. -/
def redirect (record : Bytes) : Bytes :=
  if isIntrinsic record then Bytes.ofWord32 hostFunction ++ record.drop 4 else record

/-- The size of the address slots that follow a record. -/
def slotsSize (record : Bytes) : Nat :=
  4 * (record.word16At 8).toNat

/-- Where a walk ran past the end of a script: the index and the position of the record that was
missing. -/
structure Overrun where
  index : Nat
  position : Nat
deriving DecidableEq

/-- What a walk yields: the bytes it went over, how many records were redirected, and where it ran
past the end. -/
structure Walk where
  bytes : Bytes
  redirected : Nat
  overrun : Option Overrun

/-- Walks the remaining records.  The bytes are those from the position on. -/
def walk (index : Nat) : (remaining position : Nat) → Bytes → Walk
  | 0, _, bytes => ⟨bytes, 0, none⟩
  | remaining + 1, position, bytes =>
    match bytes.splitExactly? recordSize with
    | none => ⟨bytes, 0, some ⟨index, position⟩⟩
    | some (record, rest) =>
      let slots := slotsSize record
      let later := walk (index + 1) remaining (position + recordSize + slots) (rest.drop slots)
      ⟨redirect record ++ (rest.take slots ++ later.bytes),
        later.redirected + (if isIntrinsic record then 1 else 0), later.overrun⟩

/-- The number of imports that a header claims. -/
def count (code : Bytes) : Nat :=
  (code.word16At countOffset).toNat

/-- The offset of the import table that a header claims. -/
def table (code : Bytes) : Int :=
  (code.word32At tableOffset).toInt32.toInt

/-- Redirects the intrinsics of a script.  A negative table offset means that there is none. -/
def redirectAll (code : Bytes) : Walk :=
  if table code < 0 then ⟨code, 0, none⟩
  else
    let start := (table code).toNat
    let walked := walk 0 (count code) start (code.drop start)
    { walked with bytes := code.take start ++ walked.bytes }

end AssetOverlay.Imports
