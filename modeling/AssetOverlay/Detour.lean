import AssetOverlay.Key

/-!
# Detours

A detour replaces one function of a target script by a function of the script that declares it.
It names the code of its replacement as a byte range of the declaring script, measured after the
block that holds the detours has been taken off.

A detour is stored as a record of 256 bytes, of which the first 28 are used: five 32-bit words and
the 64-bit key of the target.  The reserved bytes are ignored when read and written as zero.
-/

namespace AssetOverlay

/-- The replacement of one function. -/
structure Detour where
  /-- Canonical identifier of the replacement in the declaring script. -/
  replacement : UInt32
  /-- Namespace of the function that is replaced. -/
  replacedNamespace : UInt32
  /-- Canonical identifier of the function that is replaced. -/
  replacedFunction : UInt32
  /-- Where the code of the replacement starts. -/
  codeOffset : UInt32
  /-- How many bytes the code of the replacement has. -/
  codeSize : UInt32
  /-- The script that holds the function that is replaced. -/
  target : Key
deriving DecidableEq

namespace Detour

/-- The position at which the replacement code starts. -/
def codeStart (detour : Detour) : Nat :=
  detour.codeOffset.toNat

/-- The position just after the replacement code. -/
def codeStop (detour : Detour) : Nat :=
  detour.codeOffset.toNat + detour.codeSize.toNat

/-- The bytes that a detour names in a script, if they all lie inside it. -/
def code? (detour : Detour) (script : Bytes) : Option Bytes :=
  if detour.codeStop ≤ script.length then
    some ((script.drop detour.codeStart).take detour.codeSize.toNat)
  else none

/-- A detour as messages show it. -/
def text (detour : Detour) : String :=
  let shown (word : UInt32) := Hex.numeral word.toNat
  shown detour.replacement ++ " : namespace_" ++ shown detour.replacedNamespace ++ "<script_" ++
    detour.target.text ++ ">::function_" ++ shown detour.replacedFunction ++ " / offset=" ++
    shown detour.codeOffset ++ "+" ++ shown detour.codeSize

/-- The size of a stored detour. -/
def recordSize : Nat := 256

/-- The size of the part of a stored detour that is used. -/
def usedSize : Nat := 28

/-- Reads a stored detour. -/
def ofRecord (record : Bytes) : Detour where
  replacement := record.word32At 0
  replacedNamespace := record.word32At 4
  replacedFunction := record.word32At 8
  codeOffset := record.word32At 12
  codeSize := record.word32At 16
  target := ⟨record.word64At 20⟩

/-- Writes a detour as it is stored. -/
def toRecord (detour : Detour) : Bytes :=
  Bytes.ofWord32 detour.replacement ++ Bytes.ofWord32 detour.replacedNamespace ++
    Bytes.ofWord32 detour.replacedFunction ++ Bytes.ofWord32 detour.codeOffset ++
    Bytes.ofWord32 detour.codeSize ++ Bytes.ofWord64 detour.target.value ++
    List.replicate (recordSize - usedSize) 0

/-- Reads as many stored detours as asked for from the front of a byte string. -/
def ofRecords : Nat → Bytes → List Detour
  | 0, _ => []
  | count + 1, bytes =>
    ofRecord (bytes.take recordSize) :: ofRecords count (bytes.drop recordSize)

end Detour

end AssetOverlay
