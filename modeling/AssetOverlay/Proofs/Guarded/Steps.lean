import AssetOverlay.Proofs.Bytes.Words
import Mathlib.Algebra.Ring.Nat

/-!
# Guarded steps

A machine with words of 64 bits takes parts of byte strings by their first and last positions, and
adds, subtracts and multiplies words.  Each of these steps has a condition under which it does what
it is meant to, and a *guarded* step stops with a trap where the condition fails.

Whatever runs through in guarded steps has met all conditions on the way.
-/

namespace AssetOverlay

/-- What stops a guarded step. -/
inductive Trap where
  /-- A part that does not lie inside of its byte string. -/
  | outside (start stop length : Nat)
  /-- A difference below zero. -/
  | belowZero (value less : Nat)
  /-- A sum or a product that is larger than any word. -/
  | beyondWord (value : Nat)
  /-- Room for more than the bytes that are left can fill. -/
  | roomToSpare (size left : Nat)
deriving DecidableEq

/-- What comes of steps of which the first trap stops all later ones. -/
abbrev Guarded := Except Trap

namespace Guarded

section Bind

variable {First Second : Type}

theorem pure_eq (value : First) : (pure value : Guarded First) = .ok value := rfl

theorem ok_bind (value : First) (next : First → Guarded Second) :
    (Except.ok value >>= next) = next value :=
  rfl

end Bind

/-! ## Numbers -/

def sum (first second : Nat) : Guarded Nat :=
  if first + second < 2 ^ 64 then .ok (first + second) else .error (.beyondWord (first + second))

def product (first second : Nat) : Guarded Nat :=
  if first * second < 2 ^ 64 then .ok (first * second) else .error (.beyondWord (first * second))

def difference (value less : Nat) : Guarded Nat :=
  if less ≤ value then .ok (value - less) else .error (.belowZero value less)

/-- Room for so many bytes is made in advance while so many are left to be read. -/
def makeRoom (size left : Nat) : Guarded Unit :=
  if size ≤ left then .ok () else .error (.roomToSpare size left)

theorem sum_eq {first second : Nat} (h : first + second < 2 ^ 64) :
    sum first second = .ok (first + second) :=
  if_pos h

theorem product_eq {first second : Nat} (h : first * second < 2 ^ 64) :
    product first second = .ok (first * second) :=
  if_pos h

theorem difference_eq {value less : Nat} (h : less ≤ value) :
    difference value less = .ok (value - less) :=
  if_pos h

theorem makeRoom_eq {size left : Nat} (h : size ≤ left) : makeRoom size left = .ok () :=
  if_pos h

/-! ## Parts -/

/-- The bytes between two positions. -/
def part (bytes : Bytes) (start stop : Nat) : Guarded Bytes :=
  if start ≤ stop ∧ stop ≤ bytes.length then .ok (bytes.extract start stop)
  else .error (.outside start stop bytes.length)

/-- Writes over the bytes from a position on. -/
def overwrite (bytes : Bytes) (start : Nat) (content : Bytes) : Guarded Bytes :=
  if start + content.length ≤ bytes.length then .ok (bytes.overwrite start content)
  else .error (.outside start (start + content.length) bytes.length)

/-- Takes bytes off the front. -/
def dropFront (bytes : Bytes) (count : Nat) : Guarded Bytes :=
  if count ≤ bytes.length then .ok (bytes.drop count) else .error (.outside 0 count bytes.length)

def byteAt (bytes : Bytes) (position : Nat) : Guarded UInt8 :=
  match bytes[position]? with
  | some byte => .ok byte
  | none => .error (.outside position (position + 1) bytes.length)

def word16At (bytes : Bytes) (position : Nat) : Guarded UInt16 :=
  (part bytes position (position + 2)).map fun word ↦ word.word16At 0

def word32At (bytes : Bytes) (position : Nat) : Guarded UInt32 :=
  (part bytes position (position + 4)).map fun word ↦ word.word32At 0

def word64At (bytes : Bytes) (position : Nat) : Guarded UInt64 :=
  (part bytes position (position + 8)).map fun word ↦ word.word64At 0

theorem part_eq {bytes : Bytes} {start stop : Nat} (hstart : start ≤ stop)
    (hstop : stop ≤ bytes.length) : part bytes start stop = .ok (bytes.extract start stop) :=
  if_pos ⟨hstart, hstop⟩

theorem overwrite_eq {bytes content : Bytes} {start : Nat}
    (h : start + content.length ≤ bytes.length) :
    overwrite bytes start content = .ok (bytes.overwrite start content) :=
  if_pos h

theorem dropFront_eq {bytes : Bytes} {count : Nat} (h : count ≤ bytes.length) :
    dropFront bytes count = .ok (bytes.drop count) :=
  if_pos h

section Words

variable {bytes : Bytes} {position : Nat}

theorem byteAt_eq (h : position < bytes.length) :
    byteAt bytes position = .ok (bytes.byteAt position) := by
  rw [byteAt, Bytes.byteAt, List.getD_eq_getElem?_getD, List.getElem?_eq_getElem h]
  rfl

/-- A part holds the same bytes as its place in the whole. -/
theorem take_extract (bytes : Bytes) (position size : Nat) :
    ((bytes.extract position (position + size)).drop 0).take size =
      ((bytes.drop position).drop 0).take size := by
  rw [List.extract_eq_take_drop, Nat.add_sub_cancel_left, List.drop_zero, List.drop_zero,
    List.take_take, Nat.min_self]

theorem word16At_eq (h : position + 2 ≤ bytes.length) :
    word16At bytes position = .ok (bytes.word16At position) := by
  have hpart := Bytes.word16At_of_part (take_extract bytes position 2) 0 (by decide)
  rw [Bytes.word16At_drop] at hpart
  rw [word16At, part_eq (Nat.le_add_right _ _) h]
  exact congrArg Except.ok hpart

theorem word32At_eq (h : position + 4 ≤ bytes.length) :
    word32At bytes position = .ok (bytes.word32At position) := by
  have hpart := Bytes.word32At_of_part (take_extract bytes position 4) 0 (by decide)
  rw [Bytes.word32At_drop] at hpart
  rw [word32At, part_eq (Nat.le_add_right _ _) h]
  exact congrArg Except.ok hpart

theorem word64At_eq (h : position + 8 ≤ bytes.length) :
    word64At bytes position = .ok (bytes.word64At position) := by
  have hpart := Bytes.word64At_of_part (take_extract bytes position 8) 0 (by decide)
  rw [Bytes.word64At_drop] at hpart
  rw [word64At, part_eq (Nat.le_add_right _ _) h]
  exact congrArg Except.ok hpart

end Words

end Guarded

end AssetOverlay
