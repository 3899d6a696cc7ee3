import AssetOverlay.Proofs.Key.Literal
import Mathlib.Data.Nat.Bitwise
import Mathlib.Data.Nat.ModEq

/-!
# Names that are nearly equal

Both hashes mix in one byte after the other, by an exclusive-or and a multiplication with an odd
number.  Neither loses anything: from the low bits after a step and the byte, the low bits before it
can be told, and from the low bits before and after it, the byte.  That the highest bit of a key is
cleared at the end makes no difference, because the low bits of a product depend on the low bits of
its factors only.

So an ending that two names have in common doesn't make their keys equal, and two names that differ
in one byte have different keys.  Nothing is claimed about names that differ in more bytes: there are
more names than keys.
-/

namespace AssetOverlay

/-- Two byte strings have the same length and differ at exactly one position. -/
def DifferOnce (first second : Bytes) : Prop :=
  first.length = second.length ∧ ∃! position : Nat, first[position]? ≠ second[position]?

section DifferOnce

variable {first second : Bytes}

theorem DifferOnce.exists_append (h : DifferOnce first second) :
    ∃ front byte byte' rest, first = front ++ byte :: rest ∧ second = front ++ byte' :: rest ∧
      byte ≠ byte' := by
  obtain ⟨hlength, position, hdiffer, honly⟩ := h
  have hsame (other : Nat) (hother : other ≠ position) : first[other]? = second[other]? :=
    not_not.mp fun hne ↦ hother (honly other hne)
  have hinside : position < first.length := by
    refine Nat.lt_of_not_le fun hpast ↦ hdiffer ?_
    rw [List.getElem?_eq_none hpast, List.getElem?_eq_none (hlength ▸ hpast)]
  have hinside' : position < second.length := hlength ▸ hinside
  have hfront : first.take position = second.take position := by
    apply List.ext_getElem?
    intro other
    rw [List.getElem?_take, List.getElem?_take]
    split
    · next hlt => exact hsame other (Nat.ne_of_lt hlt)
    · rfl
  have hrest : first.drop (position + 1) = second.drop (position + 1) := by
    apply List.ext_getElem?
    intro other
    rw [List.getElem?_drop, List.getElem?_drop]
    exact hsame _ (by omega)
  refine ⟨first.take position, first[position], second[position], first.drop (position + 1),
    ?_, ?_, ?_⟩
  · rw [← List.drop_eq_getElem_cons hinside, List.take_append_drop]
  · rw [hfront, hrest, ← List.drop_eq_getElem_cons hinside', List.take_append_drop]
  · intro heq
    apply hdiffer
    rw [List.getElem?_eq_getElem hinside, List.getElem?_eq_getElem hinside', heq]

theorem differOnce_append {byte byte' : UInt8} (h : byte ≠ byte') (front rest : Bytes) :
    DifferOnce (front ++ byte :: rest) (front ++ byte' :: rest) := by
  refine ⟨by simp, front.length, by simpa using h, ?_⟩
  intro other hdiffer
  refine not_not.mp fun hne ↦ hdiffer ?_
  rw [List.getElem?_append, List.getElem?_append]
  split
  · rfl
  · next hbehind =>
    obtain ⟨behind, hother⟩ : ∃ behind, other - front.length = behind + 1 :=
      Nat.exists_eq_succ_of_ne_zero (by omega)
    rw [hother, List.getElem?_cons_succ, List.getElem?_cons_succ]

end DifferOnce

/-! ## Steps that can be undone -/

/-- As far as a view of the state shows, steps can be undone: what a byte was mixed into can be told
from the outcome, and so can the byte. -/
structure Reversible {State View : Type} (view : State → View) (step : State → UInt8 → State) :
    Prop where
  step_eq_iff : ∀ state state' byte,
    view (step state byte) = view (step state' byte) ↔ view state = view state'
  byte_eq : ∀ state byte byte', view (step state byte) = view (step state byte') → byte = byte'

namespace Reversible

variable {State View : Type} {view : State → View} {step : State → UInt8 → State}

/-- Steps with the same bytes make nothing equal that was different. -/
theorem foldl_eq_iff (h : Reversible view step) (state state' : State) (bytes : Bytes) :
    view (bytes.foldl step state) = view (bytes.foldl step state') ↔ view state = view state' := by
  induction bytes generalizing state state' with
  | nil => rfl
  | cons byte rest ih => rw [List.foldl_cons, List.foldl_cons, ih, h.step_eq_iff]

/-- One different byte makes a difference that lasts. -/
theorem foldl_ne (h : Reversible view step) (state : State) {first second : Bytes}
    (hdiffer : DifferOnce first second) :
    view (first.foldl step state) ≠ view (second.foldl step state) := by
  obtain ⟨front, byte, byte', rest, rfl, rfl, hne⟩ := hdiffer.exists_append
  rw [List.foldl_append, List.foldl_append, List.foldl_cons, List.foldl_cons, Ne, h.foldl_eq_iff]
  exact mt (h.byte_eq _ byte byte') hne

end Reversible

section Mixing

variable {kept width multiplier : Nat}

/-- Multiplying with an odd number loses no low bits. -/
theorem mul_mod_two_pow_eq_iff (hkept : kept ≤ width) (hodd : multiplier.Coprime 2)
    (number number' : Nat) :
    number * multiplier % 2 ^ width % 2 ^ kept = number' * multiplier % 2 ^ width % 2 ^ kept ↔
      number % 2 ^ kept = number' % 2 ^ kept := by
  have hdvd : 2 ^ kept ∣ 2 ^ width := Nat.pow_dvd_pow 2 hkept
  have hcoprime : (2 ^ kept).gcd multiplier = 1 := hodd.symm.pow_left kept
  rw [Nat.mod_mod_of_dvd _ hdvd, Nat.mod_mod_of_dvd _ hdvd]
  constructor
  · exact Nat.ModEq.cancel_right_of_coprime hcoprime
  · exact Nat.ModEq.mul_right multiplier

/-- Mixing by exclusive-or and an odd multiplier can be undone in the low bits. -/
theorem reversible_of_mixing {State : Type} {number : State → Nat} {extend : UInt8 → Nat}
    {step : State → UInt8 → State} (hbyte : 8 ≤ kept) (hkept : kept ≤ width)
    (hodd : multiplier.Coprime 2) (hextend : ∀ byte, extend byte % 2 ^ 8 = byte.toNat)
    (hstep : ∀ state byte, number (step state byte) =
      (number state ^^^ extend byte) * multiplier % 2 ^ width) :
    Reversible (fun state ↦ number state % 2 ^ kept) step where
  step_eq_iff state state' byte := by
    rw [hstep, hstep, mul_mod_two_pow_eq_iff hkept hodd, Nat.xor_mod_two_pow,
      Nat.xor_mod_two_pow, Nat.xor_left_inj]
  byte_eq state byte byte' h := by
    rw [hstep, hstep, mul_mod_two_pow_eq_iff hkept hodd, Nat.xor_mod_two_pow,
      Nat.xor_mod_two_pow, Nat.xor_right_inj] at h
    have hdvd : 2 ^ 8 ∣ 2 ^ kept := Nat.pow_dvd_pow 2 hbyte
    have hlow := congrArg (· % 2 ^ 8) h
    simp only [Nat.mod_mod_of_dvd _ hdvd, hextend] at hlow
    exact UInt8.toNat_inj.mp hlow

/-- The lowest byte of a sign-extended byte is the byte itself. -/
theorem setWidth_signExtend (byte : BitVec 8) (h : 8 ≤ width) :
    (byte.signExtend width).setWidth 8 = byte := by
  apply BitVec.eq_of_getLsbD_eq
  intro index hindex
  simp [BitVec.getLsbD_signExtend, hindex]
  omega

end Mixing

/-! ## Keys -/

namespace Key

/-- Mixes in a byte as it is. -/
def absorb (state : UInt64) (byte : UInt8) : UInt64 :=
  (state ^^^ signExtend byte) * multiplier

/-- A name without regard to case and kind of slash, in bytes. -/
def normalBytes (name : String) : Bytes :=
  (Bytes.ofText name).map normalByte

theorem normalBytes_append (first second : String) :
    normalBytes (first ++ second) = normalBytes first ++ normalBytes second := by
  rw [normalBytes, Bytes.ofText, String.toList_append, List.flatMap_append, List.map_append]
  rfl

theorem hash_eq_foldl_absorb (name : String) :
    hash name = ofWord ((normalBytes name).foldl absorb basis) :=
  hash_eq_foldl name

theorem toNat_signExtend_mod (byte : UInt8) : (signExtend byte).toNat % 2 ^ 8 = byte.toNat := by
  have hlow : (signExtend byte).toUInt8 = byte := by
    apply UInt8.toBitVec_inj.mp
    exact setWidth_signExtend byte.toBitVec (by decide : 8 ≤ 64)
  rw [← UInt64.toNat_toUInt8, hlow]

theorem ofWord_eq_iff (word word' : UInt64) :
    ofWord word = ofWord word' ↔ word.toNat % 2 ^ 63 = word'.toNat % 2 ^ 63 := by
  rw [← toNat_ofWord, ← toNat_ofWord, UInt64.toNat_inj]
  exact ⟨congrArg value, fun h ↦ congrArg mk h⟩

theorem reversible_absorb : Reversible ofWord absorb := by
  have hstep (state : UInt64) (byte : UInt8) : (absorb state byte).toNat =
      (state.toNat ^^^ (signExtend byte).toNat) * multiplier.toNat % 2 ^ 64 := by
    rw [absorb, UInt64.toNat_mul, UInt64.toNat_xor]
  have hnumber : Reversible (fun state : UInt64 ↦ state.toNat % 2 ^ 63) absorb :=
    reversible_of_mixing (by decide) (by decide) (by decide) toNat_signExtend_mod hstep
  refine ⟨?_, ?_⟩
  · simpa only [ofWord_eq_iff] using hnumber.step_eq_iff
  · simpa only [ofWord_eq_iff] using hnumber.byte_eq

end Key

/-! ## Canonical identifiers -/

namespace CanonicalId

/-- Mixes in a byte as it is. -/
def absorb (state : UInt32) (byte : UInt8) : UInt32 :=
  (state ^^^ signExtend byte) * multiplier

/-- A name without regard to case, in bytes. -/
def normalBytes (name : String) : Bytes :=
  (Bytes.ofText name).map lowerByte

theorem normalBytes_append (first second : String) :
    normalBytes (first ++ second) = normalBytes first ++ normalBytes second := by
  rw [normalBytes, Bytes.ofText, String.toList_append, List.flatMap_append, List.map_append]
  rfl

theorem ofName_eq_foldl_absorb (name : String) :
    ofName name = (normalBytes name).foldl absorb basis := by
  rw [normalBytes, List.foldl_map]
  rfl

theorem toNat_signExtend_mod (byte : UInt8) : (signExtend byte).toNat % 2 ^ 8 = byte.toNat := by
  have hlow : (signExtend byte).toUInt8 = byte := by
    apply UInt8.toBitVec_inj.mp
    exact setWidth_signExtend byte.toBitVec (by decide : 8 ≤ 32)
  rw [← UInt32.toNat_toUInt8, hlow]

theorem reversible_absorb : Reversible id absorb := by
  have hstep (state : UInt32) (byte : UInt8) : (absorb state byte).toNat =
      (state.toNat ^^^ (signExtend byte).toNat) * multiplier.toNat % 2 ^ 32 := by
    rw [absorb, UInt32.toNat_mul, UInt32.toNat_xor]
  have hnumber : Reversible (fun state : UInt32 ↦ state.toNat % 2 ^ 32) absorb :=
    reversible_of_mixing (by decide) (by decide) (by decide) toNat_signExtend_mod hstep
  have hword (word word' : UInt32) :
      word.toNat % 2 ^ 32 = word'.toNat % 2 ^ 32 ↔ id word = id word' := by
    rw [Nat.mod_eq_of_lt word.toNat_lt, Nat.mod_eq_of_lt word'.toNat_lt, UInt32.toNat_inj]
    rfl
  refine ⟨?_, ?_⟩
  · simpa only [hword] using hnumber.step_eq_iff
  · simpa only [hword] using hnumber.byte_eq

end CanonicalId

/-- Two names with the same ending have the same key only if they have the same key without it, and
names that differ in one byte, when neither case nor the kind of slash counts, have different keys.
Canonical identifiers keep names apart in the same way, except that they tell slashes apart. -/
theorem near_names_never_alias :
    (∀ first second ending : String,
        Key.hash (first ++ ending) = Key.hash (second ++ ending) ↔
          Key.hash first = Key.hash second) ∧
      (∀ first second : String, DifferOnce (Key.normalBytes first) (Key.normalBytes second) →
        Key.hash first ≠ Key.hash second) ∧
      (∀ first second ending : String,
        CanonicalId.ofName (first ++ ending) = CanonicalId.ofName (second ++ ending) ↔
          CanonicalId.ofName first = CanonicalId.ofName second) ∧
      ∀ first second : String,
        DifferOnce (CanonicalId.normalBytes first) (CanonicalId.normalBytes second) →
          CanonicalId.ofName first ≠ CanonicalId.ofName second := by
  refine ⟨?_, ?_, ?_, ?_⟩
  · intro first second ending
    simp only [Key.hash_eq_foldl_absorb, Key.normalBytes_append, List.foldl_append]
    exact Key.reversible_absorb.foldl_eq_iff _ _ _
  · intro first second hdiffer
    rw [Key.hash_eq_foldl_absorb, Key.hash_eq_foldl_absorb]
    exact Key.reversible_absorb.foldl_ne Key.basis hdiffer
  · intro first second ending
    simp only [CanonicalId.ofName_eq_foldl_absorb, CanonicalId.normalBytes_append,
      List.foldl_append]
    exact CanonicalId.reversible_absorb.foldl_eq_iff _ _ _
  · intro first second hdiffer
    rw [CanonicalId.ofName_eq_foldl_absorb, CanonicalId.ofName_eq_foldl_absorb]
    exact CanonicalId.reversible_absorb.foldl_ne CanonicalId.basis hdiffer

/-- Names of scripts that differ in one letter, and names of functions that differ in one byte of a
letter outside of ASCII. -/
theorem names_one_byte_apart :
    DifferOnce (Key.normalBytes "Maps\\zm_a.gsc") (Key.normalBytes "maps/zm_b.gsc") ∧
      Key.hash "Maps\\zm_a.gsc" ≠ Key.hash "maps/zm_b.gsc" ∧
      DifferOnce (CanonicalId.normalBytes "caf\u00e9") (CanonicalId.normalBytes "CAF\u00e8") ∧
      CanonicalId.ofName "caf\u00e9" ≠ CanonicalId.ofName "CAF\u00e8" := by
  have hscripts : DifferOnce (Key.normalBytes "Maps\\zm_a.gsc") (Key.normalBytes "maps/zm_b.gsc") :=
    differOnce_append (by decide : (97 : UInt8) ≠ 98) (Key.normalBytes "maps/zm_")
      (Key.normalBytes ".gsc")
  have hfunctions : DifferOnce (CanonicalId.normalBytes "caf\u00e9")
      (CanonicalId.normalBytes "CAF\u00e8") :=
    differOnce_append (by decide : (0xa9 : UInt8) ≠ 0xa8) [99, 97, 102, 0xc3] []
  exact ⟨hscripts, near_names_never_alias.2.1 _ _ hscripts, hfunctions,
    near_names_never_alias.2.2.2 _ _ hfunctions⟩

end AssetOverlay
